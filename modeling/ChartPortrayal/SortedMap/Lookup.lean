import ChartPortrayal.SortedMap

namespace ChartPortrayal.SortedMap

open SortKey (order)

variable {κ ν : Type} [SortKey κ]

theorem mem_of_lookup {key : κ} {value : ν} {entries : List (κ × ν)}
    (found : lookup key entries = some value) : (key, value) ∈ entries := by
  induction entries with
  | nil => simp [lookup] at found
  | cons first rest hypothesis =>
    obtain ⟨other, old⟩ := first
    rw [lookup] at found
    split at found
    case isTrue same =>
      rw [SortKey.eq_of_order same, Option.some.inj found]
      simp
    case isFalse => exact List.mem_cons_of_mem _ (hypothesis found)

theorem lookup_of_mem {key : κ} {value : ν} {entries : List (κ × ν)}
    (ascending : entries.Pairwise (fun first second => order first.1 second.1 = .lt))
    (membership : (key, value) ∈ entries) : lookup key entries = some value := by
  induction entries with
  | nil => simp at membership
  | cons first rest hypothesis =>
    obtain ⟨other, old⟩ := first
    obtain ⟨below, tail⟩ := List.pairwise_cons.mp ascending
    rcases List.mem_cons.mp membership with same | later
    · obtain ⟨rfl, rfl⟩ := Prod.mk.inj same
      simp [lookup, SortKey.order_self]
    · have different : order key other ≠ .eq := by
        rw [SortKey.order_swap, below _ later]
        decide
      rw [lookup, if_neg different]
      exact hypothesis tail later

theorem mem_entries_iff (map : SortedMap κ ν) (key : κ) (value : ν) :
    (key, value) ∈ map.entries ↔ map.find? key = some value :=
  ⟨lookup_of_mem map.ascending, mem_of_lookup⟩

theorem mem_keys_iff (map : SortedMap κ ν) (key : κ) :
    key ∈ map.keys ↔ (map.find? key).isSome := by
  rw [keys, List.mem_map, Option.isSome_iff_exists]
  constructor
  · rintro ⟨⟨_, value⟩, membership, rfl⟩
    exact ⟨value, (map.mem_entries_iff _ value).mp membership⟩
  · rintro ⟨value, found⟩
    exact ⟨(key, value), (map.mem_entries_iff key value).mpr found, rfl⟩

theorem find?_empty (key : κ) : (empty : SortedMap κ ν).find? key = none := rfl

theorem lookup_place (key other : κ) (value : ν) (entries : List (κ × ν)) :
    lookup other (place key value entries) =
      if order other key = .eq then some value else lookup other entries := by
  induction entries with
  | nil => simp [place, lookup]
  | cons first rest hypothesis =>
    obtain ⟨current, old⟩ := first
    rw [place]
    split
    case h_1 => simp [lookup]
    case h_2 same =>
      have : key = current := SortKey.eq_of_order same
      subst this
      by_cases found : order other key = .eq <;> simp [lookup, found]
    case h_3 greater =>
      simp only [lookup, hypothesis]
      by_cases here : order other current = .eq
      · have : other = current := SortKey.eq_of_order here
        subst this
        have different : order other key ≠ .eq := by
          rw [SortKey.order_swap, greater]; decide
        simp [here, different]
      · simp [here]

theorem find?_insert (map : SortedMap κ ν) (key other : κ) (value : ν) :
    (map.insert key value).find? other =
      if order other key = .eq then some value else map.find? other :=
  lookup_place key other value map.entries

theorem lookup_filter (key other : κ) (entries : List (κ × ν)) :
    lookup other (entries.filter (fun entry => order key entry.1 != .eq)) =
      if order other key = .eq then none else lookup other entries := by
  induction entries with
  | nil => simp [lookup]
  | cons first rest hypothesis =>
    rw [List.filter_cons]
    by_cases removed : order key first.1 = .eq
    · obtain rfl := SortKey.eq_of_order removed
      rw [if_neg (by simp [removed]), hypothesis, lookup]
      split <;> rfl
    · rw [if_pos (by simp [removed]), lookup, lookup, hypothesis]
      by_cases here : order other first.1 = .eq
      · have kept : order other key ≠ .eq := fun same =>
          removed (SortKey.eq_of_order same ▸ here)
        rw [if_pos here, if_neg kept, if_pos here]
      · rw [if_neg here, if_neg here]

theorem find?_erase (map : SortedMap κ ν) (key other : κ) :
    (map.erase key).find? other = if order other key = .eq then none else map.find? other :=
  lookup_filter key other map.entries

theorem lookup_map (change : κ → ν → ν) (key : κ) (entries : List (κ × ν)) :
    lookup key (entries.map (fun entry => (entry.1, change entry.1 entry.2))) =
      (lookup key entries).map (change key) := by
  induction entries with
  | nil => rfl
  | cons first rest hypothesis =>
    rw [List.map_cons, lookup, lookup, hypothesis]
    by_cases here : order key first.1 = .eq
    · rw [if_pos here, if_pos here, SortKey.eq_of_order here]
      rfl
    · rw [if_neg here, if_neg here]

theorem find?_mapValues (map : SortedMap κ ν) (change : κ → ν → ν) (key : κ) :
    (map.mapValues change).find? key = (map.find? key).map (change key) :=
  lookup_map change key map.entries

theorem find?_adjust (map : SortedMap κ ν) (key other : κ) (change : ν → ν) :
    (map.adjust key change).find? other =
      if order other key = .eq then (map.find? other).map change else map.find? other := by
  rw [adjust, find?_mapValues]
  by_cases same : order other key = .eq
  · have back : order key other = .eq := SortKey.eq_of_order same ▸ SortKey.order_self other
    rw [if_pos same]
    exact congrArg (Option.map · _) (funext (fun _ => if_pos back))
  · have apart : order key other ≠ .eq := fun back =>
      same (SortKey.eq_of_order back ▸ SortKey.order_self key)
    rw [if_neg same]
    exact (congrArg (Option.map · _) (funext (fun _ => if_neg apart))).trans Option.map_id'

theorem entries_eq_of_mem_iff {left right : List (κ × ν)}
    (leftAscending : left.Pairwise (fun first second => order first.1 second.1 = .lt))
    (rightAscending : right.Pairwise (fun first second => order first.1 second.1 = .lt))
    (same : ∀ entry, entry ∈ left ↔ entry ∈ right) : left = right := by
  induction left generalizing right with
  | nil => exact (List.eq_nil_iff_forall_not_mem.mpr (fun entry => by simp [← same entry])).symm
  | cons first rest hypothesis =>
    cases right with
    | nil => simpa using same first
    | cons other others =>
      obtain ⟨below, tail⟩ := List.pairwise_cons.mp leftAscending
      obtain ⟨otherBelow, otherTail⟩ := List.pairwise_cons.mp rightAscending
      have heads : first = other := by
        rcases List.mem_cons.mp ((same first).mp (by simp)) with equal | later
        · exact equal
        rcases List.mem_cons.mp ((same other).mpr (by simp)) with equal | further
        · exact equal.symm
        · have less := below other further
          rw [SortKey.order_swap, otherBelow first later] at less
          simp at less
      subst heads
      refine congrArg (first :: ·) (hypothesis tail otherTail (fun entry => ?_))
      have apart {entries : List (κ × ν)}
          (above : ∀ entry ∈ entries, order first.1 entry.1 = .lt) : first ∉ entries := fun within => by
        have less := above first within
        rw [SortKey.order_self] at less
        simp at less
      have whole := same entry
      simp only [List.mem_cons] at whole
      by_cases leading : entry = first
      · subst leading
        exact iff_of_false (apart below) (apart otherBelow)
      · simpa [leading] using whole

/-- Two maps that answer every look-up alike are equal. -/
theorem ext_find? {left right : SortedMap κ ν} (same : ∀ key, left.find? key = right.find? key) :
    left = right := by
  have entries : left.entries = right.entries :=
    entries_eq_of_mem_iff left.ascending right.ascending (fun ⟨key, value⟩ => by
      rw [mem_entries_iff, mem_entries_iff, same key])
  cases left
  cases right
  cases entries
  rfl

end ChartPortrayal.SortedMap
