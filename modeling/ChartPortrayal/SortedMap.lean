namespace ChartPortrayal

/-- A total order on keys, given as a three-way comparison. -/
class SortKey (κ : Type) where
  order : κ → κ → Ordering
  eq_of_order : ∀ {a b : κ}, order a b = .eq → a = b
  order_self : ∀ a : κ, order a a = .eq
  order_swap : ∀ a b : κ, order a b = (order b a).swap
  order_trans : ∀ {a b c : κ}, order a b = .lt → order b c = .lt → order a c = .lt

namespace SortKey

/-- Keys ordered by the rank that an injective function gives them. -/
@[reducible] def ofRank {κ : Type} (rank : κ → Nat)
    (injective : ∀ a b, rank a = rank b → a = b) : SortKey κ where
  order a b := compare (rank a) (rank b)
  eq_of_order same := injective _ _ (Nat.compare_eq_eq.mp same)
  order_self a := Nat.compare_eq_eq.mpr rfl
  order_swap a b := (Nat.compare_swap (rank b) (rank a)).symm
  order_trans first second := by
    rw [Nat.compare_eq_lt] at *
    omega

instance : SortKey Nat := ofRank id (fun _ _ same => same)

instance : SortKey String where
  order a b := compare a b
  eq_of_order same := Std.LawfulEqOrd.eq_of_compare same
  order_self _ := Std.ReflOrd.compare_self
  order_swap _ _ := Std.OrientedOrd.eq_swap
  order_trans first second := Std.TransCmp.lt_trans first second

instance {κ μ : Type} [SortKey κ] [SortKey μ] : SortKey (κ × μ) where
  order a b := (order a.1 b.1).then (order a.2 b.2)
  eq_of_order {a b} same := by
    rw [Ordering.then_eq_eq] at same
    exact Prod.ext (eq_of_order same.1) (eq_of_order same.2)
  order_self a := by simp [order_self]
  order_swap a b := by rw [order_swap a.1, order_swap a.2, Ordering.swap_then]
  order_trans {a b c} first second := by
    rw [Ordering.then_eq_lt] at *
    rcases first with first | ⟨same, first⟩ <;> rcases second with second | ⟨same', second⟩
    · exact .inl (order_trans first second)
    · exact .inl (eq_of_order same' ▸ first)
    · exact .inl (eq_of_order same ▸ second)
    · exact .inr ⟨by rw [eq_of_order same]; exact same', order_trans first second⟩

end SortKey

open SortKey (order)

/-- A map whose entries stand in strictly ascending key order. -/
structure SortedMap (κ ν : Type) [SortKey κ] where
  entries : List (κ × ν)
  ascending : entries.Pairwise (fun first second => order first.1 second.1 = .lt)

namespace SortedMap

variable {κ ν : Type} [SortKey κ]

instance [DecidableEq κ] [DecidableEq ν] : DecidableEq (SortedMap κ ν) := fun left right =>
  decidable_of_iff (left.entries = right.entries) (by cases left; cases right; simp)

def empty : SortedMap κ ν := ⟨[], .nil⟩

instance : Inhabited (SortedMap κ ν) := ⟨empty⟩

def keys (map : SortedMap κ ν) : List κ := map.entries.map (·.1)

def values (map : SortedMap κ ν) : List ν := map.entries.map (·.2)

def size (map : SortedMap κ ν) : Nat := map.entries.length

def isEmpty (map : SortedMap κ ν) : Bool := map.entries.isEmpty

def lookup (key : κ) : List (κ × ν) → Option ν
  | [] => none
  | (other, value) :: rest => if order key other = .eq then some value else lookup key rest

def find? (map : SortedMap κ ν) (key : κ) : Option ν := lookup key map.entries

def contains (map : SortedMap κ ν) (key : κ) : Bool := (map.find? key).isSome

/-- Puts an entry at its place, over an entry with the same key. -/
def place (key : κ) (value : ν) : List (κ × ν) → List (κ × ν)
  | [] => [(key, value)]
  | (other, old) :: rest =>
    match order key other with
    | .lt => (key, value) :: (other, old) :: rest
    | .eq => (key, value) :: rest
    | .gt => (other, old) :: place key value rest

theorem mem_of_mem_place {key : κ} {value : ν} {entry : κ × ν} {entries : List (κ × ν)}
    (membership : entry ∈ place key value entries) : entry = (key, value) ∨ entry ∈ entries := by
  induction entries with
  | nil => simpa [place] using membership
  | cons first rest hypothesis =>
    obtain ⟨other, old⟩ := first
    rw [place] at membership
    split at membership
    · simpa using membership
    · simp only [List.mem_cons] at membership ⊢
      rcases membership with same | old
      · exact .inl same
      · exact .inr (.inr old)
    · simp only [List.mem_cons] at membership ⊢
      rcases membership with same | old
      · exact .inr (.inl same)
      · rcases hypothesis old with fresh | kept
        · exact .inl fresh
        · exact .inr (.inr kept)

theorem pairwise_place (key : κ) (value : ν) {entries : List (κ × ν)}
    (ascending : entries.Pairwise (fun first second => order first.1 second.1 = .lt)) :
    (place key value entries).Pairwise (fun first second => order first.1 second.1 = .lt) := by
  induction entries with
  | nil => simp [place]
  | cons first rest hypothesis =>
    obtain ⟨other, old⟩ := first
    obtain ⟨below, tail⟩ := List.pairwise_cons.mp ascending
    rw [place]
    split
    case h_1 less =>
      refine List.pairwise_cons.mpr ⟨fun entry membership => ?_, ascending⟩
      rcases List.mem_cons.mp membership with rfl | later
      · exact less
      · exact SortKey.order_trans less (below entry later)
    case h_2 same =>
      have : key = other := SortKey.eq_of_order same
      subst this
      exact List.pairwise_cons.mpr ⟨below, tail⟩
    case h_3 greater =>
      have less : order other key = .lt := by
        rw [SortKey.order_swap, greater]; rfl
      refine List.pairwise_cons.mpr ⟨fun entry membership => ?_, hypothesis tail⟩
      rcases mem_of_mem_place membership with rfl | kept
      · exact less
      · exact below entry kept

def insert (map : SortedMap κ ν) (key : κ) (value : ν) : SortedMap κ ν :=
  ⟨place key value map.entries, pairwise_place key value map.ascending⟩

def erase (map : SortedMap κ ν) (key : κ) : SortedMap κ ν :=
  ⟨map.entries.filter (fun entry => order key entry.1 != .eq), map.ascending.filter _⟩

def mapValues (map : SortedMap κ ν) (change : κ → ν → ν) : SortedMap κ ν where
  entries := map.entries.map (fun entry => (entry.1, change entry.1 entry.2))
  ascending := List.pairwise_map.mpr (map.ascending.imp (fun less => less))

def adjust (map : SortedMap κ ν) (key : κ) (change : ν → ν) : SortedMap κ ν :=
  map.mapValues (fun other value => if order key other = .eq then change value else value)

/-- Inserts the pairs in turn, so that the last of a repeated key stays. -/
def ofList (pairs : List (κ × ν)) : SortedMap κ ν :=
  pairs.foldl (fun map pair => map.insert pair.1 pair.2) empty

end SortedMap

end ChartPortrayal
