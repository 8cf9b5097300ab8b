import ChartPortrayal.Proofs.Chart.Lookup

/-! Insertion lists features in the order in which they come. A feature that is put in among others moves those
that come after it up by one identifier, and changes nothing else. -/

namespace ChartPortrayal

variable {α : Type}

namespace Chart

theorem Identified.entries_insert {chart : Chart α} (identified : chart.Identified) (feature : Feature α) :
    (chart.insert feature).features.entries =
      chart.features.entries ++ [(chart.nextId, { feature with id := chart.nextId })] := by
  have below : ∀ entry ∈ chart.features.entries, entry.1 < chart.nextId := fun entry member =>
    Nat.lt_succ_of_le (identified.given _ _ ((chart.features.mem_entries_iff _ _).mp member))
  refine SortedMap.entries_eq_of_mem_iff (chart.insert feature).features.ascending ?_ (fun entry => ?_)
  · refine List.pairwise_append.mpr ⟨chart.features.ascending, List.pairwise_singleton _ _, ?_⟩
    intro entry member last same
    rw [List.mem_singleton.mp same]
    exact Nat.compare_eq_lt.mpr (below entry member)
  · obtain ⟨id, stored⟩ := entry
    rw [SortedMap.mem_entries_iff, List.mem_append, List.mem_singleton, SortedMap.mem_entries_iff]
    change (chart.insert feature).find? id = _ ↔ chart.find? id = _ ∨ _
    rw [find?_insert, Prod.mk.injEq]
    by_cases last : id = chart.nextId
    · rw [if_pos last, last, find?_nextId identified]
      simp [eq_comm]
    · simp [last]

/-- The features of a list under consecutive identifiers. -/
def numbered : Nat → List (Feature α) → List (Feature α)
  | _, [] => []
  | id, feature :: rest => { feature with id := id } :: numbered (id + 1) rest

theorem Identified.list_insertAll {chart : Chart α} (identified : chart.Identified)
    (features : List (Feature α)) :
    (features.foldl Chart.insert chart).list = chart.list ++ numbered chart.nextId features := by
  induction features generalizing chart with
  | nil => exact (List.append_nil _).symm
  | cons feature rest ih =>
    have here : (chart.insert feature).list = chart.list ++ [{ feature with id := chart.nextId }] := by
      rw [list, SortedMap.values, identified.entries_insert, List.map_append]
      rfl
    rw [List.foldl_cons, ih (identified.insert feature), here, List.append_assoc]
    rfl

/-- Identifiers after the last one given move up by one. -/
def moved (last id : Nat) : Nat := if id ≤ last then id else id + 1

theorem moved_inj {last first second : Nat} : moved last first = moved last second ↔ first = second := by
  unfold moved
  split <;> split <;> omega

/-- The identifier that was given to the feature put in is left to it. -/
theorem moved_ne_nextId (chart : Chart α) (id : Nat) : moved chart.lastId id ≠ chart.nextId := by
  unfold moved nextId
  split <;> omega

end Chart

/-- A feature under the identifier that it has when one more is put in after the last one given. -/
def Feature.moved (last : Nat) (feature : Feature α) : Feature α :=
  { feature with id := Chart.moved last feature.id }

namespace Chart

theorem numbered_succ {last start : Nat} (after : last < start) (features : List (Feature α)) :
    numbered (start + 1) features = (numbered start features).map (Feature.moved last) := by
  induction features generalizing start with
  | nil => rfl
  | cons feature rest ih =>
    have up : moved last start = start + 1 := if_neg (Nat.not_le_of_lt after)
    rw [numbered, numbered, List.map_cons, ih (Nat.lt_succ_of_lt after), Feature.moved, up]

variable {chart : Chart α}

theorem Identified.map_moved (identified : chart.Identified) :
    chart.list.map (Feature.moved chart.lastId) = chart.list := by
  refine (List.map_congr_left (fun feature member => ?_)).trans (List.map_id _)
  have given := identified.given _ _ ((identified.mem_list feature).mp member)
  rw [Feature.moved, moved, if_pos given]
  rfl

/-- With one more feature among those that are put in, the ones before it and the ones after it are listed as
they were, and the latter move up. -/
theorem Identified.list_insertAll_cons (identified : chart.Identified) (feature : Feature α)
    (rest : List (Feature α)) :
    ∃ later, (rest.foldl Chart.insert chart).list = chart.list ++ later ∧
      ((feature :: rest).foldl Chart.insert chart).list =
        chart.list.map (Feature.moved chart.lastId) ++
          { feature with id := chart.nextId } :: later.map (Feature.moved chart.lastId) := by
  refine ⟨numbered chart.nextId rest, identified.list_insertAll rest, ?_⟩
  rw [identified.list_insertAll (feature :: rest), identified.map_moved, numbered,
    numbered_succ (show chart.lastId < chart.nextId from Nat.lt_succ_self _)]

/-- The same features of a cell stand before the one that is put in, and after it. -/
theorem Identified.cellFeatures_insertAll_cons (identified : chart.Identified) (feature : Feature α)
    (rest : List (Feature α)) (cell : Nat) :
    ∃ later, (rest.foldl Chart.insert chart).cellFeatures cell = chart.cellFeatures cell ++ later ∧
      ((feature :: rest).foldl Chart.insert chart).cellFeatures cell =
        (chart.cellFeatures cell).map (Feature.moved chart.lastId) ++
          ((if feature.cell = cell then [{ feature with id := chart.nextId }] else []) ++
            later.map (Feature.moved chart.lastId)) := by
  obtain ⟨later, without, among⟩ := identified.list_insertAll_cons feature rest
  have kept : ∀ list : List (Feature α),
      (list.map (Feature.moved chart.lastId)).filter (fun feature => feature.cell == cell) =
        (list.filter (fun feature => feature.cell == cell)).map (Feature.moved chart.lastId) := by
    intro list
    rw [List.filter_map]
    rfl
  refine ⟨later.filter (fun feature => feature.cell == cell), ?_, ?_⟩
  · rw [cellFeatures, without, List.filter_append, cellFeatures]
  · rw [cellFeatures, among, List.filter_append, List.filter_cons, kept, kept, cellFeatures]
    by_cases own : feature.cell = cell
    · simp [own]
    · simp [own]

/-- Whoever is found without the feature is found among the others with it. -/
theorem Identified.find?_insertAll_cons (identified : chart.Identified) (feature : Feature α)
    (rest : List (Feature α)) {id : Nat} {other : Feature α}
    (found : (rest.foldl Chart.insert chart).find? id = some other) :
    ((feature :: rest).foldl Chart.insert chart).find? (moved chart.lastId id) =
      some (other.moved chart.lastId) := by
  obtain ⟨later, without, among⟩ := identified.list_insertAll_cons feature rest
  have own := (identified.insertAll rest).own id other found
  have listed : other ∈ chart.list ++ later := by
    rw [← without, Chart.mem_list]
    exact ⟨id, found⟩
  have member : other.moved chart.lastId ∈ ((feature :: rest).foldl Chart.insert chart).list := by
    rw [among]
    rcases List.mem_append.mp listed with before | after
    · exact List.mem_append_left _ (List.mem_map_of_mem before)
    · exact List.mem_append_right _ (List.mem_cons_of_mem _ (List.mem_map_of_mem after))
  have stored := ((identified.insertAll (feature :: rest)).mem_list _).mp member
  have same : (other.moved chart.lastId).id = moved chart.lastId id :=
    congrArg (moved chart.lastId) own
  rwa [same] at stored

end Chart

end ChartPortrayal
