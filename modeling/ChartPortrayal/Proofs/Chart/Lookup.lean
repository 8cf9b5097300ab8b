import ChartPortrayal.Chart.Basic
import ChartPortrayal.SortedMap.Lookup

namespace ChartPortrayal

theorem SortKey.order_eq_iff {κ : Type} [SortKey κ] {first second : κ} :
    SortKey.order first second = .eq ↔ first = second :=
  ⟨SortKey.eq_of_order, fun same => same ▸ SortKey.order_self first⟩

theorem SortedMap.mem_values_iff {κ ν : Type} [SortKey κ] (map : SortedMap κ ν) (value : ν) :
    value ∈ map.values ↔ ∃ key, map.find? key = some value := by
  rw [values, List.mem_map]
  constructor
  · rintro ⟨⟨key, _⟩, member, rfl⟩
    exact ⟨key, (map.mem_entries_iff key _).mp member⟩
  · rintro ⟨key, found⟩
    exact ⟨(key, value), (map.mem_entries_iff key value).mpr found, rfl⟩

/-- A value may be put in where it was found. -/
theorem SortedMap.insert_self {κ ν : Type} [SortKey κ] {map : SortedMap κ ν} {key : κ} {value : ν}
    (found : map.find? key = some value) : map.insert key value = map := by
  apply ext_find?
  intro other
  rw [find?_insert]
  split
  · next same => rw [SortKey.order_eq_iff.mp same, found]
  · rfl

/-- A map that is made of keys with a value for each finds those. -/
theorem SortedMap.find?_ofList_map {κ ν : Type} [SortKey κ] [DecidableEq κ] (keys : List κ)
    (value : κ → ν) (key : κ) :
    (ofList (keys.map (fun key => (key, value key)))).find? key =
      if key ∈ keys then some (value key) else none := by
  suffices general : ∀ map : SortedMap κ ν,
      ((keys.map (fun key => (key, value key))).foldl (fun map pair => map.insert pair.1 pair.2)
        map).find? key = if key ∈ keys then some (value key) else map.find? key from
    (general .empty).trans (by rw [find?_empty])
  induction keys with
  | nil => simp
  | cons first rest ih =>
    intro map
    rw [List.map_cons, List.foldl_cons, ih, find?_insert]
    by_cases later : key ∈ rest
    · simp [later]
    · by_cases same : key = first
      · simp [same, SortKey.order_self]
      · simp [later, same, SortKey.order_eq_iff]

/-- Maps with the same keys list them alike, whatever the values are. -/
theorem SortedMap.keys_eq_of_mem_iff {κ ν μ : Type} [SortKey κ] {left : SortedMap κ ν}
    {right : SortedMap κ μ} (same : ∀ key, key ∈ left.keys ↔ key ∈ right.keys) :
    left.keys = right.keys := by
  have marked : left.keys.map (fun key => (key, ())) = right.keys.map (fun key => (key, ())) := by
    apply entries_eq_of_mem_iff
    · exact List.pairwise_map.mpr (List.pairwise_map.mpr left.ascending)
    · exact List.pairwise_map.mpr (List.pairwise_map.mpr right.ascending)
    · intro entry
      simp only [List.mem_map, same]
  have unmarked := congrArg (List.map Prod.fst) marked
  simpa only [List.map_map, Function.comp_def, List.map_id'] using unmarked

theorem SortedMap.find?_foldl_erase {ν : Type} (ids : List Nat) (map : SortedMap Nat ν) (other : Nat) :
    (ids.foldl (fun map id => map.erase id) map).find? other =
      if other ∈ ids then none else map.find? other := by
  induction ids generalizing map with
  | nil => simp
  | cons id rest ih =>
    simp only [List.foldl_cons, ih, find?_erase, SortKey.order_eq_iff]
    by_cases later : other ∈ rest
    · simp [later]
    · by_cases same : other = id <;> simp [later, same]

namespace Chart

variable {α : Type}

@[simp] theorem find?_empty (id : Nat) : (empty : Chart α).find? id = none := rfl

theorem find?_insert (chart : Chart α) (feature : Feature α) (id : Nat) :
    (chart.insert feature).find? id =
      if id = chart.nextId then some { feature with id := chart.nextId } else chart.find? id := by
  simp only [find?, insert, SortedMap.find?_insert, SortKey.order_eq_iff]

theorem find?_adjust (chart : Chart α) (id other : Nat) (change : Feature α → Feature α) :
    (chart.adjust id change).find? other =
      if other = id then (chart.find? other).map change else chart.find? other := by
  simp only [find?, adjust, SortedMap.find?_adjust, SortKey.order_eq_iff]

theorem find?_erase (chart : Chart α) (id other : Nat) :
    (chart.erase id).find? other = if other = id then none else chart.find? other := by
  rw [erase]
  by_cases present : chart.contains id = true
  · simp only [present, ↓reduceIte, find?, SortedMap.find?_erase, SortKey.order_eq_iff]
  · simp only [present, Bool.false_eq_true, ↓reduceIte]
    split
    · next same =>
      subst same
      exact Option.not_isSome_iff_eq_none.mp present
    · rfl

theorem find?_eraseCell (chart : Chart α) (cell other : Nat) :
    (chart.eraseCell cell).find? other =
      if other ∈ (chart.cellFeatures cell).map (·.id) then none else chart.find? other := by
  unfold eraseCell
  dsimp only
  split
  · next bare =>
    rw [List.isEmpty_iff.mp bare]
    simp
  · exact SortedMap.find?_foldl_erase _ chart.features other

theorem find?_setLink (chart : Chart α) (id other : Nat) (role : LinkRole) (target : Option Nat) :
    (chart.setLink id role target).find? other =
      if other = id then (chart.find? other).map (relink role target) else chart.find? other := by
  rw [setLink]
  cases found : chart.find? id with
  | none =>
    by_cases same : other = id
    · subst same
      simp [found]
    · simp [same]
  | some feature =>
    by_cases unchanged : feature.link? role = target
    · simp only [unchanged, ↓reduceIte, find?_adjust]
    · simp only [unchanged, ↓reduceIte]
      exact find?_adjust chart id other _

theorem mem_list (chart : Chart α) (feature : Feature α) :
    feature ∈ chart.list ↔ ∃ id, chart.find? id = some feature :=
  chart.features.mem_values_iff feature

theorem mem_cells (chart : Chart α) (cell : Nat) :
    cell ∈ chart.cells ↔ ∃ id feature, chart.find? id = some feature ∧ feature.cell = cell := by
  have pairs : chart.list.map (fun feature => (feature.cell, ())) =
      (chart.list.map (·.cell)).map (fun cell => (cell, ())) := by
    rw [List.map_map]
    rfl
  rw [cells, SortedMap.mem_keys_iff, pairs, SortedMap.find?_ofList_map]
  simp only [Option.isSome_ite, List.mem_map, mem_list]
  constructor
  · rintro ⟨feature, ⟨id, found⟩, same⟩
    exact ⟨id, feature, found, same⟩
  · rintro ⟨id, feature, found, same⟩
    exact ⟨feature, ⟨id, found⟩, same⟩

theorem mem_cellFeatures (chart : Chart α) (cell : Nat) (feature : Feature α) :
    feature ∈ chart.cellFeatures cell ↔
      (∃ id, chart.find? id = some feature) ∧ feature.cell = cell := by
  rw [cellFeatures, List.mem_filter, mem_list, beq_iff_eq]

/-- Every feature stands under its own identifier, and under one that has been given. -/
structure Identified (chart : Chart α) : Prop where
  own : ∀ id feature, chart.find? id = some feature → feature.id = id
  given : ∀ id feature, chart.find? id = some feature → id ≤ chart.lastId

theorem Identified.empty : Identified (empty : Chart α) := by
  constructor <;> intro id feature found <;> cases found

theorem Identified.insert {chart : Chart α} (identified : chart.Identified) (feature : Feature α) :
    (chart.insert feature).Identified := by
  constructor
  · intro id stored found
    rw [find?_insert] at found
    split at found
    · next same =>
      cases found
      exact same.symm
    · exact identified.own _ _ found
  · intro id stored found
    change id ≤ chart.lastId + 1
    rw [find?_insert] at found
    split at found
    · next same => exact Nat.le_of_eq same
    · exact Nat.le_succ_of_le (identified.given _ _ found)

theorem find?_nextId {chart : Chart α} (identified : chart.Identified) :
    chart.find? chart.nextId = none := by
  cases found : chart.find? chart.nextId with
  | none => rfl
  | some feature => exact absurd (identified.given _ feature found) (Nat.not_succ_le_self _)

/-- Every feature of a chart stood in another one, under the same identifier and with the same links. -/
structure Keeps (after before : Chart α) : Prop where
  features : ∀ id later, after.find? id = some later →
    ∃ feature, before.find? id = some feature ∧ later.id = feature.id ∧ later.links = feature.links
  lastId : before.lastId ≤ after.lastId

theorem Identified.keeps {after before : Chart α} (identified : before.Identified)
    (keeps : after.Keeps before) : after.Identified := by
  constructor <;> intro id later found
  all_goals obtain ⟨feature, stood, same, -⟩ := keeps.features id later found
  · rw [same, identified.own id feature stood]
  · exact Nat.le_trans (identified.given id feature stood) keeps.lastId

theorem lastId_erase (chart : Chart α) (id : Nat) : (chart.erase id).lastId = chart.lastId := by
  unfold erase
  split <;> rfl

theorem lastId_eraseCell (chart : Chart α) (cell : Nat) :
    (chart.eraseCell cell).lastId = chart.lastId := by
  unfold eraseCell
  dsimp only
  split <;> rfl

theorem keeps_of_find? {after before : Chart α} {gone : Nat → Prop} [DecidablePred gone]
    (left : ∀ id, after.find? id = if gone id then none else before.find? id)
    (lastId : after.lastId = before.lastId) : after.Keeps before := by
  refine ⟨fun id later found => ?_, Nat.le_of_eq lastId.symm⟩
  rw [left] at found
  split at found
  · cases found
  · exact ⟨later, found, rfl, rfl⟩

theorem keeps_adjust (chart : Chart α) (id : Nat) {change : Feature α → Feature α}
    (same : ∀ feature, (change feature).id = feature.id ∧ (change feature).links = feature.links) :
    (chart.adjust id change).Keeps chart := by
  refine ⟨fun other later found => ?_, Nat.le_refl _⟩
  rw [find?_adjust] at found
  split at found
  · obtain ⟨feature, stood, rfl⟩ := Option.map_eq_some_iff.mp found
    exact ⟨feature, stood, same feature⟩
  · exact ⟨later, found, rfl, rfl⟩

theorem Identified.insertAll {chart : Chart α} (identified : chart.Identified)
    (features : List (Feature α)) : (features.foldl Chart.insert chart).Identified := by
  induction features generalizing chart with
  | nil => exact identified
  | cons feature rest ih => exact ih (identified.insert feature)

theorem Identified.mem_list {chart : Chart α} (identified : chart.Identified) (feature : Feature α) :
    feature ∈ chart.list ↔ chart.find? feature.id = some feature := by
  rw [Chart.mem_list]
  constructor
  · rintro ⟨id, found⟩
    rwa [identified.own _ _ found]
  · intro found
    exact ⟨feature.id, found⟩

theorem Identified.mem_cellFeatures {chart : Chart α} (identified : chart.Identified) (cell : Nat)
    (feature : Feature α) :
    feature ∈ chart.cellFeatures cell ↔
      chart.find? feature.id = some feature ∧ feature.cell = cell := by
  rw [cellFeatures, List.mem_filter, identified.mem_list, beq_iff_eq]

/-- The dependents of a feature are those that are linked to it. -/
theorem Identified.mem_dependents {chart : Chart α} (identified : chart.Identified) (target id : Nat) :
    id ∈ chart.dependents target ↔
      ∃ feature, chart.find? id = some feature ∧ ∃ role, feature.link? role = some target := by
  rw [dependents, List.mem_map]
  constructor
  · rintro ⟨feature, member, rfl⟩
    obtain ⟨listed, linked⟩ := List.mem_filter.mp member
    exact ⟨feature, (identified.mem_list feature).mp listed,
      (feature.links.mem_values_iff target).mp (List.contains_iff_mem.mp linked)⟩
  · rintro ⟨feature, found, linked⟩
    refine ⟨feature, List.mem_filter.mpr ⟨(Chart.mem_list chart feature).mpr ⟨id, found⟩, ?_⟩,
      identified.own id feature found⟩
    exact List.contains_iff_mem.mpr ((feature.links.mem_values_iff target).mpr linked)

end Chart

end ChartPortrayal
