import ChartPortrayal.Proofs.Chart.Resolution

/-! What the link generation tells. Whatever an edit of a chart does to a link of a feature that stays, be it
that the link leads elsewhere, nowhere, or somewhere at last, the generation rises with it. The one exception
is an insertion: the identifier that it gives away may stand in a link already. -/

namespace ChartPortrayal

/-- What can be done to a chart. -/
inductive ChartEdit (α : Type) where
  | insert (feature : Feature α)
  | erase (id : Nat)
  | eraseCell (cell : Nat)
  | setLink (id : Nat) (role : LinkRole) (target : Option Nat)
  | clearLinks (cell : Nat)

variable {α : Type}

def ChartEdit.IsInsertion (edit : ChartEdit α) : Prop := ∃ feature, edit = .insert feature

namespace Chart

def edit (chart : Chart α) : ChartEdit α → Chart α
  | .insert feature => chart.insert feature
  | .erase id => chart.erase id
  | .eraseCell cell => chart.eraseCell cell
  | .setLink id role target => chart.setLink id role target
  | .clearLinks cell => chart.clearLinks cell

/-- The chart after a run of edits. -/
def editAll (chart : Chart α) (edits : List (ChartEdit α)) : Chart α := edits.foldl edit chart

theorem find?_clearLinks (chart : Chart α) (cell id : Nat) :
    (chart.clearLinks cell).find? id = (chart.find? id).map (fun feature =>
      if feature.cell = cell then { feature with links := .empty } else feature) := by
  unfold clearLinks
  dsimp only
  split <;> exact SortedMap.find?_mapValues ..

theorem lastId_clearLinks (chart : Chart α) (cell : Nat) :
    (chart.clearLinks cell).lastId = chart.lastId := by
  unfold clearLinks
  dsimp only
  split <;> rfl

/-- Clearing the links of a cell leaves the chart as it is exactly where there are none. -/
theorem tracks_clearLinks (chart : Chart α) (cell : Nat) : (chart.clearLinks cell).Tracks chart := by
  unfold clearLinks
  dsimp only
  split
  · exact .inr (Nat.lt_succ_self _)
  · next unlinked =>
    have bare : ∀ feature ∈ chart.cellFeatures cell, feature.links = .empty := by
      intro feature member
      have none : feature.links.isEmpty = true := by
        simpa using fun linked => unlinked (List.any_eq_true.mpr ⟨feature, member, linked⟩)
      exact SortedMap.ext_find? (fun role => by
        rw [SortedMap.find?, List.isEmpty_iff.mp none]
        rfl)
    have same : chart.features.mapValues (fun _ feature =>
        if feature.cell = cell then { feature with links := .empty } else feature) =
          chart.features := by
      refine SortedMap.ext_find? (fun id => ?_)
      rw [SortedMap.find?_mapValues]
      cases found : chart.features.find? id with
      | none => rfl
      | some feature =>
        rw [Option.map_some]
        split
        · next here =>
          rw [← bare feature ((mem_cellFeatures chart cell feature).mpr ⟨⟨id, found⟩, here⟩)]
        · rfl
    left
    rw [same]

/-- Only an insertion can change a chart under the same link generation. -/
theorem tracks_edit (chart : Chart α) (edit : ChartEdit α) :
    edit.IsInsertion ∨ (chart.edit edit).Tracks chart := by
  cases edit with
  | insert feature => exact .inl ⟨feature, rfl⟩
  | erase id => exact .inr (chart.tracks_erase id)
  | eraseCell cell => exact .inr (chart.tracks_eraseCell cell)
  | setLink id role target => exact .inr (chart.tracks_setLink id role target)
  | clearLinks cell => exact .inr (chart.tracks_clearLinks cell)

theorem Identified.clearLinks {chart : Chart α} (identified : chart.Identified) (cell : Nat) :
    (chart.clearLinks cell).Identified := by
  constructor <;> intro id later found
  all_goals
    rw [find?_clearLinks] at found
    obtain ⟨feature, stood, same⟩ := Option.map_eq_some_iff.mp found
  · rw [← identified.own id feature stood, ← same]
    split <;> rfl
  · rw [lastId_clearLinks]
    exact identified.given id feature stood

theorem Identified.edit {chart : Chart α} (identified : chart.Identified) (edit : ChartEdit α) :
    (chart.edit edit).Identified := by
  cases edit with
  | insert feature => exact identified.insert feature
  | erase id => exact identified.keeps (keeps_of_find? (chart.find?_erase id) (chart.lastId_erase id))
  | eraseCell cell =>
    exact identified.keeps (keeps_of_find? (chart.find?_eraseCell cell) (chart.lastId_eraseCell cell))
  | setLink id role target => exact (bareAlike_setLink chart id role target).identified identified
  | clearLinks cell => exact identified.clearLinks cell

theorem Identified.editAll {chart : Chart α} (identified : chart.Identified)
    (edits : List (ChartEdit α)) : (chart.editAll edits).Identified := by
  induction edits generalizing chart with
  | nil => exact identified
  | cons edit rest ih => exact ih (identified.edit edit)

/-- A link of the feature in this role names the feature that is yet to be inserted. -/
def Awaits (chart : Chart α) (id : Nat) (role : LinkRole) : Prop :=
  (chart.find? id).bind (fun feature => feature.link? role) = some chart.nextId

instance (chart : Chart α) (id : Nat) (role : LinkRole) : Decidable (chart.Awaits id role) :=
  inferInstanceAs (Decidable (_ = _))

/-- A link that awaits the next feature leads nowhere yet. -/
theorem Awaits.follow?_eq_none {chart : Chart α} (identified : chart.Identified) {id : Nat}
    {role : LinkRole} (awaits : chart.Awaits id role) : chart.follow? id role = none := by
  obtain ⟨stored, found, linked⟩ := Option.bind_eq_some_iff.mp awaits
  rw [follow?, found, Option.bind_some, linked?, linked, Option.bind_some, find?_nextId identified]

/-- An insertion makes the links that await it lead to the new feature, and changes no other. -/
theorem follow?_insert {chart : Chart α} (identified : chart.Identified) {id : Nat}
    (present : chart.contains id = true) (feature : Feature α) (role : LinkRole) :
    (chart.insert feature).follow? id role =
      if chart.Awaits id role then some { feature with id := chart.nextId }
      else chart.follow? id role := by
  obtain ⟨stored, found⟩ := Option.isSome_iff_exists.mp present
  have stands : chart.find? id = some stored := found
  have apart : id ≠ chart.nextId :=
    Nat.ne_of_lt (Nat.lt_succ_of_le (identified.given id stored stands))
  have kept : (chart.insert feature).find? id = some stored := by
    rw [Chart.find?_insert, if_neg apart, stands]
  have awaits : chart.Awaits id role ↔ stored.link? role = some chart.nextId := by
    rw [Awaits, stands, Option.bind_some]
  rw [follow?, follow?, kept, stands, Option.bind_some, Option.bind_some, linked?, linked?]
  by_cases awaited : chart.Awaits id role
  · rw [if_pos awaited, awaits.mp awaited, Option.bind_some, Chart.find?_insert, if_pos rfl]
  · rw [if_neg awaited]
    cases linked : stored.link? role with
    | none => rfl
    | some target =>
      have elsewhere : target ≠ chart.nextId := fun same => awaited (awaits.mpr (same ▸ linked))
      rw [Option.bind_some, Option.bind_some, Chart.find?_insert, if_neg elsewhere]

/-- Where an edit changes what a link of a feature leads to, the link generation rises, unless the edit is the
insertion that the link awaited. That insertion makes the link lead to the new feature under the same
generation. -/
theorem generation_raised_or_awaited (edits : List (ChartEdit α)) (edit : ChartEdit α) (id : Nat)
    (role : LinkRole) :
    let before := (empty : Chart α).editAll edits
    let after := before.edit edit
    before.contains id = true → after.contains id = true →
      (after.follow? id role ≠ before.follow? id role →
        before.linkGeneration < after.linkGeneration ∨
          edit.IsInsertion ∧ before.Awaits id role) ∧
      (edit.IsInsertion ∧ before.Awaits id role →
        before.follow? id role = none ∧
          (after.follow? id role).map (·.id) = some before.nextId ∧
          after.linkGeneration = before.linkGeneration) := by
  intro before after present _
  have identified : before.Identified := Identified.empty.editAll edits
  constructor
  · intro changed
    rcases before.tracks_edit edit with ⟨feature, rfl⟩ | same | raised
    · refine .inr ⟨⟨feature, rfl⟩, ?_⟩
      by_cases awaits : before.Awaits id role
      · exact awaits
      · have kept := follow?_insert identified present feature role
        rw [if_neg awaits] at kept
        exact absurd kept changed
    · exact absurd (congrArg (fun chart => chart.follow? id role) same) changed
    · exact .inl raised
  · rintro ⟨⟨feature, rfl⟩, awaits⟩
    have leads := follow?_insert identified present feature role
    rw [if_pos awaits] at leads
    have named : (after.follow? id role).map (·.id) = some before.nextId :=
      congrArg (Option.map (·.id)) leads
    exact ⟨awaits.follow?_eq_none identified, named, rfl⟩

/-- The removal of a buoy raises the generation for the light on it, whose link was set before the buoy came. -/
theorem generation_raised_by_removed_platform :
    let edits : List (ChartEdit Float) :=
      [.insert (.plain "LIGHTS" .point), .setLink 1 .platform (some 2), .insert (.plain "BOYLAT" .point)]
    let edit : ChartEdit Float := .erase 2
    let before := empty.editAll edits
    let after := before.edit edit
    before.contains 1 = true ∧ after.contains 1 = true ∧
      after.follow? 1 .platform ≠ before.follow? 1 .platform ∧
      (before.linkGeneration < after.linkGeneration ∨
        edit.IsInsertion ∧ before.Awaits 1 .platform) := by
  intro edits edit before after
  have present : before.contains 1 = true := by decide +kernel
  have stays : after.contains 1 = true := by decide +kernel
  have changed : after.follow? 1 .platform ≠ before.follow? 1 .platform := by
    intro same
    have led : (before.follow? 1 .platform).isSome = true := by decide +kernel
    have gone : (after.follow? 1 .platform).isSome = false := by decide +kernel
    rw [same, led] at gone
    cases gone
  exact ⟨present, stays, changed,
    (generation_raised_or_awaited edits edit 1 .platform present stays).1 changed⟩

/-- A light whose link names the next feature gets its buoy without a rise of the generation. -/
theorem not_generation_raised_by_awaited_platform :
    ¬ ∀ (edits : List (ChartEdit Float)) (edit : ChartEdit Float) (id : Nat) (role : LinkRole),
      let before := empty.editAll edits
      let after := before.edit edit
      before.contains id = true → after.contains id = true →
        (after.follow? id role).map (·.id) ≠ (before.follow? id role).map (·.id) →
          before.linkGeneration < after.linkGeneration := by
  intro witnessed
  have raised := witnessed
    [.insert { (Feature.plain "LIGHTS" .point) with links := .ofList [(.platform, 2)] }]
    (.insert (.plain "BOYLAT" .point)) 1 .platform
    (by decide +kernel) (by decide +kernel) (by decide +kernel)
  revert raised
  decide +kernel

end Chart

end ChartPortrayal
