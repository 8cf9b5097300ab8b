import ChartPortrayal.Proofs.Chart.Assignment
import ChartPortrayal.Proofs.Display.Settled
import ChartPortrayal.Proofs.Refresh
import ChartPortrayal.Proofs.Splicing

/-! Chart and portrayals of a display go together, whatever is asked of it: every feature stands under its own
identifier and has a portrayal that names it, and no portrayal was built under a link generation yet to come. -/

namespace ChartPortrayal

variable {α : Type}

/-- A portrayal of this feature that was built under link generations up to this one. -/
structure Portrayal.Dated (portrayal : Portrayal α) (id generation : Nat) : Prop where
  own : portrayal.id = id
  bounded : ∀ variant stamp, (portrayal.slot variant).stamp = some stamp → stamp.links ≤ generation

namespace Portrayal.Dated

variable {portrayal : Portrayal α} {id generation : Nat}

theorem fresh (id generation : Nat) : (Portrayal.fresh id : Portrayal α).Dated id generation := by
  refine ⟨rfl, fun variant stamp stamped => ?_⟩
  rw [slot_fresh] at stamped
  cases stamped

theorem mono (dated : portrayal.Dated id generation) {later : Nat} (grown : generation ≤ later) :
    portrayal.Dated id later :=
  ⟨dated.own, fun variant stamp stamped => Nat.le_trans (dated.bounded variant stamp stamped) grown⟩

theorem invalidate (dated : portrayal.Dated id generation) :
    portrayal.invalidate.Dated id generation := by
  refine ⟨dated.own, fun variant stamp stamped => ?_⟩
  rw [slot_invalidate] at stamped
  cases stamped

theorem setSlot (dated : portrayal.Dated id generation) (variant : Variant) {slot : Slot α}
    (bounded : ∀ stamp, slot.stamp = some stamp → stamp.links ≤ generation) :
    (portrayal.setSlot variant slot).Dated id generation := by
  refine ⟨by rw [id_setSlot, dated.own], fun other stamp stamped => ?_⟩
  by_cases same : other = variant
  · subst same
    rw [slot_setSlot] at stamped
    exact bounded stamp stamped
  · rw [slot_setSlot_of_ne portrayal same] at stamped
    exact dated.bounded other stamp stamped

variable [Quantity α] {scene : Scene α}

/-- A slot that is built now is stamped with the present generation. -/
theorem refresh (dated : portrayal.Dated id scene.chart.linkGeneration) (variant : Variant) :
    (portrayal.refresh scene variant).1.Dated id scene.chart.linkGeneration := by
  have outcome := portrayal.refreshed scene variant
  generalize portrayal.refresh scene variant = result at outcome
  cases outcome with
  | unknown absent => exact dated
  | current found current => exact dated
  | failed found stale failed => exact dated
  | built found stale built =>
    apply dated.setSlot
    intro stamp stamped
    cases (Scene.stamp_of_build built).symm.trans stamped
    exact Nat.le_refl _

theorem readSlot {β : Type} (dated : portrayal.Dated id scene.chart.linkGeneration) (variant : Variant)
    (read : Slot α → β) :
    (portrayal.readSlot scene variant read).1.Dated id scene.chart.linkGeneration := by
  rw [readSlot_fst]
  exact dated.refresh variant

theorem labels (dated : portrayal.Dated id scene.chart.linkGeneration) (variant : Variant) :
    (portrayal.labels scene variant).1.Dated id scene.chart.linkGeneration := by
  have after := dated.refresh variant
  unfold Portrayal.labels
  generalize portrayal.refresh scene variant = outcome at after
  obtain ⟨current, error | ⟨⟩⟩ := outcome
  · exact after
  · -- labels are put beside the stamp, which stays
    have relabelled : ∀ cache : LabelCache, (current.setSlot variant
        { current.slot variant with labels := some cache }).Dated id scene.chart.linkGeneration :=
      fun _ => after.setSlot variant (fun stamp stamped => after.bounded variant stamp stamped)
    dsimp only
    split
    · exact after
    · next feature _ =>
      have ended := current.labelled scene variant feature
      generalize current.slotLabels scene variant feature = outcome at ended
      cases ended with
      | kept => exact after
      | resolved => exact relabelled _
      | stopped => exact after

end Portrayal.Dated

namespace Display

theorem find?_portrayals_eraseCell (display : Display α) (cell other : Nat) :
    (display.eraseCell cell).portrayals.find? other =
      if other ∈ (display.chart.cellFeatures cell).map (·.id) then none
      else display.portrayals.find? other := by
  unfold eraseCell
  rw [← SortedMap.find?_foldl_erase, List.foldl_map]

/-- Every feature of the chart, and nothing else, has a portrayal, and chart and portrayals agree on the
identifier. -/
structure Aligned (display : Display α) : Prop where
  identified : display.chart.Identified
  portrayed : ∀ id, (display.portrayals.find? id).isSome = (display.chart.find? id).isSome
  dated : ∀ id portrayal, display.portrayals.find? id = some portrayal →
    portrayal.Dated id display.chart.linkGeneration

namespace Aligned

variable {display : Display α}

/-- The portrayed identifiers are those of the chart. -/
theorem keys_eq_ids (aligned : display.Aligned) : display.portrayals.keys = display.chart.ids := by
  apply SortedMap.keys_eq_of_mem_iff
  intro id
  rw [SortedMap.mem_keys_iff, SortedMap.mem_keys_iff, aligned.portrayed]
  rfl

/-- The same features are present afterwards, generations have not fallen, and portrayals were changed in
place. -/
theorem amend (aligned : display.Aligned) {other : Display α} (identified : other.chart.Identified)
    (present : ∀ id, (other.chart.find? id).isSome = (display.chart.find? id).isSome)
    (grown : display.chart.linkGeneration ≤ other.chart.linkGeneration)
    (change : Nat → Portrayal α → Portrayal α)
    (changed : ∀ id, other.portrayals.find? id = (display.portrayals.find? id).map (change id))
    (kept : ∀ id portrayal, portrayal.Dated id display.chart.linkGeneration →
      (change id portrayal).Dated id display.chart.linkGeneration) : other.Aligned := by
  refine ⟨identified, fun id => ?_, fun id portrayal found => ?_⟩
  · rw [changed, Option.isSome_map, aligned.portrayed, present]
  · rw [changed] at found
    obtain ⟨old, stored, rfl⟩ := Option.map_eq_some_iff.mp found
    exact (kept id old (aligned.dated id old stored)).mono grown

/-- Another chart with the same features, for instance after links were set. -/
theorem onChart (aligned : display.Aligned) {chart : Chart α} (alike : chart.BareAlike display.chart)
    (tracks : chart.Tracks display.chart) : ({ display with chart := chart } : Display α).Aligned := by
  refine aligned.amend (alike.identified aligned.identified) (fun id => ?_) tracks.generation_le
    (fun _ portrayal => portrayal) (fun _ => Option.map_id'.symm) (fun _ _ dated => dated)
  simpa only [Option.isSome_map] using congrArg Option.isSome (alike.features id)

/-- Another library or other settings do not matter. -/
theorem of_portrayals (aligned : display.Aligned) {other : Display α}
    (chart : other.chart = display.chart) (change : Nat → Portrayal α → Portrayal α)
    (changed : ∀ id, other.portrayals.find? id = (display.portrayals.find? id).map (change id))
    (kept : ∀ id portrayal, portrayal.Dated id display.chart.linkGeneration →
      (change id portrayal).Dated id display.chart.linkGeneration) : other.Aligned :=
  aligned.amend (chart ▸ aligned.identified) (fun _ => by rw [chart])
    (Nat.le_of_eq (by rw [chart])) change changed kept

theorem insert (aligned : display.Aligned) (feature : Feature α) : (display.insert feature).Aligned := by
  have stored : ∀ id, (display.insert feature).portrayals.find? id =
      if id = display.chart.nextId then some (.fresh display.chart.nextId)
      else display.portrayals.find? id := by
    intro id
    simp only [Display.insert, SortedMap.find?_insert, SortKey.order_eq_iff]
  refine ⟨aligned.identified.insert feature, fun id => ?_, fun id portrayal found => ?_⟩
  · rw [stored, Display.insert, Chart.find?_insert]
    split
    · rfl
    · exact aligned.portrayed id
  · rw [stored] at found
    split at found
    · next same =>
      cases found
      rw [same]
      exact .fresh _ _
    · exact aligned.dated id portrayal found

theorem insertAll (aligned : display.Aligned) (features : List (Feature α)) :
    (display.insertAll features).Aligned := by
  unfold Display.insertAll
  induction features generalizing display with
  | nil => exact aligned
  | cons feature rest ih => exact ih (aligned.insert feature)

/-- Features are removed together with their portrayals. -/
theorem without (aligned : display.Aligned) {gone : Nat → Prop} [DecidablePred gone]
    {chart : Chart α} {portrayals : SortedMap Nat (Portrayal α)}
    (left : ∀ id, chart.find? id = if gone id then none else display.chart.find? id)
    (remaining : ∀ id, portrayals.find? id = if gone id then none else display.portrayals.find? id)
    (lastId : chart.lastId = display.chart.lastId) (tracks : chart.Tracks display.chart) :
    ({ display with chart := chart, portrayals := portrayals } : Display α).Aligned := by
  have keeps : chart.Keeps display.chart := Chart.keeps_of_find? left lastId
  refine ⟨aligned.identified.keeps keeps, fun id => ?_, fun id portrayal found => ?_⟩
  · rw [remaining, left]
    split
    · rfl
    · exact aligned.portrayed id
  · rw [remaining] at found
    split at found
    · cases found
    · exact (aligned.dated id portrayal found).mono tracks.generation_le

theorem erase (aligned : display.Aligned) (id : Nat) : (display.erase id).Aligned := by
  refine aligned.without (display.chart.find?_erase id) (fun other => ?_)
    (display.chart.lastId_erase id) (display.chart.tracks_erase id)
  rw [SortedMap.find?_erase]
  simp only [SortKey.order_eq_iff]

theorem eraseCell (aligned : display.Aligned) (cell : Nat) : (display.eraseCell cell).Aligned :=
  aligned.without (display.chart.find?_eraseCell cell) (display.find?_portrayals_eraseCell cell)
    (display.chart.lastId_eraseCell cell) (display.chart.tracks_eraseCell cell)

theorem adjust (aligned : display.Aligned) (id : Nat) (change : Feature α → Feature α)
    (same : ∀ feature, (change feature).id = feature.id ∧ (change feature).links = feature.links) :
    ({ display with chart := display.chart.adjust id change } : Display α).Aligned := by
  refine aligned.amend (aligned.identified.keeps (display.chart.keeps_adjust id same)) (fun other => ?_)
    (Nat.le_refl _) (fun _ portrayal => portrayal) (fun _ => Option.map_id'.symm) (fun _ _ dated => dated)
  rw [Chart.find?_adjust]
  split
  · rw [Option.isSome_map]
  · rfl

theorem highlight (aligned : display.Aligned) (id : Nat) (on : Bool) :
    (display.highlight id on).1.Aligned := by
  unfold Display.highlight
  cases display.feature? id with
  | none => exact aligned
  | some feature => exact aligned.adjust id _ (fun _ => ⟨rfl, rfl⟩)

theorem invalidate (aligned : display.Aligned) (ids : List Nat) : (display.invalidate ids).Aligned := by
  refine aligned.of_portrayals rfl _ (fun _ => SortedMap.find?_mapValues ..) (fun _ _ dated => ?_)
  split
  · exact dated.invalidate
  · exact dated

theorem setLibrary (aligned : display.Aligned) (library : Library α) :
    (display.setLibrary library).Aligned :=
  aligned.of_portrayals rfl _ (fun _ => SortedMap.find?_mapValues ..) (fun _ _ dated => dated.invalidate)

theorem withStore (aligned : display.Aligned) (store : SettingsStore α) :
    ({ display with store := store } : Display α).Aligned :=
  ⟨aligned.identified, aligned.portrayed, aligned.dated⟩

/-- Asking a portrayal for something leaves it a portrayal of the same feature. -/
theorem request {β : Type} (aligned : display.Aligned) (id : Nat)
    {ask : Portrayal α → Portrayal α × Except PortrayalError β}
    (kept : ∀ portrayal : Portrayal α, portrayal.Dated id display.chart.linkGeneration →
      (ask portrayal).1.Dated id display.chart.linkGeneration) :
    (display.request id ask).1.Aligned := by
  unfold Display.request
  cases found : display.portrayals.find? id with
  | none => exact aligned
  | some portrayal =>
    refine aligned.of_portrayals rfl (fun other old => if other = id then (ask old).1 else old)
      (fun other => ?_) (fun other old dated => ?_)
    · rw [SortedMap.find?_insert]
      by_cases same : other = id
      · simp only [same, SortKey.order_self, ↓reduceIte, found, Option.map_some]
      · simp only [SortKey.order_eq_iff, same, ↓reduceIte, Option.map_id']
    · split
      · next same => exact same ▸ kept old (same ▸ dated)
      · exact dated

variable [Quantity α]

theorem keptByAsking : KeptByAsking (Aligned : Display α → Prop) where
  commands _ id variant aligned := aligned.request id (fun _ dated => dated.readSlot variant Slot.commands)
  priority _ id variant aligned := aligned.request id (fun _ dated => dated.readSlot variant Slot.priority)
  labels _ id variant aligned := aligned.request id (fun _ dated => dated.labels variant)

theorem loadCell (aligned : display.Aligned) (cell : Nat) (features : List (Feature α)) :
    (display.loadCell cell features).1.Aligned :=
  keptByAsking.loadCell cell features
    ((aligned.insertAll _).onChart (Chart.bareAlike_resolveCell ..) (Chart.tracks_resolveCell ..))

theorem setAttribute (aligned : display.Aligned) (id : Nat) (name value : String) :
    (display.setAttribute id name value).1.Aligned := by
  unfold Display.setAttribute
  cases display.feature? id with
  | none => exact aligned
  | some feature =>
    have edited := aligned.adjust id (fun feature => feature.setAttribute name value)
      (fun _ => ⟨rfl, rfl⟩)
    apply invalidate
    split
    · exact edited.onChart (Chart.bareAlike_resolveCell ..) (Chart.tracks_resolveCell ..)
    · exact edited

/-- Every request keeps chart and portrayals together. -/
theorem perform (aligned : display.Aligned) (request : Request α) :
    (display.perform request).Aligned := by
  cases request with
  | insert feature => exact aligned.insert feature
  | loadCell cell features => exact aligned.loadCell cell features
  | erase id => exact aligned.erase id
  | eraseCell cell => exact aligned.eraseCell cell
  | resolveLinks =>
    exact aligned.onChart (Chart.bareAlike_resolveCells ..) (Chart.tracks_resolveCells ..)
  | setAttribute id name value => exact aligned.setAttribute id name value
  | setParameter parameter value => exact aligned.withStore _
  | writeStore write => exact aligned.withStore _
  | highlight id on => exact aligned.highlight id on
  | setLibrary library => exact aligned.setLibrary library
  | commands id variant => exact keptByAsking.commands display id variant aligned
  | priority id variant => exact keptByAsking.priority display id variant aligned
  | labels id variant => exact keptByAsking.labels display id variant aligned
  | describe id variant => exact keptByAsking.describe aligned id variant
  | isSuppressed id => exact keptByAsking.isSuppressed aligned id
  | finalizeAll => exact keptByAsking.finalizeAll aligned

omit [Quantity α] in
theorem start (library : Library α) (store : SettingsStore α) (eagerFinalize : Bool) :
    (start library store eagerFinalize).Aligned := by
  refine ⟨Chart.Identified.empty, fun _ => rfl, fun id portrayal found => ?_⟩
  cases found

theorem run (aligned : display.Aligned) (requests : List (Request α)) :
    (display.run requests).Aligned := by
  induction requests generalizing display with
  | nil => exact aligned
  | cons request rest ih => exact ih (aligned.perform request)

end Aligned

end Display

end ChartPortrayal
