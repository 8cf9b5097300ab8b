import ChartPortrayal.Proofs.Chart.Assignment
import ChartPortrayal.Proofs.Faithful
import ChartPortrayal.Proofs.Store

/-! Coherence of a display. Every request leaves every portrayal faithful to the library, the chart and the
settings, so that a display answers like one that has built nothing yet. -/

namespace ChartPortrayal

variable {α : Type}

namespace Scene

variable {after before : Scene α} {later feature : Feature α}

/-- A higher link generation follows whatever has changed on the chart. -/
theorem follows_of_newer (store : after.store = before.store)
    (newer : before.chart.linkGeneration < after.chart.linkGeneration) :
    after.Follows before later feature := by
  refine ⟨Nat.le_of_eq (by rw [store]), Nat.le_of_lt newer, Nat.le_of_eq (by rw [store]), ?_, ?_⟩
  · intro _ same
    exact absurd same (Nat.ne_of_lt newer)
  · intro _ _
    rw [store]

/-- The same link generation follows for a feature whose links lead to the same features, the highlights of
all of them aside. -/
theorem follows_of_targets (library : after.library = before.library)
    (store : after.store = before.store)
    (same : before.chart.linkGeneration = after.chart.linkGeneration)
    (unmarked : later.unmarked = feature.unmarked)
    (targets : ∀ role target, feature.link? role = some target →
      (after.chart.find? target).map Feature.unmarked = (before.chart.find? target).map Feature.unmarked) :
    after.Follows before later feature := by
  have links : later.links = feature.links := by simpa using congrArg Feature.links unmarked
  have linked : ∀ role, (after.chart.linked? later role).map Feature.unmarked =
      (before.chart.linked? feature role).map Feature.unmarked := by
    intro role
    have link : later.link? role = feature.link? role := by rw [Feature.link?, links, Feature.link?]
    rw [Chart.linked?, Chart.linked?, link]
    cases leads : feature.link? role with
    | none => rfl
    | some target => exact targets role target leads
  refine ⟨Nat.le_of_eq (by rw [store]), Nat.le_of_eq same, Nat.le_of_eq (by rw [store]), ?_, ?_⟩
  · intro symbology links
    refine ⟨library, symbology.symm, links.symm, fun variant => ⟨unmarked, ?_, rfl, linked⟩⟩
    simp only [situation, store]
  · intro _ _
    rw [store]

/-- A store that follows makes a scene that follows. -/
theorem follows_of_store (library : after.library = before.library) (chart : after.chart = before.chart)
    (follows : after.store.Follows before.store) : after.Follows before feature feature := by
  refine ⟨follows.symbology, Nat.le_of_eq (by rw [chart]), follows.texts, ?_, follows.settings⟩
  intro symbology links
  refine ⟨library, symbology.symm, links.symm, fun variant => ⟨rfl, ?_, rfl, fun role => ?_⟩⟩
  · exact follows.unlabelled symbology
  · simp only [situation, Situation.linked?, chart]

end Scene

namespace Display

variable [Quantity α]

/-- The features of the chart are portrayed, each by a faithful portrayal, and links lead to features that
are or were there. -/
structure Coherent (display : Display α) : Prop where
  plain : display.library.IsPlain
  identified : display.chart.Identified
  given : display.chart.LinksGiven
  portrayed : ∀ id, (display.portrayals.find? id).isSome = (display.chart.find? id).isSome
  own : ∀ id portrayal, display.portrayals.find? id = some portrayal → portrayal.id = id
  faithful : ∀ id portrayal, display.portrayals.find? id = some portrayal →
    portrayal.Faithful display.scene

namespace Coherent

variable {display : Display α}

theorem insert (coherent : display.Coherent) {feature : Feature α}
    (unlinked : feature.links = .empty) : (display.insert feature).Coherent := by
  have stored : ∀ id, (display.insert feature).portrayals.find? id =
      if id = display.chart.nextId then some (.fresh display.chart.nextId)
      else display.portrayals.find? id := by
    intro id
    simp only [Display.insert, SortedMap.find?_insert, SortKey.order_eq_iff]
  refine ⟨coherent.plain, coherent.identified.insert feature, coherent.given.insert unlinked, ?_, ?_, ?_⟩
  · intro id
    rw [stored]
    simp only [Display.insert, Chart.find?_insert]
    split
    · rfl
    · exact coherent.portrayed id
  · intro id portrayal found
    rw [stored] at found
    split at found
    · next same =>
      cases found
      exact same.symm
    · exact coherent.own id portrayal found
  · intro id portrayal found
    rw [stored] at found
    split at found
    · cases found
      exact Portrayal.faithful_fresh _ _
    · next other =>
      have own := coherent.own id portrayal found
      refine (coherent.faithful id portrayal found).follow coherent.plain (fun later present => ?_)
      have kept : display.chart.find? portrayal.id = some later := by
        rw [own] at present ⊢
        rwa [Display.scene, Display.insert, Chart.find?_insert, if_neg other] at present
      -- links lead to identifiers that were given, and the new one was not
      refine ⟨later, kept, Scene.follows_of_targets rfl rfl rfl rfl (fun role target linked => ?_)⟩
      have below := coherent.given _ later kept role target linked
      have apart : target ≠ display.chart.nextId := Nat.ne_of_lt (Nat.lt_succ_of_le below)
      rw [Display.scene, Display.insert, Chart.find?_insert, if_neg apart, Display.scene]

theorem insertAll (coherent : display.Coherent) {features : List (Feature α)}
    (unlinked : ∀ feature ∈ features, feature.links = .empty) :
    (display.insertAll features).Coherent := by
  unfold Display.insertAll
  induction features generalizing display with
  | nil => exact coherent
  | cons feature rest ih =>
    obtain ⟨here, later⟩ := List.forall_mem_cons.mp unlinked
    exact ih (coherent.insert here) later

/-- Another chart with the same features, links aside, which tells by its generation where it differs. -/
theorem relinked (coherent : display.Coherent) {chart : Chart α} (alike : chart.BareAlike display.chart)
    (tracks : chart.Tracks display.chart) (given : chart.LinksGiven) :
    ({ display with chart := chart } : Display α).Coherent := by
  rcases tracks with rfl | newer
  · exact coherent
  · refine ⟨coherent.plain, alike.identified coherent.identified, given, ?_, coherent.own, ?_⟩
    · intro id
      rw [coherent.portrayed]
      have same := congrArg Option.isSome (alike.features id)
      rw [Option.isSome_map, Option.isSome_map] at same
      exact same.symm
    · intro id portrayal found
      refine (coherent.faithful id portrayal found).follow coherent.plain (fun later present => ?_)
      obtain ⟨feature, stood, -⟩ := alike.symm.find? present
      exact ⟨feature, stood, Scene.follows_of_newer rfl newer⟩

theorem resolveCell (coherent : display.Coherent) (cell : Nat) :
    ({ display with chart := (display.chart.resolveCell cell).1 } : Display α).Coherent :=
  coherent.relinked (Chart.bareAlike_resolveCell ..) (Chart.tracks_resolveCell ..)
    (coherent.given.resolveCell coherent.identified cell)

theorem resolveLinks (coherent : display.Coherent) : display.resolveLinks.1.Coherent :=
  coherent.relinked (Chart.bareAlike_resolveCells ..) (Chart.tracks_resolveCells ..)
    (coherent.given.resolveCells coherent.identified _)

/-- Features are removed together with their portrayals. -/
theorem without (coherent : display.Coherent) {gone : Nat → Prop} [DecidablePred gone]
    {chart : Chart α} {portrayals : SortedMap Nat (Portrayal α)}
    (left : ∀ id, chart.find? id = if gone id then none else display.chart.find? id)
    (remaining : ∀ id, portrayals.find? id = if gone id then none else display.portrayals.find? id)
    (lastId : chart.lastId = display.chart.lastId) (tracks : chart.Tracks display.chart) :
    ({ display with chart := chart, portrayals := portrayals } : Display α).Coherent := by
  have keeps : chart.Keeps display.chart := Chart.keeps_of_find? left lastId
  have stood : ∀ id portrayal, portrayals.find? id = some portrayal →
      display.portrayals.find? id = some portrayal := by
    intro id portrayal found
    rw [remaining] at found
    split at found
    · cases found
    · exact found
  refine ⟨coherent.plain, coherent.identified.keeps keeps, coherent.given.keeps keeps, ?_, ?_, ?_⟩
  · intro id
    rw [remaining, left]
    split
    · rfl
    · exact coherent.portrayed id
  · intro id portrayal found
    exact coherent.own id portrayal (stood id portrayal found)
  · intro id portrayal found
    have before := coherent.faithful id portrayal (stood id portrayal found)
    rcases tracks with rfl | newer
    · exact before
    · refine before.follow coherent.plain (fun later present => ?_)
      obtain ⟨feature, there, -⟩ := keeps.features _ later present
      exact ⟨feature, there, Scene.follows_of_newer rfl newer⟩

theorem erase (coherent : display.Coherent) (id : Nat) : (display.erase id).Coherent := by
  refine coherent.without (display.chart.find?_erase id) (fun other => ?_)
    (display.chart.lastId_erase id) (display.chart.tracks_erase id)
  rw [SortedMap.find?_erase]
  simp only [SortKey.order_eq_iff]

theorem eraseCell (coherent : display.Coherent) (cell : Nat) : (display.eraseCell cell).Coherent := by
  refine coherent.without (display.chart.find?_eraseCell cell) (fun other => ?_)
    (display.chart.lastId_eraseCell cell) (display.chart.tracks_eraseCell cell)
  rw [← List.foldl_map]
  exact SortedMap.find?_foldl_erase _ display.portrayals other

/-- When a feature is edited, links aside, and links are perhaps set after that, the portrayals of features
that are not linked to it stay faithful. -/
theorem spared (coherent : display.Coherent) {id : Nat} {change : Feature α → Feature α}
    {chart : Chart α} (identified : chart.Identified)
    (alike : chart.BareAlike (display.chart.adjust id change))
    (tracks : chart.Tracks (display.chart.adjust id change)) {other : Nat} {portrayal : Portrayal α}
    (found : display.portrayals.find? other = some portrayal) (apart : other ≠ id)
    (independent : other ∉ chart.dependents id) :
    portrayal.Faithful ⟨display.library, chart, display.store⟩ := by
  refine (coherent.faithful other portrayal found).follow coherent.plain (fun later present => ?_)
  rw [coherent.own other portrayal found] at present ⊢
  have there : chart.find? other = some later := present
  have before : (display.chart.adjust id change).find? other = display.chart.find? other := by
    rw [Chart.find?_adjust, if_neg apart]
  rcases tracks with rfl | newer
  · rw [before] at there
    refine ⟨later, there, Scene.follows_of_targets rfl rfl rfl rfl (fun role target linked => ?_)⟩
    have elsewhere : target ≠ id := by
      rintro rfl
      exact independent ((identified.mem_dependents target other).mpr
        ⟨later, before.trans there, role, linked⟩)
    exact congrArg (Option.map Feature.unmarked) ((Chart.find?_adjust ..).trans (if_neg elsewhere))
  · obtain ⟨feature, stood, -⟩ := alike.symm.find? there
    exact ⟨feature, before ▸ stood, Scene.follows_of_newer rfl newer⟩

/-- An edited feature becomes stale together with those that are linked to it. -/
theorem edited (coherent : display.Coherent) (id : Nat) {change : Feature α → Feature α}
    (same : ∀ feature, (change feature).id = feature.id ∧ (change feature).links = feature.links)
    {chart : Chart α} (alike : chart.BareAlike (display.chart.adjust id change))
    (tracks : chart.Tracks (display.chart.adjust id change)) (given : chart.LinksGiven) :
    (({ display with chart := chart } : Display α).invalidate (chart.dependents id ++ [id])).Coherent := by
  have identified := alike.identified (coherent.identified.keeps (display.chart.keeps_adjust id same))
  refine ⟨coherent.plain, identified, given, ?_, ?_, ?_⟩
  · intro other
    have bared := congrArg Option.isSome (alike.features other)
    rw [Option.isSome_map, Option.isSome_map, Chart.find?_adjust] at bared
    rw [Display.invalidate, SortedMap.find?_mapValues, Option.isSome_map, coherent.portrayed, bared]
    split
    · rw [Option.isSome_map]
    · rfl
  · intro other portrayal found
    rw [Display.invalidate, SortedMap.find?_mapValues] at found
    obtain ⟨old, stored, rfl⟩ := Option.map_eq_some_iff.mp found
    have own := coherent.own other old stored
    split
    · rwa [Portrayal.id_invalidate]
    · exact own
  · intro other portrayal found
    rw [Display.invalidate, SortedMap.find?_mapValues] at found
    obtain ⟨old, stored, rfl⟩ := Option.map_eq_some_iff.mp found
    split
    · exact Portrayal.faithful_invalidate _ _
    · next unlisted =>
      rw [List.contains_iff_mem, List.mem_append, List.mem_singleton, not_or] at unlisted
      exact coherent.spared identified alike tracks stored unlisted.2 unlisted.1

theorem setAttribute (coherent : display.Coherent) (id : Nat) (name value : String) :
    (display.setAttribute id name value).1.Coherent := by
  unfold Display.setAttribute
  cases display.feature? id with
  | none => exact coherent
  | some feature =>
    have same : ∀ feature : Feature α, (feature.setAttribute name value).id = feature.id ∧
        (feature.setAttribute name value).links = feature.links := fun _ => ⟨rfl, rfl⟩
    have keeps := display.chart.keeps_adjust id same
    have given := coherent.given.keeps keeps
    by_cases decides : linkAttributes.contains name = true
    · simp only [decides, ↓reduceIte]
      exact coherent.edited id same (Chart.bareAlike_resolveCell ..) (Chart.tracks_resolveCell ..)
        (given.resolveCell (coherent.identified.keeps keeps) _)
    · simp only [decides, Bool.false_eq_true, ↓reduceIte]
      exact coherent.edited id same (.refl _) (.refl _) given

theorem highlight (coherent : display.Coherent) (id : Nat) (on : Bool) :
    (display.highlight id on).1.Coherent := by
  unfold Display.highlight
  cases display.feature? id with
  | none => exact coherent
  | some feature =>
    have same : ∀ feature : Feature α, ({ feature with highlighted := on } : Feature α).id = feature.id ∧
        ({ feature with highlighted := on } : Feature α).links = feature.links := fun _ => ⟨rfl, rfl⟩
    have keeps := display.chart.keeps_adjust id same
    have unmarked : ∀ other, ((display.chart.adjust id (fun feature =>
        { feature with highlighted := on })).find? other).map Feature.unmarked =
          (display.chart.find? other).map Feature.unmarked := by
      intro other
      rw [Chart.find?_adjust]
      split
      · rw [Option.map_map]
        rfl
      · rfl
    refine ⟨coherent.plain, coherent.identified.keeps keeps, coherent.given.keeps keeps, ?_,
      coherent.own, ?_⟩
    · intro other
      have present := congrArg Option.isSome (unmarked other)
      rw [Option.isSome_map, Option.isSome_map] at present
      exact (coherent.portrayed other).trans present.symm
    · intro other portrayal found
      refine (coherent.faithful other portrayal found).follow coherent.plain (fun later present => ?_)
      have marked := unmarked portrayal.id
      rw [show (display.chart.adjust id _).find? portrayal.id = some later from present] at marked
      obtain ⟨feature, stood, bare⟩ := Option.map_eq_some_iff.mp marked.symm
      exact ⟨feature, stood, Scene.follows_of_targets rfl rfl rfl bare.symm
        (fun _ target _ => unmarked target)⟩

theorem setLibrary (coherent : display.Coherent) {library : Library α} (plain : library.IsPlain) :
    (display.setLibrary library).Coherent := by
  refine ⟨plain, coherent.identified, coherent.given, ?_, ?_, ?_⟩
  · intro id
    rw [Display.setLibrary, SortedMap.find?_mapValues, Option.isSome_map]
    exact coherent.portrayed id
  · intro id portrayal found
    rw [Display.setLibrary, SortedMap.find?_mapValues] at found
    obtain ⟨old, stored, rfl⟩ := Option.map_eq_some_iff.mp found
    rw [Portrayal.id_invalidate]
    exact coherent.own id old stored
  · intro id portrayal found
    rw [Display.setLibrary, SortedMap.find?_mapValues] at found
    obtain ⟨old, stored, rfl⟩ := Option.map_eq_some_iff.mp found
    exact Portrayal.faithful_invalidate old _

theorem writeStore (coherent : display.Coherent) {store : SettingsStore α}
    (follows : store.Follows display.store) :
    ({ display with store := store } : Display α).Coherent := by
  refine ⟨coherent.plain, coherent.identified, coherent.given, coherent.portrayed, coherent.own, ?_⟩
  intro id portrayal found
  refine (coherent.faithful id portrayal found).follow coherent.plain (fun later present => ?_)
  exact ⟨later, present, Scene.follows_of_store rfl rfl follows⟩

/-- Asking a portrayal for something leaves the display coherent if it leaves the portrayal faithful. -/
theorem request {β : Type} (coherent : display.Coherent) (id : Nat)
    {ask : Portrayal α → Portrayal α × Except PortrayalError β}
    (kept : ∀ portrayal : Portrayal α, portrayal.Faithful display.scene →
      (ask portrayal).1.Faithful display.scene ∧ (ask portrayal).1.id = portrayal.id) :
    (display.request id ask).1.Coherent := by
  unfold Display.request
  cases found : display.portrayals.find? id with
  | none => exact coherent
  | some portrayal =>
    obtain ⟨faithful, own⟩ := kept portrayal (coherent.faithful id portrayal found)
    have stored : ∀ other, (display.portrayals.insert id (ask portrayal).1).find? other =
        if other = id then some (ask portrayal).1 else display.portrayals.find? other := by
      intro other
      simp only [SortedMap.find?_insert, SortKey.order_eq_iff]
    refine ⟨coherent.plain, coherent.identified, coherent.given, ?_, ?_, ?_⟩
    · intro other
      rw [stored]
      split
      · next same =>
        rw [same, ← coherent.portrayed, found]
        rfl
      · exact coherent.portrayed other
    · intro other current present
      rw [stored] at present
      split at present
      · next same =>
        cases present
        rw [own, coherent.own id portrayal found, same]
      · exact coherent.own other current present
    · intro other current present
      rw [stored] at present
      split at present
      · cases present
        exact faithful
      · exact coherent.faithful other current present

theorem commands (coherent : display.Coherent) (id : Nat) (variant : Variant) :
    (display.commands id variant).1.Coherent :=
  coherent.request id (fun _ faithful => faithful.readSlot_kept variant Slot.commands)

theorem priority (coherent : display.Coherent) (id : Nat) (variant : Variant) :
    (display.priority id variant).1.Coherent :=
  coherent.request id (fun _ faithful => faithful.readSlot_kept variant Slot.priority)

theorem labels (coherent : display.Coherent) (id : Nat) (variant : Variant) :
    (display.labels id variant).1.Coherent :=
  coherent.request id (fun _ faithful => faithful.labels_kept variant)

theorem keptByAsking : KeptByAsking (Coherent : Display α → Prop) :=
  ⟨fun _ id variant coherent => coherent.commands id variant,
    fun _ id variant coherent => coherent.priority id variant,
    fun _ id variant coherent => coherent.labels id variant⟩

theorem loadCell (coherent : display.Coherent) (cell : Nat) {features : List (Feature α)}
    (unlinked : ∀ feature ∈ features, feature.links = .empty) :
    (display.loadCell cell features).1.Coherent := by
  have placed : ∀ feature ∈ features.map (fun feature => { feature with cell := cell }),
      feature.links = .empty := by
    intro feature member
    obtain ⟨original, there, rfl⟩ := List.mem_map.mp member
    exact unlinked original there
  exact keptByAsking.loadCell cell features ((coherent.insertAll placed).resolveCell cell)

end Coherent

/-- Requests that bring in features come with unlinked ones, and those that bring in a library come with a
plain one. -/
def Admissible : Request α → Prop
  | .insert feature => feature.links = .empty
  | .loadCell _ features => ∀ feature ∈ features, feature.links = .empty
  | .setLibrary library => library.IsPlain
  | _ => True

/-- Every request keeps a display coherent. -/
theorem Coherent.perform {display : Display α} (coherent : display.Coherent) {request : Request α}
    (admissible : Admissible request) : (display.perform request).Coherent := by
  cases request with
  | insert feature => exact coherent.insert admissible
  | loadCell cell features => exact coherent.loadCell cell admissible
  | erase id => exact coherent.erase id
  | eraseCell cell => exact coherent.eraseCell cell
  | resolveLinks => exact coherent.resolveLinks
  | setAttribute id name value => exact coherent.setAttribute id name value
  | setParameter parameter value => exact coherent.writeStore (SettingsStore.follows_set ..)
  | writeStore write => exact coherent.writeStore (SettingsStore.follows_apply ..)
  | highlight id on => exact coherent.highlight id on
  | setLibrary library => exact coherent.setLibrary admissible
  | commands id variant => exact coherent.commands id variant
  | priority id variant => exact coherent.priority id variant
  | labels id variant => exact coherent.labels id variant
  | describe id variant => exact Coherent.keptByAsking.describe coherent id variant
  | isSuppressed id => exact Coherent.keptByAsking.isSuppressed coherent id
  | finalizeAll => exact Coherent.keptByAsking.finalizeAll coherent

theorem coherent_start {library : Library α} (plain : library.IsPlain) (store : SettingsStore α)
    (eagerFinalize : Bool) : (start library store eagerFinalize).Coherent := by
  refine ⟨plain, Chart.Identified.empty, ?_, fun _ => rfl, ?_, ?_⟩
  · intro id feature found
    cases found
  · intro id portrayal found
    cases found
  · intro id portrayal found
    cases found

/-- Every run of admissible requests from a new display ends in a coherent one. -/
theorem coherent_run {library : Library α} (plain : library.IsPlain) (store : SettingsStore α)
    (eagerFinalize : Bool) {requests : List (Request α)}
    (admissible : ∀ request ∈ requests, Admissible request) :
    ((start library store eagerFinalize).run requests).Coherent := by
  have step : ∀ (display : Display α) (request : Request α), display.Coherent → Admissible request →
      (display.perform request).Coherent :=
    fun _ _ coherent admissible => coherent.perform admissible
  exact run_induction step (coherent_start plain store eagerFinalize) requests admissible

end Display

end ChartPortrayal
