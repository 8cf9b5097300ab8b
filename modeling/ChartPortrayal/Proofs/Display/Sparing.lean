import ChartPortrayal.Proofs.Display.Unchanged
import ChartPortrayal.Proofs.Faithful
import ChartPortrayal.Proofs.Store

/-! Requests that spare a slot. Nothing becomes stale by writes that symbology takes no notice of, by
highlights, filters, insertions and questions, nor by edits of features that a feature is not linked to. -/

namespace ChartPortrayal

variable {α : Type}

namespace Portrayal

variable [Quantity α] {portrayal : Portrayal α} {scene : Scene α} {variant : Variant} {feature : Feature α}

theorem refresh_of_current (found : scene.chart.find? portrayal.id = some feature)
    (current : portrayal.IsCurrent scene variant feature) :
    portrayal.refresh scene variant = (portrayal, .ok ()) := by
  rw [refresh, Chart.require, found]
  exact if_pos current

/-- A slot that is current is not built anew, whatever variant is asked about. -/
theorem unlabelled_readSlot {β : Type} (found : scene.chart.find? portrayal.id = some feature)
    (current : portrayal.IsCurrent scene variant feature) (asked : Variant) (read : Slot α → β) :
    ((portrayal.readSlot scene asked read).1.slot variant).unlabelled =
      (portrayal.slot variant).unlabelled := by
  by_cases same : variant = asked
  · subst same
    rw [readSlot_fst, refresh_of_current found current]
  · rw [(portrayal.contained_readSlot scene asked read).other variant same]

theorem unlabelled_labels (found : scene.chart.find? portrayal.id = some feature)
    (current : portrayal.IsCurrent scene variant feature) (asked : Variant) :
    ((portrayal.labels scene asked).1.slot variant).unlabelled = (portrayal.slot variant).unlabelled := by
  by_cases same : variant = asked
  · subst same
    rw [labels_of_refresh found (refresh_of_current found current)]
    have ended := portrayal.labelled scene variant feature
    generalize portrayal.slotLabels scene variant feature = outcome at ended
    cases ended with
    | kept => rfl
    | resolved => rw [slot_setSlot, Slot.unlabelled, Slot.unlabelled]
    | stopped => rfl
  · rw [slot_labels_of_ne same]

end Portrayal

namespace Display

/-- One display differs from another in nothing that the stamps of a feature tell of. -/
structure Leaves (after before : Display α) (id : Nat) : Prop where
  library : after.library = before.library
  symbology : after.store.symbologyGeneration = before.store.symbologyGeneration
  links : after.chart.linkGeneration = before.chart.linkGeneration
  feature : (after.feature? id).map Feature.unmarked = (before.feature? id).map Feature.unmarked
  portrayal : after.portrayals.find? id = before.portrayals.find? id

variable {display after : Display α} {id : Nat}

theorem leaves_insert (identified : display.chart.Identified) (present : (display.feature? id).isSome = true)
    (feature : Feature α) : (display.insert feature).Leaves display id := by
  have apart : id ≠ display.chart.nextId := by
    rintro rfl
    rw [feature?, Chart.find?_nextId identified] at present
    cases present
  refine ⟨rfl, rfl, rfl, ?_, ?_⟩
  · rw [feature?, insert, Chart.find?_insert, if_neg apart, feature?]
  · simp only [insert, SortedMap.find?_insert, SortKey.order_eq_iff, apart, ↓reduceIte]

theorem leaves_highlight (display : Display α) (id other : Nat) (on : Bool) :
    (display.highlight other on).1.Leaves display id := by
  unfold highlight
  cases display.feature? other with
  | none => exact ⟨rfl, rfl, rfl, rfl, rfl⟩
  | some feature =>
    refine ⟨rfl, rfl, rfl, ?_, rfl⟩
    simp only [feature?, Chart.find?_adjust]
    split
    · rw [Option.map_map]
      rfl
    · rfl

variable [Quantity α] {variant : Variant} {slot : Slot α}

theorem leaves_writeStore {write : StoreWrite α} (ignored : write.IsIgnored display.store) :
    ({ display with store := write.apply display.store } : Display α).Leaves display id :=
  ⟨rfl, SettingsStore.symbologyGeneration_apply ignored, rfl, rfl, rfl⟩

/-- An edit reaches the feature that is edited and those that are linked to it. -/
theorem leaves_setAttribute (identified : display.chart.Identified) {other : Nat} {name : String}
    (apart : id ≠ other) (idle : name ∉ linkAttributes)
    (unlinked : ∀ feature, display.feature? id = some feature → ∀ role, feature.link? role ≠ some other)
    (value : String) : (display.setAttribute other name value).1.Leaves display id := by
  unfold setAttribute
  cases display.feature? other with
  | none => exact ⟨rfl, rfl, rfl, rfl, rfl⟩
  | some _ =>
    have undecided : linkAttributes.contains name = false := by simpa using idle
    simp only [undecided, Bool.false_eq_true, ↓reduceIte]
    have stands : (display.chart.adjust other (fun feature => feature.setAttribute name value)).find? id =
        display.chart.find? id := by
      rw [Chart.find?_adjust, if_neg apart]
    have still : (display.chart.adjust other
        (fun feature => feature.setAttribute name value)).Identified :=
      identified.keeps (display.chart.keeps_adjust other (fun _ => ⟨rfl, rfl⟩))
    refine ⟨rfl, rfl, rfl, congrArg (Option.map Feature.unmarked) stands, ?_⟩
    generalize display.chart.adjust other (fun feature => feature.setAttribute name value) = edited
      at stands still
    have independent : id ∉ edited.dependents other := by
      rw [still.mem_dependents, stands]
      rintro ⟨feature, found, role, linked⟩
      exact unlinked feature found role linked
    have unlisted : (edited.dependents other ++ [other]).contains id = false := by
      simpa [apart] using independent
    simp only [invalidate, SortedMap.find?_mapValues, unlisted, Bool.false_eq_true, ↓reduceIte,
      Option.map_id']

/-- The slot of a feature is current, and is the given one but for its labels. -/
def Holds (display : Display α) (id : Nat) (variant : Variant) (slot : Slot α) : Prop :=
  ∃ feature portrayal, display.feature? id = some feature ∧ display.portrayals.find? id = some portrayal ∧
    portrayal.IsCurrent display.scene variant feature ∧
    (portrayal.slot variant).unlabelled = slot.unlabelled

namespace Holds

theorem leaves (holds : display.Holds id variant slot) (leaves : after.Leaves display id) :
    after.Holds id variant slot := by
  obtain ⟨feature, portrayal, found, stored, current, same⟩ := holds
  have unmarked := leaves.feature
  rw [found, Option.map_some, Option.map_eq_some_iff] at unmarked
  obtain ⟨later, present, alike⟩ := unmarked
  refine ⟨later, portrayal, present, leaves.portrayal.trans stored, ?_, same⟩
  have stamp : after.scene.stamp later variant = display.scene.stamp feature variant :=
    Scene.stamp_congr leaves.library leaves.symbology leaves.links alike variant
  rw [Portrayal.IsCurrent, stamp]
  exact current

/-- What is asked of a portrayal shows in no other one, and in a slot that is current not either. -/
theorem request {β : Type} (aligned : display.Aligned) (holds : display.Holds id variant slot)
    (other : Nat) {ask : Portrayal α → Portrayal α × Except PortrayalError β}
    (kept : ∀ portrayal feature, display.scene.chart.find? portrayal.id = some feature →
      portrayal.IsCurrent display.scene variant feature →
        ((ask portrayal).1.slot variant).unlabelled = (portrayal.slot variant).unlabelled) :
    (display.request other ask).1.Holds id variant slot := by
  unfold Display.request
  by_cases own : other = id
  · obtain ⟨feature, portrayal, found, stored, current, same⟩ := holds
    subst own
    have there : display.scene.chart.find? portrayal.id = some feature := by
      rw [(aligned.dated _ _ stored).own]
      exact found
    have unlabelled := kept portrayal feature there current
    have stamp := congrArg Slot.stamp unlabelled
    simp only [stored]
    refine ⟨feature, (ask portrayal).1, found, ?_, stamp.trans current, unlabelled.trans same⟩
    simp only [SortedMap.find?_insert, SortKey.order_self, ↓reduceIte]
  · cases display.portrayals.find? other with
    | none => exact holds
    | some asked =>
      refine holds.leaves ⟨rfl, rfl, rfl, rfl, ?_⟩
      simp only [SortedMap.find?_insert, SortKey.order_eq_iff, Ne.symm own, ↓reduceIte]

theorem keptByAsking : KeptByAsking (fun display : Display α =>
    display.Aligned ∧ display.Holds id variant slot) where
  commands display other asked both :=
    ⟨Aligned.keptByAsking.commands display other asked both.1, both.2.request both.1 other
      (fun _ _ found current => Portrayal.unlabelled_readSlot found current asked Slot.commands)⟩
  priority display other asked both :=
    ⟨Aligned.keptByAsking.priority display other asked both.1, both.2.request both.1 other
      (fun _ _ found current => Portrayal.unlabelled_readSlot found current asked Slot.priority)⟩
  labels display other asked both :=
    ⟨Aligned.keptByAsking.labels display other asked both.1, both.2.request both.1 other
      (fun _ _ found current => Portrayal.unlabelled_labels found current asked)⟩

end Holds

/-- Requests that give a feature no reason to be portrayed anew: questions, highlights, insertions, writes that
symbology takes no notice of, and edits of other features that it is not linked to, where they decide no
links. -/
def Spares (display : Display α) (id : Nat) : Request α → Prop
  | .insert _ => True
  | .setAttribute other name _ => id ≠ other ∧ name ∉ linkAttributes ∧
      ∀ feature, display.feature? id = some feature → ∀ role, feature.link? role ≠ some other
  | .setParameter parameter value => display.store.Ignores parameter value
  | .writeStore write => write.IsIgnored display.store
  | .highlight .. => True
  | .commands .. => True
  | .priority .. => True
  | .labels .. => True
  | .describe .. => True
  | .isSuppressed _ => True
  | .finalizeAll => True
  | .loadCell .. => False
  | .erase _ => False
  | .eraseCell _ => False
  | .resolveLinks => False
  | .setLibrary _ => False

/-- Each request of a run spares a feature on the display that it meets. -/
def SparesAlong (display : Display α) (id : Nat) : List (Request α) → Prop
  | [] => True
  | request :: rest => display.Spares id request ∧ (display.perform request).SparesAlong id rest

namespace Holds

theorem perform (aligned : display.Aligned) (holds : display.Holds id variant slot) {request : Request α}
    (spares : display.Spares id request) : (display.perform request).Holds id variant slot := by
  have both : display.Aligned ∧ display.Holds id variant slot := ⟨aligned, holds⟩
  cases request with
  | insert feature =>
    have ⟨stood, _, found, _⟩ := holds
    exact holds.leaves (leaves_insert aligned.identified (by rw [found]; rfl) feature)
  | setAttribute other name value =>
    obtain ⟨apart, idle, unlinked⟩ := spares
    exact holds.leaves (leaves_setAttribute aligned.identified apart idle unlinked value)
  | setParameter parameter value =>
    have ignored : (StoreWrite.set parameter value).IsIgnored display.store := spares
    exact holds.leaves (leaves_writeStore ignored)
  | writeStore write => exact holds.leaves (leaves_writeStore spares)
  | highlight other on => exact holds.leaves (leaves_highlight display id other on)
  | commands other asked => exact (keptByAsking.commands display other asked both).2
  | priority other asked => exact (keptByAsking.priority display other asked both).2
  | labels other asked => exact (keptByAsking.labels display other asked both).2
  | describe other asked => exact (keptByAsking.describe both other asked).2
  | isSuppressed other => exact (keptByAsking.isSuppressed both other).2
  | finalizeAll => exact (keptByAsking.finalizeAll both).2
  | loadCell => exact spares.elim
  | erase => exact spares.elim
  | eraseCell => exact spares.elim
  | resolveLinks => exact spares.elim
  | setLibrary => exact spares.elim

theorem run (aligned : display.Aligned) (holds : display.Holds id variant slot)
    {requests : List (Request α)} (spares : display.SparesAlong id requests) :
    (display.run requests).Holds id variant slot := by
  induction requests generalizing display with
  | nil => exact holds
  | cons request rest ih =>
    exact ih (aligned.perform request) (holds.perform aligned spares.1) spares.2

end Holds

/-- After any run from a new display, a slot that is current stays so, with its stamp, commands, priority and
binding, through every run of requests that spare its feature. -/
theorem run_sparing_current (library : Library α) (store : SettingsStore α) (eagerFinalize : Bool)
    (requests : List (Request α)) {id : Nat} {variant : Variant} {slot : Slot α}
    (current : ((start library store eagerFinalize).run requests).Holds id variant slot)
    {further : List (Request α)}
    (spares : ((start library store eagerFinalize).run requests).SparesAlong id further) :
    (((start library store eagerFinalize).run requests).run further).Holds id variant slot :=
  current.run ((Aligned.start library store eagerFinalize).run requests) spares

/-- The slot of a topmark on a buoy stays current through settings for texts and settings that are what they
were, filters, a highlight, a new light and an edit of an area that it has nothing to do with. -/
theorem run_sparing_current_topmark :
    let library : Library Rat :=
      (Library.standard.addDefinition (.blank .symbol "TOPMAR02")).addRule
        (.plain "TOPMAR" .simplifiedPoints "CS(TOPMAR01)" .standard)
    let topmark : Feature Rat := (Feature.plain "TOPMAR" .point).setAttribute "TOPSHP" "1"
    let requests : List (Request Rat) :=
      [.loadCell 3 [.plain "BOYLAT" .point, topmark], .insert (.plain "RESARE" .area),
       .commands 2 .primary]
    let further : List (Request Rat) :=
      [.writeStore (.setFlag .showText false), .setParameter .nationalNames 1,
       .writeStore (.setFlag .twoShades false), .writeStore (.replace .standard), .highlight 2 true,
       .writeStore (.showCategory .other), .writeStore (.suppress "TOPMAR"),
       .insert (.plain "LIGHTS" .point), .setAttribute 3 "OBJNAM" "Sund", .labels 2 .primary, .finalizeAll]
    let display := (start library .standard false).run requests
    ∃ slot, slot.commands.map Command.text = ["SY(TOPMAR02)"] ∧ display.Holds 2 .primary slot ∧
      display.SparesAlong 2 further ∧ (display.run further).Holds 2 .primary slot := by
  intro library topmark requests further display
  have built : ((display.feature? 2).bind (fun feature => (display.portrayals.find? 2).map (fun portrayal =>
      ((portrayal.slot .primary).stamp = some (display.scene.stamp feature .primary) : Bool)))) =
        some true := by decide +kernel
  have drawn : (display.portrayals.find? 2).map (fun portrayal =>
      (portrayal.slot .primary).commands.map Command.text) = some ["SY(TOPMAR02)"] := by decide +kernel
  obtain ⟨feature, found, held⟩ := Option.bind_eq_some_iff.mp built
  obtain ⟨portrayal, stored, stamped⟩ := Option.map_eq_some_iff.mp held
  have stamp : (portrayal.slot .primary).stamp = some (display.scene.stamp feature .primary) :=
    of_decide_eq_true stamped
  have current : display.Holds 2 .primary (portrayal.slot .primary) :=
    ⟨feature, portrayal, found, stored, stamp, rfl⟩
  have spares : display.SparesAlong 2 further := by
    refine ⟨.inl rfl, .inl rfl, .inr (by decide +kernel), fun parameter => ?_, trivial, trivial, trivial,
      trivial, ⟨by decide, by decide, fun other present role => ?_⟩, trivial, trivial, trivial⟩
    · cases parameter <;> first | exact .inl rfl | exact .inr (by decide +kernel)
    · -- the one link of the topmark leads to the buoy
      have read : (some other).map (fun feature => feature.links.values) = some [1] := by
        rw [← present]
        decide +kernel
      have links : other.links.values = [1] := Option.some.inj read
      intro linked
      have member := (other.links.mem_values_iff 3).mpr ⟨role, linked⟩
      rw [links, List.mem_singleton] at member
      cases member
  rw [stored] at drawn
  exact ⟨_, Option.some.inj drawn, current, spares,
    run_sparing_current library .standard false requests current spares⟩

end Display

end ChartPortrayal
