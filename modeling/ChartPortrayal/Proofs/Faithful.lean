import ChartPortrayal.Portrayal.Report
import ChartPortrayal.Proofs.Agreement
import ChartPortrayal.Proofs.Refresh
import ChartPortrayal.Proofs.Splicing

/-! Portrayals that can be relied on. As long as the generations in the stamp of a slot are in force, the slot
is the one that would be built now; so a faithful portrayal answers like one in which nothing was built. -/

namespace ChartPortrayal

variable {α : Type}

/-- The generations in a stamp are the present ones. -/
structure Stamp.InForce (stamp : Stamp) (scene : Scene α) : Prop where
  symbology : stamp.symbology = scene.store.symbologyGeneration
  links : stamp.links = scene.chart.linkGeneration

/-- A slot without its labels. -/
def Slot.unlabelled (slot : Slot α) : Slot α := { slot with labels := none }

variable [Quantity α]

/-- No generation in the slot is yet to come, and those in force vouch for what is kept under them. -/
structure Slot.Faithful (slot : Slot α) (scene : Scene α) (feature : Feature α)
    (variant : Variant) : Prop where
  bounded : ∀ stamp, slot.stamp = some stamp →
    stamp.symbology ≤ scene.store.symbologyGeneration ∧ stamp.links ≤ scene.chart.linkGeneration
  dated : ∀ cache, slot.labels = some cache → cache.generation ≤ scene.store.textGeneration
  built : ∀ stamp, slot.stamp = some stamp → stamp.InForce scene →
    scene.build feature variant = .ok slot.unlabelled
  labelled : ∀ stamp cache, slot.stamp = some stamp → stamp.InForce scene →
    slot.labels = some cache → cache.generation = scene.store.textGeneration →
      Label.ofCommands scene.store.settings feature slot.commands = .ok cache.texts

/-- One scene comes after another, in the view of a feature: no generation falls, and what depends on a
generation stays as long as the generation does. -/
structure Scene.Follows (after before : Scene α) (later feature : Feature α) : Prop where
  symbology : before.store.symbologyGeneration ≤ after.store.symbologyGeneration
  links : before.chart.linkGeneration ≤ after.chart.linkGeneration
  texts : before.store.textGeneration ≤ after.store.textGeneration
  agrees : before.store.symbologyGeneration = after.store.symbologyGeneration →
    before.chart.linkGeneration = after.chart.linkGeneration → after.Agrees before later feature
  settings : before.store.symbologyGeneration = after.store.symbologyGeneration →
    before.store.textGeneration = after.store.textGeneration →
      before.store.settings = after.store.settings

namespace Slot

variable {slot : Slot α} {scene after before : Scene α} {feature later : Feature α} {variant : Variant}

/-- A slot stays faithful in every scene that follows. -/
theorem Faithful.follow (faithful : slot.Faithful before feature variant)
    (follows : after.Follows before later feature) (plain : before.library.IsPlain) :
    slot.Faithful after later variant := by
  -- generations that are in force now were in force before, for none has fallen since
  have earlier : ∀ stamp, slot.stamp = some stamp → stamp.InForce after →
      stamp.InForce before ∧ before.store.symbologyGeneration = after.store.symbologyGeneration ∧
        before.chart.linkGeneration = after.chart.linkGeneration := by
    intro stamp stamped force
    obtain ⟨symbology, links⟩ := faithful.bounded stamp stamped
    have sameSymbology := Nat.le_antisymm follows.symbology (force.symbology ▸ symbology)
    have sameLinks := Nat.le_antisymm follows.links (force.links ▸ links)
    exact ⟨⟨force.symbology.trans sameSymbology.symm, force.links.trans sameLinks.symm⟩,
      sameSymbology, sameLinks⟩
  constructor
  · intro stamp stamped
    obtain ⟨symbology, links⟩ := faithful.bounded stamp stamped
    exact ⟨Nat.le_trans symbology follows.symbology, Nat.le_trans links follows.links⟩
  · intro cache kept
    exact Nat.le_trans (faithful.dated cache kept) follows.texts
  · intro stamp stamped force
    obtain ⟨past, symbology, links⟩ := earlier stamp stamped force
    rw [(follows.agrees symbology links).build plain]
    exact faithful.built stamp stamped past
  · intro stamp cache stamped force kept current
    obtain ⟨past, symbology, links⟩ := earlier stamp stamped force
    have texts := Nat.le_antisymm follows.texts (current ▸ faithful.dated cache kept)
    rw [← faithful.labelled stamp cache stamped past kept (current.trans texts.symm),
      follows.settings symbology texts, ← Label.ofCommands_unmarked _ later,
      (follows.agrees symbology links).unmarked, Label.ofCommands_unmarked]

/-- A slot without stamp and labels promises nothing. -/
theorem faithful_of_stale (stamp : slot.stamp = none) (labels : slot.labels = none) :
    slot.Faithful scene feature variant := by
  constructor <;> simp [stamp, labels]

theorem inForce_of_build (built : scene.build feature variant = .ok slot) :
    ∃ stamp, slot.stamp = some stamp ∧ stamp.InForce scene := by
  exact ⟨_, Scene.stamp_of_build built, rfl, rfl⟩

/-- Labels that are resolved now may be kept. -/
theorem Faithful.relabel (faithful : slot.Faithful scene feature variant) {texts : List String}
    (resolved : Label.ofCommands scene.store.settings feature slot.commands = .ok texts) :
    { slot with labels := some ⟨scene.store.textGeneration, texts⟩ }.Faithful scene feature variant := by
  refine ⟨faithful.bounded, ?_, faithful.built, ?_⟩
  · intro cache kept
    cases kept
    exact Nat.le_refl _
  · intro stamp cache stamped force kept current
    cases kept
    exact resolved

theorem faithful_of_build (built : scene.build feature variant = .ok slot) :
    slot.Faithful scene feature variant ∧ slot.unlabelled = slot := by
  obtain ⟨commands, expansion, -, -, rfl⟩ := Scene.build_ok built
  refine ⟨⟨?_, by simp, ?_, by simp⟩, rfl⟩
  · intro stamp stamped
    cases stamped
    exact ⟨Nat.le_refl _, Nat.le_refl _⟩
  · intro stamp stamped _
    exact built

end Slot

namespace Portrayal

/-- Both slots of a portrayal are faithful to its feature, if the chart has the feature. -/
def Faithful (portrayal : Portrayal α) (scene : Scene α) : Prop :=
  ∀ feature, scene.chart.find? portrayal.id = some feature → ∀ variant,
    (portrayal.slot variant).Faithful scene feature variant

theorem faithful_fresh (id : Nat) (scene : Scene α) : (fresh id : Portrayal α).Faithful scene := by
  intro feature _ variant
  rw [slot_fresh]
  exact Slot.faithful_of_stale rfl rfl

theorem faithful_invalidate (portrayal : Portrayal α) (scene : Scene α) :
    portrayal.invalidate.Faithful scene := by
  intro feature _ variant
  rw [slot_invalidate]
  exact Slot.faithful_of_stale rfl rfl

namespace Faithful

variable {portrayal : Portrayal α} {scene : Scene α} {feature : Feature α}

theorem setSlot (faithful : portrayal.Faithful scene)
    (found : scene.chart.find? portrayal.id = some feature) {variant : Variant} {slot : Slot α}
    (kept : slot.Faithful scene feature variant) : (portrayal.setSlot variant slot).Faithful scene := by
  intro stored present other
  rw [id_setSlot, found] at present
  cases present
  by_cases same : other = variant
  · subst same
    rwa [slot_setSlot]
  · rw [slot_setSlot_of_ne portrayal same]
    exact faithful feature found other

theorem genuine (faithful : portrayal.Faithful scene) (variant : Variant) :
    portrayal.Genuine scene variant := by
  intro feature found current
  exact (faithful feature found variant).built _ current ⟨rfl, rfl⟩

/-- Whatever a portrayal is asked for, it stays faithful. -/
theorem refresh_kept (faithful : portrayal.Faithful scene) (variant : Variant) :
    (portrayal.refresh scene variant).1.Faithful scene ∧
      (portrayal.refresh scene variant).1.id = portrayal.id := by
  have ended := portrayal.refreshed scene variant
  generalize portrayal.refresh scene variant = outcome at ended
  cases ended with
  | unknown _ => exact ⟨faithful, rfl⟩
  | current _ _ => exact ⟨faithful, rfl⟩
  | failed _ _ _ => exact ⟨faithful, rfl⟩
  | built found _ built =>
    exact ⟨faithful.setSlot found (Slot.faithful_of_build built).1, id_setSlot ..⟩

theorem readSlot_kept {β : Type} (faithful : portrayal.Faithful scene) (variant : Variant)
    (read : Slot α → β) :
    (portrayal.readSlot scene variant read).1.Faithful scene ∧
      (portrayal.readSlot scene variant read).1.id = portrayal.id := by
  rw [readSlot_fst]
  exact faithful.refresh_kept variant

/-- Brought up to date, a faithful portrayal holds the slot that is built now. -/
theorem refresh_ok (faithful : portrayal.Faithful scene)
    (found : scene.chart.find? portrayal.id = some feature) {variant : Variant} {slot : Slot α}
    (built : scene.build feature variant = .ok slot) :
    ∃ current, portrayal.refresh scene variant = (current, .ok ()) ∧ current.Faithful scene ∧
      current.id = portrayal.id ∧ (current.slot variant).unlabelled = slot := by
  have ended := portrayal.refreshed scene variant
  generalize portrayal.refresh scene variant = outcome at ended
  cases ended with
  | unknown absent =>
    rw [found] at absent
    cases absent
  | current present current =>
    cases found.symm.trans present
    have same := faithful.genuine variant feature found current
    exact ⟨portrayal, rfl, faithful, rfl, Except.ok.inj (same.symm.trans built)⟩
  | failed present _ failed =>
    cases found.symm.trans present
    cases failed.symm.trans built
  | built present _ now =>
    cases found.symm.trans present
    cases built.symm.trans now
    obtain ⟨kept, bare⟩ := Slot.faithful_of_build built
    exact ⟨_, rfl, faithful.setSlot found kept, id_setSlot .., by rw [slot_setSlot, bare]⟩

/-- It fails like building does, and stays as it is. -/
theorem refresh_error (faithful : portrayal.Faithful scene)
    (found : scene.chart.find? portrayal.id = some feature) {variant : Variant}
    {error : PortrayalError} (failed : scene.build feature variant = .error error) :
    portrayal.refresh scene variant = (portrayal, .error error) := by
  have ended := portrayal.refreshed scene variant
  generalize portrayal.refresh scene variant = outcome at ended
  cases ended with
  | unknown absent =>
    rw [found] at absent
    cases absent
  | current present current =>
    cases found.symm.trans present
    have built := faithful.genuine variant feature found current
    cases failed.symm.trans built
  | failed present _ now =>
    cases found.symm.trans present
    cases failed.symm.trans now
    rfl
  | built present _ built =>
    cases found.symm.trans present
    cases failed.symm.trans built

/-- What is read off a faithful portrayal is read off the slot that is built now. -/
theorem readSlot {β : Type} (faithful : portrayal.Faithful scene)
    (found : scene.chart.find? portrayal.id = some feature) (variant : Variant) {read : Slot α → β}
    (blind : ∀ slot : Slot α, read slot.unlabelled = read slot) :
    (portrayal.readSlot scene variant read).2 = (scene.build feature variant).map read := by
  cases built : scene.build feature variant with
  | error error =>
    rw [Portrayal.readSlot, faithful.refresh_error found built]
    rfl
  | ok slot =>
    obtain ⟨current, refreshed, -, -, bare⟩ := faithful.refresh_ok found built
    rw [Portrayal.readSlot, refreshed, Except.map, ← bare, blind]

/-- Labels are those of the commands that are built now, under the settings of now. -/
theorem labels_ok (faithful : portrayal.Faithful scene)
    (found : scene.chart.find? portrayal.id = some feature) {variant : Variant} {slot : Slot α}
    (built : scene.build feature variant = .ok slot) :
    ∃ current, portrayal.labels scene variant =
        (current, Label.ofCommands scene.store.settings feature slot.commands) ∧
      current.Faithful scene ∧ current.id = portrayal.id ∧
      (current.slot variant).unlabelled = slot := by
  obtain ⟨current, refreshed, kept, own, bare⟩ := faithful.refresh_ok found built
  have here : scene.chart.find? current.id = some feature := by rw [own, found]
  have required : scene.chart.require current.id = .ok feature := by rw [Chart.require, here]
  have commands : slot.commands = (current.slot variant).commands := by rw [← bare]; rfl
  simp only [Portrayal.labels, refreshed, required, commands]
  have ended := current.labelled scene variant feature
  generalize current.slotLabels scene variant feature = outcome at ended
  cases ended with
  | kept held dated =>
    obtain ⟨stamp, stamped, force⟩ := Slot.inForce_of_build built
    have stamped : (current.slot variant).stamp = some stamp := by rw [← stamped, ← bare]; rfl
    have texts := (kept feature here variant).labelled stamp _ stamped force held dated
    exact ⟨current, by rw [texts], kept, own, bare⟩
  | resolved old resolved =>
    have relabelled := kept.setSlot here ((kept feature here variant).relabel resolved)
    exact ⟨_, by rw [resolved], relabelled, by rw [id_setSlot, own], by rw [slot_setSlot, ← bare]; rfl⟩
  | stopped old stopped => exact ⟨current, by rw [stopped], kept, own, bare⟩

theorem labels_error (faithful : portrayal.Faithful scene)
    (found : scene.chart.find? portrayal.id = some feature) {variant : Variant}
    {error : PortrayalError} (failed : scene.build feature variant = .error error) :
    portrayal.labels scene variant = (portrayal, .error error) := by
  rw [Portrayal.labels, faithful.refresh_error found failed]

theorem labels_kept (faithful : portrayal.Faithful scene) (variant : Variant) :
    (portrayal.labels scene variant).1.Faithful scene ∧
      (portrayal.labels scene variant).1.id = portrayal.id := by
  cases found : scene.chart.find? portrayal.id with
  | none =>
    have required : scene.chart.require portrayal.id = .error (.unknownFeature portrayal.id) := by
      rw [Chart.require, found]
    rw [Portrayal.labels, Portrayal.refresh, required]
    exact ⟨faithful, rfl⟩
  | some feature =>
    cases built : scene.build feature variant with
    | error error =>
      rw [faithful.labels_error found built]
      exact ⟨faithful, rfl⟩
    | ok slot =>
      obtain ⟨current, answered, kept, own, -⟩ := faithful.labels_ok found built
      rw [answered]
      exact ⟨kept, own⟩

/-- A portrayal stays faithful in a scene that follows for its feature. -/
theorem follow {after : Scene α} (faithful : portrayal.Faithful scene)
    (plain : scene.library.IsPlain)
    (follows : ∀ later, after.chart.find? portrayal.id = some later →
      ∃ feature, scene.chart.find? portrayal.id = some feature ∧ after.Follows scene later feature) :
    portrayal.Faithful after := by
  intro later found variant
  obtain ⟨feature, present, comes⟩ := follows later found
  exact (faithful feature present variant).follow comes plain

end Faithful

end Portrayal

end ChartPortrayal
