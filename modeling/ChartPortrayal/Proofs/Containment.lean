import ChartPortrayal.Proofs.Label.Layout
import ChartPortrayal.Proofs.Splicing

/-! What comes of asking a portrayal. It answers when its feature is there and a slot is current or can be
built, and the slot of the variant is current then; a request that fails changes nothing, and none changes the
other variant. -/

namespace ChartPortrayal

variable {α : Type}

namespace Portrayal

theorem setSlot_self (portrayal : Portrayal α) (variant : Variant) :
    portrayal.setSlot variant (portrayal.slot variant) = portrayal := by
  cases variant <;> rfl

variable [Quantity α] {β : Type} {portrayal : Portrayal α} {scene : Scene α} {variant : Variant}
  {feature : Feature α}

/-- The feature of a portrayal is there, and the slot of a variant is current or can be built. -/
def Answers (portrayal : Portrayal α) (scene : Scene α) (variant : Variant) : Prop :=
  ∃ feature, scene.chart.find? portrayal.id = some feature ∧
    (portrayal.IsCurrent scene variant feature ∨ ∃ slot, scene.build feature variant = .ok slot)

theorem answers_iff (found : scene.chart.find? portrayal.id = some feature) :
    portrayal.Answers scene variant ↔
      portrayal.IsCurrent scene variant feature ∨ ∃ slot, scene.build feature variant = .ok slot := by
  simp only [Answers, found, Option.some.injEq, exists_eq_left']

/-- What comes of asking a portrayal about one variant. If it can answer it does, and the slot is current then.
The other slot is as it was, and after a failure both are. -/
structure Contained (portrayal : Portrayal α) (scene : Scene α) (variant : Variant)
    (outcome : Portrayal α × Except PortrayalError β) : Prop where
  id : outcome.1.id = portrayal.id
  other : ∀ other, other ≠ variant → outcome.1.slot other = portrayal.slot other
  answers : outcome.2.isOk = true ↔ portrayal.Answers scene variant
  current : outcome.2.isOk = true → ∀ feature, scene.chart.find? portrayal.id = some feature →
    outcome.1.IsCurrent scene variant feature
  failed : ∀ error, outcome.2 = .error error → outcome.1 = portrayal
  unknown : ∀ other, outcome.2 = .error (.unknownFeature other) ↔
    other = portrayal.id ∧ scene.chart.find? portrayal.id = none

theorem contained_unknown (absent : scene.chart.find? portrayal.id = none) :
    portrayal.Contained scene variant
      ((portrayal, .error (.unknownFeature portrayal.id)) : Portrayal α × Except PortrayalError β) where
  id := rfl
  other _ _ := rfl
  answers := iff_of_false (by simp [Except.isOk, Except.toBool]) (by simp [Answers, absent])
  current answered := by cases answered
  failed _ _ := rfl
  unknown other := by simp [absent, eq_comm]

theorem contained_failed {error : PortrayalError} (found : scene.chart.find? portrayal.id = some feature)
    (stale : ¬ portrayal.IsCurrent scene variant feature)
    (failed : scene.build feature variant = .error error) :
    portrayal.Contained scene variant
      ((portrayal, .error error) : Portrayal α × Except PortrayalError β) where
  id := rfl
  other _ _ := rfl
  answers := iff_of_false (by simp [Except.isOk, Except.toBool]) (by simp [Answers, found, stale, failed])
  current answered := by cases answered
  failed _ _ := rfl
  unknown other := by
    refine iff_of_false (fun refused => ?_) (by simp [found])
    -- building fails for other reasons
    cases refused
    obtain spoiled | beyond := Scene.isFatal_of_build failed
    · cases spoiled
    · cases beyond

theorem contained_setSlot {slot : Slot α} (found : scene.chart.find? portrayal.id = some feature)
    (answers : portrayal.Answers scene variant) (stamped : slot.stamp = some (scene.stamp feature variant))
    (value : β) : portrayal.Contained scene variant (portrayal.setSlot variant slot, .ok value) where
  id := id_setSlot ..
  other _ apart := slot_setSlot_of_ne portrayal apart slot
  answers := iff_of_true rfl answers
  current _ stored present := by
    cases found.symm.trans present
    rw [IsCurrent, slot_setSlot, stamped]
  failed _ refused := by cases refused
  unknown other := by simp [found]

theorem contained_current (found : scene.chart.find? portrayal.id = some feature)
    (current : portrayal.IsCurrent scene variant feature) (value : β) :
    portrayal.Contained scene variant (portrayal, .ok value) := by
  have answers : portrayal.Answers scene variant := ⟨feature, found, .inl current⟩
  have kept := contained_setSlot found answers current value
  rwa [setSlot_self] at kept

theorem contained_readSlot (portrayal : Portrayal α) (scene : Scene α) (variant : Variant)
    (read : Slot α → β) : portrayal.Contained scene variant (portrayal.readSlot scene variant read) := by
  have ended := portrayal.refreshed scene variant
  unfold readSlot
  generalize portrayal.refresh scene variant = outcome at ended
  cases ended with
  | unknown absent => exact contained_unknown absent
  | current found current => exact contained_current found current _
  | failed found stale failed => exact contained_failed found stale failed
  | built found _ built =>
    exact contained_setSlot found ⟨_, found, .inr ⟨_, built⟩⟩ (Scene.stamp_of_build built) _

/-- The labels of a slot may be put beside its stamp. -/
theorem Contained.relabel {current : Portrayal α} {value : β} (labels : Option LabelCache)
    (contained : portrayal.Contained scene variant (current, .ok value)) :
    portrayal.Contained scene variant
      (current.setSlot variant { current.slot variant with labels := labels }, .ok value) where
  id := (id_setSlot ..).trans contained.id
  other other apart := (slot_setSlot_of_ne current apart _).trans (contained.other other apart)
  answers := contained.answers
  current _ stored present := by
    rw [IsCurrent, slot_setSlot]
    exact contained.current rfl stored present
  failed _ refused := by cases refused
  unknown := contained.unknown

/-- The slot of a variant comes up to date, but its labels, which have to be resolved, cannot be laid out. -/
def LabelsStop (portrayal : Portrayal α) (scene : Scene α) (variant : Variant) : Prop :=
  ∃ feature current, scene.chart.find? portrayal.id = some feature ∧
    portrayal.refresh scene variant = (current, .ok ()) ∧
    (∀ cache, (current.slot variant).labels = some cache → cache.generation ≠ scene.store.textGeneration) ∧
    Label.ofCommands scene.store.settings feature (current.slot variant).commands = .error .overflow

theorem contained_of_refresh {current : Portrayal α}
    (refreshed : portrayal.refresh scene variant = (current, .ok ())) (value : β) :
    portrayal.Contained scene variant (current, .ok value) := by
  have kept := portrayal.contained_readSlot scene variant (fun _ => value)
  rwa [readSlot, refreshed] at kept

theorem labels_of_refresh {current : Portrayal α} (found : scene.chart.find? portrayal.id = some feature)
    (refreshed : portrayal.refresh scene variant = (current, .ok ())) :
    portrayal.labels scene variant = current.slotLabels scene variant feature := by
  have own : current.id = portrayal.id := (contained_of_refresh refreshed ()).id
  simp only [labels, refreshed, Chart.require, own, found]

/-- Where labels can be laid out, asking for them is like asking for commands. -/
theorem contained_labels (laid : ¬ portrayal.LabelsStop scene variant) :
    portrayal.Contained scene variant (portrayal.labels scene variant) := by
  cases refreshed : portrayal.refresh scene variant with
  | mk current outcome =>
    cases outcome with
    | error error =>
      have kept := portrayal.contained_readSlot scene variant (fun _ => ([] : List String))
      rw [readSlot, refreshed] at kept
      rwa [labels, refreshed]
    | ok done =>
      have kept (texts : List String) : portrayal.Contained scene variant (current, .ok texts) :=
        contained_of_refresh refreshed texts
      obtain ⟨feature, found, -⟩ := (kept []).answers.mp rfl
      rw [labels_of_refresh found refreshed]
      have ended := current.labelled scene variant feature
      generalize current.slotLabels scene variant feature = outcome at ended ⊢
      cases ended with
      | kept held dated => exact kept _
      | resolved old resolved => exact (kept _).relabel _
      | stopped old stopped =>
        obtain ⟨rfl, -⟩ := Label.ofCommands_eq_error stopped
        exact absurd ⟨feature, current, found, refreshed, old, stopped⟩ laid

/-- Labels that cannot be laid out leave what was brought up to date for them. -/
theorem labels_of_stop (stops : portrayal.LabelsStop scene variant) :
    portrayal.labels scene variant = ((portrayal.refresh scene variant).1, .error .overflow) := by
  obtain ⟨feature, current, found, refreshed, old, stopped⟩ := stops
  rw [labels_of_refresh found refreshed, refreshed]
  have ended := current.labelled scene variant feature
  generalize current.slotLabels scene variant feature = outcome at ended ⊢
  cases ended with
  | kept held dated => exact absurd dated (old _ held)
  | resolved _ resolved => cases stopped.symm.trans resolved
  | stopped _ again =>
    cases stopped.symm.trans again
    rfl

theorem slot_labels_of_ne {other : Variant} (apart : other ≠ variant) :
    (portrayal.labels scene variant).1.slot other = portrayal.slot other := by
  by_cases stops : portrayal.LabelsStop scene variant
  · rw [labels_of_stop stops, ← readSlot_fst Slot.commands]
    exact (portrayal.contained_readSlot scene variant Slot.commands).other other apart
  · exact (contained_labels stops).other other apart

end Portrayal

end ChartPortrayal
