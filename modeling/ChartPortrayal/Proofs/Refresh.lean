import ChartPortrayal.Portrayal.Basic

namespace ChartPortrayal.Portrayal

variable {α : Type}

@[simp] theorem slot_fresh (id : Nat) (variant : Variant) :
    (fresh id : Portrayal α).slot variant = .fresh := by
  cases variant <;> rfl

@[simp] theorem slot_setSlot (portrayal : Portrayal α) (variant : Variant) (slot : Slot α) :
    (portrayal.setSlot variant slot).slot variant = slot := by
  cases variant <;> rfl

theorem slot_setSlot_of_ne (portrayal : Portrayal α) {variant other : Variant} (apart : other ≠ variant)
    (slot : Slot α) : (portrayal.setSlot variant slot).slot other = portrayal.slot other := by
  cases variant <;> cases other <;> first | rfl | exact absurd rfl apart

@[simp] theorem id_setSlot (portrayal : Portrayal α) (variant : Variant) (slot : Slot α) :
    (portrayal.setSlot variant slot).id = portrayal.id := by
  cases variant <;> rfl

@[simp] theorem id_invalidate (portrayal : Portrayal α) : portrayal.invalidate.id = portrayal.id := rfl

@[simp] theorem slot_invalidate (portrayal : Portrayal α) (variant : Variant) :
    portrayal.invalidate.slot variant = staleSlot (portrayal.slot variant) := by
  cases variant <;> rfl

variable [Quantity α]

/-- A slot is current when its stamp is the one that it would be given now. -/
def IsCurrent (portrayal : Portrayal α) (scene : Scene α) (variant : Variant)
    (feature : Feature α) : Prop :=
  (portrayal.slot variant).stamp = some (scene.stamp feature variant)

/-- The four ways in which bringing a slot up to date ends. -/
inductive Refreshed (portrayal : Portrayal α) (scene : Scene α) (variant : Variant) :
    Portrayal α × Except PortrayalError Unit → Prop where
  | unknown (absent : scene.chart.find? portrayal.id = none) :
      Refreshed portrayal scene variant (portrayal, .error (.unknownFeature portrayal.id))
  | current {feature : Feature α} (found : scene.chart.find? portrayal.id = some feature)
      (current : portrayal.IsCurrent scene variant feature) :
      Refreshed portrayal scene variant (portrayal, .ok ())
  | failed {feature : Feature α} {error : PortrayalError}
      (found : scene.chart.find? portrayal.id = some feature)
      (stale : ¬ portrayal.IsCurrent scene variant feature)
      (failed : scene.build feature variant = .error error) :
      Refreshed portrayal scene variant (portrayal, .error error)
  | built {feature : Feature α} {slot : Slot α}
      (found : scene.chart.find? portrayal.id = some feature)
      (stale : ¬ portrayal.IsCurrent scene variant feature)
      (built : scene.build feature variant = .ok slot) :
      Refreshed portrayal scene variant (portrayal.setSlot variant slot, .ok ())

theorem refreshed (portrayal : Portrayal α) (scene : Scene α) (variant : Variant) :
    Refreshed portrayal scene variant (portrayal.refresh scene variant) := by
  rw [refresh, Chart.require]
  cases found : scene.chart.find? portrayal.id with
  | none => exact .unknown found
  | some feature =>
    by_cases current : (portrayal.slot variant).stamp = some (scene.stamp feature variant)
    · simp only [current, ↓reduceIte]
      exact .current found current
    · simp only [current, ↓reduceIte]
      cases built : scene.build feature variant with
      | error error => exact .failed found current built
      | ok slot => exact .built found current built

/-- Brings a slot up to date and reads something off it; commands and priority are asked for like this. -/
def readSlot {β : Type} (portrayal : Portrayal α) (scene : Scene α) (variant : Variant)
    (read : Slot α → β) : Portrayal α × Except PortrayalError β :=
  match portrayal.refresh scene variant with
  | (current, .error error) => (current, .error error)
  | (current, .ok ()) => (current, .ok (read (current.slot variant)))

section ReadSlot

variable {β : Type} {portrayal : Portrayal α} {scene : Scene α} {variant : Variant}

theorem readSlot_fst (read : Slot α → β) :
    (portrayal.readSlot scene variant read).1 = (portrayal.refresh scene variant).1 := by
  unfold readSlot
  generalize portrayal.refresh scene variant = outcome
  obtain ⟨current, error | ⟨⟩⟩ := outcome <;> rfl

theorem readSlot_ok {read : Slot α → β} {value : β} :
    (portrayal.readSlot scene variant read).2 = .ok value ↔
      (portrayal.refresh scene variant).2 = .ok () ∧
        read ((portrayal.refresh scene variant).1.slot variant) = value := by
  unfold readSlot
  generalize portrayal.refresh scene variant = outcome
  obtain ⟨current, error | ⟨⟩⟩ := outcome <;> simp

end ReadSlot

/-- The three ways in which asking a current slot for labels ends. -/
inductive Labelled (portrayal : Portrayal α) (scene : Scene α) (variant : Variant) (feature : Feature α) :
    Portrayal α × Except PortrayalError (List String) → Prop where
  | kept {cache : LabelCache} (held : (portrayal.slot variant).labels = some cache)
      (dated : cache.generation = scene.store.textGeneration) :
      Labelled portrayal scene variant feature (portrayal, .ok cache.texts)
  | resolved {texts : List String}
      (old : ∀ cache, (portrayal.slot variant).labels = some cache →
        cache.generation ≠ scene.store.textGeneration)
      (resolved : Label.ofCommands scene.store.settings feature (portrayal.slot variant).commands = .ok texts) :
      Labelled portrayal scene variant feature
        (portrayal.setSlot variant
          { portrayal.slot variant with labels := some ⟨scene.store.textGeneration, texts⟩ }, .ok texts)
  | stopped {error : PortrayalError}
      (old : ∀ cache, (portrayal.slot variant).labels = some cache →
        cache.generation ≠ scene.store.textGeneration)
      (stopped : Label.ofCommands scene.store.settings feature (portrayal.slot variant).commands =
        .error error) :
      Labelled portrayal scene variant feature (portrayal, .error error)

theorem labelled (portrayal : Portrayal α) (scene : Scene α) (variant : Variant) (feature : Feature α) :
    Labelled portrayal scene variant feature (portrayal.slotLabels scene variant feature) := by
  unfold slotLabels
  dsimp only
  split
  · next cache kept =>
    obtain ⟨held, dated⟩ := Option.filter_eq_some_iff.mp kept
    exact .kept held (of_decide_eq_true dated)
  · next old =>
    have old : ∀ cache, (portrayal.slot variant).labels = some cache →
        cache.generation ≠ scene.store.textGeneration := by
      intro cache held dated
      exact Option.filter_eq_none_iff.mp old cache held (decide_eq_true dated)
    split
    · next error stopped => exact .stopped old stopped
    · next texts resolved => exact .resolved old resolved

end ChartPortrayal.Portrayal
