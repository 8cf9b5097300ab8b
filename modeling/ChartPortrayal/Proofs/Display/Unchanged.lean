import ChartPortrayal.Proofs.Containment
import ChartPortrayal.Proofs.Display.Alignment

/-! Requests that fail. They leave the display as it was, wherever the failure comes from, so that nothing half
built is taken for current later. Labels that cannot be laid out are no such failure: commands are built by then. -/

namespace ChartPortrayal

variable {α : Type}

namespace Display

/-- What comes of a request about one feature. It is refused as unknown exactly if the feature is, and after any
failure the display is as it was. -/
structure Guarded {β : Type} (display : Display α) (id : Nat)
    (outcome : Display α × Except PortrayalError β) : Prop where
  unknown : ∀ other, outcome.2 = .error (.unknownFeature other) ↔ other = id ∧ display.feature? id = none
  failed : ∀ error, outcome.2 = .error error → outcome.1 = display

section Guarded

variable {β : Type} {display : Display α} {id : Nat}

theorem guarded_unknown (absent : display.feature? id = none) :
    display.Guarded id
      ((display, .error (.unknownFeature id)) : Display α × Except PortrayalError β) where
  unknown other := by simp [absent, eq_comm]
  failed _ _ := rfl

theorem guarded_ok {feature : Feature α} (found : display.feature? id = some feature)
    (after : Display α) (value : β) : display.Guarded id (after, .ok value) where
  unknown other := by simp [found]
  failed _ refused := by cases refused

/-- A failure may be passed on. -/
theorem Guarded.passed {γ : Type} {current : Display α} {error : PortrayalError}
    (guarded : display.Guarded id ((current, .error error) : Display α × Except PortrayalError γ)) :
    display.Guarded id ((current, .error error) : Display α × Except PortrayalError β) where
  unknown other := by simpa using guarded.unknown other
  failed _ _ := guarded.failed error rfl

theorem guarded_highlight (display : Display α) (id : Nat) (on : Bool) :
    display.Guarded id (display.highlight id on) := by
  unfold highlight
  cases found : display.feature? id with
  | none => exact guarded_unknown found
  | some feature => exact guarded_ok found _ ()

variable [Quantity α]

theorem guarded_setAttribute (display : Display α) (id : Nat) (name value : String) :
    display.Guarded id (display.setAttribute id name value) := by
  unfold setAttribute
  cases found : display.feature? id with
  | none => exact guarded_unknown found
  | some feature => exact guarded_ok found _ ()

/-- A portrayal that does not change is put back where it was. -/
theorem guarded_request (aligned : display.Aligned) {variant : Variant}
    {ask : Portrayal α → Portrayal α × Except PortrayalError β}
    (contained : ∀ portrayal, display.portrayals.find? id = some portrayal →
      portrayal.Contained display.scene variant (ask portrayal)) :
    display.Guarded id (display.request id ask) := by
  have portrayed := aligned.portrayed id
  unfold request
  cases stored : display.portrayals.find? id with
  | none =>
    rw [stored, Option.isSome_none] at portrayed
    exact guarded_unknown (Option.not_isSome_iff_eq_none.mp (by simp [feature?, ← portrayed]))
  | some portrayal =>
    have own := (aligned.dated id portrayal stored).own
    refine ⟨fun other => ?_, fun error refused => ?_⟩
    · rw [(contained portrayal stored).unknown, own]
      rfl
    · simp only [(contained portrayal stored).failed error refused, SortedMap.insert_self stored]

theorem guarded_commands (aligned : display.Aligned) (variant : Variant) :
    display.Guarded id (display.commands id variant) :=
  guarded_request aligned (fun portrayal _ => portrayal.contained_readSlot display.scene variant Slot.commands)

theorem guarded_priority (aligned : display.Aligned) (variant : Variant) :
    display.Guarded id (display.priority id variant) :=
  guarded_request aligned (fun portrayal _ => portrayal.contained_readSlot display.scene variant Slot.priority)

/-- The labels of a feature have to be resolved, and cannot be laid out. -/
def LabelsStop (display : Display α) (id : Nat) (variant : Variant) : Prop :=
  ∃ portrayal, display.portrayals.find? id = some portrayal ∧ portrayal.LabelsStop display.scene variant

theorem guarded_labels (aligned : display.Aligned) {variant : Variant}
    (laid : ¬ display.LabelsStop id variant) : display.Guarded id (display.labels id variant) :=
  guarded_request aligned (fun portrayal stored =>
    Portrayal.contained_labels (fun stops => laid ⟨portrayal, stored, stops⟩))

/-- Labels that cannot be laid out end a request where it stands: the commands have been built by then. -/
theorem labels_of_stop {variant : Variant} (stops : display.LabelsStop id variant) :
    display.labels id variant = ((display.commands id variant).1, .error .overflow) := by
  obtain ⟨portrayal, stored, stops⟩ := stops
  have built : (portrayal.finalize display.scene variant).1 = (portrayal.refresh display.scene variant).1 :=
    Portrayal.readSlot_fst Slot.commands
  simp only [labels, commands, request, stored, Portrayal.labels_of_stop stops, built]

theorem describe_of_stop {variant : Variant} (stops : display.LabelsStop id variant) :
    display.describe id variant = ((display.commands id variant).1, .error .overflow) := by
  simp only [describe, labels_of_stop stops]

theorem guarded_isSuppressed (aligned : display.Aligned) : display.Guarded id (display.isSuppressed id) := by
  unfold isSuppressed
  cases found : display.feature? id with
  | none => exact guarded_unknown found
  | some feature =>
    have guarded : display.Guarded id (display.priority id (display.variantOf feature.geometry)) :=
      guarded_priority aligned _
    dsimp only
    split
    · exact guarded_ok found _ true
    · generalize display.priority id (display.variantOf feature.geometry) = outcome at guarded
      obtain ⟨current, error | priority⟩ := outcome
      · exact guarded.passed
      · exact guarded_ok found _ _

omit [Quantity α] in
/-- What was answered was asked of a portrayal. -/
theorem isSome_of_request {ask : Portrayal α → Portrayal α × Except PortrayalError β} {value : β}
    (answered : (display.request id ask).2 = .ok value) :
    ((display.request id ask).1.portrayals.find? id).isSome = true := by
  unfold request at answered ⊢
  cases stored : display.portrayals.find? id with
  | none => simp [stored] at answered
  | some portrayal =>
    dsimp only
    rw [SortedMap.find?_insert, if_pos (SortKey.order_self id)]
    rfl

/-- Once the labels are there, a report cannot fail. -/
theorem guarded_describe (aligned : display.Aligned) {variant : Variant}
    (laid : ¬ display.LabelsStop id variant) : display.Guarded id (display.describe id variant) := by
  have guarded : display.Guarded id (display.labels id variant) := guarded_labels aligned laid
  have after := Aligned.keptByAsking.labels display id variant aligned
  have there : ∀ labels, (display.labels id variant).2 = .ok labels →
      ((display.labels id variant).1.portrayals.find? id).isSome = true :=
    fun _ answered => isSome_of_request answered
  unfold describe
  generalize display.labels id variant = outcome at guarded after there
  obtain ⟨current, error | labels⟩ := outcome
  · exact guarded.passed
  · have portrayed := there labels rfl
    have present : (current.feature? id).isSome = true := (after.portrayed id).symm.trans portrayed
    obtain ⟨portrayal, stored⟩ := Option.isSome_iff_exists.mp portrayed
    obtain ⟨feature, found⟩ := Option.isSome_iff_exists.mp present
    simp only [stored, found]
    refine ⟨fun other => iff_of_false nofun (fun absent => ?_), nofun⟩
    cases (guarded.unknown other).mpr absent

end Guarded

/-- Asking a portrayal for commands, priority or labels of one variant leaves the other one as it was, and both
when it fails. After any run of requests, what is asked or changed about one feature leaves the whole display
as it was when it fails, as it does whenever the feature is unknown. Where labels cannot be laid out the request
stops, and leaves what asking for the commands leaves. -/
theorem run_failed_unchanged [Quantity α] (library : Library α) (store : SettingsStore α)
    (eagerFinalize : Bool) (requests : List (Request α)) :
    let display := (start library store eagerFinalize).run requests
    (∀ (portrayal : Portrayal α) (scene : Scene α) (variant : Variant),
      portrayal.Contained scene variant (portrayal.finalize scene variant) ∧
        portrayal.Contained scene variant (portrayal.priority scene variant) ∧
        (¬ portrayal.LabelsStop scene variant →
          portrayal.Contained scene variant (portrayal.labels scene variant)) ∧
        (portrayal.LabelsStop scene variant →
          portrayal.labels scene variant = ((portrayal.finalize scene variant).1, .error .overflow))) ∧
    ∀ id,
      (∀ name value, display.Guarded id (display.setAttribute id name value)) ∧
      (∀ on, display.Guarded id (display.highlight id on)) ∧
      (∀ variant, display.Guarded id (display.commands id variant) ∧
        display.Guarded id (display.priority id variant) ∧
        (¬ display.LabelsStop id variant → display.Guarded id (display.labels id variant) ∧
          display.Guarded id (display.describe id variant)) ∧
        (display.LabelsStop id variant →
          display.labels id variant = ((display.commands id variant).1, .error .overflow) ∧
          display.describe id variant = ((display.commands id variant).1, .error .overflow))) ∧
      display.Guarded id (display.isSuppressed id) := by
  intro display
  have aligned : display.Aligned := (Aligned.start library store eagerFinalize).run requests
  constructor
  · intro portrayal scene variant
    have built : (portrayal.finalize scene variant).1 = (portrayal.refresh scene variant).1 :=
      Portrayal.readSlot_fst Slot.commands
    exact ⟨portrayal.contained_readSlot scene variant Slot.commands,
      portrayal.contained_readSlot scene variant Slot.priority, Portrayal.contained_labels,
      fun stops => built ▸ Portrayal.labels_of_stop stops⟩
  · intro id
    refine ⟨fun name value => guarded_setAttribute display id name value,
      fun on => guarded_highlight display id on, fun variant => ?_, guarded_isSuppressed aligned⟩
    exact ⟨guarded_commands aligned variant, guarded_priority aligned variant,
      fun laid => ⟨guarded_labels aligned laid, guarded_describe aligned laid⟩,
      fun stops => ⟨labels_of_stop stops, describe_of_stop stops⟩⟩

/-- In the second library the rule cannot be compiled, and what was built with the first one stays, stale. -/
example :
    let rule (instruction : String) : Rule := .plain "RESARE" .symbolizedBoundaries instruction .standard
    let library (instruction : String) : Library Rat := Library.standard.addRule (rule instruction)
    let display := (start (library "AC(CHBRN)") .standard false).run
      [.insert (.plain "RESARE" .area), .commands 1 .primary, .setLibrary (library "CS(NONE01)")]
    (display.commands 1 .primary).2.isOk = false ∧
      ((display.commands 1 .primary).1.portrayals.find? 1).map (fun portrayal =>
        ((portrayal.slot .primary).stamp, (portrayal.slot .primary).commands.map Command.text)) =
          some (none, ["AC(CHBRN)"]) := by
  decide +kernel

end Display

end ChartPortrayal
