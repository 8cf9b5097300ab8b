import ChartPortrayal.Proofs.Conditional.Danger
import ChartPortrayal.Proofs.Conditional.Fragments
import ChartPortrayal.Proofs.Conditional.Registration
import ChartPortrayal.Proofs.Faithful
import ChartPortrayal.Proofs.Number.Order
import ChartPortrayal.Proofs.Number.Sum

namespace ChartPortrayal

variable {α : Type}

/-- Every setting has a finite value. -/
def Settings.IsFinite (settings : Settings Float) : Prop :=
  ∀ parameter, (settings.get parameter).isFinite = true

/-- The priority of an isolated danger, in place of another one. -/
def Priority.endangered (priority : Priority) : Priority :=
  { priority with draw := 8, radar := .above, category := .base, viewGroup := 14010 }

namespace Hazard

/-- A depth that lies at the safety contour or above it, in an area that starts at the contour or below, all
depths being corrected. -/
def Endangers [Quantity α] (situation : Situation α) (depth : α) : Prop :=
  Depth.corrected situation.settings depth ≤ situation.settings.safetyContour ∧
    ∃ area upper, situation.linked? .leastDepthArea = some area ∧ area.number? "DRVAL1" = some upper ∧
      situation.settings.safetyContour ≤ Depth.corrected situation.settings upper

/-- The override of an isolated danger gives all five digits of the view group. -/
theorem apply_dangerOverride {priority : Priority} (group : priority.viewGroup < 100000) :
    dangerOverride.apply priority = .ok priority.endangered := by
  have small : priority.viewGroup.toNat / 100000 = 0 := by
    have bound : priority.viewGroup.toNat < 100000 := UInt32.lt_iff_toNat_lt.mp group
    exact Nat.div_eq_of_lt bound
  have fixed : dangerOverride.viewGroup.fixed? = some 14010 := rfl
  have merged : dangerOverride.viewGroup.merged priority.viewGroup.toNat = 14010 := by
    rw [ViewGroupPattern.merged_of_fixed? fixed, small]
  exact PriorityOverride.apply_eq_ok_iff.mpr ⟨merged.symm, rfl, rfl, rfl, (Bool.or_false _).symm⟩

theorem isNaN_corrected {settings : Settings Float} (finite : settings.IsFinite) {depth : Float}
    (sounded : depth.isFinite = true) : (Depth.corrected settings depth).isNaN = false :=
  FloatSum.isNaN_sum sounded (finite .datumOffset)

/-- Among finite depths, what does not lie below the safety contour lies at it or above. -/
theorem isIsolatedDanger_iff_endangers (situation : Situation Float)
    (finite : situation.settings.IsFinite) {depth : Float} (sounded : depth.isFinite = true)
    (surrounded : ∀ area upper, situation.linked? .leastDepthArea = some area →
      area.number? "DRVAL1" = some upper → upper.isFinite = true) :
    isIsolatedDanger situation depth = true ↔ Endangers situation depth := by
  have contour : situation.settings.safetyContour.isNaN = false :=
    FloatOrder.isNaN_of_isFinite (finite .safetyContour)
  rw [isIsolatedDanger_iff, Endangers]
  refine and_congr (FloatOrder.not_lt_iff contour (isNaN_corrected finite sounded)) ?_
  simp only [Depth.least?, Option.bind_eq_some_iff]
  constructor
  · rintro ⟨upper, ⟨area, linked, starts⟩, deep⟩
    have defined := isNaN_corrected finite (surrounded area upper linked starts)
    exact ⟨area, upper, linked, starts, (FloatOrder.not_lt_iff defined contour).mp deep⟩
  · rintro ⟨area, upper, linked, starts, deep⟩
    have defined := isNaN_corrected finite (surrounded area upper linked starts)
    exact ⟨upper, ⟨area, linked, starts⟩, (FloatOrder.not_lt_iff defined contour).mpr deep⟩

theorem writesSound [Quantity α] [PlainWords α] {procedure : Procedure α}
    (member : procedure ∈ procedures) : procedure.WritesSound := by
  simp only [procedures, List.mem_cons, List.not_mem_nil, or_false] at member
  rcases member with rfl | rfl
  · exact writesSound_obstruction
  · exact writesSound_wreck

end Hazard

namespace Scene

variable [Quantity α] {scene : Scene α} {feature : Feature α} {variant : Variant}

/-- The instruction of the rule that is chosen for a feature is a call of a procedure and nothing else. -/
def CallsOnly (scene : Scene α) (feature : Feature α) (variant : Variant)
    (procedure : Procedure α) : Prop :=
  ∃ call, Directive.tokenize (scene.choose feature variant).rule.instruction = [call] ∧ call.IsCall ∧
    scene.library.procedures.find? (Parameters.name call.parameters) = some procedure

/-- Where nothing but a procedure is called, its fragment is all that is drawn, and its overrides are written
over the priority of the rule. -/
theorem build_of_callsOnly {procedure : Procedure α} (only : scene.CallsOnly feature variant procedure)
    {directives : List Directive}
    (returned : procedure.compute (scene.situation feature variant) = some (.directives directives))
    (sound : Directive.AllSound α directives) :
    ∃ slot, scene.build feature variant = .ok slot ∧
      slot.commands.filterMap Command.override? = directives.filterMap Directive.override? ∧
      PriorityOverride.applyAll (directives.filterMap Directive.override?)
        (scene.choose feature variant).rule.priority = .ok slot.priority := by
  obtain ⟨call, read, calls, found⟩ := only
  have bound := Library.bind_call_of_find? calls found
  have compiled : ∀ index, scene.library.compileRule (scene.choose feature variant).rule index =
      .ok [.callConditional (Parameters.name call.parameters) procedure] := by
    intro index
    refine Library.compileRule_ok.mpr ⟨?_, Nat.le_refl 1⟩
    rw [Library.compile, read]
    exact Library.bindAll_cons.mpr ⟨_, [], bound, rfl, rfl⟩
  obtain ⟨commands, replaced, each⟩ :=
    scene.library.compileFragment_sound (Parameters.name call.parameters) sound
  have overrides := Library.overrides_of_bindAll each.bindAll
  obtain ⟨priority, applied⟩ :=
    PriorityOverride.exists_applyAll sound.fits (scene.choose feature variant).rule.priority
  have written : applyOverrides (scene.choose feature variant).rule.priority commands = .ok priority := by
    rw [applyOverrides_eq, overrides, applied]
  have expanded : scene.expand (scene.situation feature variant)
      ⟨[], (scene.choose feature variant).rule.priority, none, none⟩
      [.callConditional (Parameters.name call.parameters) procedure] =
        .ok ⟨commands, priority, some (Parameters.name call.parameters),
          some (Directive.textOf directives)⟩ := by
    simp only [expand, returned, Fragment.text, replaced, written, List.nil_append]
  cases built : scene.build feature variant with
  | error error => simp [build, compiled, expanded] at built
  | ok slot =>
    simp only [build, compiled, expanded] at built
    cases built
    exact ⟨_, rfl, overrides, applied⟩

end Scene

/-- A rule that calls a standard procedure by its name calls nothing else. -/
theorem Scene.callsOnly_of_standard [Quantity α] {scene : Scene α}
    (standard : scene.library.procedures = .standard) {feature : Feature α} {variant : Variant}
    {entry : Procedure α × List String} (member : entry ∈ standardProcedures) (payload : String)
    (called : Directive.tokenize (scene.choose feature variant).rule.instruction = [⟨"CS", payload⟩])
    (named : Parameters.name (Directive.mk "CS" payload).parameters = entry.1.name) :
    scene.CallsOnly feature variant entry.1 := by
  refine ⟨⟨"CS", payload⟩, called, rfl, ?_⟩
  rw [standard, named]
  exact Registry.find?_standard member

namespace Portrayal.Faithful

variable {scene : Scene Float} {portrayal : Portrayal Float} {feature : Feature Float} {variant : Variant}
  {slot : Slot Float}

theorem finalize_of_build (faithful : portrayal.Faithful scene)
    (found : scene.chart.find? portrayal.id = some feature) (built : scene.build feature variant = .ok slot) :
    (portrayal.finalize scene variant).2 = .ok slot.commands := by
  have answered : (portrayal.finalize scene variant).2 = (scene.build feature variant).map Slot.commands :=
    faithful.readSlot found variant (fun _ => rfl)
  rw [answered, built, Except.map]

theorem priority_of_build (faithful : portrayal.Faithful scene)
    (found : scene.chart.find? portrayal.id = some feature) (built : scene.build feature variant = .ok slot) :
    (portrayal.priority scene variant).2 = .ok slot.priority := by
  have answered : (portrayal.priority scene variant).2 = (scene.build feature variant).map Slot.priority :=
    faithful.readSlot found variant (fun _ => rfl)
  rw [answered, built, Except.map]

end Portrayal.Faithful

/-- Let the rule of a hazard with a charted depth call a procedure for hazards and nothing else, and all
depths be finite. If the hazard is an isolated danger its priority is the one of such a danger, and else it is
that of the rule, and no command overrides it. -/
theorem Portrayal.priority_of_charted {scene : Scene Float} {portrayal : Portrayal Float}
    (faithful : portrayal.Faithful scene) {feature : Feature Float}
    (found : scene.chart.find? portrayal.id = some feature) {variant : Variant}
    {procedure : Procedure Float} (member : procedure ∈ Hazard.procedures)
    (only : scene.CallsOnly feature variant procedure)
    (group : (scene.choose feature variant).rule.priority.viewGroup < 100000) {charted : Float}
    (known : feature.number? "VALSOU" = some charted) (sounded : charted.isFinite = true)
    (finite : scene.store.settings.IsFinite)
    (surrounded : ∀ area upper, scene.chart.linked? feature .leastDepthArea = some area →
      area.number? "DRVAL1" = some upper → upper.isFinite = true) :
    let endangered := Hazard.Endangers (scene.situation feature variant) charted
    let priority := (scene.choose feature variant).rule.priority
    ∃ commands, (portrayal.finalize scene variant).2 = .ok commands ∧
      (endangered → (portrayal.priority scene variant).2 = .ok priority.endangered) ∧
      (¬ endangered → (portrayal.priority scene variant).2 = .ok priority ∧
        ∀ command ∈ commands, command.override? = none) := by
  intro endangered priority
  obtain ⟨directives, drawn, overrides⟩ :=
    Hazard.exists_overrides member (scene.situation feature variant)
  have sound : Directive.AllSound Float directives := by
    obtain ⟨list, same, sound⟩ := Hazard.writesSound member _ _ drawn
    cases same
    exact sound
  obtain ⟨slot, built, commands, applied⟩ := Scene.build_of_callsOnly only drawn sound
  have depth : (Hazard.depth (scene.situation feature variant)).depth = charted :=
    Hazard.depth_of_charted (scene.situation feature variant) known
  have danger : Hazard.isIsolatedDanger (scene.situation feature variant) charted = true ↔ endangered :=
    Hazard.isIsolatedDanger_iff_endangers (scene.situation feature variant) finite sounded surrounded
  rw [depth] at overrides
  rw [overrides] at commands applied
  have answered := faithful.priority_of_build found built
  refine ⟨slot.commands, faithful.finalize_of_build found built, fun promoted => ?_, fun ordinary => ?_⟩
  · have single : PriorityOverride.applyAll [Hazard.dangerOverride] priority = .ok priority.endangered := by
      rw [PriorityOverride.applyAll_cons, Hazard.apply_dangerOverride group]
      rfl
    rw [if_pos (danger.mpr promoted), single] at applied
    rw [answered, Except.ok.inj applied]
  · rw [if_neg (fun promoted => ordinary (danger.mp promoted))] at commands applied
    rw [answered, ← Except.ok.inj applied]
    exact ⟨rfl, List.filterMap_eq_nil_iff.mp commands⟩

/-- A rock at three and a half metres, in an area that starts at four, is an isolated danger with a safety
contour of ten metres, where six are added to depths. -/
theorem Portrayal.priority_of_charted_rock :
    let rule : Rule :=
      .plain "UWTROC" .simplifiedPoints "CS(OBSTRN04)" ⟨4, .suppressed, .standard, 34050, true⟩
    let library : Library Float := Library.standard.addRule rule
    let area : Feature Float := (Feature.plain "DEPARE" .area).setAttribute "DRVAL1" "4"
    let rock : Feature Float := Chart.relink .leastDepthArea (some 1)
      ((Feature.plain "UWTROC" .point).setAttribute "VALSOU" "3.5")
    let store := (SettingsStore.standard.set .safetyContour (10 : Float)).set .datumOffset 6
    let scene : Scene Float := ⟨library, (Chart.empty.insert area).insert rock, store⟩
    ((fresh 2).priority scene .primary).2 = .ok ⟨8, .above, .base, 14010, true⟩ := by
  intro rule library area rock store scene
  let stored : Feature Float := { rock with id := 2 }
  have found : scene.chart.find? (fresh (α := Float) 2).id = some stored := rfl
  have standard : scene.library.procedures = .standard := rfl
  have entry : (Hazard.obstruction, ["OBSTRN06", "OBSTRN07", "UWTROC03", "UWTROC04"]) ∈
      standardProcedures (α := Float) := by simp [standardProcedures]
  have only : scene.CallsOnly stored .primary Hazard.obstruction :=
    Scene.callsOnly_of_standard standard entry "OBSTRN04" (by decide +kernel) (by decide +kernel)
  have finite : scene.store.settings.IsFinite := by
    intro parameter
    cases parameter <;> decide +kernel
  have linked : scene.chart.linked? stored .leastDepthArea = some { area with id := 1 } := rfl
  have starts : Feature.number? { area with id := 1 } "DRVAL1" = some (4 : Float) := by decide +kernel
  have surrounded : ∀ other upper, scene.chart.linked? stored .leastDepthArea = some other →
      other.number? "DRVAL1" = some upper → upper.isFinite = true := by
    intro other upper link start
    cases linked.symm.trans link
    cases starts.symm.trans start
    decide +kernel
  have endangered : Hazard.Endangers (scene.situation stored .primary) 3.5 :=
    ⟨by decide +kernel, _, 4, linked, starts, by decide +kernel⟩
  have known : stored.number? "VALSOU" = some (3.5 : Float) := by decide +kernel
  obtain ⟨commands, -, promoted, -⟩ := priority_of_charted (faithful_fresh 2 scene) found
    List.mem_cons_self only (by decide +kernel) known (by decide +kernel) finite surrounded
  exact (promoted endangered).trans (by decide +kernel)

end ChartPortrayal
