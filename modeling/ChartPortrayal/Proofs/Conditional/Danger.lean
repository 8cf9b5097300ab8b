import ChartPortrayal.Proofs.Chart.Lookup
import ChartPortrayal.Proofs.Overriding

/-! Isolated dangers. A hazard is promoted to one where its depth does not lie below the safety contour and
the area around it does not start above. A hazard of unknown depth takes the depth at which that area starts,
so that both tests are about one number: an unknown depth is promoted only where the area starts at the
contour itself, and not in deeper water, where every charted depth down to the contour is. -/

namespace ChartPortrayal

open Directive (overridePriority)
open PriorityOverride (digit?)

variable {α : Type}

namespace Directive

@[simp] theorem override?_symbol (name : String) : (symbol name).override? = none := rfl

@[simp] theorem override?_simpleLine (pattern : String) (width : Nat) (colour : String) :
    (simpleLine pattern width colour).override? = none := rfl

@[simp] theorem override?_complexLine (name : String) : (complexLine name).override? = none := rfl

@[simp] theorem override?_areaColour (colour : String) : (areaColour colour).override? = none := rfl

@[simp] theorem override?_areaPattern (name : String) : (areaPattern name).override? = none := rfl

end Directive

/-- The feature with another text for an attribute, or without the attribute. -/
def Feature.retext (feature : Feature α) (name : String) (text? : Option String) : Feature α :=
  { feature with
    attributes := match text? with
      | some text => feature.attributes.insert name text
      | none => feature.attributes.erase name }

theorem Feature.attribute?_retext (feature : Feature α) (name other : String) (text? : Option String) :
    (feature.retext name text?).attribute? other =
      if other = name then text? else feature.attribute? other := by
  cases text? with
  | some text => simp only [attribute?, retext, SortedMap.find?_insert, SortKey.order_eq_iff]
  | none => simp only [attribute?, retext, SortedMap.find?_erase, SortKey.order_eq_iff]

variable [Quantity α]

theorem Feature.number?_retext_of_ne (feature : Feature α) {name other : String} (apart : other ≠ name)
    (text? : Option String) : (feature.retext name text?).number? other = feature.number? other := by
  rw [number?, attribute?_retext, if_neg apart, number?]

/-- The same surroundings of a feature whose charted depth has another text, or none. -/
def Situation.resounded (situation : Situation α) (text? : Option String) : Situation α :=
  { situation with
    feature := situation.feature.retext "VALSOU" text?
    chart := situation.chart.adjust situation.feature.id (fun feature => feature.retext "VALSOU" text?) }

theorem Depth.least?_resounded (situation : Situation α) (text? : Option String) :
    least? (situation.resounded text?) = least? situation := by
  have link : (situation.resounded text?).feature.link? .leastDepthArea =
      situation.feature.link? .leastDepthArea := rfl
  unfold least? Situation.linked? Chart.linked?
  rw [link]
  cases situation.feature.link? .leastDepthArea with
  | none => rfl
  | some id =>
    rw [Option.bind_some, Option.bind_some, Situation.resounded, Chart.find?_adjust]
    split
    · -- the feature may be linked to itself, and its range is what it was
      cases situation.chart.find? id with
      | none => rfl
      | some area => exact area.number?_retext_of_ne (by decide) text?
    · rfl

namespace Hazard

theorem isIsolatedDanger_iff (situation : Situation α) (depth : α) :
    isIsolatedDanger situation depth = true ↔
      ¬ situation.settings.safetyContour < Depth.corrected situation.settings depth ∧
        ∃ upper, Depth.least? situation = some upper ∧
          ¬ Depth.corrected situation.settings upper < situation.settings.safetyContour := by
  unfold isIsolatedDanger
  by_cases below : situation.settings.safetyContour < Depth.corrected situation.settings depth
  · simp [below]
  · cases Depth.least? situation <;> simp [below]

/-- The override of an isolated danger. -/
def dangerOverride : PriorityOverride where
  raw := "8OD14010"
  draw := digit? '8'
  radar := some .above
  category := some .base
  viewGroup := ⟨digit? '1', digit? '4', digit? '0', digit? '1', digit? '0'⟩
  ignoreScaleMinimum := false

theorem override?_danger : (overridePriority ["8OD14010"]).override? = some dangerOverride := by
  decide +kernel

/-- The procedures that draw hazards. -/
def procedures : List (Procedure α) := [obstruction, wreck]

theorem overrides_isolatedDanger (geometry : Geometry) :
    (isolatedDanger geometry).filterMap Directive.override? = [dangerOverride] := by
  unfold isolatedDanger
  rw [List.filterMap_append, List.filterMap_cons_some override?_danger]
  cases geometry <;> simp

theorem overrides_chartedSounding (situation : Situation α) (hazard : HazardDepth α) :
    (chartedSounding situation hazard).filterMap Directive.override? = [] := by
  unfold chartedSounding
  split
  · simp [Sounding.symbols, List.filterMap_eq_nil_iff]
  · rfl

theorem overrides_point (feature : Feature α) :
    (Accuracy.point feature).filterMap Directive.override? = [] := by
  unfold Accuracy.point
  split <;> simp

theorem overrides_ordinaryObstruction (situation : Situation α) (hazard : HazardDepth α) :
    (ordinaryObstruction situation hazard).filterMap Directive.override? = [] := by
  unfold ordinaryObstruction
  dsimp only
  split
  · rw [List.filterMap_cons_none (Directive.override?_symbol _), overrides_chartedSounding]
  · unfold obstructionLine
    repeat' split
    all_goals simp
  · rw [List.filterMap_append, overrides_chartedSounding, List.append_nil, obstructionArea]
    repeat' split
    all_goals simp

theorem overrides_ordinaryWreck (situation : Situation α) (hazard : HazardDepth α) :
    (ordinaryWreck situation hazard).filterMap Directive.override? = [] := by
  unfold ordinaryWreck
  dsimp only
  rw [List.filterMap_append, overrides_chartedSounding, List.append_nil]
  split
  · unfold wreckArea
    repeat' split
    all_goals simp
  · simp

/-- Both procedures draw the isolated danger or something else, and beside that the accuracy of a position;
nothing but the isolated danger overrides a priority. -/
theorem exists_drawing {procedure : Procedure α} (member : procedure ∈ procedures)
    (situation : Situation α) :
    ∃ ordinary accuracy : List Directive,
      procedure.compute situation = some (.directives
        ((if isIsolatedDanger situation (depth situation).depth then
            isolatedDanger situation.feature.geometry else ordinary) ++ accuracy)) ∧
      ordinary.filterMap Directive.override? = [] ∧ accuracy.filterMap Directive.override? = [] := by
  simp only [procedures, List.mem_cons, List.not_mem_nil, or_false] at member
  rcases member with rfl | rfl
  · refine ⟨_, _, rfl, overrides_ordinaryObstruction .., ?_⟩
    split
    · exact overrides_point _
    · rfl
  · refine ⟨_, _, rfl, overrides_ordinaryWreck .., ?_⟩
    split
    · rfl
    · exact overrides_point _

/-- A hazard brings the override of an isolated danger exactly when it is one, and no other. -/
theorem exists_overrides {procedure : Procedure α} (member : procedure ∈ procedures)
    (situation : Situation α) :
    ∃ directives, procedure.compute situation = some (.directives directives) ∧
      directives.filterMap Directive.override? =
        if isIsolatedDanger situation (depth situation).depth then [dangerOverride] else [] := by
  obtain ⟨ordinary, accuracy, drawn, plain, mark⟩ := exists_drawing member situation
  refine ⟨_, drawn, ?_⟩
  rw [List.filterMap_append, mark, List.append_nil]
  split
  · exact overrides_isolatedDanger _
  · exact plain

/-- The procedure promotes the hazard to an isolated danger: it writes the override of one. -/
def Promotes (procedure : Procedure α) (situation : Situation α) : Prop :=
  ∃ directives, procedure.compute situation = some (.directives directives) ∧
    overridePriority ["8OD14010"] ∈ directives

theorem promotes_iff {procedure : Procedure α} (member : procedure ∈ procedures)
    (situation : Situation α) :
    Promotes procedure situation ↔ isIsolatedDanger situation (depth situation).depth = true := by
  constructor
  · rintro ⟨directives, drawn, written⟩
    obtain ⟨list, same, overrides⟩ := exists_overrides member situation
    cases drawn.symm.trans same
    have present := List.mem_filterMap.mpr ⟨_, written, override?_danger⟩
    refine Decidable.byContradiction (fun other => ?_)
    rw [overrides, if_neg other] at present
    cases present
  · intro danger
    obtain ⟨ordinary, accuracy, drawn, -, -⟩ := exists_drawing member situation
    refine ⟨_, drawn, ?_⟩
    simp [danger, isolatedDanger]

theorem depth_of_charted (situation : Situation α) {charted : α}
    (known : situation.feature.number? "VALSOU" = some charted) :
    (depth situation).depth = charted := by
  rw [depth, known]

theorem depth_of_uncharted {situation : Situation α} (unknown : situation.feature.number? "VALSOU" = none)
    {upper : α} (around : Depth.least? situation = some upper) : (depth situation).depth = upper := by
  rw [depth, unknown, around]
  rfl

/-- A hazard of unknown depth is promoted exactly where the area around it starts neither above the safety
contour nor below. -/
theorem promotes_of_unknown_iff {procedure : Procedure α} (member : procedure ∈ procedures)
    {situation : Situation α} (unknown : situation.feature.number? "VALSOU" = none) :
    Promotes procedure situation ↔ ∃ upper, Depth.least? situation = some upper ∧
      ¬ situation.settings.safetyContour < Depth.corrected situation.settings upper ∧
      ¬ Depth.corrected situation.settings upper < situation.settings.safetyContour := by
  rw [promotes_iff member, isIsolatedDanger_iff]
  constructor
  · rintro ⟨reached, upper, around, deep⟩
    rw [depth_of_uncharted unknown around] at reached
    exact ⟨upper, around, reached, deep⟩
  · rintro ⟨upper, around, reached, deep⟩
    rw [depth_of_uncharted unknown around]
    exact ⟨reached, upper, around, deep⟩

/-- Where a hazard is promoted with a depth, it is promoted without one unless the area around it starts
below the safety contour. An unknown depth itself is promoted exactly where that area starts neither above
the contour nor below. -/
theorem promotes_uncharted_iff {procedure : Procedure α} (member : procedure ∈ procedures)
    (situation : Situation α) {uncharted : Option String}
    (unknown : (situation.resounded uncharted).feature.number? "VALSOU" = none) :
    let settings := situation.settings
    (Promotes procedure (situation.resounded uncharted) ↔
      ∃ upper, Depth.least? situation = some upper ∧
        ¬ settings.safetyContour < Depth.corrected settings upper ∧
        ¬ Depth.corrected settings upper < settings.safetyContour) ∧
    ∀ charted : String, Promotes procedure (situation.resounded (some charted)) →
      (Promotes procedure (situation.resounded uncharted) ↔
        ∃ upper, Depth.least? situation = some upper ∧
          ¬ settings.safetyContour < Depth.corrected settings upper) := by
  intro settings
  have unpromoted := promotes_of_unknown_iff member unknown
  rw [Depth.least?_resounded] at unpromoted
  refine ⟨unpromoted, fun charted promoted => ?_⟩
  rw [promotes_iff member, isIsolatedDanger_iff, Depth.least?_resounded] at promoted
  obtain ⟨-, upper, around, deep⟩ := promoted
  rw [unpromoted]
  constructor
  · rintro ⟨other, same, reached, -⟩
    exact ⟨other, same, reached⟩
  · rintro ⟨other, same, reached⟩
    cases around.symm.trans same
    exact ⟨upper, around, reached, deep⟩

/-- A rock in an area that starts at the safety contour of ten metres is promoted with a charted depth of
three and a half metres, and with a blank one. -/
theorem promotes_uncharted_blank :
    let area : Feature Float := (Feature.plain "DEPARE" .area).setAttribute "DRVAL1" "4"
    let rock : Feature Float := Chart.relink .leastDepthArea (some 1) (.plain "UWTROC" .point)
    let settings : Settings Float := { Settings.standard with safetyContour := 10, datumOffset := 6 }
    let situation : Situation Float :=
      ⟨{ rock with id := 2 }, (Chart.empty.insert area).insert rock, settings, .primary⟩
    (situation.resounded (some " ")).feature.number? "VALSOU" = (none : Option Float) ∧
      Promotes obstruction (situation.resounded (some "3.5")) ∧
      Promotes obstruction (situation.resounded (some " ")) := by
  intro area rock settings situation
  have member : (obstruction : Procedure Float) ∈ procedures := List.mem_cons_self
  have unknown : (situation.resounded (some " ")).feature.number? "VALSOU" = (none : Option Float) := by
    decide +kernel
  have promoted : Promotes obstruction (situation.resounded (some "3.5")) :=
    (promotes_iff member _).mpr (by decide +kernel)
  have uncharted := (promotes_uncharted_iff member situation unknown).2 "3.5" promoted
  exact ⟨unknown, promoted, uncharted.mpr ⟨4, by decide +kernel, by decide +kernel⟩⟩

/-- An obstruction in deep water that is promoted with a depth of three and a half metres is not promoted
when nothing is known of its depth. -/
theorem not_promotes_uncharted_deep :
    ¬ ∀ procedure ∈ (procedures : List (Procedure Float)), ∀ (situation : Situation Float)
      (charted : String) (uncharted : Option String),
      ((situation.resounded (some charted)).feature.number? "VALSOU" : Option Float) ≠ none →
        (situation.resounded uncharted).feature.number? "VALSOU" = (none : Option Float) →
          Promotes procedure (situation.resounded (some charted)) →
            Promotes procedure (situation.resounded uncharted) := by
  intro hazardous
  let area : Feature Float := (Feature.plain "DEPARE" .area).setAttribute "DRVAL1" "20"
  let hazard : Feature Float := Chart.relink .leastDepthArea (some 1) (.plain "OBSTRN" .point)
  let situation : Situation Float :=
    ⟨{ hazard with id := 2 }, (Chart.empty.insert area).insert hazard,
      { Settings.standard with safetyContour := 10 }, .primary⟩
  have member : (obstruction : Procedure Float) ∈ procedures := List.mem_cons_self
  have charted : Promotes obstruction (situation.resounded (some "3.5")) :=
    (promotes_iff member _).mpr (by decide +kernel)
  have promoted := hazardous obstruction member situation "3.5" none (by decide +kernel)
    (by decide +kernel) charted
  rw [promotes_iff member] at promoted
  revert promoted
  decide +kernel

end Hazard

end ChartPortrayal
