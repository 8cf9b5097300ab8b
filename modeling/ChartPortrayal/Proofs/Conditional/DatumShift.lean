import ChartPortrayal.Conditional.Hazard
import ChartPortrayal.Proofs.SafetyContour

/-! Depths under another datum. When the datum offset and the safety contour move by one distance, every
corrected depth stays on its side of the contour, and what is drawn by it stays as it is. The line of an
obstruction is drawn by a depth that is not corrected, and can change. -/

namespace ChartPortrayal

/-- The situation with the datum offset and the safety contour moved by one distance. -/
def Situation.shifted (situation : Situation Rat) (shift : Rat) : Situation Rat :=
  { situation with
    settings :=
      { situation.settings with
        datumOffset := situation.settings.datumOffset + shift
        safetyContour := situation.settings.safetyContour + shift } }

variable (situation : Situation Rat) (shift depth : Rat)

theorem Situation.safetyContour_shifted :
    (situation.shifted shift).settings.safetyContour = situation.settings.safetyContour + shift := rfl

namespace Depth

theorem corrected_shifted :
    corrected (situation.shifted shift).settings depth = corrected situation.settings depth + shift :=
  (add_assoc depth situation.settings.datumOffset shift).symm

theorem isSafetyContour_shifted :
    isSafetyContour (situation.shifted shift) depth = isSafetyContour situation depth := by
  have start : underlyingStart? (situation.shifted shift) = underlyingStart? situation := rfl
  rw [Bool.eq_iff_iff, isSafetyContour_iff, isSafetyContour_iff, start]
  simp only [corrected_shifted, Situation.safetyContour_shifted, add_lt_add_iff_right, add_left_inj]

theorem contour_shifted : contour (situation.shifted shift) depth = contour situation depth := by
  rw [contour, contour, isSafetyContour_shifted]
  rfl

theorem depthContour_shifted :
    depthContour.compute (situation.shifted shift) = depthContour.compute situation :=
  congrArg (fun directives => some (Fragment.directives directives)) (contour_shifted situation shift _)

end Depth

namespace Hazard

theorem isIsolatedDanger_shifted :
    isIsolatedDanger (situation.shifted shift) depth = isIsolatedDanger situation depth := by
  have around : Depth.least? (situation.shifted shift) = Depth.least? situation := rfl
  unfold isIsolatedDanger
  simp only [Depth.corrected_shifted, Situation.safetyContour_shifted, around, add_lt_add_iff_right]

theorem wreck_shifted : wreck.compute (situation.shifted shift) = wreck.compute situation := by
  have found : Hazard.depth (situation.shifted shift) = Hazard.depth situation := rfl
  simp only [wreck, Procedure.ofDirectives, found, isIsolatedDanger_shifted]
  rfl

/-- The line of an obstruction follows its charted depth from one side of the safety contour to the other,
unless its position is inexact. -/
theorem obstructionLine_shifted_iff (hazard : HazardDepth Rat) :
    obstructionLine (situation.shifted shift) hazard = obstructionLine situation hazard ↔
      (situation.feature.isLowAccuracy = false → hazard.charted = true →
        (situation.settings.safetyContour + shift < hazard.depth ↔
          situation.settings.safetyContour < hazard.depth)) := by
  have dashed : Directive.simpleLine "DASH" 2 "CHBLK" ≠ .simpleLine "DOTT" 2 "CHBLK" := by decide
  have feature : (situation.shifted shift).feature = situation.feature := rfl
  unfold obstructionLine
  rw [feature, Situation.safetyContour_shifted]
  cases situation.feature.isLowAccuracy with
  | true => simp
  | false =>
    cases hazard.charted with
    | false => simp
    | true =>
      by_cases moved : situation.settings.safetyContour + shift < hazard.depth <;>
        by_cases deep : situation.settings.safetyContour < hazard.depth <;>
          simp [moved, deep, dashed, dashed.symm]

theorem ordinaryObstruction_shifted_iff (hazard : HazardDepth Rat) :
    ordinaryObstruction (situation.shifted shift) hazard = ordinaryObstruction situation hazard ↔
      (situation.feature.geometry = .line →
        obstructionLine (situation.shifted shift) hazard = obstructionLine situation hazard) := by
  have feature : (situation.shifted shift).feature = situation.feature := rfl
  have sounding : chartedSounding (situation.shifted shift) hazard = chartedSounding situation hazard := rfl
  unfold ordinaryObstruction
  rw [feature, sounding]
  cases geometry : situation.feature.geometry <;> simp [geometry]

/-- An obstruction whose line is drawn by a charted depth: its position is exact, and it is no isolated
danger. -/
structure LineByDepth (situation : Situation Rat) (charted : Rat) : Prop where
  line : situation.feature.geometry = .line
  precise : situation.feature.isLowAccuracy = false
  known : situation.feature.number? "VALSOU" = some charted
  ordinary : isIsolatedDanger situation charted = false

theorem obstruction_shifted_iff :
    obstruction.compute (situation.shifted shift) = obstruction.compute situation ↔
      ∀ charted, LineByDepth situation charted →
        (situation.settings.safetyContour + shift < charted ↔
          situation.settings.safetyContour < charted) := by
  have feature : (situation.shifted shift).feature = situation.feature := rfl
  have found : Hazard.depth (situation.shifted shift) = Hazard.depth situation := rfl
  have computed : obstruction.compute (situation.shifted shift) = obstruction.compute situation ↔
      (isIsolatedDanger situation (Hazard.depth situation).depth = false →
        ordinaryObstruction (situation.shifted shift) (Hazard.depth situation) =
          ordinaryObstruction situation (Hazard.depth situation)) := by
    simp only [obstruction, Procedure.ofDirectives, found, feature, isIsolatedDanger_shifted,
      Option.some.injEq, Fragment.directives.injEq, List.append_left_inj]
    cases isIsolatedDanger situation (Hazard.depth situation).depth <;> simp
  rw [computed, ordinaryObstruction_shifted_iff, obstructionLine_shifted_iff]
  constructor
  · intro unchanged charted drawn
    have depth : Hazard.depth situation = ⟨charted, true⟩ := by rw [Hazard.depth, drawn.known]
    rw [depth] at unchanged
    exact unchanged drawn.ordinary drawn.line drawn.precise rfl
  · intro unchanged ordinary line precise charted
    cases known : situation.feature.number? "VALSOU" with
    | none =>
      rw [Hazard.depth, known] at charted
      cases charted
    | some depth =>
      have same : Hazard.depth situation = ⟨depth, true⟩ := by rw [Hazard.depth, known]
      rw [same] at ordinary ⊢
      exact unchanged depth ⟨line, precise, known, ordinary⟩

/-- What is drawn of a wreck and of a contour is the same under another datum. So is what is drawn of an
obstruction, except for a line that is drawn by its charted depth while the safety contour moves across that
depth. -/
theorem fragments_shifted :
    wreck.compute (situation.shifted shift) = wreck.compute situation ∧
      Depth.depthContour.compute (situation.shifted shift) = Depth.depthContour.compute situation ∧
      (obstruction.compute (situation.shifted shift) = obstruction.compute situation ↔
        ∀ charted, LineByDepth situation charted →
          (situation.settings.safetyContour + shift < charted ↔
            situation.settings.safetyContour < charted)) :=
  ⟨wreck_shifted situation shift, Depth.depthContour_shifted situation shift,
    obstruction_shifted_iff situation shift⟩

/-- The line of an obstruction at twelve metres is dashed with a safety contour of ten metres, and dotted
with one of fifteen where five are added to depths. -/
theorem not_fragments_shifted :
    ¬ ∀ procedure ∈ ([obstruction, wreck, Depth.depthContour] : List (Procedure Rat)),
      ∀ (situation : Situation Rat) (shift : Rat),
        procedure.compute (situation.shifted shift) = procedure.compute situation := by
  intro unchanged
  let feature : Feature Rat := (Feature.plain "OBSTRN" .line).setAttribute "VALSOU" "12"
  let situation : Situation Rat :=
    ⟨feature, .empty, { Settings.standard with safetyContour := 10 }, .primary⟩
  have same := (obstruction_shifted_iff situation 5).mp (unchanged obstruction List.mem_cons_self situation 5)
  have drawn : LineByDepth situation 12 :=
    ⟨rfl, by decide +kernel, by decide +kernel, by decide +kernel⟩
  have above : situation.settings.safetyContour + 5 < 12 := (same 12 drawn).mpr (by decide +kernel)
  revert above
  decide +kernel

end Hazard

end ChartPortrayal
