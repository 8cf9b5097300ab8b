import Mathlib.Data.Rat.Cast.Order
import Mathlib.Tactic.Linarith
import ChartPortrayal.Conditional.Depth
import ChartPortrayal.Settings.Store

namespace ChartPortrayal

/-- The same settings with two shades of blue or with four. -/
def Settings.withShades {α : Type} (settings : Settings α) (two : Bool) : Settings α :=
  { settings with twoShades := two }

namespace Depth

variable {α : Type} [Quantity α]

/-- A corrected range lies in the water that a contour bounds. -/
def Within (settings : Settings α) (upper lower contour : α) : Prop :=
  contour ≤ corrected settings upper ∧ contour < corrected settings lower

/-- No water shallower than the safety contour is shown as safe: the flag tells the side of the safety
contour that the range lies on, in either number of shades, and the two deep colours are kept for the
deeper side. -/
structure SafelyShaded (settings : Settings α) (upper lower : α) : Prop where
  flag : (band settings upper lower).shallow = true ↔
    ¬ Within settings upper lower settings.safetyContour
  shades : (band (settings.withShades true) upper lower).shallow =
    (band (settings.withShades false) upper lower).shallow
  colour : (band settings upper lower).shallow = true ∨
      ¬ Within settings upper lower settings.safetyContour →
    (band settings upper lower).colour ≠ .mediumDeep ∧ (band settings upper lower).colour ≠ .deep

theorem reaches_iff (settings : Settings α) (upper lower contour : α) :
    reaches settings upper lower contour = true ↔ Within settings upper lower contour := by
  simp [reaches, Within]

/-- Land and drying heights have the two lightest colours. -/
private theorem land_not_deep (dry : Bool) :
    (if dry then SeabedColour.veryShallow else .intertidal) ≠ .mediumDeep ∧
      (if dry then SeabedColour.veryShallow else .intertidal) ≠ .deep := by
  cases dry <;> decide

theorem shallow_twoShades (settings : Settings α) (upper lower : α) (two : settings.twoShades = true) :
    (band settings upper lower).shallow = !reaches settings upper lower settings.safetyContour := by
  cases safe : reaches settings upper lower settings.safetyContour <;> simp [band, two, safe]

theorem shallow_fourShades (settings : Settings α) (upper lower : α)
    (four : settings.twoShades = false) :
    (band settings upper lower).shallow =
      !(reaches settings upper lower settings.deepContour ||
        reaches settings upper lower settings.safetyContour) := by
  cases deep : reaches settings upper lower settings.deepContour
  · cases safe : reaches settings upper lower settings.safetyContour
    · cases shallow : reaches settings upper lower settings.shallowContour <;>
        simp [band, four, deep, safe, shallow]
    · simp [band, four, deep, safe]
  · simp [band, four, deep]

/-- Only a range that reaches the safety or the deep contour has a deep colour. -/
theorem colour_not_deep (settings : Settings α) (upper lower : α)
    (shallow : (band settings upper lower).shallow = true) :
    (band settings upper lower).colour ≠ .mediumDeep ∧
      (band settings upper lower).colour ≠ .deep := by
  have land := land_not_deep (reaches settings upper lower 0.0)
  revert shallow
  simp only [band]
  split
  · split
    · simp
    · intro _
      exact land
  · split
    · simp
    · split
      · simp
      · split
        · simp
        · intro _
          exact land

/-- Shading of a range is safe unless the range reaches the deep contour without reaching the safety
contour. -/
theorem safelyShaded_iff_reaches (settings : Settings α) (upper lower : α) :
    SafelyShaded settings upper lower ↔
      (Within settings upper lower settings.deepContour →
        Within settings upper lower settings.safetyContour) := by
  have two := shallow_twoShades (settings.withShades true) upper lower rfl
  have four := shallow_fourShades (settings.withShades false) upper lower rfl
  change _ = !reaches settings upper lower settings.safetyContour at two
  change _ = !(reaches settings upper lower settings.deepContour ||
    reaches settings upper lower settings.safetyContour) at four
  constructor
  · intro safely deep
    have same := safely.shades
    rw [two, four, (reaches_iff ..).mpr deep] at same
    exact (reaches_iff ..).mp (by simpa using same)
  · intro deepened
    have covered : (reaches settings upper lower settings.deepContour ||
        reaches settings upper lower settings.safetyContour) =
          reaches settings upper lower settings.safetyContour := by
      cases deep : reaches settings upper lower settings.deepContour
      · rfl
      · simp [(reaches_iff ..).mpr (deepened ((reaches_iff ..).mp deep))]
    rw [covered] at four
    have flag : (band settings upper lower).shallow =
        !reaches settings upper lower settings.safetyContour := by
      cases shades : settings.twoShades
      · rw [shallow_fourShades settings upper lower shades, covered]
      · exact shallow_twoShades settings upper lower shades
    have side : (band settings upper lower).shallow = true ↔
        ¬ Within settings upper lower settings.safetyContour := by
      rw [flag, ← reaches_iff]
      simp
    refine ⟨side, two.trans four.symm, ?_⟩
    intro above
    exact colour_not_deep settings upper lower (above.elim id side.mpr)

private theorem corrected_sub_datum (settings : Settings Rat) (depth : Rat) :
    corrected settings (depth - settings.datumOffset) = depth := by
  simp [corrected]

/-- Between a deep contour and a safety contour below it lies a range that is shaded as deep. -/
private theorem not_safelyShaded_between (settings : Settings Rat)
    (inverted : settings.deepContour < settings.safetyContour) :
    ¬ SafelyShaded settings (settings.deepContour - settings.datumOffset)
      (settings.safetyContour - settings.datumOffset) := by
  intro safely
  have reached := (safelyShaded_iff_reaches settings _ _).mp safely
  rw [Within, Within, corrected_sub_datum, corrected_sub_datum] at reached
  exact absurd (reached ⟨le_refl _, inverted⟩).1 (not_le.mpr inverted)

/-- Each range is shaded safely exactly when reaching the deep contour it reaches the safety contour, and
all ranges are exactly when the deep contour does not lie above the safety contour. -/
theorem safelyShaded_iff_safety_le_deep (settings : Settings Rat) :
    (∀ upper lower, SafelyShaded settings upper lower ↔
      (Within settings upper lower settings.deepContour →
        Within settings upper lower settings.safetyContour)) ∧
    ((∀ upper lower, upper ≤ lower → SafelyShaded settings upper lower) ↔
      settings.safetyContour ≤ settings.deepContour) := by
  refine ⟨safelyShaded_iff_reaches settings, ?_, ?_⟩
  · intro safely
    by_contra inverted
    have between := not_le.mp inverted
    have proper : settings.deepContour - settings.datumOffset ≤
        settings.safetyContour - settings.datumOffset := by linarith
    exact not_safelyShaded_between settings between (safely _ _ proper)
  · intro ordered upper lower _
    refine (safelyShaded_iff_reaches settings upper lower).mpr ?_
    rintro ⟨starts, ends⟩
    exact ⟨le_trans ordered starts, lt_of_le_of_lt ordered ends⟩

/-- A deep contour of ten metres, written on its own, leaves water between fifteen and twenty metres
coloured and flagged as safe under a safety contour of thirty. -/
theorem not_safelyShaded_ten_below_thirty :
    let settings := (SettingsStore.standard.set .deepContour (10 : Rat)).settings
    settings.safetyContour = 30 ∧ band settings 15 20 = ⟨.deep, false⟩ ∧
      (band (settings.withShades true) 15 20).shallow = true ∧ ¬ SafelyShaded settings 15 20 := by
  intro settings
  have drawn : band settings 15 20 = ⟨.deep, false⟩ := by decide +kernel
  refine ⟨by decide +kernel, drawn, by decide +kernel, ?_⟩
  intro safely
  have shallower : ¬ Within settings 15 20 settings.safetyContour := by
    rw [← reaches_iff]
    decide +kernel
  exact (safely.colour (.inr shallower)).2 (by rw [drawn])

end Depth

end ChartPortrayal
