import Mathlib.Data.Rat.Cast.Order
import ChartPortrayal.Proofs.Shading

namespace ChartPortrayal

/-- The same settings with another datum offset. -/
def Settings.withDatum {α : Type} (settings : Settings α) (offset : α) : Settings α :=
  { settings with datumOffset := offset }

namespace DepthBand

/-- One band gives way to another that is coloured at least as deep, and shallow only if the first is. -/
structure Deepens (band deeper : DepthBand) : Prop where
  colour : band.colour.rank ≤ deeper.colour.rank
  flag : deeper.shallow = true → band.shallow = true

variable {band deeper : DepthBand} {test later : Bool}

theorem Deepens.refl (band : DepthBand) : band.Deepens band := ⟨Nat.le_refl _, id⟩

/-- Both outcomes of a test give way to what each of them gives way to. -/
theorem Deepens.ite {best : DepthBand} (first : band.Deepens best) (second : deeper.Deepens best) :
    (if test then band else deeper).Deepens best := by
  cases test with
  | true => exact first
  | false => exact second

/-- A cascade of tests, the best band first, when more tests hold than before. -/
theorem Deepens.cascade (best : DepthBand) (holds : test = true → later = true)
    (less : band.Deepens best) (rest : band.Deepens deeper) :
    (if test then best else band).Deepens (if later then best else deeper) := by
  cases test with
  | true =>
    rw [holds rfl]
    exact .refl best
  | false =>
    cases later with
    | true => exact less
    | false => exact rest

end DepthBand

namespace Depth

open DepthBand

section Cascade

variable {α : Type} [Quantity α] {settings : Settings α} {upper lower : α}

/-- The band of a range that reaches none of the mariner's contours: the drying line decides. -/
def shore (wet : Bool) : DepthBand := if wet then ⟨.veryShallow, true⟩ else ⟨.intertidal, true⟩

theorem band_twoShades (two : settings.twoShades = true) (upper lower : α) :
    band settings upper lower =
      if reaches settings upper lower settings.safetyContour then ⟨.deep, false⟩
      else shore (reaches settings upper lower 0.0) := by
  simp only [band, two, ↓reduceIte, shore, apply_ite (DepthBand.mk · true)]

theorem band_fourShades (four : settings.twoShades = false) (upper lower : α) :
    band settings upper lower =
      if reaches settings upper lower settings.deepContour then ⟨.deep, false⟩
      else if reaches settings upper lower settings.safetyContour then ⟨.mediumDeep, false⟩
      else if reaches settings upper lower settings.shallowContour then ⟨.mediumShallow, true⟩
      else shore (reaches settings upper lower 0.0) := by
  simp only [band, four, Bool.false_eq_true, ↓reduceIte, shore, apply_ite (DepthBand.mk · true)]

theorem shore_deepens {best : DepthBand} (wet : Bool) (below : 1 ≤ best.colour.rank) :
    (shore wet).Deepens best :=
  .ite ⟨below, fun _ => rfl⟩ ⟨Nat.zero_le _, fun _ => rfl⟩

/-- The bands of two ranges under the same contours, where the second range reaches whatever contour the
first one does. -/
theorem band_deepens_of_reaches (offset : α) {upper' lower' : α}
    (more : ∀ contour, reaches settings upper lower contour = true →
      reaches (settings.withDatum offset) upper' lower' contour = true) :
    (band settings upper lower).Deepens (band (settings.withDatum offset) upper' lower') := by
  have land : (shore (reaches settings upper lower 0.0)).Deepens
      (shore (reaches (settings.withDatum offset) upper' lower' 0.0)) :=
    .cascade _ (more 0.0) ⟨by decide, id⟩ (.refl _)
  cases shades : settings.twoShades with
  | true =>
    have same : (settings.withDatum offset).twoShades = true := shades
    rw [band_twoShades shades, band_twoShades same]
    exact .cascade _ (more settings.safetyContour) (shore_deepens _ (by decide)) land
  | false =>
    have same : (settings.withDatum offset).twoShades = false := shades
    rw [band_fourShades shades, band_fourShades same]
    -- from the lightest band up: what a test leaves over is less deep than the band that it decides on
    have shallow := Deepens.cascade ⟨.mediumShallow, true⟩ (more settings.shallowContour)
      (shore_deepens _ (by decide)) land
    have safe := Deepens.cascade ⟨.mediumDeep, false⟩ (more settings.safetyContour)
      (.ite ⟨by decide, nofun⟩ (shore_deepens _ (by decide))) shallow
    exact .cascade _ (more settings.deepContour)
      (.ite ⟨by decide, nofun⟩ (.ite ⟨by decide, nofun⟩ (shore_deepens _ (by decide)))) safe

end Cascade

/-- A deeper range under a datum that is not lower reaches all the contours of the first one. -/
theorem reaches_of_le {settings : Settings Rat} {offset upper lower upper' lower' contour : Rat}
    (starts : upper ≤ upper') (ends : lower ≤ lower') (raised : settings.datumOffset ≤ offset)
    (reached : reaches settings upper lower contour = true) :
    reaches (settings.withDatum offset) upper' lower' contour = true := by
  rw [reaches_iff] at reached ⊢
  have start : corrected settings upper ≤ corrected (settings.withDatum offset) upper' :=
    add_le_add starts raised
  have stop : corrected settings lower ≤ corrected (settings.withDatum offset) lower' :=
    add_le_add ends raised
  exact ⟨le_trans reached.1 start, lt_of_lt_of_le reached.2 stop⟩

/-- Whatever the contours and the number of shades, a deeper range is coloured at least as deep, and is
flagged as shallow only if the shallower one is; and so is the same range under a raised datum. -/
theorem band_deepens (settings : Settings Rat) (upper lower : Rat) :
    (∀ upper' lower', upper ≤ upper' → lower ≤ lower' →
      (band settings upper lower).Deepens (band settings upper' lower')) ∧
    ∀ offset, settings.datumOffset ≤ offset →
      (band settings upper lower).Deepens (band (settings.withDatum offset) upper lower) := by
  constructor
  · intro upper' lower' starts ends
    exact band_deepens_of_reaches settings.datumOffset
      (fun _ => reaches_of_le starts ends (le_refl _))
  · intro offset raised
    exact band_deepens_of_reaches offset (fun _ => reaches_of_le (le_refl _) (le_refl _) raised)

/-- Where the contours are in order, ranges that each start where the last one ended take on all colours. -/
example :
    let settings : Settings Rat := { Settings.standard with deepContour := 50 }
    let ranges : List (Rat × Rat) := [(-3, 0), (0, 2), (2, 30), (30, 50), (50, 90)]
    ranges.map (fun range => (band settings range.1 range.2).colour.token) =
      ["DEPIT", "DEPVS", "DEPMS", "DEPMD", "DEPDW"] := by
  decide +kernel

/-- The contours are in inverted order here. A range that reaches none of them is carried past the deep one,
and past no other, by a greater depth or by a raised datum. -/
theorem band_deepens_inverted :
    let settings : Settings Rat :=
      { Settings.standard with shallowContour := 12, safetyContour := 10, deepContour := 8 }
    band settings (9/2) 7 = ⟨.veryShallow, true⟩ ∧ band settings 8 9 = ⟨.deep, false⟩ ∧
      band (settings.withDatum 4) (9/2) 7 = ⟨.deep, false⟩ ∧
      (band settings (9/2) 7).Deepens (band settings 8 9) ∧
      (band settings (9/2) 7).Deepens (band (settings.withDatum 4) (9/2) 7) := by
  intro settings
  have deepens := band_deepens settings (9/2) 7
  exact ⟨by decide +kernel, by decide +kernel, by decide +kernel,
    deepens.1 8 9 (by decide +kernel) (by decide +kernel), deepens.2 4 (by decide +kernel)⟩

end Depth

end ChartPortrayal
