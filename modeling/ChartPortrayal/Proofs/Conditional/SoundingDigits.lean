import ChartPortrayal.Proofs.Number.Digits
import ChartPortrayal.Proofs.Number.Tenths
import ChartPortrayal.Conditional.Sounding

namespace ChartPortrayal.Sounding

open Text
open Quantity (metres tenthsOver tdiv_tenths tmod_tenths metres_lt_iff)

/-- Glyphs that show digits at some positions. -/
def shown (positions digits : List Nat) : List Glyph :=
  (positions.zip digits).map (fun place => ⟨place.1, place.2⟩)

/-- The glyphs of tenths, which stands after the others. -/
def tenthsGlyphs (whole fraction : Nat) : List Glyph :=
  if whole < 31 ∧ 0 < fraction then [⟨5, fraction⟩] else []

/-- Positions, all of them apart from the one of tenths, at which the whole metres are shown digit by digit. -/
structure ShownAt (whole fraction : Nat) (positions : List Nat) : Prop where
  apart : ∀ position ∈ positions, position < 5
  length : positions.length = (Nat.toDigits 10 whole).length
  glyphs : glyphsOf whole fraction =
    shown positions (places positions.length whole) ++ tenthsGlyphs whole fraction

theorem ShownAt.of_digits {whole fraction : Nat} {positions : List Nat} (count : Nat) (digits : List Nat)
    (apart : ∀ position ∈ positions, position < 5) (size : positions.length = count + 1)
    (low : count = 0 ∨ 10 ^ count ≤ whole) (high : whole < 10 ^ (count + 1))
    (spelled : places (count + 1) whole = digits)
    (glyphs : glyphsOf whole fraction = shown positions digits ++ tenthsGlyphs whole fraction) :
    ShownAt whole fraction positions where
  apart := apart
  length := size.trans (length_toDigits low high).symm
  glyphs := by rw [size, spelled, glyphs]

/-- Each bracket of depths has its positions. -/
theorem exists_shownAt {whole : Nat} (bounded : whole < 100000) (fraction : Nat) :
    ∃ positions, ShownAt whole fraction positions := by
  by_cases ones : whole < 10
  · refine ⟨[1], .of_digits 0 [whole] (by decide) rfl (by omega) (by omega) ?_ ?_⟩
    · simp [places, Nat.mod_eq_of_lt ones]
    · have tenths : (if (0 : Int) < fraction then [Glyph.mk 5 fraction] else []) =
          tenthsGlyphs whole fraction := if_congr (by omega) rfl rfl
      rw [glyphsOf, if_pos (by omega), tenths]
      rfl
  by_cases tens : whole < 31 ∧ 0 < fraction
  · refine ⟨[2, 1], .of_digits 1 [whole / 10, whole % 10] (by decide) rfl (by omega) (by omega) ?_ ?_⟩
    · simp [places]
      omega
    · rw [glyphsOf, if_neg (by omega), if_pos (by omega), tenthsGlyphs, if_pos tens]
      rfl
  have unmarked : tenthsGlyphs whole fraction = [] := if_neg tens
  by_cases hundreds : whole < 100
  · refine ⟨[1, 0], .of_digits 1 [whole / 10, whole % 10] (by decide) rfl (by omega) (by omega) ?_ ?_⟩
    · simp [places]
      omega
    · rw [glyphsOf, if_neg (by omega), if_neg (by omega), if_pos (by omega), unmarked]
      rfl
  by_cases thousands : whole < 1000
  · refine ⟨[2, 1, 0], .of_digits 2 [whole / 100, whole / 10 % 10, whole % 10] (by decide) rfl (by omega)
      (by omega) ?_ ?_⟩
    · simp [places]
      omega
    · rw [glyphsOf, if_neg (by omega), if_neg (by omega), if_neg (by omega), if_pos (by omega), unmarked]
      rfl
  by_cases myriads : whole < 10000
  · refine ⟨[2, 1, 0, 4], .of_digits 3 [whole / 1000, whole / 100 % 10, whole / 10 % 10, whole % 10]
      (by decide) rfl (by omega) (by omega) ?_ ?_⟩
    · simp [places]
      omega
    · rw [glyphsOf, if_neg (by omega), if_neg (by omega), if_neg (by omega), if_neg (by omega),
        if_pos (by omega), unmarked]
      rfl
  · refine ⟨[3, 2, 1, 0, 4], .of_digits 4 [whole / 10000 % 10, whole / 1000 % 10, whole / 100 % 10,
      whole / 10 % 10, whole % 10] (by decide) rfl (by omega) (by omega) ?_ ?_⟩
    · simp [places]
      omega
    · rw [glyphsOf, if_neg (by omega), if_neg (by omega), if_neg (by omega), if_neg (by omega),
        if_neg (by omega), unmarked]
      rfl

/-- Whether a code stands at the position of tenths. -/
def isTenths (code : String) : Bool := code.toList.head? == some '5'

/-- What a code shows after its position. -/
def digitsOf (code : String) : List Char := code.toList.drop 1

/-- Codes from which whole metres and tenths can be read: each is a position and one digit. -/
structure Spells (whole fraction : Nat) (codes : List String) : Prop where
  paired : ∀ code ∈ codes, ∃ position digit : Nat, position ≤ 5 ∧ digit ≤ 9 ∧
    code = toString position ++ toString digit
  metres : (codes.filter (fun code => !isTenths code)).flatMap digitsOf = (toString whole).toList
  tenths : codes.filter isTenths = if whole < 31 ∧ 0 < fraction then ["5" ++ toString fraction] else []
  ordered : codes.filter (fun code => !isTenths code) ++ codes.filter isTenths = codes

/-- The characters of a code. -/
theorem toList_code {position digit : Nat} (low : position < 10) (single : digit < 10) :
    (Glyph.mk position digit).code.toList = [position.digitChar, digit.digitChar] := by
  have text : (Glyph.mk position digit).code = toString position ++ toString digit := rfl
  rw [text, String.toList_append, toString_digit low, toString_digit single]
  rfl

theorem isTenths_code {position digit : Nat} (low : position ≤ 5) (single : digit < 10) :
    isTenths (Glyph.mk position digit).code = decide (position = 5) := by
  rw [isTenths, toList_code (by omega) single]
  interval_cases position <;> rfl

theorem digitsOf_code {position digit : Nat} (low : position < 10) (single : digit < 10) :
    digitsOf (Glyph.mk position digit).code = [digit.digitChar] := by
  rw [digitsOf, toList_code low single]
  rfl

theorem mem_shown {positions digits : List Nat} {glyph : Glyph} (member : glyph ∈ shown positions digits) :
    ∃ position ∈ positions, ∃ digit ∈ digits, glyph = ⟨position, digit⟩ := by
  obtain ⟨place, zipped, rfl⟩ := List.mem_map.mp member
  exact ⟨place.1, (List.of_mem_zip zipped).1, place.2, (List.of_mem_zip zipped).2, rfl⟩

theorem flatMap_shown {positions digits : List Nat} (size : positions.length = digits.length)
    (apart : ∀ position ∈ positions, position < 5) (single : ∀ digit ∈ digits, digit < 10) :
    ((shown positions digits).map Glyph.code).flatMap digitsOf = digits.map Nat.digitChar := by
  have each : ∀ place ∈ positions.zip digits,
      digitsOf (Glyph.mk place.1 place.2).code = [place.2.digitChar] := by
    intro place zipped
    have low := apart _ (List.of_mem_zip zipped).1
    exact digitsOf_code (by omega) (single _ (List.of_mem_zip zipped).2)
  calc ((shown positions digits).map Glyph.code).flatMap digitsOf
      = (positions.zip digits).flatMap (fun place => [place.2.digitChar]) := by
        rw [shown, List.map_map, List.flatMap_map]
        exact List.flatMap_congr each
    _ = ((positions.zip digits).map Prod.snd).map Nat.digitChar := by
        rw [List.map_map, ← List.map_eq_flatMap]
        rfl
    _ = digits.map Nat.digitChar := by rw [List.map_snd_zip (Nat.le_of_eq size.symm)]

theorem map_code_tenthsGlyphs (whole fraction : Nat) : (tenthsGlyphs whole fraction).map Glyph.code =
    if whole < 31 ∧ 0 < fraction then ["5" ++ toString fraction] else [] := by
  have five : toString 5 = "5" := by decide
  rw [tenthsGlyphs, apply_ite (List.map Glyph.code), ← five]
  rfl

theorem Spells.of_append {whole fraction : Nat} {metres tenths : List String}
    (paired : ∀ code ∈ metres ++ tenths, ∃ position digit : Nat, position ≤ 5 ∧ digit ≤ 9 ∧
      code = toString position ++ toString digit)
    (plain : ∀ code ∈ metres, isTenths code = false) (marked : ∀ code ∈ tenths, isTenths code = true)
    (digits : metres.flatMap digitsOf = (toString whole).toList)
    (tail : tenths = if whole < 31 ∧ 0 < fraction then ["5" ++ toString fraction] else []) :
    Spells whole fraction (metres ++ tenths) := by
  have first : (metres ++ tenths).filter (fun code => !isTenths code) = metres := by
    rw [List.filter_append, List.filter_eq_self.mpr (by simpa using plain),
      List.filter_eq_nil_iff.mpr (by simpa using marked), List.append_nil]
  have second : (metres ++ tenths).filter isTenths = tenths := by
    rw [List.filter_append, List.filter_eq_nil_iff.mpr (by simpa using plain),
      List.filter_eq_self.mpr marked, List.nil_append]
  exact
    { paired := paired
      metres := by rw [first, digits]
      tenths := by rw [second, tail]
      ordered := by rw [first, second] }

theorem ShownAt.spells {whole fraction : Nat} {positions : List Nat}
    (places : ShownAt whole fraction positions) (single : fraction < 10) :
    Spells whole fraction ((glyphsOf whole fraction).map Glyph.code) := by
  obtain ⟨apart, length, glyphs⟩ := places
  have all : ∀ digit ∈ Text.places positions.length whole, digit < 10 :=
    fun digit member => lt_ten_of_mem_places member
  have tail := map_code_tenthsGlyphs whole fraction
  have spelled := toDigits_eq_places whole
  rw [← length] at spelled
  rw [glyphs, List.map_append]
  refine Spells.of_append ?_ ?_ ?_ ?_ tail
  · intro code member
    rw [tail] at member
    rcases List.mem_append.mp member with front | back
    · obtain ⟨glyph, listed, rfl⟩ := List.mem_map.mp front
      obtain ⟨position, placed, digit, drawn, rfl⟩ := mem_shown listed
      have low := apart position placed
      have small := all digit drawn
      exact ⟨position, digit, by omega, by omega, rfl⟩
    · split at back
      · have five : toString 5 = "5" := by decide
        exact ⟨5, fraction, by omega, by omega, five ▸ List.mem_singleton.mp back⟩
      · cases back
  · intro code member
    obtain ⟨glyph, listed, rfl⟩ := List.mem_map.mp member
    obtain ⟨position, placed, digit, drawn, rfl⟩ := mem_shown listed
    have low := apart position placed
    rw [isTenths_code (by omega) (all digit drawn)]
    exact decide_eq_false (by omega)
  · intro code member
    rw [tail] at member
    split at member
    · simp [List.mem_singleton.mp member, isTenths]
    · cases member
  · rw [flatMap_shown (by rw [length_places]) apart all, ← spelled, toList_toString]

/-- Different depths are spelled differently. -/
theorem Spells.unique {whole fraction other part : Nat} {codes : List String}
    (one : Spells whole fraction codes) (two : Spells other part codes) :
    whole = other ∧ (whole < 31 → fraction = part) := by
  have metres : (toString whole).toList = (toString other).toList := one.metres.symm.trans two.metres
  have same : whole = other := by
    rw [← Text.digitsValue_toString whole, metres, Text.digitsValue_toString]
  subst same
  refine ⟨rfl, fun shallow => ?_⟩
  have tenths := one.tenths.symm.trans two.tenths
  by_cases tenth : 0 < fraction
  · rw [if_pos ⟨shallow, tenth⟩] at tenths
    by_cases present : 0 < part
    · rw [if_pos ⟨shallow, present⟩, List.cons.injEq] at tenths
      have digits : toString fraction = toString part := by
        simpa using tenths.1
      rw [← Text.digitsValue_toString fraction, digits, Text.digitsValue_toString]
    · rw [if_neg (by omega)] at tenths
      cases tenths
  · rw [if_neg (by omega)] at tenths
    by_cases present : 0 < part
    · rw [if_pos ⟨shallow, present⟩] at tenths
      cases tenths
    · omega

/-- From thirty-one metres on, tenths make no difference. -/
theorem glyphsOf_congr {whole fraction part : Nat} (alike : whole < 31 → fraction = part) :
    glyphsOf whole fraction = glyphsOf whole part := by
  by_cases shallow : whole < 31
  · rw [alike shallow]
  · have tens : ¬ (whole : Int) < 10 := by omega
    have deep : ¬ (whole : Int) < 31 := by omega
    simp only [glyphsOf, tens, deep, false_and, ↓reduceIte]

section Depth

variable {α : Type} [Quantity α]

def codes (depth : α) : List String := (glyphs depth).map Glyph.code

variable [SteadyTenths α] {depth : α}

theorem codes_eq (charted : 0.0 ≤ depth) :
    codes depth = (glyphsOf (metres depth) (tenthsOver depth)).map Glyph.code := by
  simp only [codes, glyphs, tdiv_tenths charted, tmod_tenths charted]

theorem spells_codes (charted : 0.0 ≤ depth) (bounded : Quantity.tenths depth < 1000000) :
    Spells (metres depth) (tenthsOver depth) (codes depth) := by
  obtain ⟨positions, places⟩ := exists_shownAt (metres_lt_iff.mpr bounded) (tenthsOver depth)
  rw [codes_eq charted]
  exact places.spells (Nat.mod_lt _ (by decide))

end Depth

/-- Soundings under a hundred thousand metres can be read back from their codes, and they share their codes
exactly when they agree in whole metres and, where these are less than thirty-one, in tenths. In exact
arithmetic, the tenths are the greatest integer under ten times the depth with the small excess. -/
theorem codes_decode {α : Type} [Quantity α] [SteadyTenths α] (depth : α) (charted : 0.0 ≤ depth)
    (bounded : Quantity.tenths depth < 1000000) :
    Spells (metres depth) (tenthsOver depth) (codes depth) ∧
      (∀ other : α, 0.0 ≤ other → Quantity.tenths other < 1000000 →
        (codes depth = codes other ↔
          metres depth = metres other ∧ (metres depth < 31 → tenthsOver depth = tenthsOver other))) ∧
      ∀ exact : Rat, Quantity.tenths exact = ⌊10 * exact + 1 / 10 ^ 9⌋ := by
  refine ⟨spells_codes charted bounded, fun other beside limited => ⟨fun same => ?_, ?_⟩, tenths_eq_floor⟩
  · exact (spells_codes charted bounded).unique (same ▸ spells_codes beside limited)
  · rintro ⟨whole, tenths⟩
    rw [codes_eq charted, codes_eq beside, ← whole, glyphsOf_congr tenths]

theorem codes_decode_seven :
    (0.0 : Rat) ≤ 7.3 ∧ Quantity.tenths (7.3 : Rat) < 1000000 ∧
      Spells 7 3 (codes (7.3 : Rat)) ∧ codes (7.3 : Rat) ≠ codes (7.4 : Rat) := by
  have charted : (0.0 : Rat) ≤ 7.3 := by decide +kernel
  have bounded : Quantity.tenths (7.3 : Rat) < 1000000 := by decide +kernel
  have whole : metres (7.3 : Rat) = 7 := by decide +kernel
  have part : tenthsOver (7.3 : Rat) = 3 := by decide +kernel
  obtain ⟨spells, apart, -⟩ := codes_decode (7.3 : Rat) charted bounded
  rw [whole, part] at spells
  refine ⟨charted, bounded, spells, fun same => ?_⟩
  have tenths := ((apart 7.4 (by decide +kernel) (by decide +kernel)).mp same).2 (by decide +kernel)
  exact absurd tenths (by decide +kernel)

end ChartPortrayal.Sounding
