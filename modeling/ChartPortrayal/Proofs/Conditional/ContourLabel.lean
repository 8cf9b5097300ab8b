import ChartPortrayal.Proofs.Number.Digits
import ChartPortrayal.Proofs.Number.Tenths
import ChartPortrayal.Conditional.Depth

/-! Labels of contours. A label spells the whole metres digit by digit, each digit named by its place, and has
the glyphs it needs as long as the tenths of the depth do not round up to a hundred thousand metres. -/

namespace ChartPortrayal.Depth

open Quantity (metres tenthsOver tdiv_tenths tmod_tenths metres_lt_iff)

/-- The glyph of a digit at a place of the whole metres, counted from the ones. -/
def digitGlyph (place : Nat) (digit : Char) : Directive :=
  .symbol ("SAFCON" ++ toString place ++ digit.toString)

/-- The digits that a number is written with. -/
def numeral (number : Nat) : List Char := (toString number).toList

/-- A label whose first glyphs spell the whole metres, their places descending to the ones, and which ends
with the tenths of a depth of less than ten metres. -/
structure Spells (whole fraction : Nat) (label : List Directive) : Prop where
  digits : ∀ index (inside : index < (numeral whole).length),
    label[index]? = some (digitGlyph ((numeral whole).length - 1 - index) (numeral whole)[index])
  tenths : label.drop (numeral whole).length =
    if whole < 10 ∧ 0 < fraction then [.symbol ("SAFCON6" ++ toString fraction)] else []

/-- A label of glyphs that exist: digits have five places, and tenths one of their own. -/
def WithinGlyphs (label : List Directive) : Prop :=
  ∀ directive ∈ label, ∃ place digit : Nat, (place ≤ 4 ∨ place = 6) ∧ digit ≤ 9 ∧
    directive = .symbol ("SAFCON" ++ toString place ++ toString digit)

variable {α : Type} [Quantity α]

theorem label_outside {depth : α} (outside : ¬ (0.0 ≤ depth ∧ depth < 100000.0)) : label depth = [] :=
  if_neg outside

/-- The glyphs of the digits alone. -/
def digitGlyphs (whole : Nat) : List Directive :=
  ((List.range (numeral whole).length).reverse.zip (numeral whole)).map
    (fun glyph => digitGlyph glyph.1 glyph.2)

theorem label_inside [SteadyTenths α] {depth : α} (charted : 0.0 ≤ depth) (bounded : depth < 100000.0) :
    label depth = digitGlyphs (metres depth) ++
      if metres depth < 10 ∧ 0 < tenthsOver depth then
        [.symbol ("SAFCON6" ++ toString (tenthsOver depth))] else [] := by
  rw [label, if_pos ⟨charted, bounded⟩]
  simp only [tdiv_tenths charted, tmod_tenths charted]
  have same : ((metres depth : Int) < 10 ∧ (0 : Int) < tenthsOver depth) ↔
      metres depth < 10 ∧ 0 < tenthsOver depth := by omega
  rw [if_congr same rfl rfl]
  split
  · rfl
  · exact (List.append_nil _).symm

theorem length_digitGlyphs (whole : Nat) : (digitGlyphs whole).length = (numeral whole).length := by
  simp [digitGlyphs]

theorem getElem?_digitGlyphs {whole index : Nat} (inside : index < (numeral whole).length) :
    (digitGlyphs whole)[index]? =
      some (digitGlyph ((numeral whole).length - 1 - index) (numeral whole)[index]) := by
  simp [digitGlyphs, inside]

theorem spells_label [SteadyTenths α] {depth : α} (charted : 0.0 ≤ depth) (bounded : depth < 100000.0) :
    Spells (metres depth) (tenthsOver depth) (label depth) := by
  rw [label_inside charted bounded]
  constructor
  · intro index inside
    rw [List.getElem?_append_left (by rwa [length_digitGlyphs]), getElem?_digitGlyphs inside]
  · rw [← length_digitGlyphs, List.drop_left]

theorem exists_digit_of_mem_numeral {number : Nat} {char : Char} (member : char ∈ numeral number) :
    ∃ digit < 10, char.toString = toString digit := by
  rw [numeral, Text.toList_toString, Text.toDigits_eq_places] at member
  obtain ⟨digit, listed, rfl⟩ := List.mem_map.mp member
  have single := Text.lt_ten_of_mem_places listed
  refine ⟨digit, single, String.toList_inj.mp ?_⟩
  rw [Text.toString_digit single]
  simp

theorem numeral_length_le_iff (whole : Nat) : (numeral whole).length ≤ 5 ↔ whole < 100000 := by
  rw [numeral, Text.toList_toString]
  exact Nat.length_toDigits_le_iff (by decide) (by decide)

/-- There is no glyph for a sixth digit. -/
theorem digitGlyph_five_ne {place : Nat} (low : place ≤ 4 ∨ place = 6) (char : Char) (digit : Nat) :
    digitGlyph 5 char ≠ .symbol ("SAFCON" ++ toString place ++ toString digit) := by
  intro same
  have names : "SAFCON" ++ toString 5 ++ char.toString = "SAFCON" ++ toString place ++ toString digit :=
    congrArg Directive.payload same
  have chars := congrArg String.toList names
  simp only [String.toList_append, List.append_assoc, List.append_cancel_left_eq,
    Text.toString_digit (show 5 < 10 by decide), Text.toString_digit (show place < 10 by omega),
    List.cons_append, List.cons.injEq] at chars
  have first := chars.1
  rcases low with low | rfl
  · interval_cases place <;> cases first
  · cases first

theorem withinGlyphs_label_iff [SteadyTenths α] {depth : α} (charted : 0.0 ≤ depth)
    (bounded : depth < 100000.0) :
    WithinGlyphs (label depth) ↔ Quantity.tenths depth < 1000000 := by
  rw [← metres_lt_iff, ← numeral_length_le_iff]
  constructor
  · intro within
    by_contra long
    have inside : (numeral (metres depth)).length - 6 < (numeral (metres depth)).length := by omega
    have sixth := (spells_label charted bounded).digits _ inside
    obtain ⟨place, digit, low, -, same⟩ := within _ (List.mem_of_getElem? sixth)
    have five : (numeral (metres depth)).length - 1 - ((numeral (metres depth)).length - 6) = 5 := by omega
    rw [five] at same
    exact digitGlyph_five_ne low _ _ same
  · intro short directive member
    rw [label_inside charted bounded] at member
    rcases List.mem_append.mp member with front | back
    · obtain ⟨⟨place, char⟩, zipped, rfl⟩ := List.mem_map.mp front
      obtain ⟨placed, drawn⟩ := List.of_mem_zip zipped
      obtain ⟨digit, single, text⟩ := exists_digit_of_mem_numeral drawn
      have least : place < (numeral (metres depth)).length := by simpa using placed
      exact ⟨place, digit, .inl (by omega), by omega, by rw [digitGlyph, text]⟩
    · split at back
      · have six : "SAFCON" ++ toString 6 = "SAFCON6" := by decide
        have single : tenthsOver depth < 10 := Nat.mod_lt _ (by decide)
        exact ⟨6, tenthsOver depth, .inr rfl, by omega, by rw [six]; exact List.mem_singleton.mp back⟩
      · cases back

theorem tenths_lt_iff (depth : Rat) : Quantity.tenths depth < 1000000 ↔ depth < 100000 - 1 / 10 ^ 10 := by
  rw [tenths_eq_floor, Int.floor_lt]
  constructor <;> intro less <;> push_cast at * <;> linarith

/-- A label stands inside the guard only, where it spells the whole metres and tenths of the depth. It has one
digit at least, and it has no more than five digits and no glyphs but those that exist exactly when the depth
has less than a million tenths. In exact arithmetic the depths that have more start just under the guard. -/
theorem label_spells {α : Type} [Quantity α] [SteadyTenths α] (depth : α) :
    (¬ (0.0 ≤ depth ∧ depth < 100000.0) → label depth = []) ∧
      (0.0 ≤ depth → depth < 100000.0 →
        Spells (metres depth) (tenthsOver depth) (label depth) ∧
          0 < (numeral (metres depth)).length ∧
          ((numeral (metres depth)).length ≤ 5 ↔ Quantity.tenths depth < 1000000) ∧
          (WithinGlyphs (label depth) ↔ Quantity.tenths depth < 1000000)) ∧
      ∀ exact : Rat, Quantity.tenths exact < 1000000 ↔ exact < 100000 - 1 / 10 ^ 10 :=
  ⟨label_outside,
    fun charted bounded =>
      ⟨spells_label charted bounded, List.length_pos_iff.mpr (Text.toList_toString_ne_nil _),
        (numeral_length_le_iff _).trans metres_lt_iff, withinGlyphs_label_iff charted bounded⟩,
    tenths_lt_iff⟩

theorem label_spells_five_and_half :
    (0.0 : Float) ≤ 5.5 ∧ (5.5 : Float) < 100000.0 ∧ Spells 5 5 (label (5.5 : Float)) ∧
      WithinGlyphs (label (5.5 : Float)) := by
  have charted : (0.0 : Float) ≤ 5.5 := by decide +kernel
  have bounded : (5.5 : Float) < 100000.0 := by decide +kernel
  have whole : metres (5.5 : Float) = 5 := by decide +kernel
  have part : tenthsOver (5.5 : Float) = 5 := by decide +kernel
  obtain ⟨spells, -, -, within⟩ := (label_spells (5.5 : Float)).2.1 charted bounded
  rw [whole, part] at spells
  exact ⟨charted, bounded, spells, within.mpr (by decide +kernel)⟩

/-- A depth just under the guard is carried past five digits. -/
theorem not_label_within_glyphs :
    ¬ ∀ depth : Float, 0.0 ≤ depth → depth < 100000.0 →
      (numeral (metres depth)).length ≤ 5 ∧ WithinGlyphs (label depth) := by
  intro within
  have short := (within 99999.99999999999 (by decide +kernel) (by decide +kernel)).1
  exact absurd short (by decide +kernel)

end ChartPortrayal.Depth
