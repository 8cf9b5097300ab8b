import ChartPortrayal.Proofs.Number.Nearest
import ChartPortrayal.Proofs.Number.Plain

namespace ChartPortrayal

/-- Negative numbers that are rounded to zero. -/
def Vanishes (number : Float) : Prop :=
  ∃ value, (FloatValue.ofFloat number).rational? = some value ∧ -(1 / 200) ≤ value ∧ value < 0

theorem not_vanishes_of_nonneg {number : Float} {value : Rat}
    (exact : (FloatValue.ofFloat number).rational? = some value) (least : 0 ≤ value) : ¬ Vanishes number := by
  rintro ⟨other, same, -, below⟩
  obtain rfl := Option.some.inj (exact.symm.trans same)
  exact below.not_ge least

theorem not_vanishes_word {number : Float} (word : (FloatValue.ofFloat number).rational? = none) :
    ¬ Vanishes number := by
  rintro ⟨value, finite, -⟩
  rw [word] at finite
  cases finite

/-- A finite number with its sign and the hundredths nearest to it. -/
inductive IsHundredths (number : Float) : Bool → Nat → Prop where
  | intro {value : Rat} {units : Nat} (exact : (FloatValue.ofFloat number).rational? = some value)
      (nearest : IsNearest (|value| * 100) units) : IsHundredths number (decide (value < 0)) units

namespace FloatValue

theorem exists_isNearest (value : Rat) : ∃ units, IsNearest (|value| * 100) units := by
  have divisor : 0 < value.den := value.den_pos
  refine ⟨roundDiv (value.num.natAbs * 100) value.den, ?_⟩
  have size : |value| * 100 = (value.num.natAbs * 100 : Nat) / value.den := by
    rw [Rat.abs_def, Rat.divInt_eq_div, div_mul_eq_mul_div, Nat.cast_mul, Int.cast_natCast, Int.cast_natCast]
    rfl
  rw [size]
  exact isNearest_roundDiv _ divisor

theorem exists_greatest : ∃ whole : Nat, greatest = whole := by
  refine ⟨(2 ^ 53 - 1) * 2 ^ (971 : Nat), ?_⟩
  rw [greatest, magnitude, Nat.cast_mul, Nat.cast_pow]
  rfl

theorem magnitude_pos_of_isClosest {units significand : Nat} {exponent : Int}
    (closest : IsClosest (units / 100) significand exponent)
    (nearest : IsNearest (magnitude significand exponent * 100) units) :
    0 < magnitude significand exponent ↔ units ≠ 0 := by
  have least := magnitude_nonneg significand exponent
  constructor
  · rintro positive rfl
    have none := closest 0 0 ⟨by decide, by decide, by decide⟩
    rw [magnitude_zero, Nat.cast_zero, zero_div, zero_sub, abs_neg, sub_zero, abs_zero, abs_of_nonneg least] at none
    exact absurd positive none.not_gt
  · intro filled
    refine least.lt_of_ne' (fun zero => filled ?_)
    rw [zero, zero_mul] at nearest
    exact nearest.unique (.self 0)

end FloatValue

theorem exists_isHundredths {number : Float} {value : Rat}
    (exact : (FloatValue.ofFloat number).rational? = some value) :
    ∃ negative units, IsHundredths number negative units := by
  obtain ⟨units, nearest⟩ := FloatValue.exists_isNearest value
  exact ⟨_, units, .intro exact nearest⟩

namespace IsHundredths

open FloatValue (IsBinary IsClosest magnitude magnitude_nonneg greatest)

variable {number : Float} {negative : Bool} {units : Nat}

theorem plain (rounded : IsHundredths number negative units) :
    Quantity.plain number = plainText negative units := by
  obtain ⟨exact, nearest⟩ := rounded
  exact FloatValue.plain_eq exact nearest

/-- The fraction that a finite number is printed as. -/
theorem read?_plain (rounded : IsHundredths number negative units) :
    (Quantity.read? (Quantity.plain number) : Option Rat) = some (signed negative (units / 100)) := by
  rw [rounded.plain, read?_plainText_exact]

theorem vanishes_iff (rounded : IsHundredths number negative units) :
    Vanishes number ↔ negative = true ∧ units = 0 := by
  obtain @⟨value, units, exact, nearest⟩ := rounded
  have zero : value < 0 → (units = 0 ↔ -(1 / 200) ≤ value) := by
    intro below
    rw [nearest.eq_zero_iff (by positivity), abs_of_neg below]
    constructor <;> intro half <;> linarith
  rw [decide_eq_true_iff]
  constructor
  · rintro ⟨other, same, half, below⟩
    obtain rfl := Option.some.inj (exact.symm.trans same)
    exact ⟨below, (zero below).mpr half⟩
  · rintro ⟨below, none⟩
    exact ⟨value, exact, (zero below).mp none, below⟩

theorem exists_binary (rounded : IsHundredths number negative units) :
    ∃ significand exponent, IsBinary significand exponent ∧
      IsNearest (magnitude significand exponent * 100) units := by
  obtain ⟨exact, nearest⟩ := rounded
  rcases parts : FloatValue.ofFloat number with ⟨negative, significand, exponent⟩ | _ | _ <;>
    rw [parts] at exact
  · obtain rfl := Option.some.inj exact
    have size := abs_signed negative (magnitude_nonneg significand exponent)
    exact ⟨significand, exponent, FloatValue.isBinary_of_ofBits parts, size ▸ nearest⟩
  · cases exact
  · cases exact

/-- The greatest finite number is whole, so that no number is rounded to hundredths above it. -/
theorem le_greatest (rounded : IsHundredths number negative units) : (units / 100 : Rat) ≤ greatest := by
  obtain ⟨significand, exponent, binary, nearest⟩ := rounded.exists_binary
  obtain ⟨whole, greatest_eq⟩ := FloatValue.exists_greatest
  have below := binary.le_greatest
  rw [greatest_eq] at below
  have bounded : magnitude significand exponent * 100 ≤ (whole * 100 : Nat) := by
    push_cast
    linarith
  have fits : (units : Rat) ≤ (whole * 100 : Nat) := by exact_mod_cast nearest.le_of_le bounded
  push_cast at fits
  rw [greatest_eq]
  linarith

/-- The number closest to some hundredths is rounded to them, since a number was rounded to them before. -/
theorem of_isClosest (rounded : IsHundredths number negative units) {significand : Nat} {exponent : Int}
    (closest : IsClosest (units / 100) significand exponent) :
    IsNearest (magnitude significand exponent * 100) units := by
  obtain ⟨other, power, binary, nearest⟩ := rounded.exists_binary
  have scaled (size : Rat) : |size * 100 - units| = |units / 100 - size| * 100 := by
    have distance : size * 100 - units = -(units / 100 - size) * 100 := by ring
    rw [distance, abs_mul, abs_neg, abs_of_pos (show (0 : Rat) < 100 by norm_num)]
  refine nearest.of_closer ?_
  rw [scaled, scaled]
  exact mul_le_mul_of_nonneg_right (closest other power binary) (by norm_num)

/-- What is read from the plain form of a number is rounded to the same hundredths, and keeps the sign if there
are any. -/
theorem exists_again (rounded : IsHundredths number negative units) :
    ∃ again, Quantity.read? (Quantity.plain number) = some again ∧
      IsHundredths again (negative && units != 0) units := by
  obtain ⟨numerator, denominator, positive, equal, read⟩ := read?_plainText_float negative units
  obtain ⟨significand, exponent, parts, closest⟩ :=
    FloatValue.exists_closest negative numerator positive (equal ▸ rounded.le_greatest)
  rw [equal] at closest
  have near := rounded.of_isClosest closest
  have least := magnitude_nonneg significand exponent
  have sign : decide (signed negative (magnitude significand exponent) < 0) = (negative && units != 0) := by
    rw [Bool.eq_iff_iff, decide_eq_true_iff, signed_lt_zero_iff least,
      FloatValue.magnitude_pos_of_isClosest closest near, Bool.and_eq_true, bne_iff_ne]
  refine ⟨_, rounded.plain ▸ read, ?_⟩
  rw [← sign]
  refine .intro ?_ ?_
  · rw [parts]
    rfl
  · rwa [abs_signed _ least]

end IsHundredths

/-- A value to two decimal places, the nearest of them with the sign of the value. -/
inductive IsRounded (value : Rat) : Rat → Prop where
  | intro {units : Nat} (nearest : IsNearest (|value| * 100) units) :
      IsRounded value (signed (decide (value < 0)) (units / 100))

/-- Whole values are kept. -/
theorem IsRounded.eq_of_whole {whole : Int} {shown : Rat} (rounded : IsRounded whole shown) :
    shown = whole := by
  obtain ⟨nearest⟩ := rounded
  have size : ((whole.natAbs * 10 ^ 2 : Nat) / 100 : Rat) = |(whole : Rat)| := by
    rw [Nat.cast_mul, Nat.cast_natAbs, Int.cast_abs]
    norm_num
  rw [nearest.eq_natAbs, size, signed]
  split
  · next below => rw [abs_of_neg (of_decide_eq_true below), neg_neg]
  · next other => exact abs_of_nonneg (not_lt.mp (of_decide_eq_false (Bool.eq_false_of_not_eq_true other)))

/-- Whole numbers are written as integers, without a point. -/
theorem plain_of_whole {number : Float} {whole : Int}
    (exact : (FloatValue.ofFloat number).rational? = some (whole : Rat)) :
    Quantity.plain number = toString whole := by
  obtain ⟨units, nearest⟩ := FloatValue.exists_isNearest whole
  have rounded : IsHundredths number _ units := .intro exact nearest
  rw [rounded.plain, plainText, nearest.eq_natAbs, stripZeros_whole, toString_int]
  exact congrArg (signText · ++ _) (decide_eq_decide.mpr Int.cast_lt_zero)

namespace FloatValue

/-- The words for what is not finite are read as they are written. -/
theorem exists_again_word {number : Float} (word : (ofFloat number).rational? = none) :
    ∃ again, Quantity.read? (Quantity.plain number) = some again ∧ ofFloat again = ofFloat number := by
  change ∃ again, Quantity.read? (ofFloat number).plain = some again ∧ _
  cases parts : ofFloat number with
  | finite negative significand exponent =>
    rw [parts] at word
    cases word
  | infinite negative =>
    have read : Numeral.read? (signText negative ++ "inf") = some (.infinite negative) := by
      cases negative <;> rfl
    have kept : ofFloat (infinite negative).toFloat = .infinite negative := by
      cases negative <;> rfl
    refine ⟨_, ?_, kept⟩
    rw [plain, Quantity.read?, read]
    rfl
  | undefined =>
    have read : Numeral.read? "NaN" = some .undefined := rfl
    have kept : ofFloat undefined.toFloat = .undefined := rfl
    refine ⟨_, ?_, kept⟩
    rw [plain, Quantity.read?, read]
    rfl

end FloatValue

/-- The number that is read from the plain form of a number. -/
def reread (number : Float) : Float := (Quantity.read? (Quantity.plain number)).getD number

section Reread

variable {number : Float} {negative : Bool} {units : Nat}

theorem IsHundredths.reread (rounded : IsHundredths number negative units) :
    IsHundredths (reread number) (negative && units != 0) units := by
  obtain ⟨again, read, near⟩ := rounded.exists_again
  rwa [ChartPortrayal.reread, read, Option.getD_some]

theorem ofFloat_reread (word : (FloatValue.ofFloat number).rational? = none) :
    FloatValue.ofFloat (reread number) = FloatValue.ofFloat number := by
  obtain ⟨again, read, same⟩ := FloatValue.exists_again_word word
  rw [reread, read, Option.getD_some, same]

/-- Whatever is printed can be read. -/
theorem read?_reread (number : Float) : Quantity.read? (Quantity.plain number) = some (reread number) := by
  have read : ∃ again : Float, Quantity.read? (Quantity.plain number) = some again := by
    cases exact : (FloatValue.ofFloat number).rational? with
    | none => exact (FloatValue.exists_again_word exact).imp fun _ => And.left
    | some value =>
      obtain ⟨negative, units, rounded⟩ := exists_isHundredths exact
      exact rounded.exists_again.imp fun _ => And.left
  obtain ⟨again, read⟩ := read
  rw [reread, read, Option.getD_some]

/-- Short whole numbers are read as they are. -/
theorem reread_of_whole (whole : IsWholeNumber number) : reread number = number := by
  rw [reread, read?_plain whole, Option.getD_some]

/-- Printing what was read changes the sign of a vanishing number, and nothing else. -/
theorem plain_reread_iff (number : Float) :
    Quantity.plain (reread number) = Quantity.plain number ↔ ¬ Vanishes number := by
  cases exact : (FloatValue.ofFloat number).rational? with
  | none => exact iff_of_true (congrArg FloatValue.plain (ofFloat_reread exact)) (not_vanishes_word exact)
  | some value =>
    obtain ⟨negative, units, rounded⟩ := exists_isHundredths exact
    rw [rounded.plain, rounded.reread.plain, plainText_eq_iff, rounded.vanishes_iff]
    cases negative <;> simp

theorem not_vanishes_reread (number : Float) : ¬ Vanishes (reread number) := by
  cases exact : (FloatValue.ofFloat number).rational? with
  | none => exact not_vanishes_word ((congrArg FloatValue.rational? (ofFloat_reread exact)).trans exact)
  | some value =>
    obtain ⟨negative, units, rounded⟩ := exists_isHundredths exact
    rw [rounded.reread.vanishes_iff]
    simp

theorem plain_of_vanishes (vanishes : Vanishes number) :
    Quantity.plain number = "-0" ∧ Quantity.plain (reread number) = "0" := by
  obtain ⟨value, exact, -⟩ := id vanishes
  obtain ⟨negative, units, rounded⟩ := exists_isHundredths exact
  obtain ⟨rfl, rfl⟩ := rounded.vanishes_iff.mp vanishes
  rw [rounded.plain, rounded.reread.plain]
  exact ⟨rfl, rfl⟩

/-- Only what is finite is printed as a fraction. -/
theorem exists_isHundredths_of_read {shown : Rat}
    (read : Quantity.read? (Quantity.plain number) = some shown) :
    ∃ negative units, IsHundredths number negative units ∧ signed negative (units / 100) = shown := by
  change Quantity.read? (FloatValue.ofFloat number).plain = some shown at read
  cases parts : FloatValue.ofFloat number with
  | finite sign significand exponent =>
    obtain ⟨negative, units, rounded⟩ := exists_isHundredths (congrArg FloatValue.rational? parts)
    exact ⟨negative, units, rounded, Option.some.inj (rounded.read?_plain.symm.trans read)⟩
  | infinite negative =>
    have none : (Quantity.read? (FloatValue.infinite negative).plain : Option Rat) = none := by
      cases negative <;> rfl
    rw [parts, none] at read
    cases read
  | undefined =>
    have none : (Quantity.read? FloatValue.undefined.plain : Option Rat) = none := rfl
    rw [parts, none] at read
    cases read

/-- Numbers that are printed as the same fraction. -/
def PrintAlike (number other : Float) : Prop :=
  ∃ shown : Rat, Quantity.read? (Quantity.plain number) = some shown ∧
    Quantity.read? (Quantity.plain other) = some shown

/-- Two numbers that are printed as the same fraction have the same text unless one of them vanishes and the
other does not, and what is read from their texts has the same text in any case. -/
theorem PrintAlike.plain_eq_iff {other : Float} (alike : PrintAlike number other) :
    (Quantity.plain number = Quantity.plain other ↔ (Vanishes number ↔ Vanishes other)) ∧
      Quantity.plain (reread number) = Quantity.plain (reread other) := by
  obtain ⟨shown, read, again⟩ := alike
  obtain ⟨negative, units, rounded, rfl⟩ := exists_isHundredths_of_read read
  obtain ⟨minus, hundredths, near, same⟩ := exists_isHundredths_of_read again
  rw [signed_eq_iff (by positivity) (by positivity)] at same
  obtain ⟨equal, signs⟩ := same
  obtain rfl : hundredths = units := by
    exact_mod_cast (div_left_inj' (show (100 : Rat) ≠ 0 by norm_num)).mp equal
  rw [rounded.plain, near.plain, rounded.reread.plain, near.reread.plain, plainText_eq_iff, plainText_eq_iff,
    rounded.vanishes_iff, near.vanishes_iff]
  rcases Nat.eq_zero_or_pos hundredths with rfl | filled
  · cases negative <;> cases minus <;> simp
  · obtain rfl := signs (by positivity)
    simp

/-- The same goes for lists of numbers. -/
theorem PrintAlike.map_plain_iff {numbers others : List Float} (alike : List.Forall₂ PrintAlike numbers others) :
    (numbers.map Quantity.plain = others.map Quantity.plain ↔
      List.Forall₂ (fun number other => Vanishes number ↔ Vanishes other) numbers others) ∧
    (numbers.map reread).map Quantity.plain = (others.map reread).map Quantity.plain := by
  induction alike with
  | nil => exact ⟨iff_of_true rfl .nil, rfl⟩
  | cons here _ ih =>
    obtain ⟨texts, again⟩ := here.plain_eq_iff
    refine ⟨?_, congrArg₂ List.cons again ih.2⟩
    rw [List.map_cons, List.map_cons, List.cons_eq_cons, List.forall₂_cons, texts, ih.1]

end Reread

/-- What is asked of the text of a finite number and of the number that is read from it. -/
structure IsCanonical (number : Float) (value : Rat) : Prop where
  rounded : ∃ shown : Rat, Quantity.read? (Quantity.plain number) = some shown ∧ IsRounded value shown
  whole : ∀ integer : Int, value = integer →
    Quantity.plain number = toString integer ∧ Quantity.read? (Quantity.plain number) = some value
  plainly : EndsPlainly (Quantity.plain number)
  read : Quantity.read? (Quantity.plain number) = some (reread number)
  stable : Quantity.plain (reread number) = Quantity.plain number ↔ ¬ Vanishes number
  vanishing : Vanishes number →
    Quantity.plain number = "-0" ∧ Quantity.plain (reread number) = "0"

theorem isCanonical {number : Float} {value : Rat} (exact : (FloatValue.ofFloat number).rational? = some value) :
    IsCanonical number value := by
  obtain ⟨units, nearest⟩ := FloatValue.exists_isNearest value
  have hundredths : IsHundredths number _ units := .intro exact nearest
  have read := hundredths.read?_plain
  constructor
  case rounded => exact ⟨_, read, .intro nearest⟩
  case whole =>
    rintro integer rfl
    have rounded : IsRounded integer _ := .intro nearest
    rw [rounded.eq_of_whole] at read
    exact ⟨plain_of_whole exact, read⟩
  case plainly =>
    rw [hundredths.plain]
    exact endsPlainly_plainText ..
  case read => exact read?_reread number
  case stable => exact plain_reread_iff number
  case vanishing => exact plain_of_vanishes

end ChartPortrayal
