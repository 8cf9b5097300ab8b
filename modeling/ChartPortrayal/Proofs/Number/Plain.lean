import ChartPortrayal.Proofs.Number.Decimals

/-! The plain form of numbers as a text. It is made of the hundredths nearest to the number, in the fewest places, and
it is read as the number of these hundredths. -/

namespace ChartPortrayal

/-- A value with a sign in front of it, if there is to be one. -/
def signed (negative : Bool) (size : Rat) : Rat := if negative then -size else size

theorem abs_signed (negative : Bool) {size : Rat} (least : 0 ≤ size) : |signed negative size| = size := by
  cases negative with
  | false => exact abs_of_nonneg least
  | true => exact (abs_neg size).trans (abs_of_nonneg least)

theorem signed_lt_zero_iff {negative : Bool} {size : Rat} (least : 0 ≤ size) :
    signed negative size < 0 ↔ negative = true ∧ 0 < size := by
  cases negative with
  | false => simpa [signed] using least
  | true => simp [signed]

/-- Values with a sign are the same when their sizes are, and their signs too unless the size is zero. -/
theorem signed_eq_iff {negative other : Bool} {size width : Rat} (least : 0 ≤ size) (few : 0 ≤ width) :
    signed negative size = signed other width ↔ size = width ∧ (size ≠ 0 → negative = other) := by
  constructor
  · intro same
    have sizes : size = width := by
      rw [← abs_signed negative least, same, abs_signed other few]
    refine ⟨sizes, fun filled => ?_⟩
    have positive := least.lt_of_ne' filled
    have below := congrArg (· < 0) same
    simpa [signed_lt_zero_iff least, signed_lt_zero_iff few, ← sizes, positive] using below
  · rintro ⟨rfl, signs⟩
    by_cases zero : size = 0
    · simp [signed, zero]
    · rw [signs zero]

/-- The plain form of so many hundredths. -/
def plainText (negative : Bool) (units : Nat) : String :=
  signText negative ++ stripZeros (FloatValue.withPoint 2 units)

/-- Nothing is left of the places of a whole number. -/
theorem stripZeros_whole (whole : Nat) :
    stripZeros (FloatValue.withPoint 2 (whole * 10 ^ 2)) = toString whole := by
  have shown : whole * 10 ^ 2 / 10 / 10 = whole := by omega
  rw [FloatValue.stripZeros_withPoint_of_idle 1 (by omega), if_neg (by decide),
    FloatValue.stripZeros_withPoint_of_idle 0 (by omega), if_pos rfl, shown, FloatValue.withPoint, pow_zero,
    Nat.div_one]
  exact String.append_empty

namespace FloatValue

/-- Whether the plain form of a quotient has the digits of an integer or those of a fraction, they are those of
its hundredths, and zero has no sign. -/
theorem plainQuotient_eq (negative : Bool) (numerator : Nat) {denominator : Nat} (positive : 0 < denominator) :
    plainQuotient negative numerator denominator =
      plainText (negative && numerator != 0) (roundDiv (numerator * 10 ^ 2) denominator) := by
  unfold plainQuotient plainText
  dsimp only
  split
  · next short =>
    obtain ⟨exact, -⟩ := short
    obtain ⟨whole, rfl⟩ := Nat.dvd_of_mod_eq_zero exact
    have shifted : denominator * whole * 10 ^ 2 = whole * 10 ^ 2 * denominator := by ring
    rw [Nat.mul_div_cancel_left _ positive, shifted, roundDiv_mul _ positive, stripZeros_whole]
    have sign : (denominator * whole != 0) = (whole != 0) := by
      rw [Bool.eq_iff_iff, bne_iff_ne, bne_iff_ne, Nat.mul_ne_zero_iff]
      exact and_iff_right (Nat.ne_of_gt positive)
    rw [sign]
  · next other =>
    have filled : numerator ≠ 0 := by
      rintro rfl
      exact other ⟨Nat.zero_mod _, by rw [Nat.zero_div]; decide⟩
    rw [fixedPlaces_eq, bne_iff_ne.mpr filled, Bool.and_true]

theorem magnitude_pos_iff (significand : Nat) (exponent : Int) :
    0 < magnitude significand exponent ↔ (quotient significand exponent).1 ≠ 0 := by
  have divisor : (0 : Rat) < (quotient significand exponent).2 := by
    exact_mod_cast quotient_pos significand exponent
  rw [← quotient_eq_magnitude, lt_div_iff₀ divisor, zero_mul, Nat.cast_pos, Nat.pos_iff_ne_zero]

/-- A finite number has the plain form of the hundredths nearest to it. -/
theorem plain_eq {number : FloatValue} {value : Rat} (exact : number.rational? = some value) {units : Nat}
    (nearest : IsNearest (|value| * 100) units) : number.plain = plainText (decide (value < 0)) units := by
  cases number with
  | infinite => cases exact
  | undefined => cases exact
  | finite negative significand exponent =>
    obtain rfl : signed negative (magnitude significand exponent) = value := Option.some.inj exact
    have least := magnitude_nonneg significand exponent
    have positive := quotient_pos significand exponent
    have scaled := magnitude_mul_eq 2 significand exponent
    rw [abs_signed negative least, show (100 : Rat) = 10 ^ 2 by norm_num, scaled, isNearest_iff positive] at nearest
    have sign : (negative && (quotient significand exponent).1 != 0) =
        decide (signed negative (magnitude significand exponent) < 0) := by
      rw [Bool.eq_iff_iff, decide_eq_true_iff, signed_lt_zero_iff least, Bool.and_eq_true, bne_iff_ne,
        magnitude_pos_iff]
    rw [nearest, ← sign]
    exact plainQuotient_eq negative _ positive

end FloatValue

namespace Numeral

/-- What a decimal without an exponent of its own denotes. -/
theorem toFraction?_decimal (negative : Bool) (places kept : Nat) :
    (finite negative kept (-places)).toFraction? = some (signed negative (kept / 10 ^ places)) := by
  have size : (if (0 : Int) ≤ -places then mkRat ((kept * Nat.pow 10 (-(places : Int)).toNat : Nat) : Int) 1
      else mkRat kept (Nat.pow 10 (- -(places : Int)).toNat)) = kept / 10 ^ places := by
    rcases Nat.eq_zero_or_pos places with rfl | filled
    · rw [if_pos (by omega), Rat.mkRat_eq_div]
      simp
    · rw [if_neg (by omega), Rat.mkRat_eq_div]
      simp
  rw [toFraction?, signed, ← size]
  rfl

/-- A decimal of a few places is read as a number made from a quotient of the same value. -/
theorem toFloat_decimal (negative : Bool) {places : Nat} (few : places ≤ 2) (kept : Nat) :
    ∃ numerator denominator : Nat, 0 < denominator ∧
      (numerator / denominator : Rat) = kept / 10 ^ places ∧
      (finite negative kept (-places)).toFloat = FloatValue.nearest negative numerator denominator := by
  rw [toFloat]
  by_cases zero : kept = 0
  · exact ⟨0, 1, Nat.one_pos, by simp [zero], if_pos zero⟩
  · rw [if_neg zero, if_neg (by omega), if_neg (by omega)]
    rcases Nat.eq_zero_or_pos places with rfl | filled
    · rw [if_pos (by omega)]
      exact ⟨kept, 1, Nat.one_pos, by simp, by simp⟩
    · rw [if_neg (by omega), neg_neg, Int.toNat_natCast]
      exact ⟨kept, 10 ^ places, Nat.pow_pos (by decide), by push_cast; rfl, rfl⟩

end Numeral

/-- A sign does not change how a text ends. -/
theorem EndsPlainly.signed {text : String} (plainly : EndsPlainly text) (negative : Bool)
    (filled : text.toList ≠ []) : EndsPlainly (signText negative ++ text) := by
  have last : (signText negative ++ text).toList.getLast? = text.toList.getLast? := by
    rw [String.toList_append, List.getLast?_append_of_ne_nil _ filled]
  refine ⟨last ▸ plainly.point, fun member => last ▸ plainly.zero ?_⟩
  rw [String.toList_append] at member
  refine (List.mem_append.mp member).resolve_left (fun sign => ?_)
  cases negative <;> exact absurd sign (by decide)

/-- Hundredths are written in the fewest places. -/
theorem exists_fewest_plainText (negative : Bool) (units : Nat) :
    ∃ places kept, FloatValue.IsFewest 2 units places kept ∧
      plainText negative units = signText negative ++ FloatValue.withPoint places kept := by
  obtain ⟨places, kept, fewest, shown⟩ := FloatValue.exists_fewest 1 units
  exact ⟨places, kept, fewest, by rw [plainText, shown]⟩

theorem endsPlainly_plainText (negative : Bool) (units : Nat) : EndsPlainly (plainText negative units) := by
  obtain ⟨places, kept, fewest, shown⟩ := exists_fewest_plainText negative units
  rw [shown]
  have filled : (FloatValue.withPoint places kept).toList ≠ [] := by
    rw [FloatValue.toList_withPoint]
    exact List.append_ne_nil_of_left_ne_nil (Text.toList_toString_ne_nil _) _
  exact (FloatValue.endsPlainly_withPoint fewest.last).signed negative filled

theorem exists_read_plainText (negative : Bool) (units : Nat) :
    ∃ places kept : Nat, places ≤ 2 ∧ (kept / 10 ^ places : Rat) = units / 100 ∧
      Numeral.read? (plainText negative units) = some (.finite negative kept (-places)) := by
  obtain ⟨places, kept, fewest, shown⟩ := exists_fewest_plainText negative units
  refine ⟨places, kept, fewest.places_le, ?_, by rw [shown, FloatValue.read?_withPoint]⟩
  have whole : (100 : Rat) = 10 ^ (2 - places) * 10 ^ places := by
    rw [← pow_add, Nat.sub_add_cancel fewest.places_le]
    norm_num
  rw [whole, fewest.units_eq, Nat.cast_mul, Nat.cast_pow, Nat.cast_ofNat, mul_comm,
    mul_div_mul_left _ _ (by positivity)]

/-- The fraction that a plain text denotes. -/
theorem read?_plainText_exact (negative : Bool) (units : Nat) :
    (Quantity.read? (plainText negative units) : Option Rat) = some (signed negative (units / 100)) := by
  obtain ⟨places, kept, -, same, read⟩ := exists_read_plainText negative units
  rw [Quantity.read?, read, Option.bind_some, ← same]
  exact Numeral.toFraction?_decimal negative places kept

/-- The number that a plain text is read as is made from a quotient of the same value. -/
theorem read?_plainText_float (negative : Bool) (units : Nat) :
    ∃ numerator denominator : Nat, 0 < denominator ∧ (numerator / denominator : Rat) = units / 100 ∧
      Quantity.read? (plainText negative units) =
        some (FloatValue.nearest negative numerator denominator) := by
  obtain ⟨places, kept, few, same, read⟩ := exists_read_plainText negative units
  obtain ⟨numerator, denominator, positive, equal, made⟩ := Numeral.toFloat_decimal negative few kept
  refine ⟨numerator, denominator, positive, equal.trans same, ?_⟩
  rw [Quantity.read?, read, Option.bind_some, ← made]
  rfl

/-- Texts of the same hundredths can differ in their signs alone. -/
theorem plainText_eq_iff {negative other : Bool} {units : Nat} :
    plainText negative units = plainText other units ↔ negative = other := by
  constructor
  · intro same
    have chars := congrArg String.toList same
    rw [plainText, plainText, String.toList_append, String.toList_append, List.append_cancel_right_eq] at chars
    cases negative <;> cases other <;> first | rfl | cases chars
  · exact congrArg (plainText · units)

end ChartPortrayal
