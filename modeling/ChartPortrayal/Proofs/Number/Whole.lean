import Mathlib
import ChartPortrayal.Number.Quantity
import ChartPortrayal.Proofs.Number.Numerals

namespace ChartPortrayal

namespace FloatValue

/-- A finite number is whole, with this sign and this size; zero has no sign. -/
structure IsWhole (value : FloatValue) (negative : Bool) (size : Nat) : Prop where
  exact : ∃ significand exponent, value = .finite negative significand exponent ∧
    (quotient significand exponent).1 = size * (quotient significand exponent).2
  unsigned : size = 0 → negative = false

theorem quotient_pos (significand : Nat) (exponent : Int) : 0 < (quotient significand exponent).2 := by
  unfold quotient
  split
  · exact Nat.one_pos
  · exact Nat.two_pow_pos _

/-- A whole number below the limit is written as an integer. -/
theorem IsWhole.plain {value : FloatValue} {negative : Bool} {size : Nat}
    (whole : value.IsWhole negative size) (small : size < integerLimit) :
    value.plain = signText negative ++ toString size := by
  obtain ⟨⟨significand, exponent, rfl, exact⟩, unsigned⟩ := whole
  have positive := quotient_pos significand exponent
  have divided : (quotient significand exponent).1 / (quotient significand exponent).2 = size := by
    rw [exact, Nat.mul_div_cancel _ positive]
  have rest : (quotient significand exponent).1 % (quotient significand exponent).2 = 0 := by
    rw [exact, Nat.mul_mod_left]
  have sign : (negative && size != 0) = negative := by
    by_cases zero : size = 0
    · simp [unsigned zero]
    · simp [zero]
  simp only [FloatValue.plain, plainQuotient, divided, rest, sign, small, true_and, ↓reduceIte]

theorem log2_mul_two_pow {size : Nat} (positive : 0 < size) (shift : Nat) :
    (size * 2 ^ shift).log2 = size.log2 + shift := by
  have size0 : size ≠ 0 := Nat.ne_of_gt positive
  have shifted : size * 2 ^ shift ≠ 0 := Nat.ne_of_gt (Nat.mul_pos positive (Nat.two_pow_pos _))
  rw [Nat.log2_eq_iff shifted, Nat.add_right_comm, Nat.pow_add, Nat.pow_add _ (size.log2 + 1)]
  exact ⟨Nat.mul_le_mul_right _ (Nat.log2_self_le size0),
    Nat.mul_lt_mul_of_pos_right Nat.lt_log2_self (Nat.two_pow_pos _)⟩

theorem gridExponent_one {size : Nat} (positive : 0 < size) :
    gridExponent size 1 = max (-1074) ((size.log2 : Int) - 52) := by
  have below : 1 * Nat.pow 2 size.log2 ≤ size := by
    rw [Nat.one_mul]
    exact Nat.log2_self_le (Nat.ne_of_gt positive)
  have estimate : ((size.log2 : Int) - (Nat.log2 1 : Nat)) = size.log2 := by
    have one : Nat.log2 1 = 0 := by decide
    omega
  simp only [gridExponent, estimate, Int.toNat_natCast, Int.natCast_nonneg, ↓reduceIte, below]

theorem roundDiv_mul (size : Nat) {divisor : Nat} (positive : 0 < divisor) :
    roundDiv (size * divisor) divisor = size := by
  unfold roundDiv
  simp only [Nat.mul_mod_left, Nat.mul_div_cancel _ positive]
  rw [if_neg (by omega)]

/-- The grid of a whole number with a full significand has the step of its exponent. -/
theorem gridExponent_whole {size significand : Nat} {exponent : Int} (low : 2 ^ 52 ≤ significand)
    (high : significand < 2 ^ 53) (above : -1074 ≤ exponent)
    (exact : (quotient significand exponent).1 = size * (quotient significand exponent).2) :
    0 < size ∧ gridExponent size 1 = exponent := by
  have filled : 0 < significand := Nat.lt_of_lt_of_le (by decide) low
  have width : significand.log2 = 52 := (Nat.log2_eq_iff (Nat.ne_of_gt filled)).mpr ⟨low, high⟩
  unfold quotient at exact
  split at exact
  · next up =>
    simp only [Nat.mul_one] at exact
    have positive : 0 < size := exact ▸ Nat.mul_pos filled (Nat.two_pow_pos _)
    have log : size.log2 = 52 + exponent.toNat := by
      rw [← exact, ← width]
      exact log2_mul_two_pow filled _
    rw [gridExponent_one positive]
    omega
  · next down =>
    simp only at exact
    have positive : 0 < size := by
      apply Nat.pos_of_ne_zero
      rintro rfl
      omega
    have log : 52 = size.log2 + (-exponent).toNat := by
      rw [← width, exact]
      exact log2_mul_two_pow positive _
    rw [gridExponent_one positive]
    omega

/-- A whole number with a full significand is on its grid. -/
theorem nearestBits_whole {size significand : Nat} {exponent : Int} (low : 2 ^ 52 ≤ significand)
    (high : significand < 2 ^ 53) (above : -1074 ≤ exponent)
    (exact : (quotient significand exponent).1 = size * (quotient significand exponent).2) :
    nearestBits size 1 = min infinityBits ((exponent + 1074).toNat * 2 ^ 52 + significand) := by
  obtain ⟨positive, grid⟩ := gridExponent_whole low high above exact
  have rounded : (if 0 ≤ exponent then roundDiv size (1 * Nat.pow 2 exponent.toNat)
      else roundDiv (size * Nat.pow 2 (-exponent).toNat) 1) = significand := by
    unfold quotient at exact
    split
    · next up =>
      simp only [up, ↓reduceIte, Nat.mul_one] at exact
      rw [Nat.one_mul, ← exact]
      exact roundDiv_mul _ (Nat.two_pow_pos _)
    · next down =>
      simp only [down, ↓reduceIte] at exact
      rw [← exact]
      exact (congrArg (roundDiv · 1) (Nat.mul_one _).symm).trans (roundDiv_mul _ Nat.one_pos)
  rw [nearestBits, if_neg (Nat.ne_of_gt positive)]
  simp only [grid, rounded, ← Nat.pow_eq]

/-- The bits of a whole number with a full significand, its exponent bits before its fraction bits. -/
theorem nearestBits_normal {size scale fraction : Nat} (filled : 0 < scale) (finite : scale < 2047)
    (short : fraction < 2 ^ 52)
    (exact : (quotient (2 ^ 52 + fraction) ((scale : Int) - 1075)).1 =
      size * (quotient (2 ^ 52 + fraction) ((scale : Int) - 1075)).2) :
    nearestBits size 1 = scale * 2 ^ 52 + fraction := by
  have carried : ((scale : Int) - 1075 + 1074).toNat * 2 ^ 52 + (2 ^ 52 + fraction) =
      scale * 2 ^ 52 + fraction := by
    omega
  have below : scale * 2 ^ 52 + fraction ≤ infinityBits := by
    simp only [infinityBits, Nat.pow_eq]
    omega
  calc
    nearestBits size 1 = min infinityBits
        (((scale : Int) - 1075 + 1074).toNat * 2 ^ 52 + (2 ^ 52 + fraction)) :=
      nearestBits_whole (by omega) (by omega) (by omega) exact
    _ = min infinityBits (scale * 2 ^ 52 + fraction) := by rw [carried]
    _ = scale * 2 ^ 52 + fraction := Nat.min_eq_right below

/-- A short significand on a fine grid is whole only at zero. -/
theorem eq_zero_of_fine {size fraction : Nat} {exponent : Int} (fine : exponent ≤ -52)
    (short : fraction < 2 ^ 52)
    (exact : (quotient fraction exponent).1 = size * (quotient fraction exponent).2) :
    size = 0 ∧ fraction = 0 := by
  unfold quotient at exact
  rw [if_neg (by omega)] at exact
  change fraction = size * 2 ^ (-exponent).toNat at exact
  have step : 2 ^ 52 ≤ 2 ^ (-exponent).toNat := Nat.pow_le_pow_right (by decide) (by omega)
  have none : size = 0 := by
    apply Nat.eq_zero_of_not_pos
    intro positive
    have large := Nat.le_mul_of_pos_left (2 ^ (-exponent).toNat) positive
    omega
  subst none
  exact ⟨rfl, exact.trans (Nat.zero_mul _)⟩

/-- The bits of a whole number are those nearest to it. -/
theorem bits_nearestBits {word : Nat} (bounded : word < 2 ^ 64) {negative : Bool} {size : Nat}
    (whole : (ofBits word).IsWhole negative size) :
    (if negative then Nat.pow 2 63 else 0) + nearestBits size 1 = word := by
  obtain ⟨⟨significand, exponent, read, exact⟩, -⟩ := whole
  rw [ofBits] at read
  simp only [Nat.pow_eq] at read ⊢
  have sign : (if (word / 2 ^ 63 % 2 == 1) = true then 2 ^ 63 else 0) = word / 2 ^ 63 * 2 ^ 63 := by
    simp only [beq_iff_eq]
    split <;> omega
  have parts : word = word / 2 ^ 63 * 2 ^ 63 + word / 2 ^ 52 % 2 ^ 11 * 2 ^ 52 + word % 2 ^ 52 := by omega
  have limit : word / 2 ^ 52 % 2 ^ 11 < 2048 := by omega
  generalize word / 2 ^ 52 % 2 ^ 11 = scale at read parts limit
  split at read
  · split at read <;> cases read
  · next finite =>
    split at read
    · next short =>
      cases read
      obtain ⟨rfl, bare⟩ := eq_zero_of_fine (by decide) (Nat.mod_lt _ (by decide)) exact
      rw [sign, nearestBits, if_pos rfl]
      omega
    · next normal =>
      cases read
      have fraction : word % 2 ^ 52 < 2 ^ 52 := Nat.mod_lt _ (by decide)
      rw [sign, nearestBits_normal (by omega) (by omega) fraction exact]
      omega

theorem IsWhole.nearest {number : Float} {negative : Bool} {size : Nat}
    (whole : (ofFloat number).IsWhole negative size) : nearest negative size 1 = number := by
  have bits : signedBits negative (nearestBits size 1) = number.toBits := by
    rw [signedBits, bits_nearestBits number.toBits.toNat_lt whole, UInt64.ofNat_toNat]
  rw [FloatValue.nearest, bits, Float.ofBits_toBits]

end FloatValue

/-- A whole number of less than sixteen digits, and not the negative zero. -/
def IsWholeNumber (number : Float) : Prop :=
  ∃ negative size, (FloatValue.ofFloat number).IsWhole negative size ∧ size < 10 ^ 15

theorem isWholeNumber_zero : IsWholeNumber 0 := by
  have none : (FloatValue.quotient 0 (-1074)).1 = 0 := congrArg Prod.fst (if_neg (by decide))
  exact ⟨false, 0, ⟨⟨0, -1074, rfl, none.trans (Nat.zero_mul _).symm⟩, fun _ => rfl⟩, by decide⟩

/-- An integer denotes the number nearest to it. -/
theorem Numeral.toFloat_integer (negative : Bool) (size : Nat) :
    (Numeral.finite negative size 0).toFloat = FloatValue.nearest negative size 1 := by
  rw [Numeral.toFloat]
  by_cases zero : size = 0
  · rw [if_pos zero, zero]
  · rw [if_neg zero, if_neg (by decide), if_neg (by omega), if_pos (by decide)]
    exact congrArg (FloatValue.nearest negative · 1) (Nat.mul_one size)

/-- A whole number is read from its plain form. -/
theorem read?_plain {number : Float} (whole : IsWholeNumber number) :
    Quantity.read? (Quantity.plain number) = some number := by
  obtain ⟨negative, size, value, small⟩ := whole
  have written : Quantity.plain number = signText negative ++ toString size := value.plain small
  rw [Quantity.read?, written, Numeral.read?_signed, Option.bind_some]
  calc
    some (Numeral.finite negative size 0).toFloat = some (FloatValue.nearest negative size 1) :=
      congrArg some (Numeral.toFloat_integer negative size)
    _ = some number := congrArg some value.nearest

end ChartPortrayal
