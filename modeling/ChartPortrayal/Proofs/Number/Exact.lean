import ChartPortrayal.Proofs.Number.Digits
import ChartPortrayal.Proofs.Number.Whole

namespace ChartPortrayal

/-- An integer nearest to a value, and the even one where two are equally near. -/
structure IsNearest (value : Rat) (integer : Nat) : Prop where
  near : |value - integer| ≤ 1 / 2
  even : |value - integer| = 1 / 2 → Even integer

namespace IsNearest

variable {value : Rat} {integer : Nat}

/-- An integer above the nearest one is not nearer, and is as near only next to an even one. -/
theorem tie (nearest : IsNearest value integer) {bound : Nat} (above : integer < bound)
    (near : bound - 1 / 2 ≤ value) : bound = integer + 1 ∧ value = integer + 1 / 2 ∧ Even integer := by
  have step : (integer : Rat) + 1 ≤ bound := by exact_mod_cast above
  obtain ⟨-, high⟩ := abs_le.mp nearest.near
  have half : value = integer + 1 / 2 := by linarith
  have neighbours : (bound : Rat) = integer + 1 := by linarith
  have distance : |value - integer| = 1 / 2 := by
    rw [half, add_sub_cancel_left]
    norm_num
  exact ⟨by exact_mod_cast neighbours, half, nearest.even distance⟩

theorem unique {first second : Nat} (one : IsNearest value first) (other : IsNearest value second) :
    first = second := by
  wlog below : first < second generalizing first second
  · rcases Nat.lt_trichotomy first second with less | same | less
    · exact this one other less
    · exact same
    · exact (this other one less).symm
  have near : (second : Rat) - 1 / 2 ≤ value := by linarith [(abs_le.mp other.near).1]
  obtain ⟨rfl, half, even⟩ := one.tie below near
  have distance : |value - (first + 1 : Nat)| = 1 / 2 := by
    rw [half]
    push_cast
    norm_num
  exact absurd (other.even distance) (Nat.not_even_iff_odd.mpr even.add_one)

/-- The values that are rounded to an even integer or a greater one start half a step below it. -/
theorem le_iff (nearest : IsNearest value integer) {bound : Nat} (even : Even bound) :
    bound ≤ integer ↔ bound - 1 / 2 ≤ value := by
  constructor
  · intro reached
    have least : (bound : Rat) ≤ integer := by exact_mod_cast reached
    linarith [(abs_le.mp nearest.near).1]
  · intro near
    by_contra short
    obtain ⟨rfl, -, half⟩ := nearest.tie (Nat.lt_of_not_le short) near
    exact Nat.not_even_iff_odd.mpr half.add_one even

end IsNearest

/-- What a division leaves of the denominator, as a fraction of it. -/
structure IsRest (numerator denominator : Nat) (rest : Rat) : Prop where
  divided : (numerator : Rat) / denominator = (numerator / denominator : Nat) + rest
  least : 0 ≤ rest
  most : rest < 1
  half : rest = 1 / 2 ↔ 2 * (numerator % denominator) = denominator
  more : 1 / 2 < rest ↔ denominator < 2 * (numerator % denominator)

theorem exists_rest (numerator : Nat) {denominator : Nat} (positive : 0 < denominator) :
    ∃ rest, IsRest numerator denominator rest := by
  have above : (0 : Rat) < denominator := by exact_mod_cast positive
  refine ⟨(numerator % denominator : Nat) / denominator, ?_, ?_, ?_, ?_, ?_⟩
  · rw [eq_comm, add_div' _ _ _ above.ne', div_left_inj' above.ne']
    exact_mod_cast Nat.div_add_mod' numerator denominator
  · positivity
  · rw [div_lt_one above]
    exact_mod_cast Nat.mod_lt numerator positive
  · rw [div_eq_div_iff above.ne' two_ne_zero, one_mul, mul_comm]
    norm_cast
  · rw [div_lt_div_iff₀ two_pos above, one_mul, mul_comm]
    norm_cast

/-- Rounded division gives the nearest integer. -/
theorem isNearest_roundDiv (numerator : Nat) {denominator : Nat} (positive : 0 < denominator) :
    IsNearest (numerator / denominator) (roundDiv numerator denominator) := by
  obtain ⟨rest, divided, least, most, half, more⟩ := exists_rest numerator positive
  rw [divided, roundDiv]
  generalize numerator / denominator = quotient
  split
  · next up =>
    have atLeast : 1 / 2 ≤ rest := by
      rcases up with exceeds | ⟨tie, -⟩
      · exact (more.mpr exceeds).le
      · exact (half.mpr tie).ge
    have distance : |(quotient : Rat) + rest - (quotient + 1 : Nat)| = 1 - rest := by
      rw [abs_of_nonpos] <;> push_cast <;> linarith
    constructor
    · rw [distance]
      linarith
    · intro tie
      rw [distance] at tie
      have odd := up.resolve_left (fun exceeds => by linarith [more.mpr exceeds])
      exact Nat.even_iff.mpr (by omega)
  · next down =>
    obtain ⟨notMore, notTie⟩ := not_or.mp down
    have distance : |(quotient : Rat) + rest - quotient| = rest := by
      rw [add_sub_cancel_left, abs_of_nonneg least]
    constructor
    · rw [distance]
      exact not_lt.mp (fun exceeds => notMore (more.mp exceeds))
    · intro tie
      rw [distance] at tie
      have notOdd : ¬ quotient % 2 = 1 := fun odd => notTie ⟨half.mp tie, odd⟩
      exact Nat.even_iff.mpr (by omega)

theorem isNearest_iff {numerator denominator integer : Nat} (positive : 0 < denominator) :
    IsNearest (numerator / denominator) integer ↔ integer = roundDiv numerator denominator := by
  constructor
  · intro nearest
    exact nearest.unique (isNearest_roundDiv numerator positive)
  · rintro rfl
    exact isNearest_roundDiv numerator positive

namespace FloatValue

/-- The size of a finite number. -/
def magnitude (significand : Nat) (exponent : Int) : Rat := significand * 2 ^ exponent

theorem magnitude_nonneg (significand : Nat) (exponent : Int) : 0 ≤ magnitude significand exponent := by
  unfold magnitude
  positivity

/-- The exact value of a finite number. -/
def rational? : FloatValue → Option Rat
  | finite negative significand exponent =>
    some (if negative then -magnitude significand exponent else magnitude significand exponent)
  | _ => none

theorem quotient_eq_magnitude (significand : Nat) (exponent : Int) :
    ((quotient significand exponent).1 : Rat) / (quotient significand exponent).2 =
      magnitude significand exponent := by
  unfold quotient magnitude
  split
  · next up =>
    obtain ⟨power, rfl⟩ := Int.eq_ofNat_of_zero_le up
    simp
  · next down =>
    obtain ⟨power, negated⟩ := Int.eq_ofNat_of_zero_le (show 0 ≤ -exponent by omega)
    obtain rfl : exponent = -power := by omega
    simp [div_eq_mul_inv]

/-- The integer part of a value, which is nearer to zero than it. -/
def integerPart (value : Rat) : Int := if value < 0 then ⌈value⌉ else ⌊value⌋

/-- Finite numbers with their integer part. -/
inductive IsIntegerPart : FloatValue → Int → Prop where
  | finite {number : FloatValue} {value : Rat} (exact : number.rational? = some value) :
      IsIntegerPart number (integerPart value)

/-- Numbers with their integer part as far as 64 bits hold it; the undefined number has zero. -/
inductive IsInteger64 : FloatValue → Int → Prop where
  | finite {number : FloatValue} {integer : Int} (part : IsIntegerPart number integer) :
      IsInteger64 number (cutTo64 integer)
  | infinite (negative : Bool) :
      IsInteger64 (.infinite negative) (if negative then -signedLimit else signedLimit - 1)
  | undefined : IsInteger64 .undefined 0

theorem integerPart_signed (negative : Bool) (significand : Nat) (exponent : Int) :
    integerPart (if negative then -magnitude significand exponent else magnitude significand exponent) =
      if negative then
        -(((quotient significand exponent).1 / (quotient significand exponent).2 : Nat) : Int)
      else ((quotient significand exponent).1 / (quotient significand exponent).2 : Nat) := by
  have whole : ⌊magnitude significand exponent⌋ =
      (((quotient significand exponent).1 / (quotient significand exponent).2 : Nat) : Int) := by
    rw [← quotient_eq_magnitude, Rat.floor_natCast_div_natCast]
    rfl
  have least := magnitude_nonneg significand exponent
  rw [← whole, integerPart]
  cases negative with
  | false => simp [not_lt.mpr least]
  | true =>
    rcases least.lt_or_eq with positive | zero
    · simp [positive, Int.ceil_neg]
    · simp [← zero]

theorem isIntegerPart_iff {negative : Bool} {significand : Nat} {exponent integer : Int} :
    IsIntegerPart (.finite negative significand exponent) integer ↔ integer =
      if negative then
        -(((quotient significand exponent).1 / (quotient significand exponent).2 : Nat) : Int)
      else ((quotient significand exponent).1 / (quotient significand exponent).2 : Nat) := by
  rw [← integerPart_signed]
  constructor
  · rintro ⟨exact⟩
    obtain rfl := Option.some.inj exact
    rfl
  · rintro rfl
    exact .finite rfl

theorem isInteger64_iff {number : FloatValue} {integer : Int} :
    number.IsInteger64 integer ↔ integer = number.truncate := by
  constructor
  · rintro (part | _ | _)
    · cases number with
      | finite => exact congrArg cutTo64 (isIntegerPart_iff.mp part)
      | infinite => obtain ⟨⟨⟩⟩ := part
      | undefined => obtain ⟨⟨⟩⟩ := part
    · rfl
    · rfl
  · rintro rfl
    cases number with
    | finite => exact .finite (isIntegerPart_iff.mpr rfl)
    | infinite negative => exact .infinite negative
    | undefined => exact .undefined

/-- A number of units of the last of so many places, written with a point before the places, if there are any. -/
def withPoint (count units : Nat) : String :=
  toString (units / 10 ^ count) ++
    if count = 0 then "" else "." ++ String.ofList ((Text.places count units).map Nat.digitChar)

/-- Numbers with what is written of them to so many places. -/
inductive IsFixed (count : Nat) : FloatValue → String → Prop where
  | finite (negative : Bool) {significand units : Nat} {exponent : Int}
      (nearest : IsNearest (magnitude significand exponent * 10 ^ count) units) :
      IsFixed count (.finite negative significand exponent) (signText negative ++ withPoint count units)
  | infinite (negative : Bool) : IsFixed count (.infinite negative) (signText negative ++ "inf")
  | undefined : IsFixed count .undefined "NaN"

theorem fixedPlaces_eq (count numerator denominator : Nat) :
    fixedPlaces count numerator denominator =
      withPoint count (roundDiv (numerator * 10 ^ count) denominator) := by
  unfold fixedPlaces withPoint
  simp only [Nat.pow_eq]
  generalize roundDiv (numerator * 10 ^ count) denominator = units
  rcases Nat.eq_zero_or_pos count with rfl | filled
  · simp only [if_true, String.append_empty]
  · have short : units % 10 ^ count < 10 ^ count := Nat.mod_lt _ (Nat.pow_pos (by decide))
    have shown := Text.toList_padLeft_zero filled short
    rw [Text.places_mod] at shown
    rw [if_neg (Nat.ne_of_gt filled), if_neg (Nat.ne_of_gt filled), ← shown, String.ofList_toList,
      String.append_assoc]

/-- A magnitude in units of the last place is a quotient too. -/
theorem magnitude_mul_eq (count significand : Nat) (exponent : Int) :
    magnitude significand exponent * 10 ^ count =
      ((quotient significand exponent).1 * 10 ^ count : Nat) / (quotient significand exponent).2 := by
  rw [← quotient_eq_magnitude, div_mul_eq_mul_div]
  push_cast
  rfl

theorem isFixed_iff {count : Nat} {number : FloatValue} {text : String} :
    number.IsFixed count text ↔ text = number.fixed count := by
  constructor
  · rintro (⟨negative, nearest⟩ | _ | _)
    · rw [magnitude_mul_eq, isNearest_iff (quotient_pos ..)] at nearest
      rw [nearest, ← fixedPlaces_eq]
      rfl
    · rfl
    · rfl
  · rintro rfl
    cases number with
    | finite negative significand exponent =>
      have nearest : IsNearest (magnitude significand exponent * 10 ^ count)
          (roundDiv ((quotient significand exponent).1 * 10 ^ count) (quotient significand exponent).2) := by
        rw [magnitude_mul_eq]
        exact isNearest_roundDiv _ (quotient_pos ..)
      have fixed := IsFixed.finite negative nearest
      rwa [← fixedPlaces_eq] at fixed
    | infinite negative => exact .infinite negative
    | undefined => exact .undefined

end FloatValue

end ChartPortrayal
