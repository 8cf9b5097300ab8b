import ChartPortrayal.Proofs.Number.Order
import ChartPortrayal.Proofs.Number.Sum

namespace ChartPortrayal.FloatSign

open Float.Model (UnpackedFloat)

variable {format : Float.Model.Format}

theorem abs_roundWithAccuracy (sign : UnpackedFloat.Sign) (significand : Nat) (exponent : Int)
    (accuracy : UnpackedFloat.Accuracy) :
    (UnpackedFloat.roundWithAccuracy format sign significand exponent accuracy).abs =
      UnpackedFloat.roundWithAccuracy format .positive significand exponent accuracy := by
  simp only [UnpackedFloat.roundWithAccuracy]
  split <;> rfl

theorem abs_round (sign : UnpackedFloat.Sign) (significand : Nat) (exponent : Int) :
    (UnpackedFloat.round format sign significand exponent).abs =
      UnpackedFloat.round format .positive significand exponent :=
  abs_roundWithAccuracy ..

/-- What packed components stand for, up to their sign. -/
theorem abs_unpack_packComponents (sign : UnpackedFloat.Sign) (exponent : BitVec format.exponentBits)
    (mantissa : BitVec format.mantissaBitsWithoutImplicit) :
    (UnpackedFloat.unpack format (UnpackedFloat.packComponents format sign exponent mantissa)).abs =
      UnpackedFloat.unpack format (UnpackedFloat.packComponents format .positive exponent mantissa) := by
  simp only [UnpackedFloat.unpack, UnpackedFloat.unpackExponent_packComponents,
    UnpackedFloat.unpackMantissa_packComponents, UnpackedFloat.unpackSign_packComponents,
    UnpackedFloat.Sign.ofBitVec_toBitVec]
  split
  · split <;> rfl
  · split
    · split <;> rfl
    · rfl

/-- The sign of a finite number shows in the sign component only. -/
theorem pack_finite (significand : Nat) (exponent : Int) (positive : 0 < significand) :
    ∃ scale mantissa, ∀ sign, UnpackedFloat.pack format (.finite sign significand exponent positive) =
      UnpackedFloat.packComponents format sign scale mantissa := by
  simp only [UnpackedFloat.pack]
  split
  · exact ⟨_, _, fun sign => rfl⟩
  · split <;> exact ⟨_, _, fun sign => rfl⟩

theorem abs_unpack_pack (number : UnpackedFloat) :
    (UnpackedFloat.unpack format (UnpackedFloat.pack format number)).abs =
      UnpackedFloat.unpack format (UnpackedFloat.pack format number.abs) := by
  cases number with
  | notANumber =>
    rw [UnpackedFloat.abs, UnpackedFloat.pack, UnpackedFloat.unpack_packedNaN]
    rfl
  | infinity sign => exact abs_unpack_packComponents ..
  | zero sign => exact abs_unpack_packComponents ..
  | finite sign significand exponent positive =>
    obtain ⟨scale, mantissa, packed⟩ := @pack_finite format significand exponent positive
    rw [UnpackedFloat.abs, packed, packed]
    exact abs_unpack_packComponents ..

theorem sub_apply (one other : UnpackedFloat.Sign) (first second : Int) :
    one.apply first - other.apply second = -(other.apply second - one.apply first) := by
  omega

theorem abs_normalize_neg (significand exponent : Int) (sign : UnpackedFloat.Sign) :
    (UnpackedFloat.normalize format (-significand) exponent sign).abs =
      (UnpackedFloat.normalize format significand exponent sign).abs := by
  unfold UnpackedFloat.normalize
  rcases lt_trichotomy significand 0 with below | rfl | above
  · rw [compare_lt_iff_lt.mpr below, compare_gt_iff_gt.mpr (by omega), abs_round, abs_round]
  · rfl
  · rw [compare_gt_iff_gt.mpr above, compare_lt_iff_lt.mpr (by omega), neg_neg, abs_round, abs_round]

/-- A difference is as large as the one the other way round. -/
theorem abs_sub_comm (first second : UnpackedFloat) :
    (UnpackedFloat.sub format first second).abs = (UnpackedFloat.sub format second first).abs := by
  cases first with
  | notANumber => cases second <;> rfl
  | infinity sign =>
    cases second with
    | infinity side => cases sign <;> cases side <;> rfl
    | _ => rfl
  | zero sign =>
    cases second with
    | zero side => cases sign <;> cases side <;> rfl
    | _ => rfl
  | finite sign significand exponent =>
    cases second with
    | finite side fraction scale =>
      simp only [UnpackedFloat.sub]
      rw [sub_apply, abs_normalize_neg, min_comm]
    | _ => rfl

theorem sub_eq_zero {number : UnpackedFloat} (finite : number.isFinite = true) :
    UnpackedFloat.sub format number number = .zero .positive := by
  cases number with
  | notANumber => cases finite
  | infinity => cases finite
  | zero sign => cases sign <;> rfl
  | finite sign significand exponent =>
    simp only [UnpackedFloat.sub, Int.sub_self]
    rfl

/-- A number that is not negative compares like its magnitude. -/
theorem compare_abs {number : UnpackedFloat} (bound : UnpackedFloat)
    (above : number.compare (.zero .positive) ≠ some .lt) :
    number.abs.compare bound = number.compare bound := by
  cases number with
  | notANumber => rfl
  | infinity sign => cases sign with
    | negative => exact absurd rfl above
    | positive => rfl
  | zero sign => cases bound with
    | zero => rfl
    | notANumber => rfl
    | infinity side => cases side <;> rfl
    | finite side => cases side <;> rfl
  | finite sign => cases sign with
    | negative => exact absurd rfl above
    | positive => rfl

theorem neg_eq_abs {number : UnpackedFloat} (below : number.compare (.zero .positive) = some .lt) :
    number.neg = number.abs := by
  cases number with
  | notANumber => cases below
  | zero => cases below
  | infinity sign => cases sign with
    | negative => rfl
    | positive => cases below
  | finite sign => cases sign with
    | negative => rfl
    | positive => cases below

theorem pack_unpack (number : Float) :
    UnpackedFloat.unpack .binary64 (UnpackedFloat.pack .binary64 number.toModel.unpack) =
      number.toModel.unpack :=
  congrArg _ (UnpackedFloat.pack_unpack_of_valid number.toModel.valid)

theorem unpack_neg {number : Float} (below : number < 0.0) :
    (-number).toModel.unpack = number.toModel.unpack.abs := by
  have less := FloatOrder.lt_iff_compare?.mp below
  calc (-number).toModel.unpack
      = UnpackedFloat.unpack .binary64 (UnpackedFloat.pack .binary64 number.toModel.unpack.neg) := rfl
    _ = UnpackedFloat.unpack .binary64 (UnpackedFloat.pack .binary64 number.toModel.unpack.abs) := by
      rw [neg_eq_abs less]
    _ = number.toModel.unpack.abs := by rw [← abs_unpack_pack, pack_unpack]

/-- Magnitudes compare as the signs being dropped. -/
theorem magnitude_lt_iff (number bound : Float) :
    Quantity.magnitude number < bound ↔
      number.toModel.unpack.abs.compare bound.toModel.unpack = some .lt := by
  rw [FloatOrder.lt_iff_compare?, FloatOrder.compare?, Quantity.magnitude]
  split
  · next below => rw [unpack_neg below]
  · next above =>
    rw [compare_abs]
    exact fun less => above (FloatOrder.lt_iff_compare?.mpr less)

/-- How far two numbers are apart does not depend on which one is taken away. -/
theorem magnitude_sub_lt_comm (first second bound : Float) :
    Quantity.magnitude (first - second) < bound ↔ Quantity.magnitude (second - first) < bound := by
  have same : (first - second).toModel.unpack.abs = (second - first).toModel.unpack.abs := by
    change (UnpackedFloat.unpack .binary64 (UnpackedFloat.pack .binary64 (UnpackedFloat.sub ..))).abs =
      (UnpackedFloat.unpack .binary64 (UnpackedFloat.pack .binary64 (UnpackedFloat.sub ..))).abs
    rw [abs_unpack_pack, abs_unpack_pack, abs_sub_comm]
  rw [magnitude_lt_iff, magnitude_lt_iff, same]

/-- A finite number is no distance apart from itself. -/
theorem magnitude_sub_self_lt {number bound : Float} (finite : number.isFinite = true)
    (positive : 0.0 < bound) : Quantity.magnitude (number - number) < bound := by
  have zero : number - number = 0.0 := by
    have packed : number - number = ⟨.pack (UnpackedFloat.sub .binary64 number.toModel.unpack
      number.toModel.unpack)⟩ := rfl
    rw [packed, sub_eq_zero finite]
    decide +kernel
  have same : Quantity.magnitude (0.0 : Float) = 0.0 := by decide +kernel
  rw [zero, same]
  exact positive

/-- Numbers that are not below zero: zeros of either sign, and all that has a positive sign. -/
inductive Nonnegative : UnpackedFloat → Prop where
  | zero (sign : UnpackedFloat.Sign) : Nonnegative (.zero sign)
  | infinity : Nonnegative (.infinity .positive)
  | finite (significand : Nat) (exponent : Int) (filled : 0 < significand) :
      Nonnegative (.finite .positive significand exponent filled)

theorem nonnegative_iff (number : Float) : 0.0 ≤ number ↔ Nonnegative number.toModel.unpack := by
  have zero : (0.0 : Float).toModel.unpack = .zero .positive := by rfl
  rw [FloatOrder.le_iff_compare?, FloatOrder.compare?, zero]
  generalize number.toModel.unpack = unpacked
  constructor
  · intro above
    cases unpacked with
    | notANumber => exact absurd above (by decide)
    | zero sign => exact .zero sign
    | infinity sign => cases sign with
      | negative => exact absurd above (by decide)
      | positive => exact .infinity
    | finite sign significand exponent filled => cases sign with
      | negative => simp [UnpackedFloat.compare] at above
      | positive => exact .finite significand exponent filled
  · intro above
    cases above with
    | zero sign => cases sign <;> decide
    | infinity => decide
    | finite => simp [UnpackedFloat.compare]

theorem nonnegative_of_abs {number : UnpackedFloat} (defined : number.isNaN = false)
    (unsigned : number.abs = number) : Nonnegative number := by
  rw [← unsigned]
  cases number with
  | notANumber => cases defined
  | zero => exact .zero _
  | infinity => exact .infinity
  | finite => exact .finite ..

/-- Rounding to what can be packed keeps numbers from falling below zero. -/
theorem nonnegative_pack {number : UnpackedFloat} (above : Nonnegative number) :
    Nonnegative (UnpackedFloat.unpack format (UnpackedFloat.pack format number)) := by
  cases above with
  | zero sign =>
    rw [UnpackedFloat.pack, UnpackedFloat.unpack_packedZero]
    exact .zero sign
  | infinity => exact nonnegative_of_abs (FloatSum.isNaN_unpack_pack rfl) (abs_unpack_pack _)
  | finite => exact nonnegative_of_abs (FloatSum.isNaN_unpack_pack rfl) (abs_unpack_pack _)

theorem nonnegative_normalize {significand : Int} (above : 0 ≤ significand) (exponent : Int) :
    Nonnegative (UnpackedFloat.normalize format significand exponent .positive) := by
  unfold UnpackedFloat.normalize
  split
  · next below => exact absurd (compare_lt_iff_lt.mp below) (not_lt.mpr above)
  · exact .zero _
  · exact nonnegative_of_abs (FloatSum.isNaN_round ..) (abs_round ..)

/-- Scaling by a finite positive number. -/
theorem nonnegative_mul {first second : UnpackedFloat} (above : Nonnegative first)
    (positive : ∃ significand exponent filled, second = .finite .positive significand exponent filled) :
    Nonnegative (UnpackedFloat.mul format first second) := by
  obtain ⟨significand, exponent, filled, rfl⟩ := positive
  cases above with
  | zero => exact .zero _
  | infinity => exact .infinity
  | finite => exact nonnegative_of_abs (FloatSum.isNaN_roundWithAccuracy ..) (abs_roundWithAccuracy ..)

theorem nonnegative_add {first second : UnpackedFloat} (one : Nonnegative first)
    (other : Nonnegative second) : Nonnegative (UnpackedFloat.add format first second) := by
  cases one with
  | zero sign =>
    cases other with
    | zero side => cases sign <;> cases side <;> exact .zero _
    | infinity => exact .infinity
    | finite => exact .finite ..
  | infinity => cases other <;> exact .infinity
  | finite =>
    cases other with
    | zero => exact .finite ..
    | infinity => exact .infinity
    | finite =>
      refine nonnegative_normalize ?_ _
      exact Int.add_nonneg (Int.natCast_nonneg _) (Int.natCast_nonneg _)

end ChartPortrayal.FloatSign
