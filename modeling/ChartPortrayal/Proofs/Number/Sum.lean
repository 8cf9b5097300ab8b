import Mathlib
import ChartPortrayal.Number.Quantity

namespace ChartPortrayal.FloatSum

open Float.Model (UnpackedFloat)

variable {format : Float.Model.Format}

theorem isNaN_roundWithAccuracy (sign : UnpackedFloat.Sign) (significand : Nat) (exponent : Int)
    (accuracy : UnpackedFloat.Accuracy) :
    (UnpackedFloat.roundWithAccuracy format sign significand exponent accuracy).isNaN = false := by
  simp only [UnpackedFloat.roundWithAccuracy]
  split <;> rfl

theorem isNaN_round (sign : UnpackedFloat.Sign) (significand : Nat) (exponent : Int) :
    (UnpackedFloat.round format sign significand exponent).isNaN = false :=
  isNaN_roundWithAccuracy ..

theorem isNaN_normalize (significand exponent : Int) (sign : UnpackedFloat.Sign) :
    (UnpackedFloat.normalize format significand exponent sign).isNaN = false := by
  unfold UnpackedFloat.normalize
  split
  · exact isNaN_round ..
  · rfl
  · exact isNaN_round ..

theorem isNaN_add {first second : UnpackedFloat} (one : first.isFinite = true)
    (other : second.isFinite = true) : (UnpackedFloat.add format first second).isNaN = false := by
  cases first with
  | notANumber => cases one
  | infinity => cases one
  | zero sign =>
    cases second with
    | notANumber => cases other
    | infinity => cases other
    | zero side =>
      simp only [UnpackedFloat.add]
      split <;> rfl
    | finite => rfl
  | finite =>
    cases second with
    | notANumber => cases other
    | infinity => cases other
    | zero => rfl
    | finite => exact isNaN_normalize ..

/-- The undefined number is written with the greatest exponent and some fraction. -/
theorem isNaN_unpack {bits : BitVec format.numBits}
    (undefined : (UnpackedFloat.unpack format bits).isNaN = true) :
    UnpackedFloat.unpackExponent bits = -1#_ ∧ UnpackedFloat.unpackMantissa bits ≠ 0#_ := by
  unfold UnpackedFloat.unpack at undefined
  dsimp only at undefined
  split at undefined
  · next greatest =>
    split at undefined
    · cases undefined
    · next fraction => exact ⟨greatest, fraction⟩
  · split at undefined
    · split at undefined <;> cases undefined
    · cases undefined

theorem isNaN_unpack_pack {number : UnpackedFloat} (defined : number.isNaN = false) :
    (UnpackedFloat.unpack format (UnpackedFloat.pack format number)).isNaN = false := by
  by_contra undefined
  obtain ⟨greatest, fraction⟩ := isNaN_unpack (by simpa using undefined)
  cases number with
  | notANumber => cases defined
  | infinity sign => simp [UnpackedFloat.pack, UnpackedFloat.packedInfinity] at fraction
  | zero sign => simp [UnpackedFloat.pack, UnpackedFloat.packedZero] at fraction
  | finite sign significand exponent =>
    unfold UnpackedFloat.pack at greatest fraction
    dsimp only at greatest fraction
    split at greatest
    · next overflow => simp [overflow, UnpackedFloat.packedInfinity] at fraction
    · next bounded =>
      split at greatest
      · rw [UnpackedFloat.unpackExponent_packComponents, ← BitVec.toNat_inj,
          BitVec.neg_one_eq_allOnes, BitVec.toNat_ofNat, BitVec.toNat_allOnes,
          Nat.mod_eq_of_lt (by omega)] at greatest
        omega
      · rw [UnpackedFloat.unpackExponent_packComponents] at greatest
        simp [Nat.pos_iff_ne_zero.1 format.he] at greatest

theorem isNaN_sum {first second : Float} (one : first.isFinite = true) (other : second.isFinite = true) :
    (first + second).isNaN = false :=
  isNaN_unpack_pack (isNaN_add one other)

end ChartPortrayal.FloatSum
