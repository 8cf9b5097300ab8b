import ChartPortrayal.Proofs.Number.Sign

namespace ChartPortrayal

open Float.Model (UnpackedFloat)

namespace FloatValue

/-- The exact value of an unpacked number. -/
def ofUnpacked : UnpackedFloat → FloatValue
  | .infinity sign => .infinite (sign == .negative)
  | .notANumber => .undefined
  | .zero sign => .finite (sign == .negative) 0 (-1074)
  | .finite sign significand exponent _ => .finite (sign == .negative) significand exponent

theorem toNat_unpackMantissa (bits : UInt64) :
    (@UnpackedFloat.unpackMantissa .binary64 bits.toBitVec).toNat = bits.toNat % 2 ^ 52 := by
  rw [UnpackedFloat.unpackMantissa_def, BitVec.extractLsb'_toNat]
  rfl

theorem toNat_unpackExponent (bits : UInt64) :
    (@UnpackedFloat.unpackExponent .binary64 bits.toBitVec).toNat =
      bits.toNat / 2 ^ 52 % 2 ^ 11 := by
  rw [UnpackedFloat.unpackExponent_def, BitVec.extractLsb'_toNat, Nat.shiftRight_eq_div_pow]
  rfl

theorem toNat_unpackSign (bits : UInt64) :
    (@UnpackedFloat.unpackSign .binary64 bits.toBitVec).toNat = bits.toNat / 2 ^ 63 % 2 := by
  rw [UnpackedFloat.unpackSign_def, BitVec.extractLsb'_toNat, Nat.shiftRight_eq_div_pow]
  rfl

theorem ofBitVec_eq_negative (bit : BitVec 1) :
    (UnpackedFloat.Sign.ofBitVec bit == .negative) = (bit.toNat == 1) := by
  decide +revert

/-- Reading the parts of the bits gives the number that they pack. -/
theorem ofBits_eq_ofUnpacked (bits : UInt64) :
    ofBits bits.toNat = ofUnpacked (UnpackedFloat.unpack .binary64 bits.toBitVec) := by
  have sign := ofBitVec_eq_negative (@UnpackedFloat.unpackSign .binary64 bits.toBitVec)
  rw [toNat_unpackSign] at sign
  have greatest : @UnpackedFloat.unpackExponent .binary64 bits.toBitVec = -1#_ ↔
      bits.toNat / 2 ^ 52 % 2 ^ 11 = 2047 := by
    rw [← BitVec.toNat_inj, toNat_unpackExponent]
    rfl
  have least : @UnpackedFloat.unpackExponent .binary64 bits.toBitVec = 0#_ ↔
      bits.toNat / 2 ^ 52 % 2 ^ 11 = 0 := by
    rw [← BitVec.toNat_inj, toNat_unpackExponent]
    rfl
  have bare : @UnpackedFloat.unpackMantissa .binary64 bits.toBitVec = 0#_ ↔
      bits.toNat % 2 ^ 52 = 0 := by
    rw [← BitVec.toNat_inj, toNat_unpackMantissa]
    rfl
  simp only [ofBits, Nat.pow_eq, UnpackedFloat.unpack, greatest, least, bare]
  by_cases top : bits.toNat / 2 ^ 52 % 2 ^ 11 = 2047
  · simp only [if_pos top]
    by_cases empty : bits.toNat % 2 ^ 52 = 0
    · simp only [if_pos empty, ofUnpacked, sign]
    · simp only [if_neg empty, ofUnpacked]
  · simp only [if_neg top]
    by_cases low : bits.toNat / 2 ^ 52 % 2 ^ 11 = 0
    · simp only [if_pos low]
      by_cases empty : bits.toNat % 2 ^ 52 = 0
      · simp only [dif_pos empty, ofUnpacked, sign]
        rw [empty]
      · simp only [dif_neg empty, ofUnpacked, sign, toNat_unpackMantissa, toNat_unpackExponent, low]
        rfl
    · have short : bits.toNat % 2 ^ 52 < 2 ^ 52 := Nat.mod_lt _ (by decide)
      have leading : 1 <<< 52 ||| bits.toNat % 2 ^ 52 = 2 ^ 52 + bits.toNat % 2 ^ 52 :=
        (Nat.shiftLeft_add_eq_or_of_lt short 1).symm
      simp only [if_neg low, ofUnpacked, sign, BitVec.toNat_append, toNat_unpackMantissa,
        toNat_unpackExponent]
      exact congrArg (finite _ · _) leading.symm

theorem cutTo64_nonneg {value : Int} (above : 0 ≤ value) : 0 ≤ cutTo64 value :=
  le_max_of_le_right (le_min (by decide) above)

/-- Only a negative sign takes a number below zero, and not even that takes zero there. -/
theorem floor_nonneg {negative : Bool} {significand : Nat} (exponent : Int)
    (above : negative = false ∨ significand = 0) : 0 ≤ (finite negative significand exponent).floor := by
  have signed : 0 ≤ (if negative then -((quotient significand exponent).1 : Int)
      else (quotient significand exponent).1) := by
    rcases above with rfl | rfl
    · exact Int.natCast_nonneg _
    · have zero : (quotient 0 exponent).1 = 0 := by
        unfold quotient
        split
        · exact Nat.zero_mul _
        · rfl
      rw [zero]
      split <;> decide
  exact cutTo64_nonneg (Int.fdiv_nonneg signed (Int.natCast_nonneg _))

end FloatValue

theorem floor_nonneg_float {number : Float} (above : 0.0 ≤ number) : 0 ≤ Quantity.floor number := by
  change 0 ≤ (FloatValue.ofFloat number).floor
  rw [FloatSign.nonnegative_iff] at above
  rw [FloatValue.ofFloat, Float.toBits, FloatValue.ofBits_eq_ofUnpacked]
  change 0 ≤ (FloatValue.ofUnpacked number.toModel.unpack).floor
  generalize number.toModel.unpack = unpacked at above ⊢
  cases above with
  | zero => exact FloatValue.floor_nonneg _ (.inr rfl)
  | infinity => decide
  | finite => exact FloatValue.floor_nonneg _ (.inl rfl)

/-- Numbers whose tenths are not below zero unless they are. -/
class SteadyTenths (α : Type) [Quantity α] : Prop where
  tenths_nonneg {depth : α} : 0.0 ≤ depth → 0 ≤ Quantity.tenths depth

namespace Quantity

variable {α : Type} [Quantity α]

/-- The whole metres of a depth. -/
def metres (depth : α) : Nat := (tenths depth).toNat / 10

/-- The tenths of a depth over its whole metres. -/
def tenthsOver (depth : α) : Nat := (tenths depth).toNat % 10

variable [SteadyTenths α] {depth : α}

theorem tdiv_tenths (charted : 0.0 ≤ depth) : (tenths depth).tdiv 10 = metres depth := by
  obtain ⟨count, same⟩ := Int.eq_ofNat_of_zero_le (SteadyTenths.tenths_nonneg charted)
  rw [metres, same]
  rfl

theorem tmod_tenths (charted : 0.0 ≤ depth) : (tenths depth).tmod 10 = tenthsOver depth := by
  obtain ⟨count, same⟩ := Int.eq_ofNat_of_zero_le (SteadyTenths.tenths_nonneg charted)
  rw [tenthsOver, same]
  rfl

omit [SteadyTenths α] in
theorem metres_lt_iff : metres depth < 100000 ↔ tenths depth < 1000000 := by
  rw [metres]
  omega

end Quantity

instance : SteadyTenths Float where
  tenths_nonneg {depth} above := by
    have scale : ∃ significand exponent filled, (10.0 : Float).toModel.unpack =
        .finite .positive significand exponent filled := ⟨_, _, _, rfl⟩
    have excess : FloatSign.Nonnegative (1e-9 : Float).toModel.unpack :=
      (FloatSign.nonnegative_iff _).mp (by decide +kernel)
    rw [FloatSign.nonnegative_iff] at above
    have scaled : 0.0 ≤ depth * 10.0 + 1e-9 := by
      rw [FloatSign.nonnegative_iff]
      exact FloatSign.nonnegative_pack (FloatSign.nonnegative_add
        (FloatSign.nonnegative_pack (FloatSign.nonnegative_mul above scale)) excess)
    exact floor_nonneg_float scaled

theorem tenths_eq_floor (depth : Rat) : Quantity.tenths depth = ⌊10 * depth + 1 / 10 ^ 9⌋ := by
  have scaled : depth * 10.0 + 1e-9 = 10 * depth + 1 / 10 ^ 9 := by
    norm_num
    ring
  rw [← scaled]
  rfl

instance : SteadyTenths Rat where
  tenths_nonneg {depth} above := by
    have nonnegative : 0 ≤ depth := by
      norm_num at above
      exact above
    rw [tenths_eq_floor]
    positivity

end ChartPortrayal
