import ChartPortrayal.Proofs.Number.Exact
import ChartPortrayal.Proofs.Number.Tenths

/-! Rounding to floating-point numbers. The number made from a quotient is finite when the quotient is not
above the greatest finite number, and it is as near to the quotient as any finite number. -/

namespace ChartPortrayal

namespace IsNearest

variable {value other : Rat} {integer : Nat}

/-- No integer is nearer than the nearest one. -/
theorem closest (nearest : IsNearest value integer) (other : Nat) :
    |value - integer| ≤ |value - other| := by
  by_cases same : other = integer
  · rw [same]
  · have apart : (1 : Rat) ≤ |(other : Rat) - integer| := by
      have gap : 1 ≤ |(other : Int) - integer| := Int.one_le_abs (by omega)
      exact_mod_cast gap
    have triangle : |(other : Rat) - integer| ≤ |value - integer| + |value - other| := by
      rw [abs_sub_comm value other, add_comm]
      exact abs_sub_le _ _ _
    linarith [nearest.near]

/-- Rounding does not cross an integer. -/
theorem le_of_le {bound : Nat} (nearest : IsNearest value integer) (below : value ≤ bound) :
    integer ≤ bound := by
  by_contra above
  have step : (bound : Rat) + 1 ≤ integer := by exact_mod_cast not_le.mp above
  linarith [(abs_le.mp nearest.near).1]

theorem ge_of_ge {bound : Nat} (nearest : IsNearest value integer) (above : bound ≤ value) :
    bound ≤ integer := by
  by_contra below
  have step : (integer : Rat) + 1 ≤ bound := by exact_mod_cast not_le.mp below
  linarith [(abs_le.mp nearest.near).2]

/-- Zero is nearest up to half a step. -/
theorem eq_zero_iff (nearest : IsNearest value integer) (least : 0 ≤ value) : integer = 0 ↔ value ≤ 1 / 2 := by
  constructor
  · rintro rfl
    have near := nearest.near
    rwa [Nat.cast_zero, sub_zero, abs_of_nonneg least] at near
  · intro half
    by_contra filled
    have one : (1 : Rat) ≤ integer := by exact_mod_cast Nat.pos_of_ne_zero filled
    obtain ⟨low, -⟩ := abs_le.mp nearest.near
    have same : (integer : Rat) = 1 := by linarith
    have tie : |value - integer| = 1 / 2 := by
      rw [same, show value = 1 / 2 by linarith]
      norm_num
    obtain rfl : integer = 1 := by exact_mod_cast same
    exact absurd (nearest.even tie) (by decide)

/-- What is nearer to an integer than a value that is rounded to it is rounded to it too. -/
theorem of_closer (nearest : IsNearest value integer) (closer : |other - integer| ≤ |value - integer|) :
    IsNearest other integer where
  near := closer.trans nearest.near
  even tie := nearest.even (le_antisymm nearest.near (tie ▸ closer))

theorem self (integer : Nat) : IsNearest integer integer where
  near := by norm_num
  even tie := by norm_num at tie

/-- The hundredths of a whole value. -/
theorem eq_natAbs {whole : Int} {units : Nat} (nearest : IsNearest (|(whole : Rat)| * 100) units) :
    units = whole.natAbs * 10 ^ 2 := by
  have size : |(whole : Rat)| * 100 = (whole.natAbs * 10 ^ 2 : Nat) := by
    rw [Nat.cast_mul, Nat.cast_natAbs, Int.cast_abs]
    norm_num
  rw [size] at nearest
  exact nearest.unique (.self _)

end IsNearest

namespace FloatValue

open Float.Model (UnpackedFloat)

/-- Bits that stand for a finite number are kept as they are. -/
theorem toBits_ofBits {bits : UInt64} (finite : bits.toNat / 2 ^ 52 % 2 ^ 11 ≠ 2047) :
    (Float.ofBits bits).toBits = bits := by
  have valid : Float.Model.Format.binary64.Valid bits.toBitVec := by
    refine ⟨fun greatest _ => absurd ?_ finite⟩
    rw [← toNat_unpackExponent, greatest]
    rfl
  exact congrArg UInt64.ofBitVec (UnpackedFloat.pack_unpack_of_valid valid)

/-- Significands and exponents that a finite number can have. -/
structure IsBinary (significand : Nat) (exponent : Int) : Prop where
  short : significand < 2 ^ 53
  fine : -1074 ≤ exponent
  coarse : exponent ≤ 971

theorem isBinary_of_ofBits {bits significand : Nat} {negative : Bool} {exponent : Int}
    (read : ofBits bits = .finite negative significand exponent) : IsBinary significand exponent := by
  rw [ofBits] at read
  simp only [Nat.pow_eq] at read
  have limit : bits / 2 ^ 52 % 2 ^ 11 < 2 ^ 11 := Nat.mod_lt _ (by decide)
  have fraction : bits % 2 ^ 52 < 2 ^ 52 := Nat.mod_lt _ (by decide)
  split at read
  · split at read <;> cases read
  · next bounded =>
    split at read <;> cases read
    · exact ⟨by omega, by decide, by decide⟩
    · exact ⟨by omega, by omega, by omega⟩

/-- The greatest finite number. -/
def greatest : Rat := magnitude (2 ^ 53 - 1) 971

theorem greatest_lt : greatest < 2 ^ (1024 : Int) := by
  have split : (2 : Rat) ^ (1024 : Int) = 2 ^ (53 : Int) * 2 ^ (971 : Int) := by
    rw [← zpow_add₀ two_ne_zero]
    rfl
  rw [greatest, magnitude, split]
  exact mul_lt_mul_of_pos_right (by norm_num) (by positivity)

theorem IsBinary.le_greatest {significand : Nat} {exponent : Int} (binary : IsBinary significand exponent) :
    magnitude significand exponent ≤ greatest := by
  have size : (significand : Rat) ≤ (2 ^ 53 - 1 : Nat) := by
    exact_mod_cast Nat.le_sub_one_of_lt binary.short
  have step : (2 : Rat) ^ exponent ≤ 2 ^ (971 : Int) := zpow_le_zpow_right₀ (by norm_num) binary.coarse
  exact mul_le_mul size step (by positivity) (Nat.cast_nonneg _)

/-- A grid for a value: the value has 53 bits before the grid's step, or fewer where no grid is finer. -/
structure IsGrid (value : Rat) (grid : Int) : Prop where
  fine : -1074 ≤ grid
  below : value < 2 ^ (grid + 53)
  above : grid = -1074 ∨ 2 ^ (grid + 52) ≤ value

theorem scaled_le_iff (numerator : Nat) {denominator : Nat} (positive : 0 < denominator) (power : Int) :
    (if 0 ≤ power then denominator * 2 ^ power.toNat ≤ numerator
      else denominator ≤ numerator * 2 ^ (-power).toNat) ↔
      (2 : Rat) ^ power ≤ numerator / denominator := by
  have divisor : (0 : Rat) < denominator := by exact_mod_cast positive
  rw [le_div_iff₀ divisor]
  split
  · next up =>
    obtain ⟨steps, rfl⟩ := Int.eq_ofNat_of_zero_le up
    rw [Int.toNat_natCast, zpow_natCast, mul_comm]
    exact_mod_cast Iff.rfl
  · next down =>
    obtain ⟨steps, negated⟩ := Int.eq_ofNat_of_zero_le (show 0 ≤ -power by omega)
    obtain rfl : power = -steps := by omega
    rw [neg_neg, Int.toNat_natCast, zpow_neg, zpow_natCast, inv_mul_le_iff₀ (by positivity), mul_comm]
    exact_mod_cast Iff.rfl

theorem log2_bounds {number : Nat} (positive : 0 < number) :
    (2 : Rat) ^ (number.log2 : Int) ≤ number ∧ (number : Rat) < 2 ^ ((number.log2 : Int) + 1) := by
  have filled : number ≠ 0 := Nat.ne_of_gt positive
  constructor
  · rw [zpow_natCast]
    exact_mod_cast Nat.log2_self_le filled
  · have power : ((number.log2 : Int) + 1) = (number.log2 + 1 : Nat) := rfl
    rw [power, zpow_natCast]
    exact_mod_cast Nat.lt_log2_self (n := number)

/-- Between which powers of two a quotient lies, as far as the logarithms of its parts tell. -/
theorem quotient_bounds {numerator denominator : Nat} (filled : 0 < numerator) (positive : 0 < denominator) :
    (2 : Rat) ^ ((numerator.log2 : Int) - denominator.log2 - 1) ≤ numerator / denominator ∧
      (numerator : Rat) / denominator < 2 ^ ((numerator.log2 : Int) - denominator.log2 + 1) := by
  obtain ⟨numeratorLow, numeratorHigh⟩ := log2_bounds filled
  obtain ⟨denominatorLow, denominatorHigh⟩ := log2_bounds positive
  have divisor : (0 : Rat) < denominator := by exact_mod_cast positive
  constructor
  · rw [sub_sub, zpow_sub₀ two_ne_zero]
    exact div_le_div₀ (Nat.cast_nonneg _) numeratorLow divisor denominatorHigh.le
  · rw [sub_add_eq_add_sub, zpow_sub₀ two_ne_zero]
    exact div_lt_div₀ numeratorHigh denominatorLow (by positivity) (by positivity)

theorem isGrid_gridExponent {numerator denominator : Nat} (filled : 0 < numerator)
    (positive : 0 < denominator) :
    IsGrid (numerator / denominator) (gridExponent numerator denominator) := by
  obtain ⟨low, high⟩ := quotient_bounds filled positive
  have decided := scaled_le_iff numerator positive (numerator.log2 - denominator.log2)
  unfold gridExponent
  simp only [Nat.pow_eq, decided]
  generalize (numerator.log2 : Int) - denominator.log2 = estimate at low high ⊢
  generalize (numerator : Rat) / denominator = value at low high ⊢
  obtain ⟨width, chosen, least, most⟩ : ∃ width, (if (2 : Rat) ^ estimate ≤ value then estimate
      else estimate - 1) = width ∧ (2 : Rat) ^ width ≤ value ∧ value < 2 ^ (width + 1) := by
    split
    · next reached => exact ⟨estimate, rfl, reached, high⟩
    · next short => exact ⟨estimate - 1, rfl, low, by rw [sub_add_cancel]; exact not_le.mp short⟩
  rw [chosen]
  refine ⟨le_max_left _ _, most.trans_le (zpow_le_zpow_right₀ one_le_two (by omega)), ?_⟩
  rcases max_choice (-1074) (width - 52) with bottom | normal
  · exact .inl bottom
  · refine .inr ?_
    rw [normal, sub_add_cancel]
    exact least

/-- The quotient in steps of a grid, rounded. -/
def steps (numerator denominator : Nat) (grid : Int) : Nat :=
  if 0 ≤ grid then roundDiv numerator (denominator * 2 ^ grid.toNat)
  else roundDiv (numerator * 2 ^ (-grid).toNat) denominator

theorem isNearest_steps (numerator : Nat) {denominator : Nat} (positive : 0 < denominator) (grid : Int) :
    IsNearest (numerator / denominator / 2 ^ grid) (steps numerator denominator grid) := by
  unfold steps
  split
  · next up =>
    obtain ⟨power, rfl⟩ := Int.eq_ofNat_of_zero_le up
    have nearest := isNearest_roundDiv numerator (Nat.mul_pos positive (Nat.two_pow_pos power))
    rw [Nat.cast_mul, ← div_div, Nat.cast_pow, Nat.cast_ofNat] at nearest
    rwa [zpow_natCast]
  · next down =>
    obtain ⟨power, negated⟩ := Int.eq_ofNat_of_zero_le (show 0 ≤ -grid by omega)
    obtain rfl : grid = -power := by omega
    have nearest := isNearest_roundDiv (numerator * 2 ^ power) positive
    rw [Nat.cast_mul, Nat.cast_pow, Nat.cast_ofNat, mul_div_right_comm] at nearest
    rwa [neg_neg, Int.toNat_natCast, zpow_neg, zpow_natCast, div_inv_eq_mul]

theorem nearestBits_eq {numerator : Nat} (filled : 0 < numerator) (denominator : Nat) :
    nearestBits numerator denominator = min infinityBits
      ((gridExponent numerator denominator + 1074).toNat * 2 ^ 52 +
        steps numerator denominator (gridExponent numerator denominator)) :=
  if_neg (Nat.ne_of_gt filled)

/-- Steps of a grid in the bits of a number: the exponent bits count the grids, and a significand that is
full carries into them. -/
theorem ofBits_steps (negative : Bool) {grid : Int} {count : Nat} (fine : -1074 ≤ grid)
    (full : grid = -1074 ∨ 2 ^ 52 ≤ count) (short : count ≤ 2 ^ 53)
    (bounded : (grid + 1074).toNat * 2 ^ 52 + count < infinityBits) :
    ∃ significand exponent,
      ofBits ((if negative then Nat.pow 2 63 else 0) + ((grid + 1074).toNat * 2 ^ 52 + count)) =
        .finite negative significand exponent ∧
      magnitude significand exponent = count * 2 ^ grid := by
  obtain ⟨offset, rfl⟩ : ∃ offset : Nat, grid = offset - 1074 := ⟨(grid + 1074).toNat, by omega⟩
  simp only [infinityBits, Nat.pow_eq, sub_add_cancel, Int.toNat_natCast] at bounded ⊢
  have sign : ((if negative then 2 ^ 63 else 0) + (offset * 2 ^ 52 + count)) / 2 ^ 63 % 2 =
      if negative then 1 else 0 := by split <;> omega
  have signed : ((if negative then 1 else 0) == 1) = negative := by cases negative <;> rfl
  have scale : ((if negative then 2 ^ 63 else 0) + (offset * 2 ^ 52 + count)) / 2 ^ 52 % 2 ^ 11 =
      offset + count / 2 ^ 52 := by split <;> omega
  have fraction : ((if negative then 2 ^ 63 else 0) + (offset * 2 ^ 52 + count)) % 2 ^ 52 =
      count % 2 ^ 52 := by split <;> omega
  simp only [ofBits, Nat.pow_eq, sign, signed, scale, fraction]
  rw [if_neg (by omega)]
  rcases Nat.lt_or_ge count (2 ^ 52) with low | high
  · obtain rfl : offset = 0 := by omega
    refine ⟨count, -1074, ?_, rfl⟩
    rw [if_pos (by omega), Nat.mod_eq_of_lt low]
  · rw [if_neg (by omega)]
    refine ⟨_, _, rfl, ?_⟩
    rcases Nat.lt_or_eq_of_le short with less | rfl
    · have top : count / 2 ^ 52 = 1 := by omega
      have whole : 2 ^ 52 + count % 2 ^ 52 = count := by omega
      rw [top, whole, magnitude]
      congr 2
      push_cast
      ring
    · have top : ((offset + 2 ^ 53 / 2 ^ 52 : Nat) : Int) - 1075 = offset - 1074 + 1 := by
        push_cast
        ring
      rw [top, magnitude, zpow_add_one₀ two_ne_zero]
      norm_num
      ring

/-- Sizes that no finite number is nearer to a value than. -/
def IsClosest (value : Rat) (significand : Nat) (exponent : Int) : Prop :=
  ∀ other power, IsBinary other power →
    |value - magnitude significand exponent| ≤ |value - magnitude other power|

/-- The nearest number of steps of a grid for a value is closest to it, since the numbers on finer grids that are not
on this one lie below the value. -/
theorem isClosest_of_grid {value : Rat} {grid : Int} (on : IsGrid value grid) {count : Nat}
    (nearest : IsNearest (value / 2 ^ grid) count) {significand : Nat} {exponent : Int}
    (same : magnitude significand exponent = count * 2 ^ grid) : IsClosest value significand exponent := by
  intro other power binary
  have step : (0 : Rat) < 2 ^ grid := by positivity
  have scaled (size : Rat) : |value - size * 2 ^ grid| = |value / 2 ^ grid - size| * 2 ^ grid := by
    rw [← abs_of_pos step, ← abs_mul, sub_mul, abs_of_pos step, div_mul_cancel₀ _ step.ne']
  rw [same, scaled]
  rcases le_or_gt grid power with coarse | finer
  · obtain ⟨further, rfl⟩ := Int.le.dest coarse
    have whole : magnitude other (grid + further) = (other * 2 ^ further : Nat) * 2 ^ grid := by
      rw [magnitude, zpow_add₀ two_ne_zero, zpow_natCast]
      push_cast
      ring
    rw [whole, scaled]
    exact mul_le_mul_of_nonneg_right (nearest.closest _) step.le
  · have above : -1074 < grid := lt_of_le_of_lt binary.fine finer
    have reached := on.above.resolve_left (ne_of_gt above)
    rw [add_comm, zpow_add₀ two_ne_zero] at reached
    have size : (other : Rat) ≤ 2 ^ (53 : Int) := by exact_mod_cast binary.short.le
    have low : magnitude other power ≤ 2 ^ (52 : Int) * 2 ^ grid := by
      calc magnitude other power ≤ 2 ^ (53 : Int) * 2 ^ power := by
            exact mul_le_mul_of_nonneg_right size (by positivity)
        _ = 2 ^ (53 + power) := (zpow_add₀ two_ne_zero ..).symm
        _ ≤ 2 ^ (52 + grid) := zpow_le_zpow_right₀ one_le_two (by omega)
        _ = 2 ^ (52 : Int) * 2 ^ grid := zpow_add₀ two_ne_zero ..
    have least : |value / 2 ^ grid - count| ≤ |value / 2 ^ grid - 2 ^ (52 : Int)| :=
      nearest.closest (2 ^ 52)
    calc |value / 2 ^ grid - count| * 2 ^ grid ≤ |value / 2 ^ grid - 2 ^ (52 : Int)| * 2 ^ grid :=
          mul_le_mul_of_nonneg_right least step.le
      _ = value - 2 ^ (52 : Int) * 2 ^ grid := by rw [← scaled, abs_of_nonneg (sub_nonneg.mpr reached)]
      _ ≤ value - magnitude other power := sub_le_sub_left low _
      _ ≤ |value - magnitude other power| := le_abs_self _

section Steps

variable {value : Rat} {grid : Int} {count : Nat}

theorem steps_le (on : IsGrid value grid) (nearest : IsNearest (value / 2 ^ grid) count) :
    count ≤ 2 ^ 53 := by
  have step : (0 : Rat) < 2 ^ grid := by positivity
  refine nearest.le_of_le ((div_le_iff₀ step).mpr ?_)
  have below := on.below.le
  rwa [add_comm, zpow_add₀ two_ne_zero] at below

theorem steps_full (on : IsGrid value grid) (nearest : IsNearest (value / 2 ^ grid) count) :
    grid = -1074 ∨ 2 ^ 52 ≤ count := by
  have step : (0 : Rat) < 2 ^ grid := by positivity
  refine on.above.imp_right (fun above => nearest.ge_of_ge ((le_div_iff₀ step).mpr ?_))
  rwa [add_comm, zpow_add₀ two_ne_zero] at above

/-- Up to the greatest finite number the bits stay below those of infinity. -/
theorem steps_bounded (on : IsGrid value grid) (nearest : IsNearest (value / 2 ^ grid) count)
    (bounded : value ≤ greatest) : (grid + 1074).toNat * 2 ^ 52 + count < infinityBits := by
  have short := steps_le on nearest
  have coarsest : grid ≤ 971 := by
    rcases on.above with rfl | above
    · decide
    · have limit : (2 : Rat) ^ (grid + 52) < 2 ^ (1024 : Int) := (above.trans bounded).trans_lt greatest_lt
      have order := (zpow_lt_zpow_iff_right₀ one_lt_two).mp limit
      omega
  rw [infinityBits, Nat.pow_eq]
  rcases coarsest.lt_or_eq with finer | rfl
  · omega
  · have full : count ≤ 2 ^ 53 - 1 :=
      nearest.le_of_le ((div_le_iff₀ (by positivity)).mpr bounded)
    omega

end Steps

theorem magnitude_zero (exponent : Int) : magnitude 0 exponent = 0 := by
  rw [magnitude, Nat.cast_zero, zero_mul]

/-- The bits nearest to a quotient, with a sign, are those of a closest finite number. -/
theorem exists_closest_bits (negative : Bool) (numerator : Nat) {denominator : Nat} (positive : 0 < denominator)
    (bounded : (numerator / denominator : Rat) ≤ greatest) :
    ∃ significand exponent,
      nearestBits numerator denominator < infinityBits ∧
      ofBits ((if negative then Nat.pow 2 63 else 0) + nearestBits numerator denominator) =
        .finite negative significand exponent ∧
      IsClosest (numerator / denominator) significand exponent := by
  rcases Nat.eq_zero_or_pos numerator with rfl | filled
  · have none : nearestBits 0 denominator = 0 := if_pos rfl
    rw [none]
    refine ⟨0, -1074, by decide, by cases negative <;> rfl, fun other power _ => ?_⟩
    simp [magnitude_zero]
  · have on := isGrid_gridExponent filled positive
    have nearest := isNearest_steps numerator positive (gridExponent numerator denominator)
    have below := steps_bounded on nearest bounded
    obtain ⟨significand, exponent, read, same⟩ :=
      ofBits_steps negative on.fine (steps_full on nearest) (steps_le on nearest) below
    rw [nearestBits_eq filled, Nat.min_eq_right below.le]
    exact ⟨significand, exponent, below, read, isClosest_of_grid on nearest same⟩

/-- The number made from a quotient is finite, and no finite number is nearer to the quotient. -/
theorem exists_closest (negative : Bool) (numerator : Nat) {denominator : Nat} (positive : 0 < denominator)
    (bounded : (numerator / denominator : Rat) ≤ greatest) :
    ∃ significand exponent,
      ofFloat (nearest negative numerator denominator) = .finite negative significand exponent ∧
      IsClosest (numerator / denominator) significand exponent := by
  obtain ⟨significand, exponent, below, read, closest⟩ :=
    exists_closest_bits negative numerator positive bounded
  refine ⟨significand, exponent, ?_, closest⟩
  have fits : (if negative then Nat.pow 2 63 else 0) + nearestBits numerator denominator < 2 ^ 64 := by
    simp only [infinityBits, Nat.pow_eq] at below ⊢
    split <;> omega
  have kept : (signedBits negative (nearestBits numerator denominator)).toNat =
      (if negative then Nat.pow 2 63 else 0) + nearestBits numerator denominator :=
    UInt64.toNat_ofNat_of_lt fits
  have finite : (signedBits negative (nearestBits numerator denominator)).toNat / 2 ^ 52 % 2 ^ 11 ≠ 2047 := by
    rw [kept]
    simp only [infinityBits, Nat.pow_eq] at below ⊢
    split <;> omega
  rw [FloatValue.nearest, ofFloat, toBits_ofBits finite, kept, read]

end FloatValue

end ChartPortrayal
