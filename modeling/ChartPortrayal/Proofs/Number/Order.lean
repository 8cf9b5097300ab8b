import Mathlib
import ChartPortrayal.Number.Quantity

namespace ChartPortrayal.FloatOrder

open Float.Model (UnpackedFloat)

/-- Where a number stands among the others: by sign, then by exponent, then by significand. -/
def place : UnpackedFloat → Int ×ₗ Int ×ₗ Int
  | .infinity .negative => toLex (-2, toLex (0, 0))
  | .finite .negative significand exponent _ => toLex (-1, toLex (-exponent, -significand))
  | .zero _ => toLex (0, toLex (0, 0))
  | .finite .positive significand exponent _ => toLex (1, toLex (exponent, significand))
  | .infinity .positive => toLex (2, toLex (0, 0))
  | .notANumber => toLex (0, toLex (0, 0))

theorem compare_toLex {κ μ : Type} [Ord κ] [Ord μ] (first second : κ) (further other : μ) :
    compare (toLex (first, further)) (toLex (second, other)) =
      (compare first second).then (compare further other) := rfl

theorem compare_neg (first second : Int) : compare (-first) (-second) = (compare first second).swap := by
  rw [Int.compare_swap, Int.compare_eq_ite_lt, Int.compare_eq_ite_lt]
  simp

theorem compare_natCast (first second : Nat) : compare (first : Int) second = compare first second := by
  rw [Int.compare_eq_ite_lt, Nat.compare_eq_ite_lt]
  simp

/-- Numbers compare like their places. -/
theorem compare_eq_place {first second : UnpackedFloat} (one : first.isNaN = false)
    (other : second.isNaN = false) : first.compare second = some (compare (place first) (place second)) := by
  cases first with
  | notANumber => cases one
  | infinity sign =>
    cases second with
    | notANumber => cases other
    | infinity side => cases sign <;> cases side <;> rfl
    | zero side => cases sign <;> rfl
    | finite side significand exponent => cases sign <;> cases side <;> rfl
  | zero sign =>
    cases second with
    | notANumber => cases other
    | infinity side => cases side <;> rfl
    | zero side => rfl
    | finite side significand exponent => cases side <;> rfl
  | finite sign significand exponent =>
    cases second with
    | notANumber => cases other
    | infinity side => cases sign <;> cases side <;> rfl
    | zero side => cases sign <;> rfl
    | finite side fraction scale =>
      -- of negative numbers the one with the greater magnitude stands first
      cases sign <;> cases side
      all_goals
        simp only [UnpackedFloat.compare, place, compare_toLex, compare_neg, compare_natCast,
          Ordering.swap_then]
        rfl

theorem compare_eq_none {first second : UnpackedFloat}
    (undefined : first.isNaN = true ∨ second.isNaN = true) :
    first.compare second = none := by
  rcases undefined with one | other
  · cases first with
    | notANumber => rfl
    | _ => cases one
  · cases second with
    | notANumber => cases first <;> rfl
    | _ => cases other

/-- The place of a number among all numbers. -/
def rank (number : Float) : Int ×ₗ Int ×ₗ Int := place number.toModel.unpack

/-- How two numbers compare, if they do. -/
def compare? (first second : Float) : Option Ordering :=
  first.toModel.unpack.compare second.toModel.unpack

variable {first second third : Float}

theorem compare?_eq_rank (one : first.isNaN = false) (other : second.isNaN = false) :
    compare? first second = some (compare (rank first) (rank second)) :=
  compare_eq_place one other

theorem lt_iff_compare? : first < second ↔ compare? first second = some .lt := by
  change first.lt second = true ↔ _
  rw [Float.lt, decide_eq_true_iff]
  exact beq_iff_eq

theorem le_iff_compare? : first ≤ second ↔ (compare? first second).any (·.isLE) = true := by
  change first.le second = true ↔ _
  rw [Float.le, decide_eq_true_iff]
  rfl

theorem beq_iff_compare? : (first == second) = true ↔ compare? first second = some .eq := by
  change (compare? first second == some .eq) = true ↔ _
  rw [beq_iff_eq]

theorem lt_iff_rank (one : first.isNaN = false) (other : second.isNaN = false) :
    first < second ↔ rank first < rank second := by
  rw [lt_iff_compare?, compare?_eq_rank one other, Option.some_inj, compare_lt_iff_lt]

theorem le_iff_rank (one : first.isNaN = false) (other : second.isNaN = false) :
    first ≤ second ↔ rank first ≤ rank second := by
  rw [le_iff_compare?, compare?_eq_rank one other, Option.any_some, Ordering.isLE_iff_ne_gt]
  exact compare_le_iff_le

/-- Only numbers that are defined compare. -/
theorem isNaN_of_le (below : first ≤ second) : first.isNaN = false ∧ second.isNaN = false := by
  have incomparable : ¬ (first.isNaN = true ∨ second.isNaN = true) := by
    intro undefined
    have none : compare? first second = none := compare_eq_none undefined
    rw [le_iff_compare?, none] at below
    cases below
  simpa using incomparable

theorem le_self (defined : first.isNaN = false) : first ≤ first :=
  (le_iff_rank defined defined).mpr (le_refl _)

theorem beq_self (defined : first.isNaN = false) : (first == first) = true := by
  rw [beq_iff_compare?, compare?_eq_rank defined defined, Option.some_inj, compare_eq_iff_eq]

/-- Equal numbers are defined and stand at the same place. -/
theorem beq_iff_rank : (first == second) = true ↔
    first.isNaN = false ∧ second.isNaN = false ∧ rank first = rank second := by
  by_cases undefined : first.isNaN = true ∨ second.isNaN = true
  · have none : compare? first second = none := compare_eq_none undefined
    rw [beq_iff_compare?, none]
    constructor
    · intro same
      cases same
    · rintro ⟨one, other, -⟩
      rcases undefined with undefined | undefined <;> simp_all
  · simp only [not_or, Bool.not_eq_true] at undefined
    obtain ⟨one, other⟩ := undefined
    rw [beq_iff_compare?, compare?_eq_rank one other, Option.some_inj, compare_eq_iff_eq]
    exact ⟨fun same => ⟨one, other, same⟩, fun equal => equal.2.2⟩

/-- Equality of numbers is symmetric and transitive, but the undefined number is not equal to itself. -/
instance partialEquivBEq : PartialEquivBEq Float where
  symm same := by
    obtain ⟨one, other, place⟩ := beq_iff_rank.mp same
    exact beq_iff_rank.mpr ⟨other, one, place.symm⟩
  trans same further := by
    obtain ⟨one, -, place⟩ := beq_iff_rank.mp same
    obtain ⟨-, last, next⟩ := beq_iff_rank.mp further
    exact beq_iff_rank.mpr ⟨one, last, place.trans next⟩

theorem le_of_le_of_le (below : first ≤ second) (further : second ≤ third) : first ≤ third := by
  obtain ⟨one, other⟩ := isNaN_of_le below
  obtain ⟨-, last⟩ := isNaN_of_le further
  rw [le_iff_rank one other] at below
  rw [le_iff_rank other last] at further
  exact (le_iff_rank one last).mpr (below.trans further)

theorem not_lt_iff (one : first.isNaN = false) (other : second.isNaN = false) :
    ¬ first < second ↔ second ≤ first := by
  rw [lt_iff_rank one other, le_iff_rank other one, not_lt]

theorem le_of_less (one : first.isNaN = false) (other : second.isNaN = false) (less : first < second) :
    first ≤ second := by
  rw [lt_iff_rank one other] at less
  exact (le_iff_rank one other).mpr less.le

theorem lt_of_less_of_le (one : first.isNaN = false) (less : first < second) (below : second ≤ third) :
    first < third := by
  obtain ⟨other, last⟩ := isNaN_of_le below
  rw [lt_iff_rank one other] at less
  rw [le_iff_rank other last] at below
  exact (lt_iff_rank one last).mpr (less.trans_le below)

theorem isNaN_of_isFinite (finite : first.isFinite = true) : first.isNaN = false := by
  have unpacked : first.toModel.unpack.isFinite = true := finite
  have defined : first.toModel.unpack.isNaN = false := by
    cases shape : first.toModel.unpack with
    | notANumber =>
      rw [shape] at unpacked
      cases unpacked
    | _ => rfl
  exact defined

end ChartPortrayal.FloatOrder
