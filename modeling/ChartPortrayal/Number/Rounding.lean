namespace ChartPortrayal

/-- The integer nearest to a quotient; of two that are equally near, the even one. -/
def roundDiv (numerator denominator : Nat) : Nat :=
  let quotient := numerator / denominator
  let double := 2 * (numerator % denominator)
  if denominator < double ∨ (double = denominator ∧ quotient % 2 = 1) then quotient + 1 else quotient

example : (roundDiv 5 2, roundDiv 7 2, roundDiv 8 3, roundDiv 7 3) = (2, 4, 3, 2) := by decide

end ChartPortrayal
