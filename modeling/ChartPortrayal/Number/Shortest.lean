import ChartPortrayal.Number.Places

/-!
The fewest decimal digits that read back as the same number, and their layout in documents: positional
from `10 ^ -5` up to `10 ^ 16`, with one place at least, and else with a signed exponent.
-/

namespace ChartPortrayal

structure DecimalDigits where
  digits : Nat
  exponent : Int
deriving DecidableEq

namespace FloatValue

/-- Whether a decimal lies between the midpoints to the neighbours of a magnitude; a midpoint itself
counts when the significand is even. The neighbour below a power of two is twice as near. -/
def readsBack (significand : Nat) (exponent : Int) (decimal : DecimalDigits) : Bool :=
  let even := significand % 2 = 0
  let narrow := significand = Nat.pow 2 52 ∧ exponent ≠ -1074
  let scale (number : Nat) (power : Int) (base : Nat) : Nat := number * Nat.pow base power.toNat
  let left := scale (scale (4 * decimal.digits) decimal.exponent 10) (-exponent) 2
  let unit := scale (scale 1 (-decimal.exponent) 10) exponent 2
  let upper := (4 * significand + 2) * unit
  let lower := (4 * significand - (if narrow then 1 else 2)) * unit
  if even then lower ≤ left && left ≤ upper else lower < left && left < upper

def leadingPlace (significand : Nat) (exponent : Int) : Int :=
  let (numerator, denominator) := quotient significand exponent
  if denominator ≤ numerator then ((toString (numerator / denominator)).length : Int) - 1
  else -((toString ((denominator - 1) / numerator)).length : Int)

/-- The decimal of so many digits nearest to a magnitude, a half going to the even digit. -/
def withDigits (significand : Nat) (exponent : Int) (count : Nat) : DecimalDigits :=
  let (numerator, denominator) := quotient significand exponent
  let place := leadingPlace significand exponent - ((count : Int) - 1)
  let digits :=
    if 0 ≤ place then roundDiv numerator (denominator * Nat.pow 10 place.toNat)
    else roundDiv (numerator * Nat.pow 10 (-place).toNat) denominator
  ⟨digits, place⟩

/-- The decimals next to a positive magnitude on a grid that can read back: the nearest one, and the one
above it, since the neighbour below a power of two is nearer than the one above. -/
def neighbours (significand : Nat) (exponent : Int) (count : Nat) : List DecimalDigits :=
  let near := withDigits significand exponent count
  [near, ⟨near.digits + 1, near.exponent⟩]

/-- The shortest decimal that reads back as a positive magnitude; seventeen digits always do. -/
def shortest (significand : Nat) (exponent : Int) : DecimalDigits :=
  let candidates := (List.range 17).flatMap (fun count => neighbours significand exponent (count + 1))
  (candidates.find? (readsBack significand exponent)).getD (withDigits significand exponent 17)

end FloatValue

namespace DecimalDigits

def normalize : Nat → DecimalDigits → DecimalDigits
  | 0, decimal => decimal
  | steps + 1, decimal =>
    if decimal.digits ≠ 0 ∧ decimal.digits % 10 = 0 then
      normalize steps ⟨decimal.digits / 10, decimal.exponent + 1⟩
    else decimal

def exponentText (power : Int) : String := (if power < 0 then "e-" else "e+") ++ toString power.natAbs

def layout (decimal : DecimalDigits) : String :=
  let ⟨digits, exponent⟩ := normalize 400 decimal
  let text := toString digits
  let point : Int := text.length + exponent
  if 0 ≤ exponent ∧ point ≤ 16 then
    text ++ String.ofList (List.replicate exponent.toNat '0') ++ ".0"
  else if 0 < point ∧ point ≤ 16 then
    String.ofList (text.toList.take point.toNat) ++ "." ++ String.ofList (text.toList.drop point.toNat)
  else if -5 < point ∧ point ≤ 0 then
    "0." ++ String.ofList (List.replicate (-point).toNat '0') ++ text
  else
    let power := exponentText (point - 1)
    match text.toList with
    | [] => power
    | [digit] => digit.toString ++ power
    | digit :: rest => digit.toString ++ "." ++ String.ofList rest ++ power

example : (layout ⟨1, 15⟩, layout ⟨1, 16⟩, layout ⟨15, 21⟩) =
    ("1000000000000000.0", "1e+16", "1.5e+22") := by decide +kernel

example : (layout ⟨1, -5⟩, layout ⟨1, -6⟩, layout ⟨9999, -9⟩) = ("0.00001", "1e-6", "9.999e-6") := by
  decide +kernel

end DecimalDigits

/-- The text of a number in a document; one that is not finite has none. -/
def FloatValue.documentText? : FloatValue → Option String
  | finite negative significand exponent =>
    let magnitude :=
      if significand = 0 then "0.0" else (shortest significand exponent).layout
    some (signText negative ++ magnitude)
  | _ => none

end ChartPortrayal
