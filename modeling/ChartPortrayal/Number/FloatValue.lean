import ChartPortrayal.Number.Numeral
import ChartPortrayal.Number.Rounding

/-!
The exact value of a floating-point number, and the number nearest to an exact value. Everything that
reads, writes or cuts floating-point numbers goes through these two, in integer arithmetic.
-/

namespace ChartPortrayal

/-- What a floating-point number stands for; a finite one is its significand times a power of two. -/
inductive FloatValue where
  | finite (negative : Bool) (significand : Nat) (exponent : Int)
  | infinite (negative : Bool)
  | undefined
deriving DecidableEq

namespace FloatValue

def ofBits (bits : Nat) : FloatValue :=
  let negative := bits / Nat.pow 2 63 % 2 == 1
  let scale : Nat := bits / Nat.pow 2 52 % Nat.pow 2 11
  let fraction : Nat := bits % Nat.pow 2 52
  if scale = 2047 then
    if fraction = 0 then .infinite negative else .undefined
  else if scale = 0 then .finite negative fraction (-1074)
  else .finite negative (Nat.pow 2 52 + fraction) ((scale : Int) - 1075)

def ofFloat (number : Float) : FloatValue := ofBits number.toBits.toNat

def signedBits (negative : Bool) (magnitude : Nat) : UInt64 :=
  UInt64.ofNat ((if negative then Nat.pow 2 63 else 0) + magnitude)

/-- Bits of positive infinity, above those of every finite magnitude. -/
def infinityBits : Nat := 2047 * Nat.pow 2 52

/-- The power of two on whose multiples the magnitudes near a positive quotient lie. -/
def gridExponent (numerator denominator : Nat) : Int :=
  let estimate : Int := (numerator.log2 : Int) - denominator.log2
  let atLeast :=
    if 0 ≤ estimate then denominator * Nat.pow 2 estimate.toNat ≤ numerator
    else denominator ≤ numerator * Nat.pow 2 (-estimate).toNat
  max (-1074) ((if atLeast then estimate else estimate - 1) - 52)

/-- Bits of the magnitude nearest to a quotient. A significand that rounds up to the next power of two
carries into the exponent bits, and past the greatest finite magnitude stands infinity. -/
def nearestBits (numerator denominator : Nat) : Nat :=
  if numerator = 0 then 0
  else
    let grid := gridExponent numerator denominator
    let significand :=
      if 0 ≤ grid then roundDiv numerator (denominator * Nat.pow 2 grid.toNat)
      else roundDiv (numerator * Nat.pow 2 (-grid).toNat) denominator
    min infinityBits ((grid + 1074).toNat * Nat.pow 2 52 + significand)

def nearest (negative : Bool) (numerator denominator : Nat) : Float :=
  Float.ofBits (signedBits negative (nearestBits numerator denominator))

/-- The number whose value this is, if one has it, and the nearest to it otherwise. -/
def toFloat : FloatValue → Float
  | finite negative significand exponent =>
    if 0 ≤ exponent then nearest negative (significand * Nat.pow 2 exponent.toNat) 1
    else nearest negative significand (Nat.pow 2 (-exponent).toNat)
  | infinite negative => Float.ofBits (signedBits negative infinityBits)
  | undefined => Float.ofBits (signedBits false (infinityBits + Nat.pow 2 51))

def quotient (significand : Nat) (exponent : Int) : Nat × Nat :=
  if 0 ≤ exponent then (significand * Nat.pow 2 exponent.toNat, 1)
  else (significand, Nat.pow 2 (-exponent).toNat)

def signedLimit : Int := Nat.pow 2 63

def cutTo64 (value : Int) : Int := max (-signedLimit) (min (signedLimit - 1) value)

/-- The integer part, cut to 64 bits; zero where there is no number. -/
def truncate : FloatValue → Int
  | finite negative significand exponent =>
    let (numerator, denominator) := quotient significand exponent
    let size : Int := (numerator / denominator : Nat)
    cutTo64 (if negative then -size else size)
  | infinite negative => if negative then -signedLimit else signedLimit - 1
  | undefined => 0

def floor : FloatValue → Int
  | finite negative significand exponent =>
    let (numerator, denominator) := quotient significand exponent
    let signed : Int := if negative then -(numerator : Int) else numerator
    cutTo64 (signed.fdiv denominator)
  | infinite negative => if negative then -signedLimit else signedLimit - 1
  | undefined => 0

/-- The remainder of a truncated division, with the sign of the dividend; it is always representable. -/
def truncatedRemainder : FloatValue → FloatValue → FloatValue
  | finite negative significand exponent, finite _ divisor scale =>
    if divisor = 0 then undefined
    else
      let grid := min exponent scale
      let remainder :=
        (significand * Nat.pow 2 (exponent - grid).toNat) % (divisor * Nat.pow 2 (scale - grid).toNat)
      finite negative remainder grid
  | finite negative significand exponent, infinite _ => finite negative significand exponent
  | _, _ => undefined

end FloatValue

namespace Numeral

/-- The number nearest to a numeral. Exponents far outside the range of the type are settled at once:
from `10 ^ 309` on stands infinity, and below `10 ^ -324` zero. -/
def toFloat : Numeral → Float
  | finite negative digits exponent =>
    if digits = 0 then FloatValue.nearest negative 0 1
    else if 309 ≤ exponent then (FloatValue.infinite negative).toFloat
    else if (digits.log2 + 1) / 3 + 1 + exponent ≤ -324 then FloatValue.nearest negative 0 1
    else if 0 ≤ exponent then FloatValue.nearest negative (digits * Nat.pow 10 exponent.toNat) 1
    else FloatValue.nearest negative digits (Nat.pow 10 (-exponent).toNat)
  | infinite negative => (FloatValue.infinite negative).toFloat
  | undefined => FloatValue.undefined.toFloat

end Numeral

end ChartPortrayal
