import ChartPortrayal.Json.Decoding

/-!
Floating-point numbers in documents. A literal is read quickly rather than exactly. Its digits make an
integer of 64 bits; once that is full, the rest of the whole digits, or of the fraction, is left out. One
multiplication or division by a power of ten follows. Very small numbers are divided in steps of
`10 ^ 308`, and a number that is too great cannot be read.
-/

namespace ChartPortrayal.Json

open Text (isAsciiDigit digitValue)

def significandLimit : Nat := Nat.pow 2 64

/-- Digits that are taken into a significand until it is full. -/
structure Significand where
  value : Nat
  full : Bool
  taken : Nat
  dropped : Nat

namespace Significand

def start : Significand := ⟨0, false, 0, 0⟩

def push (significand : Significand) (digit : Char) : Significand :=
  let next := significand.value * 10 + digitValue digit
  if significand.full || significandLimit ≤ next then
    { significand with full := true, dropped := significand.dropped + 1 }
  else { significand with value := next, taken := significand.taken + 1 }

end Significand

def powerOfTen (exponent : Nat) : Float := (Numeral.finite false 1 exponent).toFloat

/-- Scales a significand by a power of ten. The first argument bounds the steps of a division; sixteen
of them bring every significand to zero. -/
def scale? : Nat → Float → Int → Option Float
  | 0, _, _ => none
  | steps + 1, value, exponent =>
    if exponent.natAbs ≤ 308 then
      if 0 ≤ exponent then
        let scaled := value * powerOfTen exponent.natAbs
        if scaled.isInf then none else some scaled
      else some (value / powerOfTen exponent.natAbs)
    else if value == 0 then some value
    else if 0 ≤ exponent then none
    else scale? steps (value / powerOfTen 308) (exponent + 308)

/-- The integer limit of exponents; one that is greater is settled without scaling. -/
def exponentLimit : Nat := Nat.pow 2 31

structure LiteralParts where
  negative : Bool
  whole : List Char
  fraction : List Char
  exponent : Int
  /-- Whether there is a fraction or an exponent. -/
  fractional : Bool

def literalParts (literal : String) : LiteralParts :=
  let (negative, unsigned) := Numeral.splitSign literal.toList
  let whole := unsigned.takeWhile isAsciiDigit
  let tail := unsigned.dropWhile isAsciiDigit
  let (fraction, exponentPart) := match tail with
    | '.' :: rest => (rest.takeWhile isAsciiDigit, rest.dropWhile isAsciiDigit)
    | _ => ([], tail)
  { negative, whole, fraction
    exponent := (Numeral.exponent? exponentPart).getD 0
    fractional := !tail.isEmpty }

def literalFloat? (literal : String) : Option Float :=
  let parts := literalParts literal
  let whole := parts.whole.foldl Significand.push .start
  if !parts.fractional && !whole.full then
    some (FloatValue.nearest parts.negative whole.value 1)
  else
    let significand := parts.fraction.foldl Significand.push { whole with full := false }
    let places : Int := (significand.taken : Int) - whole.taken
    let start : Int := whole.dropped - places
    let magnitude? :=
      if exponentLimit ≤ parts.exponent.natAbs then
        if significand.value ≠ 0 ∧ 0 < parts.exponent then none
        else some (FloatValue.nearest false 0 1)
      else scale? 17 (FloatValue.nearest false significand.value 1) (start + parts.exponent)
    magnitude?.map (fun magnitude => if parts.negative then -magnitude else magnitude)

def float? : Json → Option Float
  | number literal => literalFloat? literal
  | _ => none

end ChartPortrayal.Json
