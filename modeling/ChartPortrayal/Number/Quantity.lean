import ChartPortrayal.Number.Places

namespace ChartPortrayal

/-- Numbers that can be read from numerals, compared, added, cut to integers and written. -/
class Quantity (α : Type) extends Add α, Sub α, Mul α, Neg α, LT α, LE α, BEq α, OfScientific α where
  decideLT : ∀ left right : α, Decidable (left < right)
  decideLE : ∀ left right : α, Decidable (left ≤ right)
  ofNumeral? : Numeral → Option α
  truncate : α → Int
  floor : α → Int
  /-- The remainder that is not negative, for a positive divisor. -/
  remainder : α → α → α
  /-- The form that instructions hold. -/
  plain : α → String
  fixed : Nat → α → String

namespace Quantity

variable {α : Type} [Quantity α]

instance (left right : α) : Decidable (left < right) := decideLT left right

instance (left right : α) : Decidable (left ≤ right) := decideLE left right

def read? (text : String) : Option α := (Numeral.read? text).bind ofNumeral?

def magnitude (number : α) : α := if number < 0.0 then -number else number

/-- The lesser of two numbers; one that is not equal to itself gives way to the other. -/
def lesser (first second : α) : α :=
  if first == first then if second < first then second else first else second

def greater (first second : α) : α :=
  if first == first then if first < second then second else first else second

/-- Whole tenths of a depth. The small excess keeps a depth that was charted in tenths from falling
under them when it is scaled. -/
def tenths (depth : α) : Int := floor (depth * 10.0 + 1e-9)

end Quantity

/-- The remainder with the sign of the dividend, moved up by the divisor where it is negative. -/
def wrappedRemainder (dividend divisor : Float) : Float :=
  let remainder :=
    ((FloatValue.ofFloat dividend).truncatedRemainder (FloatValue.ofFloat divisor)).toFloat
  if remainder < 0 then remainder + divisor.abs else remainder

instance : Quantity Float where
  decideLT _ _ := inferInstance
  decideLE _ _ := inferInstance
  ofNumeral? numeral := some numeral.toFloat
  truncate number := (FloatValue.ofFloat number).truncate
  floor number := (FloatValue.ofFloat number).floor
  remainder := wrappedRemainder
  plain number := (FloatValue.ofFloat number).plain
  fixed places number := (FloatValue.ofFloat number).fixed places

namespace Numeral

def toFraction? : Numeral → Option Rat
  | finite negative digits exponent =>
    let size : Rat :=
      if 0 ≤ exponent then mkRat (digits * Nat.pow 10 exponent.toNat) 1
      else mkRat digits (Nat.pow 10 (-exponent).toNat)
    some (if negative then -size else size)
  | _ => none

end Numeral

instance : Quantity Rat where
  decideLT _ _ := inferInstance
  decideLE _ _ := inferInstance
  ofNumeral? := Numeral.toFraction?
  truncate number := number.num.tdiv number.den
  floor := Rat.floor
  remainder dividend divisor := dividend - divisor * (dividend / divisor).floor
  plain number := plainQuotient (number.num < 0) number.num.natAbs number.den
  fixed places number := signText (number.num < 0) ++ fixedPlaces places number.num.natAbs number.den

end ChartPortrayal
