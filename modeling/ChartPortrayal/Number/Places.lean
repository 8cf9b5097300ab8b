import ChartPortrayal.Number.FloatValue
import ChartPortrayal.Text.Fields

namespace ChartPortrayal

/-- A quotient rounded to so many decimal places, a half going to the even digit. -/
def fixedPlaces (places numerator denominator : Nat) : String :=
  let scaled := roundDiv (numerator * Nat.pow 10 places) denominator
  let whole := toString (scaled / Nat.pow 10 places)
  if places = 0 then whole
  else whole ++ "." ++ Text.padLeft places '0' (toString (scaled % Nat.pow 10 places))

/-- A fraction without its trailing zeros, and without the point when nothing follows it. -/
def stripZeros (text : String) : String :=
  String.ofList (((text.toList.reverse.dropWhile (· = '0')).dropWhile (· = '.')).reverse)

def signText (negative : Bool) : String := if negative then "-" else ""

/-- Whole numbers from here on are written like fractions, which gives them the same digits. -/
def integerLimit : Nat := Nat.pow 10 15

/-- The plain form of a signed quotient. A whole number below the limit shows no sign at zero. -/
def plainQuotient (negative : Bool) (numerator denominator : Nat) : String :=
  let whole := numerator / denominator
  if numerator % denominator = 0 ∧ whole < integerLimit then
    signText (negative && whole != 0) ++ toString whole
  else signText negative ++ stripZeros (fixedPlaces 2 numerator denominator)

namespace FloatValue

def fixed (places : Nat) : FloatValue → String
  | finite negative significand exponent =>
    let (numerator, denominator) := quotient significand exponent
    signText negative ++ fixedPlaces places numerator denominator
  | infinite negative => signText negative ++ "inf"
  | undefined => "NaN"

def plain : FloatValue → String
  | finite negative significand exponent =>
    let (numerator, denominator) := quotient significand exponent
    plainQuotient negative numerator denominator
  | infinite negative => signText negative ++ "inf"
  | undefined => "NaN"

end FloatValue

end ChartPortrayal
