import ChartPortrayal.Text.Digit

/-!
Numbers as texts. A numeral is a decimal with an optional fraction and an optional power of ten, or one of
the words for infinity and for the undefined number. Integers have a narrower grammar of their own. No
grammar admits blanks, so callers trim first where blanks are allowed.
-/

namespace ChartPortrayal

open Text (isAsciiDigit digitsValue)

/-- What a numeral denotes; a finite one is its digits times a power of ten. -/
inductive Numeral where
  | finite (negative : Bool) (digits : Nat) (exponent : Int)
  | infinite (negative : Bool)
  | undefined
deriving DecidableEq

namespace Numeral

def splitSign : List Char → Bool × List Char
  | '+' :: rest => (false, rest)
  | '-' :: rest => (true, rest)
  | chars => (false, chars)

def natural? (chars : List Char) : Option Nat :=
  if chars ≠ [] ∧ chars.all isAsciiDigit then some (digitsValue chars) else none

/-- Reads an exponent: nothing at all, or a mark followed by a signed run of digits. -/
def exponent? : List Char → Option Int
  | [] => some 0
  | mark :: rest =>
    if mark = 'e' ∨ mark = 'E' then
      let (negative, digits) := splitSign rest
      (natural? digits).map (fun size => if negative then -(size : Int) else size)
    else none

/-- Reads digits with at most one point among them and an exponent after them. -/
def decimal? (negative : Bool) (chars : List Char) : Option Numeral :=
  let whole := chars.takeWhile isAsciiDigit
  let (fraction, tail) := match chars.dropWhile isAsciiDigit with
    | '.' :: rest => (rest.takeWhile isAsciiDigit, rest.dropWhile isAsciiDigit)
    | rest => ([], rest)
  if whole = [] ∧ fraction = [] then none
  else
    (exponent? tail).map (fun exponent =>
      .finite negative (digitsValue (whole ++ fraction)) (exponent - fraction.length))

def unsigned? (negative : Bool) (chars : List Char) : Option Numeral :=
  match String.ofList (chars.map Char.toLower) with
  | "inf" => some (.infinite negative)
  | "infinity" => some (.infinite negative)
  | "nan" => some .undefined
  | _ => decimal? negative chars

def read? (text : String) : Option Numeral :=
  let (negative, rest) := splitSign text.toList
  unsigned? negative rest

end Numeral

def signedInteger? (text : String) : Option Int :=
  let (negative, digits) := Numeral.splitSign text.toList
  (Numeral.natural? digits).map (fun size => if negative then -(size : Int) else size)

/-- Reads an integer that may have a plus sign but no minus sign. -/
def unsignedInteger? (text : String) : Option Nat :=
  match text.toList with
  | '+' :: digits => Numeral.natural? digits
  | digits => Numeral.natural? digits

def fitsSigned (bits : Nat) (value : Int) : Bool :=
  let limit : Int := Nat.pow 2 (bits - 1)
  value < limit && -limit ≤ value

def integer64? (text : String) : Option Int :=
  (signedInteger? text).filter (fitsSigned 64)

def int32? (text : String) : Option Int32 :=
  ((signedInteger? text).filter (fitsSigned 32)).map Int32.ofInt

def uint8? (text : String) : Option UInt8 :=
  ((unsignedInteger? text).filter (· < Nat.pow 2 8)).map UInt8.ofNat

def uint32? (text : String) : Option UInt32 :=
  ((unsignedInteger? text).filter (· < Nat.pow 2 32)).map UInt32.ofNat

end ChartPortrayal
