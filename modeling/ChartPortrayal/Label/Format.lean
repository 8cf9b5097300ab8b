import ChartPortrayal.Error
import ChartPortrayal.Number.Quantity
import ChartPortrayal.Text.Blank

/-!
Label formats. A format is text with conversions in it: a percent sign, perhaps a hyphen for padding on the
right, a width, a precision after a point, and a letter, perhaps after an `l`. Two percent signs, with
anything that may stand between them, make one. What is no conversion stays as it is.

Any decimal digit of Unicode counts as a digit of a width or of a precision, but only ASCII digits make a
number: otherwise the width is zero, and the precision is as good as not given.
-/

namespace ChartPortrayal

inductive ConversionKind where
  | integer
  | fraction
  | text
deriving DecidableEq

def ConversionKind.ofLetter? : Char → Option ConversionKind
  | 'd' => some integer
  | 'i' => some integer
  | 'f' => some fraction
  | 's' => some text
  | _ => none

structure Conversion where
  /-- Whether the value is padded on the right. -/
  left : Bool
  width : Nat
  precision : Option Nat
  kind : ConversionKind
deriving DecidableEq

inductive FormatPart where
  | plain (char : Char)
  | percent
  | value (conversion : Conversion)
deriving DecidableEq

namespace LabelFormat

open Text (isDecimalDigit)

/-- The number that digits make, where they are ASCII digits and fit in 64 bits. -/
def size? (digits : List Char) : Option Nat := (Numeral.natural? digits).filter (· < Nat.pow 2 64)

def splitHyphen : List Char → Bool × List Char
  | '-' :: rest => (true, rest)
  | chars => (false, chars)

def splitPrecision (chars : List Char) : Option (List Char) × List Char :=
  match chars with
  | '.' :: rest =>
    if rest.takeWhile isDecimalDigit = [] then (none, chars)
    else (some (rest.takeWhile isDecimalDigit), rest.dropWhile isDecimalDigit)
  | _ => (none, chars)

def splitLetter? : List Char → Option (Option ConversionKind × List Char)
  | '%' :: rest => some (none, rest)
  | 'l' :: letter :: rest => (ConversionKind.ofLetter? letter).map (fun kind => (some kind, rest))
  | letter :: rest => (ConversionKind.ofLetter? letter).map (fun kind => (some kind, rest))
  | [] => none

/-- Reads what follows a percent sign, where it completes a conversion, and counts its characters. -/
def conversion? (chars : List Char) : Option (FormatPart × Nat) :=
  let (left, afterHyphen) := splitHyphen chars
  let width := afterHyphen.takeWhile isDecimalDigit
  let (precision, afterPrecision) := splitPrecision (afterHyphen.dropWhile isDecimalDigit)
  (splitLetter? afterPrecision).map (fun (kind?, rest) =>
    (match kind? with
      | none => .percent
      | some kind =>
        .value
          { left, kind
            width := (size? width).getD 0
            precision := precision.bind size? },
     chars.length - rest.length))

/-- The parts of a format, after so many characters that belong to the part before. -/
def partsFrom : Nat → List Char → List FormatPart
  | _, [] => []
  | used + 1, _ :: rest => partsFrom used rest
  | 0, char :: rest =>
    if char = '%' then
      match conversion? rest with
      | some (part, used) => part :: partsFrom used rest
      | none => .plain char :: partsFrom 0 rest
    else .plain char :: partsFrom 0 rest

def parts (format : String) : List FormatPart := partsFrom 0 format.toList

/-- Widths and precisions are handed on in sixteen bits. -/
def layoutLimit : Nat := 65536

/-- Pads a text with blanks up to a width, counted in code points. -/
def pad (conversion : Conversion) (text : String) : Except PortrayalError String :=
  if conversion.width < layoutLimit then
    .ok (if conversion.left then Text.padRight conversion.width ' ' text
      else Text.padLeft conversion.width ' ' text)
  else .error .overflow

variable (α : Type) [Quantity α]

/-- Writes a value without padding; a numeric conversion asks for a number. -/
def render (conversion : Conversion) (value : String) : Except PortrayalError (Option String) :=
  match conversion.kind with
  | .integer => .ok ((Quantity.read? value : Option α).map (fun number =>
      toString (Quantity.truncate number)))
  | .fraction =>
    match (Quantity.read? value : Option α) with
    | some number =>
      if conversion.precision.getD 6 < layoutLimit then
        .ok (some (Quantity.fixed (conversion.precision.getD 6) number))
      else .error .overflow
    | none => .ok none
  | .text =>
    .ok (some (match conversion.precision with
      | some count => String.ofList (value.toList.take count)
      | none => value))

/-- Puts values into the parts of a format, in order. There may be more values than conversions, but not
fewer. -/
def fillParts : List FormatPart → List String → Except PortrayalError (Option String)
  | [], _ => .ok (some "")
  | .plain char :: parts, values => (fillParts parts values).map (Option.map (char.toString ++ ·))
  | .percent :: parts, values => (fillParts parts values).map (Option.map ("%" ++ ·))
  | .value _ :: _, [] => .ok none
  | .value conversion :: parts, value :: values =>
    match render α conversion (Text.trim value) with
    | .ok (some written) => do
      let padded ← pad conversion written
      let rest? ← fillParts parts values
      return rest?.map (padded ++ ·)
    | .ok none => .ok none
    | .error error => .error error

def fill (format : String) (values : List String) : Except PortrayalError (Option String) :=
  fillParts α (parts format) values

end LabelFormat

end ChartPortrayal
