import ChartPortrayal.Json.Basic

/-!
Reading documents of the JSON format. The whole text has to be one value with nothing but blanks around it.
A value may have unpaired escapes in a string or in a name, but then it is of use only where nobody asks
for it.
-/

namespace ChartPortrayal.Json

open Text (isAsciiDigit)

def isBlank (char : Char) : Bool := char = ' ' || char = '\t' || char = '\n' || char = '\r'

def skipBlanks (chars : List Char) : List Char := chars.dropWhile isBlank

def hexValue? (char : Char) : Option Nat :=
  if isAsciiDigit char then some (char.toNat - 48)
  else if 'a' ≤ char ∧ char ≤ 'f' then some (char.toNat - 87)
  else if 'A' ≤ char ∧ char ≤ 'F' then some (char.toNat - 55)
  else none

def hexUnit? (first second third fourth : Char) : Option Nat := do
  let first ← hexValue? first
  let second ← hexValue? second
  let third ← hexValue? third
  let fourth ← hexValue? fourth
  return ((first * 16 + second) * 16 + third) * 16 + fourth

def simpleEscape? (char : Char) : Option Nat :=
  if char = doubleQuote ∨ char = backslash ∨ char = '/' then some char.toNat
  else if char = 'b' then some 8
  else if char = 't' then some 9
  else if char = 'n' then some 10
  else if char = 'f' then some 12
  else if char = 'r' then some 13
  else none

/-- The code units of a string up to its closing quote, and what follows. Escapes may give halves of a
pair, as two units. -/
def stringUnits? : List Char → Option (List Nat × List Char)
  | [] => none
  | char :: rest =>
    if char = doubleQuote then some ([], rest)
    else if char = backslash then
      match rest with
      | 'u' :: first :: second :: third :: fourth :: tail =>
        match hexUnit? first second third fourth, stringUnits? tail with
        | some unit, some (units, after) => some (unit :: units, after)
        | _, _ => none
      | letter :: tail =>
        match simpleEscape? letter, stringUnits? tail with
        | some unit, some (units, after) => some (unit :: units, after)
        | _, _ => none
      | [] => none
    else if char.toNat < 32 then none
    else (stringUnits? rest).map (fun (units, after) => (char.toNat :: units, after))

def isHighHalf (unit : Nat) : Bool := 0xD800 ≤ unit && unit ≤ 0xDBFF

def isLowHalf (unit : Nat) : Bool := 0xDC00 ≤ unit && unit ≤ 0xDFFF

/-- The characters of code units, where every half has its other half next to it. -/
def unitChars? : List Nat → Option (List Char)
  | [] => some []
  | [unit] => if isHighHalf unit || isLowHalf unit then none else some [Char.ofNat unit]
  | unit :: next :: rest =>
    if isHighHalf unit then
      if isLowHalf next then
        (unitChars? rest).map
          (Char.ofNat (0x10000 + (unit - 0xD800) * 0x400 + (next - 0xDC00)) :: ·)
      else none
    else if isLowHalf unit then none
    else (unitChars? (next :: rest)).map (Char.ofNat unit :: ·)

/-- Splits off the digits at the start; there has to be one. -/
def splitDigits? (chars : List Char) : Option (List Char × List Char) :=
  if chars.takeWhile isAsciiDigit = [] then none
  else some (chars.takeWhile isAsciiDigit, chars.dropWhile isAsciiDigit)

/-- Splits off an integer without a sign, which has no needless zero in front. -/
def splitWhole? (chars : List Char) : Option (List Char × List Char) :=
  (splitDigits? chars).filter (fun (digits, _) => digits.head? ≠ some '0' || digits.length = 1)

def splitFraction? (chars : List Char) : Option (List Char × List Char) :=
  match chars with
  | '.' :: rest => (splitDigits? rest).map (fun (digits, after) => ('.' :: digits, after))
  | _ => some ([], chars)

def splitSignChars : List Char → List Char × List Char
  | '+' :: rest => (['+'], rest)
  | '-' :: rest => (['-'], rest)
  | chars => ([], chars)

def splitExponent? (chars : List Char) : Option (List Char × List Char) :=
  match chars with
  | mark :: rest =>
    if mark = 'e' ∨ mark = 'E' then
      let (sign, unsigned) := splitSignChars rest
      (splitDigits? unsigned).map (fun (digits, after) => (mark :: sign ++ digits, after))
    else some ([], chars)
  | [] => some ([], [])

def number? (chars : List Char) : Option (Json × List Char) := do
  let (sign, unsigned) := match chars with
    | '-' :: rest => (['-'], rest)
    | _ => ([], chars)
  let (whole, afterWhole) ← splitWhole? unsigned
  let (fraction, afterFraction) ← splitFraction? afterWhole
  let (exponent, rest) ← splitExponent? afterFraction
  return (.number (String.ofList (sign ++ whole ++ fraction ++ exponent)), rest)

/-- Reads the rest of a string after its opening quote; there is no text in unpaired escapes. -/
def stringRest? (chars : List Char) : Option (Option String × List Char) :=
  (stringUnits? chars).map (fun (units, rest) => ((unitChars? units).map String.ofList, rest))

def memberName? (chars : List Char) : Option (Option String × List Char) :=
  match skipBlanks chars with
  | char :: rest =>
    if char = doubleQuote then
      match stringRest? rest with
      | some (name, after) =>
        match skipBlanks after with
        | ':' :: value => some (name, value)
        | _ => none
      | none => none
    else none
  | [] => none

def ofText? : Option String → Json
  | some text => .string text
  | none => .unpaired

def ofMembers? : Option (List (String × Json)) → Json
  | some members => .object members
  | none => .unpaired

def withMember? (name : Option String) (value : Json) (members : Option (List (String × Json))) :
    Option (List (String × Json)) :=
  name.bind (fun name => members.map ((name, value) :: ·))

def openBrace : Char := Char.ofNat 123

def closeBrace : Char := Char.ofNat 125

mutual

/-- Reads one value; the first argument bounds the depth of calls. -/
def value? : Nat → List Char → Option (Json × List Char)
  | 0, _ => none
  | fuel + 1, chars =>
    match skipBlanks chars with
    | [] => none
    | 'n' :: 'u' :: 'l' :: 'l' :: rest => some (.null, rest)
    | 't' :: 'r' :: 'u' :: 'e' :: rest => some (.bool true, rest)
    | 'f' :: 'a' :: 'l' :: 's' :: 'e' :: rest => some (.bool false, rest)
    | char :: rest =>
      if char = doubleQuote then
        (stringRest? rest).map (fun (text, after) => (ofText? text, after))
      else if char = '[' then
        match skipBlanks rest with
        | ']' :: after => some (.array [], after)
        | _ => (items? fuel rest).map (fun (items, after) => (.array items, after))
      else if char = openBrace then
        match skipBlanks rest with
        | [] => none
        | next :: after =>
          if next = closeBrace then some (.object [], after)
          else (members? fuel rest).map (fun (members, after) => (ofMembers? members, after))
      else number? (char :: rest)

def items? : Nat → List Char → Option (List Json × List Char)
  | 0, _ => none
  | fuel + 1, chars =>
    match value? fuel chars with
    | none => none
    | some (item, rest) =>
      match skipBlanks rest with
      | ']' :: after => some ([item], after)
      | ',' :: next => (items? fuel next).map (fun (items, after) => (item :: items, after))
      | _ => none

def members? : Nat → List Char → Option (Option (List (String × Json)) × List Char)
  | 0, _ => none
  | fuel + 1, chars =>
    match memberName? chars with
    | none => none
    | some (name, afterName) =>
      match value? fuel afterName with
      | none => none
      | some (value, rest) =>
        match skipBlanks rest with
        | ',' :: next =>
          (members? fuel next).map (fun (members, after) => (withMember? name value members, after))
        | char :: after =>
          if char = closeBrace then some (withMember? name value (some []), after) else none
        | [] => none

end

/-- Reads a document. Every call takes at least one character, or hands on to a call that does, so twice
the length of the text is enough for the bound. -/
def read? (text : String) : Option Json :=
  match value? (2 * text.length + 2) text.toList with
  | some (document, rest) => if skipBlanks rest = [] then some document else none
  | none => none

end ChartPortrayal.Json
