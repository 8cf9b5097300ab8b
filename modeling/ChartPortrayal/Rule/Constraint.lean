import ChartPortrayal.Text.Blank

namespace ChartPortrayal

inductive AttributeTest where
  /-- The attribute has a value that is known. -/
  | anyValue
  /-- The attribute is absent or unknown. -/
  | unknown
  | equals (value : String)
deriving DecidableEq

structure Constraint where
  acronym : String
  test : AttributeTest
deriving DecidableEq

namespace Constraint

def acronymBytes : Nat := 6

/-- Splits off the characters that fill so many bytes exactly, where some do. -/
def splitBytes : Nat → List Char → Option (List Char × List Char)
  | 0, rest => some ([], rest)
  | _ + 1, [] => none
  | size + 1, char :: rest =>
    if char.utf8Size ≤ size + 1 then
      (splitBytes (size + 1 - char.utf8Size) rest).map (fun parts => (char :: parts.1, parts.2))
    else none

def testOf : String → AttributeTest
  | "" => .anyValue
  | "?" => .unknown
  | value => .equals value

/-- Reads the encoded form: an acronym of six bytes, and what is asked of its attribute. -/
def parse? (encoded : String) : Option Constraint :=
  (splitBytes acronymBytes encoded.toList).map (fun parts =>
    ⟨String.ofList parts.1, testOf (String.ofList (Text.trimChars parts.2))⟩)

def text (constraint : Constraint) : String :=
  match constraint.test with
  | .anyValue => constraint.acronym ++ " "
  | .unknown => constraint.acronym ++ "?"
  | .equals value => constraint.acronym ++ value

end Constraint

end ChartPortrayal
