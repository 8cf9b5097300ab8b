import ChartPortrayal.Text.Digit

/-!
Lists of enumerated codes. An attribute such as a colour or a restriction holds small codes with commas
between them. Fields that are no code from 1 to 255 are skipped, and only the first sixteen codes count.
-/

namespace ChartPortrayal

open Text (isAsciiDigit digitValue)

def CodeList.capacity : Nat := 16

/-- Codes up to the capacity, in the order they were given. They fill cells from the first one on, and the
cells behind them hold zeros. -/
structure CodeList where
  cells : Vector UInt8 CodeList.capacity
  size : Nat
  size_le : size ≤ CodeList.capacity
  vacant : ∀ (place : Nat) (inside : place < CodeList.capacity), size ≤ place → cells[place] = 0
deriving DecidableEq

namespace CodeList

def empty : CodeList where
  cells := Vector.replicate capacity 0
  size := 0
  size_le := Nat.zero_le capacity
  vacant _ inside _ := Vector.getElem_replicate inside

instance : Inhabited CodeList := ⟨empty⟩

def codes (list : CodeList) : List Nat := (list.cells.toList.take list.size).map UInt8.toNat

/-- Puts a code into the first vacant cell; a full list has none. -/
def push? (list : CodeList) (code : UInt8) : Option CodeList :=
  if room : list.size < capacity then
    some
      { cells := list.cells.set list.size code room
        size := list.size + 1
        size_le := room
        vacant := fun place inside behind => by
          rw [Vector.getElem_set_ne _ _ (Nat.ne_of_lt behind)]
          exact list.vacant place inside (Nat.le_of_succ_le behind) }
  else none

/-- Puts codes into a list, up to the first one that finds no vacant cell. -/
def append (list : CodeList) : List UInt8 → CodeList
  | [] => list
  | code :: rest =>
    match list.push? code with
    | some longer => longer.append rest
    | none => list

def ofCodes (codes : List Nat) : CodeList := empty.append (codes.map UInt8.ofNat)

/-- A field that is being read: the value of its digits so far, how many there were, and whether nothing but
digits and blanks came up. -/
structure Field where
  value : Nat
  digits : Nat
  plain : Bool

namespace Field

def start : Field := ⟨0, 0, true⟩

def ceiling : Nat := 4294967295

/-- Takes in one character. Blanks and tabs are passed over wherever they stand, and a value that exceeds the
ceiling stays there. -/
def read (field : Field) (char : Char) : Field :=
  if isAsciiDigit char then
    { field with
      value := min ceiling (min ceiling (field.value * 10) + digitValue char)
      digits := field.digits + 1 }
  else if char = ' ' ∨ char = '\t' then field
  else { field with plain := false }

def code? (field : Field) : Option UInt8 :=
  if field.plain ∧ 0 < field.digits ∧ 1 ≤ field.value ∧ field.value ≤ 255 then
    some (UInt8.ofNat field.value)
  else none

end Field

/-- Reads the codes of a text into a list, given the field that is under way. Reading ends with the first code
that finds no vacant cell. -/
def scan (list : CodeList) (field : Field) : List Char → CodeList
  | [] => list
  | char :: rest =>
    if char = ',' then
      match field.code? with
      | none => list.scan .start rest
      | some code =>
        match list.push? code with
        | some longer => longer.scan .start rest
        | none => list
    else list.scan (field.read char) rest

/-- The codes of a text. A comma is put behind it, so that one ends every field. -/
def parse (raw : String) : CodeList := empty.scan .start (raw.toList ++ [','])

def isEmpty (list : CodeList) : Bool := list.codes.isEmpty

def first? (list : CodeList) : Option Nat := list.codes.head?

def contains (list : CodeList) (code : Nat) : Bool := list.codes.contains code

def containsAny (list : CodeList) (codes : List Nat) : Bool := codes.any list.contains

def sameSet (list : CodeList) (codes : List Nat) : Bool :=
  list.codes.all codes.contains && codes.all list.contains

end CodeList

end ChartPortrayal
