import ChartPortrayal.Rule.Priority
import ChartPortrayal.Text.Digit
import ChartPortrayal.Error

/-!
Priority overrides. The payload of an override is eight characters: the draw order, the radar letter, the
category letter and five digits of the view group; a hyphen leaves its field, or its one digit, as it is.
Flags may follow after commas.
-/

namespace ChartPortrayal

/-- New digits for the last five places of a view group. -/
structure ViewGroupPattern where
  tenThousands : Option (Fin 10)
  thousands : Option (Fin 10)
  hundreds : Option (Fin 10)
  tens : Option (Fin 10)
  units : Option (Fin 10)
deriving DecidableEq

namespace ViewGroupPattern

/-- The digits, the most significant first. -/
def digits (pattern : ViewGroupPattern) : List (Option (Fin 10)) :=
  [pattern.tenThousands, pattern.thousands, pattern.hundreds, pattern.tens, pattern.units]

/-- The whole group, where every digit is given. -/
def fixed? (pattern : ViewGroupPattern) : Option Nat :=
  pattern.digits.foldl
    (fun value digit => value.bind (fun size => digit.map (fun units => size * 10 + units.val)))
    (some 0)

def places (pattern : ViewGroupPattern) : List (Nat × Option (Fin 10)) :=
  [10000, 1000, 100, 10, 1].zip pattern.digits

/-- A number as a view group, where there is room for it in the type. -/
def fitted (number : Nat) : Except PortrayalError UInt32 :=
  if number < UInt32.size then .ok (.ofNat number) else .error .overflow

def writtenDigit (digit : Option (Fin 10)) (place current : Nat) : Nat :=
  (digit.map Fin.val).getD (current / place % 10)

def addDigit (current merged : UInt32) (place : Nat × Option (Fin 10)) : Except PortrayalError UInt32 := do
  let product ← fitted (place.1 * writtenDigit place.2 place.1 current.toNat)
  fitted (merged.toNat + product.toNat)

/-- Puts the last five digits together anew, on top of what stands above them. -/
def merge (pattern : ViewGroupPattern) (current : UInt32) : Except PortrayalError UInt32 := do
  let above ← fitted (current.toNat / 100000 * 100000)
  pattern.places.foldlM (addDigit current) above

def overwrite (pattern : ViewGroupPattern) (current : UInt32) : Except PortrayalError UInt32 :=
  if pattern.digits.any Option.isSome then pattern.merge current else .ok current

end ViewGroupPattern

structure PriorityOverride where
  /-- The eight characters as they were written. -/
  raw : String
  draw : Option (Fin 10)
  radar : Option RadarPriority
  category : Option DisplayCategory
  viewGroup : ViewGroupPattern
  ignoreScaleMinimum : Bool
deriving DecidableEq

namespace PriorityOverride

/-- The flag that frees a feature from its minimum scale. -/
def scaleFlag : String := "NOSCAMIN"

def field? {β : Type} (read? : Char → Option β) (char : Char) : Option (Option β) :=
  if char = '-' then some none else (read? char).map some

def digit? (char : Char) : Option (Fin 10) :=
  if Text.isAsciiDigit char then some (Fin.ofNat 10 (Text.digitValue char)) else none

def fields? (raw : String) (ignoreScaleMinimum : Bool) : Option PriorityOverride :=
  match raw.toList with
  | [draw, radar, category, tenThousands, thousands, hundreds, tens, units] => do
    let draw ← field? digit? draw
    let radar ← field? RadarPriority.ofCode? radar
    let category ← field? DisplayCategory.ofCode? category
    let tenThousands ← field? digit? tenThousands
    let thousands ← field? digit? thousands
    let hundreds ← field? digit? hundreds
    let tens ← field? digit? tens
    let units ← field? digit? units
    return { raw, draw, radar, category,
             viewGroup := ⟨tenThousands, thousands, hundreds, tens, units⟩, ignoreScaleMinimum }
  | _ => none

def parse (payload : String) : Except PortrayalError PriorityOverride :=
  match Text.commaFields payload with
  | [] => .error (.invalidPriorityOverride payload)
  | raw :: flags =>
    match fields? raw (flags.contains scaleFlag) with
    | some override => .ok override
    | none => .error (.invalidPriorityOverride payload)

/-- Writes over the fields that the override gives. -/
def apply (override : PriorityOverride) (priority : Priority) : Except PortrayalError Priority := do
  let viewGroup ← override.viewGroup.overwrite priority.viewGroup
  return {
    draw := (override.draw.map (fun digit => UInt8.ofNat digit.val)).getD priority.draw
    radar := override.radar.getD priority.radar
    category := override.category.getD priority.category
    viewGroup
    ignoreScaleMinimum := priority.ignoreScaleMinimum || override.ignoreScaleMinimum }

def payload (override : PriorityOverride) : String :=
  if override.ignoreScaleMinimum then override.raw ++ "," ++ scaleFlag else override.raw

end PriorityOverride

end ChartPortrayal
