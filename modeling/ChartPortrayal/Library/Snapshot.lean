import ChartPortrayal.Instruction.Compilation
import ChartPortrayal.Json.Decoding

namespace ChartPortrayal

structure Snapshot where
  rules : List Rule
  definitions : List Definition
deriving DecidableEq

namespace AttributeTest

def name : AttributeTest → String
  | anyValue => "any-value"
  | unknown => "unknown"
  | equals _ => "equals"

def toJson : AttributeTest → Json
  | equals value => .object [("test", .string "equals"), ("value", .string value)]
  | test => .object [("test", .string test.name)]

/-- A test by its name, with what stands beside the name. Only a comparison needs a value; the other tests
admit none but null. -/
def ofParts? (kind : Json) (value : Option Json) : Option AttributeTest :=
  match Json.choice? [anyValue, unknown, equals ""] name kind, value with
  | some anyValue, none => some anyValue
  | some anyValue, some .null => some anyValue
  | some unknown, none => some unknown
  | some unknown, some .null => some unknown
  | some (equals _), some (.string text) => some (equals text)
  | _, _ => none

/-- Reads a test; in its form as an array the value may not be left out. -/
def ofJson? (document : Json) : Option AttributeTest :=
  match document with
  | .array [kind, value] => ofParts? kind (some value)
  | .object _ =>
    match Json.fields? ["test", "value"] document with
    | some [some kind, value] => ofParts? kind value
    | _ => none
  | _ => none

end AttributeTest

namespace Constraint

def toJson (constraint : Constraint) : Json :=
  .object [("name", .string constraint.acronym), ("test", constraint.test.toJson)]

def ofJson? (document : Json) : Option Constraint :=
  match Json.fields? ["name", "test"] document with
  | some [some name, some test] => do
    let name ← name.string?
    let test ← AttributeTest.ofJson? test
    return ⟨name, test⟩
  | _ => none

end Constraint

namespace Priority

def toJson (priority : Priority) : Json :=
  .object
    [("draw", .ofNat priority.draw.toNat), ("radar", .string priority.radar.name),
     ("category", .string priority.category.name), ("view_group", .ofNat priority.viewGroup.toNat),
     ("ignore_scamin", .bool priority.ignoreScaleMinimum)]

/-- Reads a priority, whose draw order may exceed the highest there is. -/
def ofJson? (document : Json) : Option Priority :=
  match Json.fields? ["draw", "radar", "category", "view_group", "ignore_scamin"] document with
  | some [some draw, some radar, some category, some viewGroup, ignoreScaleMinimum] => do
    let draw ← draw.uint8?
    let radar ← radar.choice? RadarPriority.all RadarPriority.name
    let category ← category.choice? DisplayCategory.all DisplayCategory.name
    let viewGroup ← viewGroup.uint32?
    let ignoreScaleMinimum ← Json.optional? false Json.bool? ignoreScaleMinimum
    return { draw, radar, category, viewGroup, ignoreScaleMinimum }
  | _ => none

end Priority

namespace Rule

def toJson (rule : Rule) : Json :=
  .object
    [("class", .string rule.className), ("table", .string rule.table.name),
     ("constraints", .array (rule.constraints.map Constraint.toJson)),
     ("instruction", .string rule.instruction), ("priority", rule.priority.toJson),
     ("rcid", .ofNat rule.recordId.toNat)]

def ofJson? (document : Json) : Option Rule :=
  match Json.fields? ["class", "table", "constraints", "instruction", "priority", "rcid"] document with
  | some [some className, some table, constraints, some instruction, some priority, recordId] => do
    let className ← className.string?
    let table ← table.choice? Table.all Table.name
    let constraints ← Json.optional? [] (Json.listOf? Constraint.ofJson?) constraints
    let instruction ← instruction.string?
    let priority ← Priority.ofJson? priority
    let recordId ← Json.optional? 0 Json.uint32? recordId
    return { className, table, constraints, instruction, priority, recordId }
  | _ => none

end Rule

namespace BoundingBox

def toJson (box : BoundingBox) : Json :=
  .object
    [("x", .ofInt box.x.toInt), ("y", .ofInt box.y.toInt), ("width", .ofInt box.width.toInt),
     ("height", .ofInt box.height.toInt)]

def ofJson? (document : Json) : Option BoundingBox :=
  match Json.fields? ["x", "y", "width", "height"] document with
  | some [some x, some y, some width, some height] => do
    let x ← x.int32?
    let y ← y.int32?
    let width ← width.int32?
    let height ← height.int32?
    return { x, y, width, height }
  | _ => none

end BoundingBox

namespace Definition

def pivotJson (pivot : Int32 × Int32) : Json :=
  .array [.ofInt pivot.1.toInt, .ofInt pivot.2.toInt]

def pivotOfJson? : Json → Option (Int32 × Int32)
  | .array [x, y] => do
    let x ← x.int32?
    let y ← y.int32?
    return (x, y)
  | _ => none

def toJson (definition : Definition) : Json :=
  .object
    [("kind", .string definition.kind.name), ("name", .string definition.name),
     ("program", .string definition.program),
     ("colors", .array (definition.colours.map .string)), ("bbox", definition.box.toJson),
     ("pivot", pivotJson definition.pivot)]

def ofJson? (document : Json) : Option Definition :=
  match Json.fields? ["kind", "name", "program", "colors", "bbox", "pivot"] document with
  | some [some kind, some name, program, colours, box, pivot] => do
    let kind ← kind.choice? DefinitionKind.all DefinitionKind.name
    let name ← name.string?
    let program ← Json.optional? "" Json.string? program
    let colours ← Json.optional? [] (Json.listOf? Json.string?) colours
    let box ← Json.optional? ⟨0, 0, 0, 0⟩ BoundingBox.ofJson? box
    let pivot ← Json.optional? (0, 0) pivotOfJson? pivot
    return { kind, name, program, colours, box, pivot }
  | _ => none

end Definition

namespace Snapshot

def toJson (snapshot : Snapshot) : Json :=
  .object
    [("rules", .array (snapshot.rules.map Rule.toJson)),
     ("definitions", .array (snapshot.definitions.map Definition.toJson))]

def ofJson? (document : Json) : Option Snapshot :=
  match Json.fields? ["rules", "definitions"] document with
  | some [rules, definitions] => do
    let rules ← Json.optional? [] (Json.listOf? Rule.ofJson?) rules
    let definitions ← Json.optional? [] (Json.listOf? Definition.ofJson?) definitions
    return { rules, definitions }
  | _ => none

def read (text : String) : Except PortrayalError Snapshot :=
  match (Json.read? text).bind ofJson? with
  | some snapshot => .ok snapshot
  | none => .error .malformedDocument

end Snapshot

namespace Library

variable {α : Type}

def snapshot (library : Library α) : Snapshot := ⟨library.ruleList, library.definitionList⟩

def document (library : Library α) : String := library.snapshot.toJson.pretty

variable [Quantity α]

/-- The rules and definitions of a snapshot with the standard procedures. -/
def ofSnapshot (snapshot : Snapshot) : Library α :=
  (standard.addRules snapshot.rules).addDefinitions snapshot.definitions

/-- Reads a library from its document. It has the standard procedures, and all its rules compile. -/
def read (text : String) : Except PortrayalError (Library α) :=
  match Snapshot.read text with
  | .ok snapshot => (ofSnapshot snapshot).validated
  | .error error => .error error

end Library

end ChartPortrayal
