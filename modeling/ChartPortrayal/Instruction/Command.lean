import ChartPortrayal.Conditional.Procedure
import ChartPortrayal.Instruction.Override
import ChartPortrayal.Library.Definition

namespace ChartPortrayal

inductive Rotation (α : Type) where
  | none
  | degrees (angle : α)
  | byAttribute (name : String)

inductive LinePattern where
  | solid
  | dashed
  | dotted
deriving DecidableEq

namespace LinePattern

def code : LinePattern → String
  | solid => "SOLD"
  | dashed => "DASH"
  | dotted => "DOTT"

def ofCode? : String → Option LinePattern
  | "SOLD" => some solid
  | "DASH" => some dashed
  | "DOTT" => some dotted
  | _ => none

end LinePattern

structure LineStyle where
  pattern : LinePattern
  width : UInt8
  colour : String
deriving DecidableEq

inductive TextContent where
  | byAttribute (name : String)
  | literal (text : String)
  /-- A format with conversions for the values of attributes, in order. -/
  | formatted (format : String) (attributes : List String)
deriving DecidableEq

structure TextCommand where
  content : TextContent
  hjust : UInt8
  vjust : UInt8
  spacing : UInt8
  /-- Style, weight, width and size of the characters. -/
  chars : String
  xOffset : Int32
  yOffset : Int32
  colour : String
  /-- The text group, by which texts are switched on and off. -/
  group : UInt32
deriving DecidableEq

inductive LengthUnit where
  | millimetres
  | nauticalMiles
deriving DecidableEq

namespace LengthUnit

def code : LengthUnit → String
  | millimetres => "M"
  | nauticalMiles => "N"

def ofCode? : String → Option LengthUnit
  | "M" => some millimetres
  | "N" => some nauticalMiles
  | _ => none

end LengthUnit

structure SectorLeg (α : Type) where
  bearing : α
  length : α
  unit : LengthUnit
  style : LineStyle

structure SectorArc (α : Type) where
  outlineColour : String
  outlineWidth : UInt8
  arcColour : String
  arcWidth : UInt8
  start : α
  finish : α
  radius : α

inductive Command (α : Type) where
  | showText (text : TextCommand)
  | showSymbol (definition : Definition) (rotation : Rotation α)
  | showSimpleLine (style : LineStyle)
  | showComplexLine (definition : Definition)
  | showAreaColour (colour : String) (transparency : UInt8)
  | showAreaPattern (definition : Definition) (rotation : Rotation α)
  | showSectorArc (arc : SectorArc α)
  | showSectorLeg (leg : SectorLeg α)
  /-- A call of a conditional procedure, under the name that was written. -/
  | callConditional (name : String) (procedure : Procedure α)
  | overridePriority (override : PriorityOverride)

namespace Command

variable {α : Type}

def tag : Command α → String
  | showText text =>
    match text.content with
    | .formatted .. => "TE"
    | _ => "TX"
  | showSymbol .. => "SY"
  | showSimpleLine _ => "LS"
  | showComplexLine _ => "LC"
  | showAreaColour .. => "AC"
  | showAreaPattern .. => "AP"
  | showSectorArc _ => "CA"
  | showSectorLeg _ => "SL"
  | callConditional .. => "CS"
  | overridePriority _ => "OP"

def isConditional : Command α → Bool
  | callConditional .. => true
  | _ => false

def definition? : Command α → Option Definition
  | showSymbol definition _ => some definition
  | showComplexLine definition => some definition
  | showAreaPattern definition _ => some definition
  | _ => none

def contentParameters : TextContent → List String
  | .byAttribute name => [name]
  | .literal text => [Directive.quoted text]
  | .formatted format attributes =>
    [Directive.quoted format, Directive.quoted (Text.join "," attributes)]

variable [Quantity α]

def rotationParameters : Rotation α → List String
  | .none => []
  | .degrees angle => [Quantity.plain angle]
  | .byAttribute name => [name]

def parameters : Command α → List String
  | showText text =>
    contentParameters text.content ++
      [toString text.hjust.toNat, toString text.vjust.toNat, toString text.spacing.toNat,
       Directive.quoted text.chars, toString text.xOffset.toInt, toString text.yOffset.toInt,
       text.colour, toString text.group.toNat]
  | showSymbol definition rotation => definition.name :: rotationParameters rotation
  | showSimpleLine style => [style.pattern.code, toString style.width.toNat, style.colour]
  | showComplexLine definition => [definition.name]
  | showAreaColour colour transparency =>
    if transparency = 0 then [colour] else [colour, toString transparency.toNat]
  | showAreaPattern definition rotation => definition.name :: rotationParameters rotation
  | showSectorArc arc =>
    [arc.outlineColour, toString arc.outlineWidth.toNat, arc.arcColour, toString arc.arcWidth.toNat,
     Quantity.plain arc.start, Quantity.plain arc.finish, Quantity.plain arc.radius]
  | showSectorLeg leg =>
    [Quantity.plain leg.bearing, Quantity.plain leg.length, leg.unit.code, leg.style.pattern.code,
     toString leg.style.width.toNat, leg.style.colour]
  | callConditional name _ => [name]
  | overridePriority override => [override.payload]

/-- A command as it would stand in a rule. -/
def directive (command : Command α) : Directive := .ofParameters command.tag command.parameters

def text (command : Command α) : String := command.directive.text

end Command

end ChartPortrayal
