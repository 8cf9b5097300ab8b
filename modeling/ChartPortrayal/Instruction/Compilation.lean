import ChartPortrayal.Instruction.Command
import ChartPortrayal.Library.Basic

/-!
Compilation of instruction text into commands. An unknown definition gives way to its placeholder, and a
directive that cannot be read, a missing line style, a malformed override or an unknown tag, is dropped. The
one thing that cannot be mended is a call of an unknown procedure.
-/

namespace ChartPortrayal

namespace Parameters

def nonempty? (parameters : List String) (index : Nat) : Option String :=
  parameters[index]?.filter (· != "")

/-- A parameter without its quotes, read in some way, or else a default. -/
def readOr {β : Type} (read? : String → Option β) (parameters : List String) (index : Nat)
    (default : β) : β :=
  (((nonempty? parameters index).map Directive.unquote).bind read?).getD default

def textOr (parameters : List String) (index : Nat) (default : String) : String :=
  (nonempty? parameters index).getD default

/-- The first parameter, which is there even when it is empty. -/
def name (parameters : List String) : String := parameters.headD ""

def lineStyle? (parameters : List String) (index : Nat) : Option LineStyle :=
  ((nonempty? parameters index).bind LinePattern.ofCode?).map (fun pattern =>
    { pattern
      width := readOr uint8? parameters (index + 1) 1
      colour := textOr parameters (index + 2) "CHBLK" })

def textCommand (content : TextContent) (parameters : List String) (index : Nat) : TextCommand where
  content := content
  hjust := readOr uint8? parameters index 1
  vjust := readOr uint8? parameters (index + 1) 2
  spacing := readOr uint8? parameters (index + 2) 2
  chars := Directive.unquote (textOr parameters (index + 3) "15110")
  xOffset := readOr int32? parameters (index + 4) 0
  yOffset := readOr int32? parameters (index + 5) 0
  colour := textOr parameters (index + 6) "CHBLK"
  group := readOr uint32? parameters (index + 7) 21

/-- A literal when it starts with a quote, and else the name of an attribute. -/
def plainContent (parameters : List String) : TextContent :=
  let source := textOr parameters 0 (Directive.quoted "")
  if source.toList.head? = some Text.quote then .literal (Directive.unquote source)
  else .byAttribute source

/-- A format and the names of attributes, with empty names left out. -/
def formattedContent (parameters : List String) : TextContent :=
  .formatted (Directive.unquote (textOr parameters 0 (Directive.quoted "")))
    ((Text.commaFields (Directive.unquote (textOr parameters 1 (Directive.quoted "")))).filter
      (· != ""))

variable {α : Type} [Quantity α]

def rotation (parameters : List String) (index : Nat) : Rotation α :=
  match nonempty? parameters index with
  | none => .none
  | some text =>
    match (Quantity.read? text : Option α) with
    | some angle => .degrees angle
    | none => .byAttribute text

def sectorArc (parameters : List String) : SectorArc α where
  outlineColour := textOr parameters 0 "OUTLW"
  outlineWidth := readOr uint8? parameters 1 4
  arcColour := textOr parameters 2 "CHMGD"
  arcWidth := readOr uint8? parameters 3 2
  start := readOr Quantity.read? parameters 4 0.0
  finish := readOr Quantity.read? parameters 5 360.0
  radius := readOr Quantity.read? parameters 6 20.0

def sectorLeg (parameters : List String) : SectorLeg α where
  bearing := readOr Quantity.read? parameters 0 0.0
  length := readOr Quantity.read? parameters 1 25.0
  unit := ((nonempty? parameters 2).bind LengthUnit.ofCode?).getD .millimetres
  style := (lineStyle? parameters 3).getD ⟨.dashed, 1, "CHBLK"⟩

end Parameters

namespace Library

variable {α : Type} [Quantity α]

def fullTransparency : UInt8 := 4

/-- The command that a directive stands for, if it stands for one. -/
def bind (library : Library α) (directive : Directive) :
    Except PortrayalError (Option (Command α)) :=
  let parameters := directive.parameters
  let name := Parameters.name parameters
  match directive.tag with
  | "SY" =>
    .ok (some (.showSymbol (library.definitionOrPlaceholder .symbol name)
      (Parameters.rotation parameters 1)))
  | "LC" => .ok (some (.showComplexLine (library.definitionOrPlaceholder .line name)))
  | "AP" =>
    .ok (some (.showAreaPattern (library.definitionOrPlaceholder .pattern name)
      (Parameters.rotation parameters 1)))
  | "LS" => .ok ((Parameters.lineStyle? parameters 0).map .showSimpleLine)
  | "AC" =>
    let transparency := Parameters.readOr uint8? parameters 1 0
    .ok (some (.showAreaColour name
      (if transparency ≤ fullTransparency then transparency else fullTransparency)))
  | "TX" =>
    .ok (some (.showText (Parameters.textCommand (Parameters.plainContent parameters) parameters 1)))
  | "TE" =>
    .ok (some (.showText
      (Parameters.textCommand (Parameters.formattedContent parameters) parameters 2)))
  | "CA" => .ok (some (.showSectorArc (Parameters.sectorArc parameters)))
  | "SL" => .ok (some (.showSectorLeg (Parameters.sectorLeg parameters)))
  | "CS" =>
    match library.procedures.find? name with
    | some procedure => .ok (some (.callConditional name procedure))
    | none => .error (.unknownProcedure name)
  | "OP" =>
    match PriorityOverride.parse directive.payload with
    | .ok override => .ok (some (.overridePriority override))
    | .error _ => .ok none
  | _ => .ok none

def bindAll (library : Library α) : List Directive → Except PortrayalError (List (Command α))
  | [] => .ok []
  | directive :: rest =>
    match library.bind directive with
    | .error error => .error error
    | .ok command? =>
      match library.bindAll rest with
      | .error error => .error error
      | .ok commands => .ok (command?.toList ++ commands)

def compile (library : Library α) (text : String) : Except PortrayalError (List (Command α)) :=
  library.bindAll (Directive.tokenize text)

def callCount (commands : List (Command α)) : Nat := (commands.filter Command.isConditional).length

/-- Compiles a rule, which may call one procedure. -/
def compileRule (library : Library α) (rule : Rule) (index : Nat) :
    Except PortrayalError (List (Command α)) :=
  match library.compile rule.instruction with
  | .error error => .error error
  | .ok commands =>
    if 1 < callCount commands then
      .error (.multipleConditionalCalls rule.className index (callCount commands))
    else .ok commands

/-- Compiles a fragment of a procedure, which may call none. -/
def compileFragment (library : Library α) (procedure : String) (text : String) :
    Except PortrayalError (List (Command α)) :=
  match library.compile text with
  | .error error => .error error
  | .ok commands =>
    if commands.any Command.isConditional then .error (.nestedConditionalCall procedure)
    else .ok commands

/-- The first error among rules of one class, the first of which has a given index. -/
def firstRuleError (library : Library α) : Nat → List Rule → Except PortrayalError Unit
  | _, [] => .ok ()
  | index, rule :: rest =>
    match library.compileRule rule index with
    | .error error => .error error
    | .ok _ => library.firstRuleError (index + 1) rest

/-- Compiles every rule: by table, then by class, then in order. The first error counts. -/
def validate (library : Library α) : Except PortrayalError Unit :=
  library.rules.values.forM (library.firstRuleError 0)

def validated (library : Library α) : Except PortrayalError (Library α) :=
  match library.validate with
  | .ok _ => .ok library
  | .error error => .error error

end Library

end ChartPortrayal
