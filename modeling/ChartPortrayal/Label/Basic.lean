import ChartPortrayal.Instruction.Command
import ChartPortrayal.Label.Format

namespace ChartPortrayal.Label

/-- Texts of the groups below this one are important. -/
def importantLimit : UInt32 := 20

variable {α : Type} [Quantity α]

def isVisible (settings : Settings α) (group : UInt32) : Bool :=
  settings.showText && (!settings.importantTextOnly || group < importantLimit)

/-- The value of an attribute as a label; where the mariner prefers national names, they replace the name
of an object. -/
def attributeText? (settings : Settings α) (feature : Feature α) (name : String) : Option String :=
  if settings.nationalNames && name = "OBJNAM" && feature.hasValue "NOBJNM" then
    feature.attribute? "NOBJNM"
  else if feature.hasValue name then feature.attribute? name
  else none

def contentText (settings : Settings α) (feature : Feature α) :
    TextContent → Except PortrayalError (Option String)
  | .literal text => .ok (some text)
  | .byAttribute name => .ok (attributeText? settings feature name)
  | .formatted format attributes =>
    match attributes.mapM (attributeText? settings feature) with
    | some values => LabelFormat.fill α format values
    | none => .ok none

/-- The label of a text command. There is none where its group is not shown, an attribute that it needs has no
value, or nothing would be written. -/
def resolve (settings : Settings α) (feature : Feature α) (text : TextCommand) :
    Except PortrayalError (Option String) :=
  if isVisible settings text.group then
    (contentText settings feature text.content).map (Option.filter (· != ""))
  else .ok none

def ofCommand (settings : Settings α) (feature : Feature α) :
    Command α → Except PortrayalError (Option String)
  | .showText text => resolve settings feature text
  | _ => .ok none

def ofCommands (settings : Settings α) (feature : Feature α) (commands : List (Command α)) :
    Except PortrayalError (List String) :=
  (commands.mapM (ofCommand settings feature)).map (fun labels => labels.filterMap id)

end ChartPortrayal.Label
