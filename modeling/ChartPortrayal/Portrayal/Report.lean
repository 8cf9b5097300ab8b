import ChartPortrayal.Feature.Document
import ChartPortrayal.Portrayal.Basic

namespace ChartPortrayal

structure Report where
  id : Nat
  className : String
  geometry : Geometry
  variant : Variant
  table : Table
  /-- The place of the rule among the candidates; the placeholder rule has none. -/
  ruleIndex : Option Nat
  instruction : String
  matched : List String
  procedure : Option String
  fragment : Option String
  commands : List String
  priority : Priority
  labels : List String
  attributes : SortedMap String String
  links : SortedMap LinkRole Nat
  highlighted : Bool

namespace Report

def ofSlot {α : Type} [Quantity α] (feature : Feature α) (variant : Variant) (slot : Slot α)
    (labels : List String) : Report where
  id := feature.id
  className := feature.className
  geometry := feature.geometry
  variant := variant
  table :=
    match slot.binding with
    | some binding => binding.key.table
    | none => .forGeometry feature.geometry variant
  ruleIndex := slot.binding.bind (fun binding => binding.key.index)
  instruction := (slot.binding.map (fun binding => binding.instruction)).getD ""
  matched := (slot.binding.map (fun binding => binding.matched)).getD []
  procedure := slot.binding.bind (fun binding => binding.procedure)
  fragment := slot.binding.bind (fun binding => binding.fragment)
  commands := slot.commands.map Command.text
  priority := slot.priority
  labels := labels
  attributes := feature.attributes
  links := feature.links
  highlighted := feature.highlighted

def isPlaceholder (report : Report) : Bool := report.ruleIndex.isNone

def lines (report : Report) : List String :=
  let subject := s!"{report.className} #{report.id} ({report.geometry.name}) "
  let heading := match report.ruleIndex with
    | some index => s!"{subject}rule {index} of {report.table.name}"
    | none => s!"{subject}placeholder rule in {report.table.name}"
  [heading] ++
    (if report.matched.isEmpty then [] else ["  matched: " ++ Text.join " " report.matched]) ++
    ["  instruction: " ++ report.instruction] ++
    (match report.procedure with
      | some procedure => ["  " ++ procedure ++ ": " ++ report.fragment.getD "(none)"]
      | none => []) ++
    ["  commands: " ++ Text.join ";" report.commands,
     "  priority: " ++ report.priority.text ++
       (if report.priority.ignoreScaleMinimum then " NOSCAMIN" else "")] ++
    report.links.entries.map (fun link => s!"  touch {link.1.label}: #{link.2}") ++
    report.labels.map (fun label => "  label: " ++ label)

def text (report : Report) : String := String.join (report.lines.map (· ++ "\n"))

def texts (list : List String) : Json := .array (list.map .string)

/-- A member that is left out where there is nothing to say. -/
def optionalText (name : String) (text : Option String) : List (String × Json) :=
  (text.map (fun text => (name, Json.string text))).toList

def toJson (report : Report) : Json :=
  .object
    ([("id", .ofNat report.id), ("class", .string report.className),
      ("geometry", .string report.geometry.name), ("variant", .string report.variant.name),
      ("table", .string report.table.name),
      ("ruleIndex",
        match report.ruleIndex with
        | some index => .ofNat index
        | none => .null),
      ("instruction", .string report.instruction), ("matched", texts report.matched)] ++
     optionalText "procedure" report.procedure ++ optionalText "fragment" report.fragment ++
     [("commands", texts report.commands), ("priority", .string report.priority.text),
      ("ignoreScamin", .bool report.priority.ignoreScaleMinimum), ("labels", texts report.labels),
      ("attributes", Feature.attributesJson report.attributes),
      ("touch", LinkRole.linksJson report.links), ("highlighted", .bool report.highlighted)])

end Report

end ChartPortrayal
