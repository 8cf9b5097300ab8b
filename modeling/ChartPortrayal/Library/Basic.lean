import ChartPortrayal.Conditional.Standard
import ChartPortrayal.Library.Definition
import ChartPortrayal.Rule.Basic

namespace ChartPortrayal

structure Library (α : Type) where
  rules : SortedMap (Table × String) (List Rule)
  definitions : SortedMap (DefinitionKind × String) Definition
  procedures : Registry α

namespace Library

variable {α : Type}

/-- The name of the definition that stands in for unknown ones. -/
def placeholderName : String := "QUESMRK1"

/-- The rules of a class in a table, the default first. -/
def candidates (library : Library α) (table : Table) (className : String) : List Rule :=
  (library.rules.find? (table, className)).getD []

def addRule (library : Library α) (rule : Rule) : Library α :=
  { library with
    rules := library.rules.insert (rule.table, rule.className)
      (library.candidates rule.table rule.className ++ [rule]) }

def addRules (library : Library α) (rules : List Rule) : Library α := rules.foldl addRule library

def addDefinition (library : Library α) (definition : Definition) : Library α :=
  { library with
    definitions := library.definitions.insert (definition.kind, definition.name) definition }

def addDefinitions (library : Library α) (definitions : List Definition) : Library α :=
  definitions.foldl addDefinition library

def definition? (library : Library α) (kind : DefinitionKind) (name : String) : Option Definition :=
  library.definitions.find? (kind, name)

def placeholder (library : Library α) (kind : DefinitionKind) : Definition :=
  (library.definition? kind placeholderName).getD (.blank kind placeholderName)

def definitionOrPlaceholder (library : Library α) (kind : DefinitionKind) (name : String) :
    Definition :=
  (library.definition? kind name).getD (library.placeholder kind)

/-- All rules: by table, then by class, then in the order they were added. -/
def ruleList (library : Library α) : List Rule := library.rules.values.flatten

def definitionList (library : Library α) : List Definition := library.definitions.values

def classes (library : Library α) (table : Table) : List String :=
  (library.rules.keys.filter (fun key => key.1 = table)).map (·.2)

variable [Quantity α]

def standard : Library α := ⟨.empty, .empty, .standard⟩

end Library

end ChartPortrayal
