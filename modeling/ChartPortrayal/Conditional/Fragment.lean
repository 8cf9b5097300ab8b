import ChartPortrayal.Instruction.Directive

namespace ChartPortrayal

inductive Fragment where
  | directives (list : List Directive)
  | verbatim (text : String)
deriving DecidableEq

def Fragment.text : Fragment → String
  | directives list => Directive.textOf list
  | verbatim text => text

namespace Directive

def symbol (name : String) : Directive := ofParameters "SY" [name]

def rotatedSymbol (name rotation : String) : Directive := ofParameters "SY" [name, rotation]

def simpleLine (pattern : String) (width : Nat) (colour : String) : Directive :=
  ofParameters "LS" [pattern, toString width, colour]

def complexLine (name : String) : Directive := ofParameters "LC" [name]

def areaColour (colour : String) : Directive := ofParameters "AC" [colour]

def areaPattern (name : String) : Directive := ofParameters "AP" [name]

def overridePriority (fields : List String) : Directive := ofParameters "OP" fields

end Directive

end ChartPortrayal
