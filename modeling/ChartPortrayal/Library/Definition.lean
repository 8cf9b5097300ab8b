import ChartPortrayal.SortedMap

namespace ChartPortrayal

inductive DefinitionKind where
  | symbol
  | line
  | pattern
deriving DecidableEq

namespace DefinitionKind

def all : List DefinitionKind := [symbol, line, pattern]

def rank : DefinitionKind → Nat
  | symbol => 0
  | line => 1
  | pattern => 2

instance : SortKey DefinitionKind := .ofRank rank (by intro a b; cases a <;> cases b <;> decide)

def name : DefinitionKind → String
  | symbol => "symbol"
  | line => "line"
  | pattern => "pattern"

end DefinitionKind

structure BoundingBox where
  x : Int32
  y : Int32
  width : Int32
  height : Int32
deriving DecidableEq

structure Definition where
  kind : DefinitionKind
  name : String
  program : String
  /-- The colour tokens that the program uses. -/
  colours : List String
  box : BoundingBox
  pivot : Int32 × Int32
deriving DecidableEq

def Definition.blank (kind : DefinitionKind) (name : String) : Definition where
  kind := kind
  name := name
  program := ""
  colours := []
  box := ⟨0, 0, 0, 0⟩
  pivot := (0, 0)

end ChartPortrayal
