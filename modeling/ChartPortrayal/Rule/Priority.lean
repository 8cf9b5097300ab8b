import ChartPortrayal.Text.Fields

namespace ChartPortrayal

inductive RadarPriority where
  /-- Drawn over the radar picture. -/
  | above
  /-- Hidden where the radar picture is. -/
  | suppressed
deriving DecidableEq

namespace RadarPriority

def all : List RadarPriority := [above, suppressed]

def name : RadarPriority → String
  | above => "over"
  | suppressed => "suppressed"

def code : RadarPriority → Char
  | above => 'O'
  | suppressed => 'S'

def ofCode? : Char → Option RadarPriority
  | 'O' => some above
  | 'S' => some suppressed
  | _ => none

end RadarPriority

/-- How readily a feature is shown, from the display base to the mariner's own objects. -/
inductive DisplayCategory where
  | base
  | standard
  | other
  | mariner
deriving DecidableEq

namespace DisplayCategory

def all : List DisplayCategory := [base, standard, other, mariner]

/-- The amount of clutter that comes with a category. -/
def rank : DisplayCategory → Nat
  | base => 0
  | standard => 1
  | other => 2
  | mariner => 3

def name : DisplayCategory → String
  | base => "base"
  | standard => "standard"
  | other => "other"
  | mariner => "mariner"

def code : DisplayCategory → Char
  | base => 'D'
  | standard => 'S'
  | other => 'O'
  | mariner => 'M'

def ofCode? : Char → Option DisplayCategory
  | 'D' => some base
  | 'S' => some standard
  | 'O' => some other
  | 'M' => some mariner
  | _ => none

end DisplayCategory

structure Priority where
  /-- From 0, drawn first, to 9, drawn last. -/
  draw : UInt8
  radar : RadarPriority
  category : DisplayCategory
  viewGroup : UInt32
  ignoreScaleMinimum : Bool
deriving DecidableEq

namespace Priority

def lastDraw : UInt8 := 9

def limited (draw : UInt8) (radar : RadarPriority) (category : DisplayCategory)
    (viewGroup : UInt32) : Priority where
  draw := if draw ≤ lastDraw then draw else lastDraw
  radar := radar
  category := category
  viewGroup := viewGroup
  ignoreScaleMinimum := false

/-- The priority of a rule that gives none. -/
def standard : Priority := limited 5 .suppressed .standard 0

/-- The draw order, the two code letters, and five digits or more of the view group. -/
def text (priority : Priority) : String :=
  toString priority.draw.toNat ++
    String.ofList [priority.radar.code, priority.category.code] ++
    Text.padLeft 5 '0' (toString priority.viewGroup.toNat)

end Priority

end ChartPortrayal
