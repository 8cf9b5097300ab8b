import ChartPortrayal.SortedMap
import ChartPortrayal.Feature.Basic

namespace ChartPortrayal

inductive Variant where
  | primary
  | alternate
deriving DecidableEq

namespace Variant

def all : List Variant := [primary, alternate]

def name : Variant → String
  | primary => "primary"
  | alternate => "alternate"

def index : Variant → Nat
  | primary => 0
  | alternate => 1

end Variant

inductive Table where
  | simplifiedPoints
  | paperChartPoints
  | lines
  | plainBoundaries
  | symbolizedBoundaries
deriving DecidableEq

namespace Table

def all : List Table :=
  [simplifiedPoints, paperChartPoints, lines, plainBoundaries, symbolizedBoundaries]

def rank : Table → Nat
  | simplifiedPoints => 0
  | paperChartPoints => 1
  | lines => 2
  | plainBoundaries => 3
  | symbolizedBoundaries => 4

instance : SortKey Table := .ofRank rank (by intro a b; cases a <;> cases b <;> decide)

def name : Table → String
  | simplifiedPoints => "simplified-points"
  | paperChartPoints => "paper-chart-points"
  | lines => "lines"
  | plainBoundaries => "plain-boundaries"
  | symbolizedBoundaries => "symbolized-boundaries"

def forGeometry : Geometry → Variant → Table
  | .point, .primary => simplifiedPoints
  | .point, .alternate => paperChartPoints
  | .line, _ => lines
  | .area, .primary => symbolizedBoundaries
  | .area, .alternate => plainBoundaries

end Table

end ChartPortrayal
