import ChartPortrayal.Conditional.Procedure

namespace ChartPortrayal

namespace Feature

variable {α : Type} [Quantity α]

def isLowAccuracy (feature : Feature α) : Bool :=
  match feature.integer? "QUAPOS" with
  | some quality => 2 ≤ quality && quality ≤ 9
  | none => false

def hasInteger (feature : Feature α) (name : String) (values : List Int) : Bool :=
  match feature.integer? name with
  | some value => values.contains value
  | none => false

end Feature

namespace Accuracy

variable {α : Type} [Quantity α]

def point (feature : Feature α) : List Directive :=
  if feature.isLowAccuracy then [.symbol "LOWACC01"] else []

def line (feature : Feature α) : List Directive :=
  if feature.isLowAccuracy then [.complexLine "LOWACC21"]
  else if feature.className = "COALNE" && feature.hasInteger "CONRAD" [1] then
    [.simpleLine "SOLD" 3 "CHMGF", .simpleLine "SOLD" 1 "CSTLN"]
  else [.simpleLine "SOLD" 1 "CSTLN"]

/-- Quality of position: a marker on points, a style for coastlines. -/
def positionQuality : Procedure α :=
  .ofDirectives "QUAPOS01" (fun situation =>
    match situation.feature.geometry with
    | .point => point situation.feature
    | _ => line situation.feature)

def constructionStyle (feature : Feature α) : Directive :=
  if feature.isLowAccuracy then .complexLine "LOWACC01"
  else if feature.hasInteger "CONDTN" [1, 2] then .simpleLine "DASH" 1 "CSTLN"
  else if feature.hasInteger "CATSLC" [6, 15, 16] then .simpleLine "SOLD" 4 "CSTLN"
  else if feature.hasInteger "WATLEV" [3, 4] then .simpleLine "DASH" 2 "CSTLN"
  else .simpleLine "SOLD" 2 "CSTLN"

def shorelineConstruction : Procedure α :=
  .ofDirectives "SLCONS03" (fun situation =>
    match situation.feature.geometry with
    | .point => point situation.feature
    | _ => [constructionStyle situation.feature])

/-- The boundary of data coverage; where there is none, the area is marked. -/
def dataCoverage : Procedure α :=
  .ofDirectives "DATCVR01" (fun situation =>
    if situation.feature.hasInteger "CATCOV" [2] then
      [.areaColour "NODTA", .areaPattern "NODATA03", .simpleLine "SOLD" 2 "CHGRD"]
    else [.complexLine "HODATA01"])

end Accuracy

end ChartPortrayal
