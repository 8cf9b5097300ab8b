import ChartPortrayal.Conditional.Depth
import ChartPortrayal.Conditional.Sounding

namespace ChartPortrayal.Hazard

/-- A depth, and whether it is charted rather than assumed. -/
structure HazardDepth (α : Type) where
  depth : α
  charted : Bool

variable {α : Type} [Quantity α]

/-- The depth of a hazard of which nothing is known but its category and its water level. -/
def assumedDepth (feature : Feature α) : α :=
  if feature.hasInteger "CATOBS" [6] then 0.01
  else if feature.hasInteger "WATLEV" [3] then 0.01
  else if feature.hasInteger "WATLEV" [5] then 0.0
  else -15.0

/-- The charted depth, or else the least depth around, or else an assumed one. -/
def depth (situation : Situation α) : HazardDepth α :=
  match situation.feature.number? "VALSOU" with
  | some charted => ⟨charted, true⟩
  | none => ⟨(Depth.least? situation).getD (assumedDepth situation.feature), false⟩

/-- A hazard at or above the safety contour, in water that the mariner takes for safe. -/
def isIsolatedDanger (situation : Situation α) (depth : α) : Bool :=
  let settings := situation.settings
  if settings.safetyContour < Depth.corrected settings depth then false
  else
    match Depth.least? situation with
    | some surrounding => !decide (Depth.corrected settings surrounding < settings.safetyContour)
    | none => false

def isolatedDanger (geometry : Geometry) : List Directive :=
  (match geometry with
    | .point => [.symbol "ISODGR01"]
    | .line => [.simpleLine "DOTT" 2 "CHBLK"]
    | .area =>
      [.areaColour "DEPVS", .areaPattern "FOULAR01", .simpleLine "DOTT" 2 "CHBLK",
       .symbol "ISODGR01"]) ++ [.overridePriority ["8OD14010"]]

/-- The depth that a symbol stands for, which only a charted one is written out. -/
def chartedSounding (situation : Situation α) (hazard : HazardDepth α) : List Directive :=
  if hazard.charted then Sounding.symbols situation.settings situation.feature hazard.depth else []

/-- Whether the depth of a hazard is charted and calls for the generic danger symbol no longer. -/
def isDeep (hazard : HazardDepth α) : Bool := hazard.charted && decide ((20.0 : α) < hazard.depth)

def obstructionSymbol (feature : Feature α) (hazard : HazardDepth α) : String :=
  let rock := feature.className = "UWTROC"
  if hazard.charted then
    if isDeep hazard then "DANGER02"
    else if rock then if feature.hasInteger "WATLEV" [4, 5] then "UWTROC04" else "DANGER01"
    else if feature.hasInteger "WATLEV" [1, 2] then "OBSTRN11"
    else if feature.hasInteger "WATLEV" [4, 5] then "DANGER03"
    else "DANGER01"
  else if rock then if feature.hasInteger "WATLEV" [3] then "UWTROC03" else "UWTROC04"
  else if feature.hasInteger "CATOBS" [6] then "OBSTRN01"
  else if feature.hasInteger "WATLEV" [1, 2] then "OBSTRN11"
  else if feature.hasInteger "WATLEV" [4, 5] then "OBSTRN03"
  else "OBSTRN01"

def obstructionLine (situation : Situation α) (hazard : HazardDepth α) : Directive :=
  if situation.feature.isLowAccuracy then .complexLine "LOWACC41"
  else if hazard.charted && decide (situation.settings.safetyContour < hazard.depth) then
    .simpleLine "DASH" 2 "CHBLK"
  else .simpleLine "DOTT" 2 "CHBLK"

def obstructionArea (feature : Feature α) : List Directive :=
  if feature.hasInteger "WATLEV" [1, 2] then [.areaColour "CHBRN", .simpleLine "SOLD" 2 "CSTLN"]
  else if feature.hasInteger "WATLEV" [4] then [.areaColour "DEPIT", .simpleLine "DASH" 2 "CSTLN"]
  else if feature.hasInteger "CATOBS" [6] then [.areaPattern "FOULAR01", .simpleLine "DOTT" 2 "CHBLK"]
  else [.areaColour "DEPVS", .simpleLine "DOTT" 2 "CHBLK"]

/-- What is drawn of an obstruction that is no isolated danger, the accuracy of its position aside. -/
def ordinaryObstruction (situation : Situation α) (hazard : HazardDepth α) : List Directive :=
  let feature := situation.feature
  match feature.geometry with
  | .point => .symbol (obstructionSymbol feature hazard) :: chartedSounding situation hazard
  | .line => [obstructionLine situation hazard]
  | .area => obstructionArea feature ++ chartedSounding situation hazard

def obstruction : Procedure α :=
  .ofDirectives "OBSTRN04" (fun situation =>
    let feature := situation.feature
    let hazard := depth situation
    (if isIsolatedDanger situation hazard.depth then isolatedDanger feature.geometry
     else ordinaryObstruction situation hazard) ++
      (if feature.geometry = .point then Accuracy.point feature else []))

def wreckSymbol (feature : Feature α) (hazard : HazardDepth α) : String :=
  if hazard.charted then if hazard.depth ≤ 20.0 then "DANGER01" else "DANGER02"
  else if feature.hasInteger "CATWRK" [1] && feature.hasInteger "WATLEV" [3] then "WRECKS04"
  else if feature.hasInteger "CATWRK" [2] && feature.hasInteger "WATLEV" [3] then "WRECKS05"
  else if feature.hasInteger "CATWRK" [4, 5] then "WRECKS01"
  else if feature.hasInteger "WATLEV" [1, 2, 4, 5] then "WRECKS01"
  else "WRECKS05"

def wreckArea (feature : Feature α) : List Directive :=
  if feature.hasInteger "WATLEV" [1, 2] then [.areaColour "CHBRN", .simpleLine "SOLD" 2 "CSTLN"]
  else if feature.hasInteger "WATLEV" [4] then [.areaColour "DEPIT", .simpleLine "DASH" 2 "CSTLN"]
  else [.areaColour "DEPVS", .simpleLine "DOTT" 2 "CSTLN"]

def ordinaryWreck (situation : Situation α) (hazard : HazardDepth α) : List Directive :=
  let feature := situation.feature
  (if feature.geometry = .area then wreckArea feature else [.symbol (wreckSymbol feature hazard)]) ++
    chartedSounding situation hazard

def wreck : Procedure α :=
  .ofDirectives "WRECKS02" (fun situation =>
    let feature := situation.feature
    let hazard := depth situation
    (if isIsolatedDanger situation hazard.depth then isolatedDanger feature.geometry
     else ordinaryWreck situation hazard) ++
      (if feature.geometry = .area then [] else Accuracy.point feature))

end ChartPortrayal.Hazard
