import ChartPortrayal.Chart.Basic

/-!
Resolution of links within a cell. A consumer is linked to features of its own cell whose boxes share a
point with its own:

* lights and topmarks to the first floating platform;
* a sector light to the first other sector light;
* a hazard to the shallowest depth area, by the lesser depth of its range;
* a contour, or the edge of a depth area, to the depth area whose range ends deepest without passing it.

Of areas that are equally good the first counts, and an area whose depth is no number does not.
-/

namespace ChartPortrayal

def floatingClasses : List String :=
  ["BOYLAT", "BOYCAR", "BOYISD", "BOYSAW", "BOYSPP", "BOYINB", "LITFLT", "LITVES"]

/-- The attributes that decide which features a consumer is linked to. -/
def linkAttributes : List String := ["DRVAL1", "DRVAL2", "VALDCO", "SECTR1", "SECTR2"]

def hazardClasses : List String := ["OBSTRN", "WRECKS", "UWTROC"]

def depthAreaClasses : List String := ["DEPARE", "DRGARE"]

namespace Feature

variable {α : Type}

def isFloatingPlatform (feature : Feature α) : Bool := floatingClasses.contains feature.className

def isSectorLight (feature : Feature α) : Bool :=
  feature.className == "LIGHTS" && feature.hasValue "SECTR1" && feature.hasValue "SECTR2"

def isDepthArea (feature : Feature α) : Bool :=
  depthAreaClasses.contains feature.className && feature.geometry == .area

def isConsumer (feature : Feature α) : Bool :=
  ["LIGHTS", "TOPMAR", "DEPCNT"].contains feature.className ||
    (feature.className == "DEPARE" && feature.geometry == .line) ||
    hazardClasses.contains feature.className

end Feature

/-- The first feature with the strictly best rank among those that have one. -/
def firstBest {α β : Type} (better : β → β → Bool) (rank? : Feature α → Option β) :
    Option (Feature α × β) → List (Feature α) → Option (Feature α × β)
  | best, [] => best
  | best, feature :: rest =>
    match rank? feature, best with
    | none, _ => firstBest better rank? best rest
    | some rank, none => firstBest better rank? (some (feature, rank)) rest
    | some rank, some (leader, record) =>
      firstBest better rank?
        (if better rank record then some (feature, rank) else some (leader, record)) rest

namespace Linking

variable {α : Type} [Quantity α]

def platform? (neighbours : List (Feature α)) (consumer : Feature α) : Option Nat :=
  (neighbours.find? (fun feature =>
    feature.isFloatingPlatform && feature.extent.intersects consumer.extent)).map (·.id)

def coLocatedLight? (neighbours : List (Feature α)) (consumer : Feature α) : Option Nat :=
  if consumer.isSectorLight then
    (neighbours.find? (fun feature =>
      feature.isSectorLight && feature.id != consumer.id &&
        feature.extent.intersects consumer.extent)).map (·.id)
  else none

def leastDepthArea? (neighbours : List (Feature α)) (consumer : Feature α) : Option Nat :=
  (firstBest (fun depth record : α => decide (depth < record))
    (fun feature =>
      if feature.isDepthArea && feature.extent.intersects consumer.extent then
        feature.number? "DRVAL1"
      else none)
    none neighbours).map (·.1.id)

/-- The depth that the consumer of an underlying area draws. -/
def contourDepth? (consumer : Feature α) : Option α :=
  if consumer.className = "DEPCNT" then consumer.number? "VALDCO" else consumer.number? "DRVAL1"

def underlyingDepthArea? (neighbours : List (Feature α)) (consumer : Feature α) : Option Nat :=
  (contourDepth? consumer).bind (fun contour =>
    (firstBest (fun depth record : α => decide (record < depth))
      (fun feature =>
        if feature.isDepthArea && feature.id != consumer.id &&
            feature.extent.intersects consumer.extent then
          (feature.number? "DRVAL2").filter (fun depth => !decide (contour < depth))
        else none)
      none neighbours).map (·.1.id))

def links (neighbours : List (Feature α)) (consumer : Feature α) : List (LinkRole × Option Nat) :=
  if consumer.className = "LIGHTS" then
    [(.platform, platform? neighbours consumer), (.coLocatedLight, coLocatedLight? neighbours consumer)]
  else if consumer.className = "TOPMAR" then [(.platform, platform? neighbours consumer)]
  else if consumer.className = "DEPCNT" ∨ consumer.className = "DEPARE" then
    [(.underlyingDepthArea, underlyingDepthArea? neighbours consumer)]
  else [(.leastDepthArea, leastDepthArea? neighbours consumer)]

/-- A link to be set, or to be cleared where there is no target. -/
structure Assignment where
  consumer : Nat
  role : LinkRole
  target : Option Nat
deriving DecidableEq

def assignments (chart : Chart α) (cell : Nat) : List Assignment :=
  let neighbours := chart.cellFeatures cell
  (neighbours.filter (·.isConsumer)).flatMap (fun consumer =>
    (links neighbours consumer).map (fun link => ⟨consumer.id, link.1, link.2⟩))

/-- The links that lead somewhere. -/
def attached (assignments : List Assignment) : Nat :=
  (assignments.filter (fun assignment => assignment.target.isSome)).length

end Linking

namespace Chart

variable {α : Type} [Quantity α]

def resolveCell (chart : Chart α) (cell : Nat) : Chart α × Nat :=
  let assignments := Linking.assignments chart cell
  (assignments.foldl
    (fun current assignment => current.setLink assignment.consumer assignment.role assignment.target)
    chart,
   Linking.attached assignments)

def resolveCells (chart : Chart α) : List Nat → Chart α × Nat
  | [] => (chart, 0)
  | cell :: rest =>
    let (resolved, count) := chart.resolveCell cell
    let (final, further) := resolved.resolveCells rest
    (final, count + further)

def resolveAll (chart : Chart α) : Chart α × Nat := chart.resolveCells chart.cells

end Chart

end ChartPortrayal
