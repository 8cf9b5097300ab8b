import ChartPortrayal.Conditional.LightDescription

/-!
Lights. A light with two bearings that do not sweep the whole horizon is drawn as a sector, with two legs
and an arc; any other light is drawn as a flare. Of two sectors at one place the enclosing one has the
larger arc.
-/

namespace ChartPortrayal.Light

/-- The symbol of a flare and the colour of an arc. -/
structure ColourStyle where
  flare : String
  arc : String
deriving DecidableEq

def colourStyle (colours : CodeList) : ColourStyle :=
  if colours.sameSet [1, 3] || colours.sameSet [3] then ⟨"LIGHTS11", "LITRD"⟩
  else if colours.sameSet [1, 4] || colours.sameSet [4] then ⟨"LIGHTS12", "LITGN"⟩
  else if colours.sameSet [1] || colours.sameSet [6] || colours.sameSet [1, 6] ||
      colours.sameSet [11] then ⟨"LIGHTS13", "LITYW"⟩
  else ⟨"LITDEF11", "CHMGD"⟩

/-- The bearings between which a light is seen, clockwise. -/
structure Sector (α : Type) where
  start : α
  finish : α

variable {α : Type} [Quantity α]

/-- The angle from one bearing to another, from 0 up to 360 degrees. -/
def sweepBetween (start finish : α) : α := Quantity.remainder (finish - start) 360.0

/-- Whether a sweep is a full circle, give or take half a degree. -/
def isAllRound (sweep : α) : Bool := decide (sweep < 0.5) || decide (360.0 - 0.5 < sweep)

namespace Sector

def sweep (sector : Sector α) : α := sweepBetween sector.start sector.finish

def encloses (outer inner : Sector α) : Bool :=
  let reach := sweepBetween outer.start inner.start + inner.sweep
  decide (reach ≤ outer.sweep) && decide (inner.sweep < outer.sweep)

def ofFeature? (feature : Feature α) : Option (Sector α) :=
  (feature.number? "SECTR1").bind (fun start =>
    (feature.number? "SECTR2").map (fun finish => ⟨start, finish⟩))

def drawn? (feature : Feature α) : Option (Sector α) :=
  (ofFeature? feature).filter (fun sector => !isAllRound sector.sweep)

end Sector

/-- Whether a sector encloses that of the light at the same place. -/
def isOuter (situation : Situation α) (sector : Sector α) : Bool :=
  match (situation.linked? .coLocatedLight).bind Sector.ofFeature? with
  | some other => sector.encloses other
  | none => false

/-- A line towards the light, of fixed length on screen or as long as the light is seen. -/
def leg (situation : Situation α) (bearing : α) : Directive :=
  let (length, unit) :=
    if situation.settings.fullSectorLines then
      ((situation.feature.number? "VALNMR").getD (9.0 : α), "N")
    else ((25.0 : α), "M")
  .ofParameters "SL"
    [Quantity.plain bearing, Quantity.plain length, unit, "DASH", "1", "CHBLK"]

def arcRadius (situation : Situation α) (sector : Sector α) : α :=
  if isOuter situation sector then 25.0 else 20.0

def arc (situation : Situation α) (sector : Sector α) (colour : String) : Directive :=
  .ofParameters "CA"
    ["OUTLW", "4", colour, "2", Quantity.plain sector.start, Quantity.plain sector.finish,
     Quantity.plain (arcRadius situation sector)]

/-- A flare, which leans to the other side on a floating platform. -/
def flare (situation : Situation α) (style : ColourStyle) : Directive :=
  .rotatedSymbol style.flare
    (if (situation.linked? .platform).isSome then "45" else "135")

def orientation (situation : Situation α) : List Directive :=
  if (situation.feature.codes "CATLIT").contains 1 then
    ((situation.feature.number? "ORIENT").map (leg situation)).toList
  else []

def descriptionText (situation : Situation α) : List Directive :=
  let text := description situation.feature
  if !situation.settings.lightDescriptions || text = "" then []
  else
    [.ofParameters "TX"
      [Directive.quoted text, "3", "2", "2", Directive.quoted "15110", "2", "1", "CHBLK", "23"]]

/-- A light that is neither a flood nor a spot nor a strip light. -/
def beam (situation : Situation α) : List Directive :=
  let style := colourStyle (situation.feature.codes "COLOUR")
  (match Sector.drawn? situation.feature with
    | some sector =>
      [leg situation sector.start, leg situation sector.finish, arc situation sector style.arc]
    | none => flare situation style :: orientation situation) ++ descriptionText situation

def light : Procedure α :=
  .ofDirectives "LIGHTS05" (fun situation =>
    let categories := situation.feature.codes "CATLIT"
    if categories.contains 8 || categories.contains 11 then [.symbol "LIGHTS82"]
    else if categories.contains 9 then [.symbol "LIGHTS81"]
    else beam situation)

end ChartPortrayal.Light
