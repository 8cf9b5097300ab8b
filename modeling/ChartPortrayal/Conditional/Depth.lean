import ChartPortrayal.Conditional.Accuracy
import ChartPortrayal.Conditional.Restriction

namespace ChartPortrayal

/-- The colours of the seabed, from dry land at low water to deep water. -/
inductive SeabedColour where
  | intertidal
  | veryShallow
  | mediumShallow
  | mediumDeep
  | deep
deriving DecidableEq

namespace SeabedColour

def token : SeabedColour → String
  | intertidal => "DEPIT"
  | veryShallow => "DEPVS"
  | mediumShallow => "DEPMS"
  | mediumDeep => "DEPMD"
  | deep => "DEPDW"

/-- The place of a colour on the way to deep water. -/
def rank : SeabedColour → Nat
  | intertidal => 0
  | veryShallow => 1
  | mediumShallow => 2
  | mediumDeep => 3
  | deep => 4

end SeabedColour

/-- The colour of a depth range, and whether it lies shallower than the safety contour. -/
structure DepthBand where
  colour : SeabedColour
  shallow : Bool
deriving DecidableEq

namespace Depth

variable {α : Type} [Quantity α]

/-- A charted depth corrected by the datum offset. -/
def corrected (settings : Settings α) (depth : α) : α := depth + settings.datumOffset

/-- Whether a corrected range starts at a contour or below it, and ends below it. -/
def reaches (settings : Settings α) (upper lower contour : α) : Bool :=
  decide (contour ≤ corrected settings upper) && decide (contour < corrected settings lower)

def band (settings : Settings α) (upper lower : α) : DepthBand :=
  let within := reaches settings upper lower
  let land : SeabedColour := if within 0.0 then .veryShallow else .intertidal
  if settings.twoShades then
    if within settings.safetyContour then ⟨.deep, false⟩ else ⟨land, true⟩
  else if within settings.deepContour then ⟨.deep, false⟩
  else if within settings.safetyContour then ⟨.mediumDeep, false⟩
  else if within settings.shallowContour then ⟨.mediumShallow, true⟩
  else ⟨land, true⟩

def seabed (settings : Settings α) (upper lower : α) : List Directive :=
  let band := band settings upper lower
  .areaColour band.colour.token ::
    (if band.shallow && settings.shallowPattern then [.areaPattern "DIAMOND1"] else [])

def least? (situation : Situation α) : Option α :=
  (situation.linked? .leastDepthArea).bind (fun area => area.number? "DRVAL1")

/-- Whether a contour is the one to draw as the safety contour: its depth is the safety contour's, or it
is deeper and the depth area on its shallow side starts shallower. -/
def isSafetyContour (situation : Situation α) (depth : α) : Bool :=
  let settings := situation.settings
  let contour := corrected settings depth
  if contour == settings.safetyContour then true
  else if contour < settings.safetyContour then false
  else
    match (situation.linked? .underlyingDepthArea).bind (fun area => area.number? "DRVAL1") with
    | some start => decide (corrected settings start < settings.safetyContour)
    | none => false

/-- The glyphs of a contour's label: up to five digits, each named by its place, and the tenths of a
depth under ten metres. Depths that five digits cannot hold have no label. -/
def label (depth : α) : List Directive :=
  if (0.0 : α) ≤ depth ∧ depth < (100000.0 : α) then
    let tenths := Quantity.tenths depth
    let whole := tenths.tdiv 10
    let fraction := tenths.tmod 10
    let digits := (toString whole).toList
    let places := (List.range digits.length).reverse
    let glyphs := (places.zip digits).map (fun glyph =>
      Directive.symbol ("SAFCON" ++ toString glyph.1 ++ glyph.2.toString))
    if whole < 10 ∧ 0 < fraction then glyphs ++ [.symbol ("SAFCON6" ++ toString fraction)] else glyphs
  else []

/-- A contour; the safety contour is bold, labelled, and drawn at every scale. -/
def contour (situation : Situation α) (depth : α) : List Directive :=
  let pattern := if situation.feature.isLowAccuracy then "DASH" else "SOLD"
  if isSafetyContour situation depth then
    .simpleLine pattern 2 "DEPSC" :: .overridePriority ["--D13010", "NOSCAMIN"] :: label depth
  else [.simpleLine pattern 1 "DEPCN"]

def dredged (feature : Feature α) : List Directive :=
  [.areaPattern "DRGARE01", .simpleLine "DASH" 1 "CHGRF"] ++
    ((Restriction.ofFeature? feature).map (fun symbol => Directive.symbol symbol.name)).toList

def depthArea : Procedure α :=
  .ofDirectives "DEPARE02" (fun situation =>
    let feature := situation.feature
    let upper : α := (feature.number? "DRVAL1").getD (-1.0)
    let lower : α := (feature.number? "DRVAL2").getD (upper + 0.01)
    match feature.geometry with
    | .area =>
      seabed situation.settings upper lower ++
        (if feature.className = "DRGARE" then dredged feature else [])
    | .line => contour situation upper
    | .point => [.symbol "QUESMRK1"])

def depthContour : Procedure α :=
  .ofDirectives "DEPCNT02" (fun situation =>
    let feature := situation.feature
    contour situation
      (if feature.className = "DEPARE" then (feature.number? "DRVAL1").getD (-1.0)
       else (feature.number? "VALDCO").getD 0.0))

end Depth

end ChartPortrayal
