import ChartPortrayal.Number.Quantity

namespace ChartPortrayal

inductive Parameter where
  | safetyContour
  | safetyDepth
  | shallowContour
  | deepContour
  | twoShades
  | shallowPattern
  | symbolizedBoundaries
  | paperChartSymbols
  | datumOffset
  | fullSectorLines
  | lightDescriptions
  | showText
  | importantTextOnly
  | nationalNames
deriving DecidableEq

namespace Parameter

def all : List Parameter :=
  [safetyContour, safetyDepth, shallowContour, deepContour, twoShades, shallowPattern,
   symbolizedBoundaries, paperChartSymbols, datumOffset, fullSectorLines, lightDescriptions, showText,
   importantTextOnly, nationalNames]

def name : Parameter → String
  | safetyContour => "safety-contour"
  | safetyDepth => "safety-depth"
  | shallowContour => "shallow-contour"
  | deepContour => "deep-contour"
  | twoShades => "two-shades"
  | shallowPattern => "shallow-pattern"
  | symbolizedBoundaries => "symbolized-boundaries"
  | paperChartSymbols => "paper-chart-symbols"
  | datumOffset => "datum-offset"
  | fullSectorLines => "full-sector-lines"
  | lightDescriptions => "light-descriptions"
  | showText => "show-text"
  | importantTextOnly => "important-text-only"
  | nationalNames => "national-names"

def ofName? (name : String) : Option Parameter := all.find? (fun parameter => parameter.name == name)

def documentName : Parameter → String
  | safetyContour => "safetyContour"
  | safetyDepth => "safetyDepth"
  | shallowContour => "shallowContour"
  | deepContour => "deepContour"
  | twoShades => "twoShades"
  | shallowPattern => "shallowPattern"
  | symbolizedBoundaries => "symbolizedBoundaries"
  | paperChartSymbols => "paperChartSymbols"
  | datumOffset => "datumOffset"
  | fullSectorLines => "fullSectorLines"
  | lightDescriptions => "lightDescriptions"
  | showText => "showText"
  | importantTextOnly => "importantTextOnly"
  | nationalNames => "nationalNames"

/-- Whether only labels depend on the setting, and no conditional symbology. -/
def affectsText : Parameter → Bool
  | showText => true
  | importantTextOnly => true
  | nationalNames => true
  | _ => false

def isNumeric : Parameter → Bool
  | safetyContour => true
  | safetyDepth => true
  | shallowContour => true
  | deepContour => true
  | datumOffset => true
  | _ => false

end Parameter

structure Settings (α : Type) where
  /-- Metres. -/
  safetyContour : α
  /-- Metres; soundings down to this depth are drawn in the bold glyphs. -/
  safetyDepth : α
  shallowContour : α
  deepContour : α
  twoShades : Bool
  shallowPattern : Bool
  symbolizedBoundaries : Bool
  paperChartSymbols : Bool
  /-- Added to every charted depth before it is compared with a contour. -/
  datumOffset : α
  fullSectorLines : Bool
  lightDescriptions : Bool
  showText : Bool
  importantTextOnly : Bool
  nationalNames : Bool

namespace Settings

variable {α : Type} [Quantity α]

def standard : Settings α where
  safetyContour := 30.0
  safetyDepth := 30.0
  shallowContour := 2.0
  deepContour := 30.0
  twoShades := false
  shallowPattern := false
  symbolizedBoundaries := true
  paperChartSymbols := false
  datumOffset := 0.0
  fullSectorLines := false
  lightDescriptions := true
  showText := true
  importantTextOnly := false
  nationalNames := false

def flagValue (flag : Bool) : α := if flag then 1.0 else 0.0

/-- A number as a flag: whatever differs from zero is on. -/
def valueFlag (value : α) : Bool := !(value == 0.0)

def get (settings : Settings α) : Parameter → α
  | .safetyContour => settings.safetyContour
  | .safetyDepth => settings.safetyDepth
  | .shallowContour => settings.shallowContour
  | .deepContour => settings.deepContour
  | .twoShades => flagValue settings.twoShades
  | .shallowPattern => flagValue settings.shallowPattern
  | .symbolizedBoundaries => flagValue settings.symbolizedBoundaries
  | .paperChartSymbols => flagValue settings.paperChartSymbols
  | .datumOffset => settings.datumOffset
  | .fullSectorLines => flagValue settings.fullSectorLines
  | .lightDescriptions => flagValue settings.lightDescriptions
  | .showText => flagValue settings.showText
  | .importantTextOnly => flagValue settings.importantTextOnly
  | .nationalNames => flagValue settings.nationalNames

def put (settings : Settings α) (parameter : Parameter) (value : α) : Settings α :=
  match parameter with
  | .safetyContour => { settings with safetyContour := value }
  | .safetyDepth => { settings with safetyDepth := value }
  | .shallowContour => { settings with shallowContour := value }
  | .deepContour => { settings with deepContour := value }
  | .twoShades => { settings with twoShades := valueFlag value }
  | .shallowPattern => { settings with shallowPattern := valueFlag value }
  | .symbolizedBoundaries => { settings with symbolizedBoundaries := valueFlag value }
  | .paperChartSymbols => { settings with paperChartSymbols := valueFlag value }
  | .datumOffset => { settings with datumOffset := value }
  | .fullSectorLines => { settings with fullSectorLines := valueFlag value }
  | .lightDescriptions => { settings with lightDescriptions := valueFlag value }
  | .showText => { settings with showText := valueFlag value }
  | .importantTextOnly => { settings with importantTextOnly := valueFlag value }
  | .nationalNames => { settings with nationalNames := valueFlag value }

end Settings

end ChartPortrayal
