import ChartPortrayal.Feature.Document
import ChartPortrayal.Library.Snapshot
import ChartPortrayal.Settings.Store

namespace ChartPortrayal

structure Configuration where
  version : String
  settings : Settings Float
  displayCategory : DisplayCategory
  suppressedClasses : List String
  library : Option String
  /-- Whether every feature is portrayed as soon as its cell is loaded. -/
  eagerFinalize : Bool

namespace Settings

def equal (first second : Settings Float) : Bool :=
  Parameter.all.all (fun parameter => first.get parameter == second.get parameter)

/-- A setting as a member of a document: numbers as numbers, flags as truth values. -/
def parameterJson (settings : Settings Float) (parameter : Parameter) : Json :=
  if parameter.isNumeric then .ofFloat (settings.get parameter)
  else .bool (valueFlag (settings.get parameter))

def toJson (settings : Settings Float) : Json :=
  .object (Parameter.all.map (fun parameter =>
    (parameter.documentName, settings.parameterJson parameter)))

def readParameter? (settings : Settings Float) (parameter : Parameter) :
    Option Json → Option (Settings Float)
  | none => some settings
  | some document =>
    if parameter.isNumeric then document.float?.map (settings.put parameter)
    else document.bool?.map (fun flag => settings.put parameter (flagValue flag))

/-- Reads settings, with those left out as they are in the standard. -/
def ofJson? (document : Json) : Option (Settings Float) :=
  (Json.fields? (Parameter.all.map Parameter.documentName) document).bind (fun fields =>
    (Parameter.all.zip fields).foldlM (fun settings field => settings.readParameter? field.1 field.2)
      standard)

end Settings

namespace Configuration

def standard : Configuration where
  version := "1.0.0"
  settings := .standard
  displayCategory := .standard
  suppressedClasses := []
  library := none
  eagerFinalize := false

def equal (first second : Configuration) : Bool :=
  first.version = second.version && first.settings.equal second.settings &&
    first.displayCategory = second.displayCategory &&
    first.suppressedClasses = second.suppressedClasses && first.library = second.library &&
    first.eagerFinalize = second.eagerFinalize

/-- A configuration as a document; nothing is written where no class is suppressed and no library
named. -/
def toJson (configuration : Configuration) : Json :=
  .object
    ([("version", .string configuration.version), ("mariner", configuration.settings.toJson),
      ("displayCategory", .string configuration.displayCategory.name)] ++
     (if configuration.suppressedClasses.isEmpty then []
      else [("suppressedClasses", .array (configuration.suppressedClasses.map .string))]) ++
     (configuration.library.map (fun path => ("library", Json.string path))).toList ++
     [("eagerFinalize", .bool configuration.eagerFinalize)])

def ofJson? (document : Json) : Option Configuration :=
  match Json.fields?
      ["version", "mariner", "displayCategory", "suppressedClasses", "library", "eagerFinalize"]
      document with
  | some [version, settings, displayCategory, suppressedClasses, library, eagerFinalize] => do
    let version ← Json.optional? standard.version Json.string? version
    let settings ← Json.optional? standard.settings Settings.ofJson? settings
    let displayCategory ←
      Json.optional? .standard (Json.choice? DisplayCategory.all DisplayCategory.name) displayCategory
    let suppressedClasses ← Json.optional? [] (Json.listOf? Json.string?) suppressedClasses
    let library ← Json.nullable? Json.string? library
    let eagerFinalize ← Json.optional? false Json.bool? eagerFinalize
    return { version, settings, displayCategory, suppressedClasses, library, eagerFinalize }
  | _ => none

def document (configuration : Configuration) : String := configuration.toJson.pretty

def read (text : String) : Except PortrayalError Configuration :=
  match (Json.read? text).bind ofJson? with
  | some configuration => .ok configuration
  | none => .error .malformedDocument

def load : Option String → Except PortrayalError Configuration
  | some text => read text
  | none => .error .unreadableFile

/-- Reads the contents of a file; the standard configuration stands in for one that is missing or
malformed. -/
def loadOrStandard (contents : Option String) : Configuration :=
  match load contents with
  | .ok configuration => configuration
  | .error _ => standard

def store (configuration : Configuration) : SettingsStore Float :=
  configuration.suppressedClasses.foldl SettingsStore.suppress
    ((SettingsStore.ofSettings configuration.settings).setDisplayCategory
      configuration.displayCategory)

def loadLibrary (configuration : Configuration) (contents : String → Option String) :
    Except PortrayalError (Option (Library Float)) :=
  match configuration.library with
  | none => .ok none
  | some path =>
    match contents path with
    | none => .error .unreadableFile
    | some text =>
      match Library.read text with
      | .ok library => .ok (some library)
      | .error error => .error error

end Configuration

end ChartPortrayal
