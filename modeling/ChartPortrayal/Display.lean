import ChartPortrayal.Chart.Linking
import ChartPortrayal.Configuration
import ChartPortrayal.Portrayal.Report

/-!
A display: the library, the chart, the settings, and a portrayal of every feature on the chart. Requests
hand back the display beside their answer, since they may bring portrayals up to date.
-/

namespace ChartPortrayal

structure Display (α : Type) where
  library : Library α
  chart : Chart α
  store : SettingsStore α
  portrayals : SortedMap Nat (Portrayal α)
  eagerFinalize : Bool

namespace Display

variable {α : Type}

def feature? (display : Display α) (id : Nat) : Option (Feature α) := display.chart.find? id

def size (display : Display α) : Nat := display.portrayals.size

def isEmpty (display : Display α) : Bool := display.portrayals.isEmpty

def scene (display : Display α) : Scene α := ⟨display.library, display.chart, display.store⟩

def invalidate (display : Display α) (ids : List Nat) : Display α :=
  { display with
    portrayals := display.portrayals.mapValues (fun id portrayal =>
      if ids.contains id then portrayal.invalidate else portrayal) }

def setLibrary (display : Display α) (library : Library α) : Display α :=
  { display with
    library := library
    portrayals := display.portrayals.mapValues (fun _ portrayal => portrayal.invalidate) }

def insert (display : Display α) (feature : Feature α) : Display α :=
  { display with
    chart := display.chart.insert feature
    portrayals := display.portrayals.insert display.chart.nextId (.fresh display.chart.nextId) }

def insertAll (display : Display α) (features : List (Feature α)) : Display α :=
  features.foldl insert display

def erase (display : Display α) (id : Nat) : Display α :=
  { display with
    chart := display.chart.erase id
    portrayals := display.portrayals.erase id }

def eraseCell (display : Display α) (cell : Nat) : Display α :=
  { display with
    chart := display.chart.eraseCell cell
    portrayals := (display.chart.cellFeatures cell).foldl
      (fun portrayals feature => portrayals.erase feature.id) display.portrayals }

/-- Marks or unmarks a feature; what is drawn of it stays current. -/
def highlight (display : Display α) (id : Nat) (on : Bool) :
    Display α × Except PortrayalError Unit :=
  match display.feature? id with
  | none => (display, .error (.unknownFeature id))
  | some _ =>
    ({ display with
        chart := display.chart.adjust id (fun feature => { feature with highlighted := on }) },
     .ok ())

def variantOf (display : Display α) (geometry : Geometry) : Variant :=
  let settings := display.store.settings
  match geometry with
  | .point => if settings.paperChartSymbols then .alternate else .primary
  | .line => .primary
  | .area => if settings.symbolizedBoundaries then .primary else .alternate

variable [Quantity α]

def ofLibrary (library : Library α) : Display α := ⟨library, .empty, .standard, .empty, false⟩

def configured (library : Library Float) (configuration : Configuration) : Display Float :=
  { ofLibrary library with
    store := configuration.store
    eagerFinalize := configuration.eagerFinalize }

def resolveLinks (display : Display α) : Display α × Nat :=
  let (chart, count) := display.chart.resolveAll
  ({ display with chart := chart }, count)

def setParameter (display : Display α) (parameter : Parameter) (value : α) : Display α :=
  { display with store := display.store.set parameter value }

/-- Writes an attribute. The links of the cell are set again when the attribute may decide them, and the
feature becomes stale together with those that are linked to it. -/
def setAttribute (display : Display α) (id : Nat) (name value : String) :
    Display α × Except PortrayalError Unit :=
  match display.feature? id with
  | none => (display, .error (.unknownFeature id))
  | some feature =>
    let edited := display.chart.adjust id (fun feature => feature.setAttribute name value)
    let chart :=
      if linkAttributes.contains name then (edited.resolveCell feature.cell).1 else edited
    ({ display with chart := chart }.invalidate (chart.dependents id ++ [id]), .ok ())

def request {β : Type} (display : Display α) (id : Nat)
    (ask : Portrayal α → Portrayal α × Except PortrayalError β) :
    Display α × Except PortrayalError β :=
  match display.portrayals.find? id with
  | none => (display, .error (.unknownFeature id))
  | some portrayal =>
    ({ display with portrayals := display.portrayals.insert id (ask portrayal).1 },
     (ask portrayal).2)

def commands (display : Display α) (id : Nat) (variant : Variant) :
    Display α × Except PortrayalError (List (Command α)) :=
  display.request id (fun portrayal => portrayal.finalize display.scene variant)

def priority (display : Display α) (id : Nat) (variant : Variant) :
    Display α × Except PortrayalError Priority :=
  display.request id (fun portrayal => portrayal.priority display.scene variant)

def labels (display : Display α) (id : Nat) (variant : Variant) :
    Display α × Except PortrayalError (List String) :=
  display.request id (fun portrayal => portrayal.labels display.scene variant)

/-- Whether a feature is hidden, by its class or by its display category. -/
def isSuppressed (display : Display α) (id : Nat) : Display α × Except PortrayalError Bool :=
  match display.feature? id with
  | none => (display, .error (.unknownFeature id))
  | some feature =>
    if display.store.isSuppressed feature.className then (display, .ok true)
    else
      match display.priority id (display.variantOf feature.geometry) with
      | (current, .ok priority) => (current, .ok (!display.store.showsCategory priority.category))
      | (current, .error error) => (current, .error error)

def describe (display : Display α) (id : Nat) (variant : Variant) :
    Display α × Except PortrayalError Report :=
  match display.labels id variant with
  | (current, .error error) => (current, .error error)
  | (current, .ok labels) =>
    match current.feature? id, current.portrayals.find? id with
    | some feature, some portrayal =>
      (current, .ok (.ofSlot feature variant (portrayal.slot variant) labels))
    | _, _ => (current, .error (.unknownFeature id))

def finalizeVariants (display : Display α) (id : Nat) :
    List Variant → Display α × Except PortrayalError Unit
  | [] => (display, .ok ())
  | variant :: rest =>
    match display.commands id variant with
    | (current, .error error) => (current, .error error)
    | (current, .ok _) => current.finalizeVariants id rest

def finalizeEach (display : Display α) : List Nat → Display α × Except PortrayalError Unit
  | [] => (display, .ok ())
  | id :: rest =>
    match display.finalizeVariants id Variant.all with
    | (current, .error error) => (current, .error error)
    | (current, .ok ()) => current.finalizeEach rest

/-- Brings every feature up to date, in the order of identifiers, and counts them. -/
def finalizeAll (display : Display α) : Display α × Except PortrayalError Nat :=
  match display.finalizeEach display.portrayals.keys with
  | (current, .error error) => (current, .error error)
  | (current, .ok ()) => (current, .ok current.size)

def upcomingIds (display : Display α) (count : Nat) : List Nat :=
  (List.range count).map (fun offset => display.chart.nextId + offset)

/-- Loads features into a cell and sets the links of the cell. Where the display portrays eagerly, a
failure to do so is the answer, but the features stay. -/
def loadCell (display : Display α) (cell : Nat) (features : List (Feature α)) :
    Display α × Except PortrayalError (List Nat) :=
  let ids := display.upcomingIds features.length
  let inserted := display.insertAll (features.map (fun feature => { feature with cell := cell }))
  let linked := { inserted with chart := (inserted.chart.resolveCell cell).1 }
  if linked.eagerFinalize then
    match linked.finalizeAll with
    | (current, .error error) => (current, .error error)
    | (current, .ok _) => (current, .ok ids)
  else (linked, .ok ids)

end Display

end ChartPortrayal
