import ChartPortrayal.Display

namespace ChartPortrayal

/-- A write to the settings or to the filters of a store. -/
inductive StoreWrite (α : Type) where
  | set (parameter : Parameter) (value : α)
  | setFlag (parameter : Parameter) (flag : Bool)
  | replace (settings : Settings α)
  | showCategory (category : DisplayCategory)
  | suppress (className : String)
  | unsuppress (className : String)

variable {α : Type}

/-- What can be asked of a display. -/
inductive Request (α : Type) where
  | insert (feature : Feature α)
  | loadCell (cell : Nat) (features : List (Feature α))
  | erase (id : Nat)
  | eraseCell (cell : Nat)
  | resolveLinks
  | setAttribute (id : Nat) (name value : String)
  | setParameter (parameter : Parameter) (value : α)
  | writeStore (write : StoreWrite α)
  | highlight (id : Nat) (on : Bool)
  | setLibrary (library : Library α)
  | commands (id : Nat) (variant : Variant)
  | priority (id : Nat) (variant : Variant)
  | labels (id : Nat) (variant : Variant)
  | describe (id : Nat) (variant : Variant)
  | isSuppressed (id : Nat)
  | finalizeAll

variable [Quantity α]

def StoreWrite.apply (store : SettingsStore α) : StoreWrite α → SettingsStore α
  | set parameter value => store.set parameter value
  | setFlag parameter flag => store.set parameter (Settings.flagValue flag)
  | replace settings => store.replace settings
  | showCategory category => store.setDisplayCategory category
  | suppress className => store.suppress className
  | unsuppress className => store.unsuppress className

namespace Display

/-- The display after a request; the answer is left out. -/
def perform (display : Display α) : Request α → Display α
  | .insert feature => display.insert feature
  | .loadCell cell features => (display.loadCell cell features).1
  | .erase id => display.erase id
  | .eraseCell cell => display.eraseCell cell
  | .resolveLinks => display.resolveLinks.1
  | .setAttribute id name value => (display.setAttribute id name value).1
  | .setParameter parameter value => display.setParameter parameter value
  | .writeStore write => { display with store := write.apply display.store }
  | .highlight id on => (display.highlight id on).1
  | .setLibrary library => display.setLibrary library
  | .commands id variant => (display.commands id variant).1
  | .priority id variant => (display.priority id variant).1
  | .labels id variant => (display.labels id variant).1
  | .describe id variant => (display.describe id variant).1
  | .isSuppressed id => (display.isSuppressed id).1
  | .finalizeAll => display.finalizeAll.1

/-- The display after a run of requests. -/
def run (display : Display α) (requests : List (Request α)) : Display α :=
  requests.foldl perform display

/-- What holds of a display, and is kept by every request that may come, holds after every run. -/
theorem run_induction {property : Display α → Prop} {admissible : Request α → Prop}
    (step : ∀ display request, property display → admissible request →
      property (display.perform request))
    {display : Display α} (start : property display) (requests : List (Request α))
    (each : ∀ request ∈ requests, admissible request) : property (display.run requests) := by
  induction requests generalizing display with
  | nil => exact start
  | cons request rest ih =>
    obtain ⟨here, later⟩ := List.forall_mem_cons.mp each
    exact ih (step display request start here) later

/-- What is kept when commands, the priority or labels of a feature are asked for. All other questions, and
eager portrayal, come down to these three. -/
structure KeptByAsking (property : Display α → Prop) : Prop where
  commands : ∀ display id variant, property display → property (display.commands id variant).1
  priority : ∀ display id variant, property display → property (display.priority id variant).1
  labels : ∀ display id variant, property display → property (display.labels id variant).1

namespace KeptByAsking

variable {property : Display α → Prop} {display : Display α}

theorem describe (kept : KeptByAsking property) (holds : property display) (id : Nat)
    (variant : Variant) : property (display.describe id variant).1 := by
  have after := kept.labels display id variant holds
  unfold Display.describe
  generalize display.labels id variant = outcome at after
  obtain ⟨current, error | labels⟩ := outcome
  · exact after
  · dsimp only
    split <;> exact after

theorem isSuppressed (kept : KeptByAsking property) (holds : property display) (id : Nat) :
    property (display.isSuppressed id).1 := by
  unfold Display.isSuppressed
  cases display.feature? id with
  | none => exact holds
  | some feature =>
    have after := kept.priority display id (display.variantOf feature.geometry) holds
    dsimp only
    split
    · exact holds
    · generalize display.priority id (display.variantOf feature.geometry) = outcome at after
      obtain ⟨current, error | priority⟩ := outcome <;> exact after

theorem finalizeVariants (kept : KeptByAsking property) (holds : property display) (id : Nat)
    (variants : List Variant) : property (display.finalizeVariants id variants).1 := by
  induction variants generalizing display with
  | nil => exact holds
  | cons variant rest ih =>
    have after := kept.commands display id variant holds
    unfold Display.finalizeVariants
    generalize display.commands id variant = outcome at after
    obtain ⟨current, error | commands⟩ := outcome
    · exact after
    · exact ih after

theorem finalizeEach (kept : KeptByAsking property) (holds : property display) (ids : List Nat) :
    property (display.finalizeEach ids).1 := by
  induction ids generalizing display with
  | nil => exact holds
  | cons id rest ih =>
    have after := kept.finalizeVariants holds id Variant.all
    unfold Display.finalizeEach
    generalize display.finalizeVariants id Variant.all = outcome at after
    obtain ⟨current, error | ⟨⟩⟩ := outcome
    · exact after
    · exact ih after

theorem finalizeAll (kept : KeptByAsking property) (holds : property display) :
    property display.finalizeAll.1 := by
  have after := kept.finalizeEach holds display.portrayals.keys
  unfold Display.finalizeAll
  generalize display.finalizeEach display.portrayals.keys = outcome at after
  obtain ⟨current, error | ⟨⟩⟩ := outcome <;> exact after

/-- A cell is loaded by insertions and by setting its links; the rest is eager portrayal. -/
theorem loadCell (kept : KeptByAsking property) (cell : Nat) (features : List (Feature α))
    (linked :
      let inserted := display.insertAll (features.map (fun feature => { feature with cell := cell }))
      property { inserted with chart := (inserted.chart.resolveCell cell).1 }) :
    property (display.loadCell cell features).1 := by
  unfold Display.loadCell
  dsimp only
  split
  · have after := kept.finalizeAll linked
    split
    · next current error same => rwa [same] at after
    · next current count same => rwa [same] at after
  · exact linked

end KeptByAsking

/-- A new display: no features, and whatever settings it was configured with. -/
def start (library : Library α) (store : SettingsStore α) (eagerFinalize : Bool) : Display α :=
  ⟨library, .empty, store, .empty, eagerFinalize⟩

example (library : Library α) : ofLibrary library = start library .standard false := rfl

example (library : Library Float) (configuration : Configuration) :
    configured library configuration =
      start library configuration.store configuration.eagerFinalize := rfl

end Display

end ChartPortrayal
