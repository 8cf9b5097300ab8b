import ChartPortrayal.Proofs.Display.Request
import ChartPortrayal.Proofs.Renumbering

/-! A display whose link generations are counted otherwise: it answers every request like the display that it
is a copy of, and the two stay copies of each other. -/

namespace ChartPortrayal

variable {α : Type} {numbering : Renumbering}

namespace Display

/-- The same display under another count of generations. -/
def renumber (numbering : Renumbering) (display : Display α) : Display α :=
  { display with
    chart := display.chart.renumber numbering
    portrayals := display.portrayals.mapValues (fun _ => Portrayal.renumber numbering) }

theorem find?_portrayals_renumber (display : Display α) (id : Nat) :
    (display.renumber numbering).portrayals.find? id =
      (display.portrayals.find? id).map (Portrayal.renumber numbering) :=
  SortedMap.find?_mapValues ..

theorem size_renumber (display : Display α) : (display.renumber numbering).size = display.size :=
  List.length_map ..

/-- The count goes up with the old one from now on, and no procedure looks at it. -/
structure Suits (display : Display α) (numbering : Renumbering) : Prop where
  late : numbering.onset ≤ display.chart.linkGeneration
  ignores : display.library.IgnoresGeneration

section Changes

variable {display : Display α}

theorem insert_renumber (display : Display α) (feature : Feature α) :
    (display.renumber numbering).insert feature = (display.insert feature).renumber numbering := by
  have stored := display.portrayals.mapValues_insert (Portrayal.renumber numbering)
    display.chart.nextId (.fresh display.chart.nextId)
  simp only [Display.insert, renumber, stored]
  rfl

theorem insertAll_renumber (display : Display α) (features : List (Feature α)) :
    (display.renumber numbering).insertAll features =
      (display.insertAll features).renumber numbering := by
  unfold Display.insertAll
  induction features generalizing display with
  | nil => rfl
  | cons feature rest ih => rw [List.foldl_cons, List.foldl_cons, insert_renumber, ih]

theorem erase_renumber (late : numbering.onset ≤ display.chart.linkGeneration) (id : Nat) :
    (display.renumber numbering).erase id = (display.erase id).renumber numbering := by
  have chart := Chart.erase_renumber late id
  have portrayals := display.portrayals.mapValues_erase (Portrayal.renumber numbering) id
  simp only [Display.erase, renumber, chart, portrayals]

theorem eraseCell_renumber (late : numbering.onset ≤ display.chart.linkGeneration) (cell : Nat) :
    (display.renumber numbering).eraseCell cell = (display.eraseCell cell).renumber numbering := by
  have chart := Chart.eraseCell_renumber late cell
  have listed : (display.chart.renumber numbering).cellFeatures cell = display.chart.cellFeatures cell := rfl
  have portrayals : ∀ (features : List (Feature α)) (portrayals : SortedMap Nat (Portrayal α)),
      features.foldl (fun portrayals feature => portrayals.erase feature.id)
          (portrayals.mapValues (fun _ => Portrayal.renumber numbering)) =
        (features.foldl (fun portrayals feature => portrayals.erase feature.id) portrayals).mapValues
          (fun _ => Portrayal.renumber numbering) := by
    intro features
    induction features with
    | nil => exact fun _ => rfl
    | cons feature rest ih =>
      intro portrayals
      rw [List.foldl_cons, List.foldl_cons, ← SortedMap.mapValues_erase, ih]
  simp only [Display.eraseCell, renumber, chart, listed, portrayals]

theorem invalidate_renumber (display : Display α) (ids : List Nat) :
    (display.renumber numbering).invalidate ids = (display.invalidate ids).renumber numbering := by
  have commute := display.portrayals.mapValues_comm
    (fun id portrayal => if ids.contains id then portrayal.invalidate else portrayal)
    (fun _ => Portrayal.renumber numbering) (fun id portrayal => by split <;> rfl)
  simp only [Display.invalidate, renumber, commute]

theorem setLibrary_renumber (display : Display α) (library : Library α) :
    (display.renumber numbering).setLibrary library = (display.setLibrary library).renumber numbering := by
  have commute := display.portrayals.mapValues_comm (fun _ portrayal => portrayal.invalidate)
    (fun _ => Portrayal.renumber numbering) (fun _ _ => rfl)
  simp only [Display.setLibrary, renumber, commute]

theorem highlight_renumber (display : Display α) (id : Nat) (on : Bool) :
    (display.renumber numbering).highlight id on =
      ((display.highlight id on).1.renumber numbering, (display.highlight id on).2) := by
  have known : (display.renumber numbering).feature? id = display.feature? id := rfl
  unfold Display.highlight
  rw [known]
  cases display.feature? id with
  | none => rfl
  | some feature => rfl

/-- Portrayals that answer alike under both counts make displays that do. -/
theorem request_renumber {β : Type} (display : Display α) (id : Nat)
    {ask asked : Portrayal α → Portrayal α × Except PortrayalError β}
    (same : ∀ portrayal : Portrayal α, asked (portrayal.renumber numbering) =
      ((ask portrayal).1.renumber numbering, (ask portrayal).2)) :
    (display.renumber numbering).request id asked =
      ((display.request id ask).1.renumber numbering, (display.request id ask).2) := by
  unfold Display.request
  rw [find?_portrayals_renumber]
  cases display.portrayals.find? id with
  | none => rfl
  | some portrayal =>
    have stored := display.portrayals.mapValues_insert (Portrayal.renumber numbering) id (ask portrayal).1
    simp only [Option.map_some, same, renumber, stored]

namespace Suits

theorem insertAll (suits : display.Suits numbering) (features : List (Feature α)) :
    (display.insertAll features).Suits numbering := by
  unfold Display.insertAll
  induction features generalizing display with
  | nil => exact suits
  | cons feature rest ih => exact ih ⟨suits.late, suits.ignores⟩

theorem onChart (suits : display.Suits numbering) {chart : Chart α} (tracks : chart.Tracks display.chart) :
    ({ display with chart := chart } : Display α).Suits numbering :=
  ⟨Nat.le_trans suits.late tracks.generation_le, suits.ignores⟩

theorem request {β : Type} (suits : display.Suits numbering) (id : Nat)
    (ask : Portrayal α → Portrayal α × Except PortrayalError β) :
    (display.request id ask).1.Suits numbering := by
  unfold Display.request
  split
  · exact suits
  · exact ⟨suits.late, suits.ignores⟩

theorem highlight (suits : display.Suits numbering) (id : Nat) (on : Bool) :
    (display.highlight id on).1.Suits numbering := by
  unfold Display.highlight
  cases display.feature? id with
  | none => exact suits
  | some feature => exact ⟨suits.late, suits.ignores⟩

theorem setAttribute [Quantity α] (suits : display.Suits numbering) (id : Nat) (name value : String) :
    (display.setAttribute id name value).1.Suits numbering := by
  unfold Display.setAttribute
  cases display.feature? id with
  | none => exact suits
  | some feature =>
    refine ⟨?_, suits.ignores⟩
    by_cases decides : linkAttributes.contains name = true
    · simp only [decides, ↓reduceIte]
      have grown := (Chart.tracks_resolveCell (display.chart.adjust id
        (fun feature => feature.setAttribute name value)) feature.cell).generation_le
      exact Nat.le_trans suits.late grown
    · simp only [decides, Bool.false_eq_true, ↓reduceIte]
      exact suits.late

theorem keptByAsking [Quantity α] (numbering : Renumbering) :
    KeptByAsking (fun display : Display α => display.Suits numbering) :=
  ⟨fun _ id _ suits => suits.request id _, fun _ id _ suits => suits.request id _,
    fun _ id _ suits => suits.request id _⟩

end Suits

end Changes

variable [Quantity α] {display : Display α}

/-- What is read off a slot, other than its stamp, is read alike under both counts. -/
theorem readSlot_renumber {β : Type} (suits : display.Suits numbering) (id : Nat) (variant : Variant)
    {read : Slot α → β} (blind : ∀ slot : Slot α, read (slot.renumber numbering) = read slot) :
    (display.renumber numbering).request id
        (fun portrayal => portrayal.readSlot (display.scene.renumber numbering) variant read) =
      ((display.request id (fun portrayal => portrayal.readSlot display.scene variant read)).1.renumber
          numbering,
        (display.request id (fun portrayal => portrayal.readSlot display.scene variant read)).2) := by
  have ignores : display.scene.library.IgnoresGeneration := suits.ignores
  exact display.request_renumber id (fun portrayal => portrayal.readSlot_renumber ignores variant blind)

theorem commands_renumber (suits : display.Suits numbering) (id : Nat) (variant : Variant) :
    (display.renumber numbering).commands id variant =
      ((display.commands id variant).1.renumber numbering, (display.commands id variant).2) := by
  have blind : ∀ slot : Slot α, (slot.renumber numbering).commands = slot.commands := fun _ => rfl
  exact readSlot_renumber suits id variant blind

theorem priority_renumber (suits : display.Suits numbering) (id : Nat) (variant : Variant) :
    (display.renumber numbering).priority id variant =
      ((display.priority id variant).1.renumber numbering, (display.priority id variant).2) := by
  have blind : ∀ slot : Slot α, (slot.renumber numbering).priority = slot.priority := fun _ => rfl
  exact readSlot_renumber suits id variant blind

theorem labels_renumber (suits : display.Suits numbering) (id : Nat) (variant : Variant) :
    (display.renumber numbering).labels id variant =
      ((display.labels id variant).1.renumber numbering, (display.labels id variant).2) := by
  have ignores : display.scene.library.IgnoresGeneration := suits.ignores
  have asked : ∀ portrayal : Portrayal α,
      (portrayal.renumber numbering).labels (display.scene.renumber numbering) variant =
        ((portrayal.labels display.scene variant).1.renumber numbering,
          (portrayal.labels display.scene variant).2) :=
    fun portrayal => portrayal.labels_renumber ignores variant
  exact display.request_renumber id asked

theorem describe_renumber (suits : display.Suits numbering) (id : Nat) (variant : Variant) :
    (display.renumber numbering).describe id variant =
      ((display.describe id variant).1.renumber numbering, (display.describe id variant).2) := by
  unfold Display.describe
  rw [labels_renumber suits]
  obtain ⟨current, error | labels⟩ := display.labels id variant
  · rfl
  · have same : (current.renumber numbering).feature? id = current.feature? id := rfl
    simp only [same, find?_portrayals_renumber]
    cases current.feature? id with
    | none => rfl
    | some feature =>
      cases current.portrayals.find? id with
      | none => rfl
      | some portrayal =>
        simp only [Option.map_some, Portrayal.slot_renumber]
        rfl

theorem isSuppressed_renumber (suits : display.Suits numbering) (id : Nat) :
    (display.renumber numbering).isSuppressed id =
      ((display.isSuppressed id).1.renumber numbering, (display.isSuppressed id).2) := by
  have known : (display.renumber numbering).feature? id = display.feature? id := rfl
  have store : (display.renumber numbering).store = display.store := rfl
  have variantOf : (display.renumber numbering).variantOf = display.variantOf := rfl
  unfold Display.isSuppressed
  rw [known, store, variantOf]
  cases display.feature? id with
  | none => rfl
  | some feature =>
    simp only [priority_renumber suits]
    split
    · rfl
    · obtain ⟨current, error | priority⟩ := display.priority id (display.variantOf feature.geometry)
      · rfl
      · rfl

theorem finalizeVariants_renumber (suits : display.Suits numbering) (id : Nat) (variants : List Variant) :
    (display.renumber numbering).finalizeVariants id variants =
      ((display.finalizeVariants id variants).1.renumber numbering,
        (display.finalizeVariants id variants).2) := by
  induction variants generalizing display with
  | nil => rfl
  | cons variant rest ih =>
    have after := (Suits.keptByAsking numbering).commands display id variant suits
    rw [finalizeVariants, finalizeVariants, commands_renumber suits]
    generalize display.commands id variant = outcome at after
    obtain ⟨current, error | commands⟩ := outcome
    · rfl
    · exact ih after

theorem finalizeEach_renumber (suits : display.Suits numbering) (ids : List Nat) :
    (display.renumber numbering).finalizeEach ids =
      ((display.finalizeEach ids).1.renumber numbering, (display.finalizeEach ids).2) := by
  induction ids generalizing display with
  | nil => rfl
  | cons id rest ih =>
    have after := (Suits.keptByAsking numbering).finalizeVariants suits id Variant.all
    rw [finalizeEach, finalizeEach, finalizeVariants_renumber suits]
    generalize display.finalizeVariants id Variant.all = outcome at after
    obtain ⟨current, error | ⟨⟩⟩ := outcome
    · rfl
    · exact ih after

theorem finalizeAll_renumber (suits : display.Suits numbering) :
    (display.renumber numbering).finalizeAll =
      (display.finalizeAll.1.renumber numbering, display.finalizeAll.2) := by
  have keys : (display.renumber numbering).portrayals.keys = display.portrayals.keys :=
    SortedMap.keys_mapValues ..
  unfold Display.finalizeAll
  rw [keys, finalizeEach_renumber suits]
  obtain ⟨current, error | ⟨⟩⟩ := display.finalizeEach display.portrayals.keys
  · rfl
  · simp only [size_renumber]

theorem setAttribute_renumber (late : numbering.onset ≤ display.chart.linkGeneration) (id : Nat)
    (name value : String) :
    (display.renumber numbering).setAttribute id name value =
      ((display.setAttribute id name value).1.renumber numbering,
        (display.setAttribute id name value).2) := by
  have known : (display.renumber numbering).feature? id = display.feature? id := rfl
  unfold Display.setAttribute
  rw [known]
  cases display.feature? id with
  | none => rfl
  | some feature =>
    have stale : ∀ chart : Chart α,
        ({ display.renumber numbering with chart := chart.renumber numbering } : Display α).invalidate
            (chart.dependents id ++ [id]) =
          (({ display with chart := chart } : Display α).invalidate
            (chart.dependents id ++ [id])).renumber numbering :=
      fun chart => invalidate_renumber { display with chart := chart } _
    have edited : (display.renumber numbering).chart.adjust id
        (fun feature => feature.setAttribute name value) =
          (display.chart.adjust id (fun feature => feature.setAttribute name value)).renumber numbering :=
      rfl
    have kept : numbering.onset ≤ (display.chart.adjust id
        (fun feature => feature.setAttribute name value)).linkGeneration := late
    by_cases decides : linkAttributes.contains name = true
    · simp only [decides, ↓reduceIte, edited, Chart.resolveCell_renumber kept]
      exact congrArg (·, Except.ok ()) (stale _)
    · simp only [decides, Bool.false_eq_true, ↓reduceIte, edited]
      exact congrArg (·, Except.ok ()) (stale _)

theorem resolveLinks_renumber (late : numbering.onset ≤ display.chart.linkGeneration) :
    (display.renumber numbering).resolveLinks =
      (display.resolveLinks.1.renumber numbering, display.resolveLinks.2) := by
  have resolved : (display.renumber numbering).chart.resolveAll =
      (display.chart.resolveAll.1.renumber numbering, display.chart.resolveAll.2) :=
    Chart.resolveCells_renumber late display.chart.cells
  unfold Display.resolveLinks
  rw [resolved]
  rfl

/-- The links of one cell are set. -/
def linkCell (display : Display α) (cell : Nat) : Display α :=
  { display with chart := (display.chart.resolveCell cell).1 }

/-- What loading features ends in, once they are there and their links are set. -/
def loaded (display : Display α) (ids : List Nat) : Display α × Except PortrayalError (List Nat) :=
  if display.eagerFinalize then
    match display.finalizeAll with
    | (current, .error error) => (current, .error error)
    | (current, .ok _) => (current, .ok ids)
  else (display, .ok ids)

theorem loadCell_eq (display : Display α) (cell : Nat) (features : List (Feature α)) :
    display.loadCell cell features =
      ((display.insertAll (features.map (fun feature => { feature with cell := cell }))).linkCell cell).loaded
        (display.upcomingIds features.length) := rfl

theorem linkCell_renumber (late : numbering.onset ≤ display.chart.linkGeneration) (cell : Nat) :
    (display.renumber numbering).linkCell cell = (display.linkCell cell).renumber numbering :=
  congrArg (fun outcome => { display.renumber numbering with chart := outcome.1 })
    (Chart.resolveCell_renumber late cell)

theorem loaded_renumber (suits : display.Suits numbering) (ids : List Nat) :
    (display.renumber numbering).loaded ids =
      ((display.loaded ids).1.renumber numbering, (display.loaded ids).2) := by
  have eager : (display.renumber numbering).eagerFinalize = display.eagerFinalize := rfl
  unfold loaded
  rw [eager, finalizeAll_renumber suits]
  split
  · obtain ⟨current, error | count⟩ := display.finalizeAll
    · rfl
    · rfl
  · rfl

theorem loadCell_renumber (suits : display.Suits numbering) (cell : Nat) (features : List (Feature α)) :
    (display.renumber numbering).loadCell cell features =
      ((display.loadCell cell features).1.renumber numbering, (display.loadCell cell features).2) := by
  have ids : (display.renumber numbering).upcomingIds = display.upcomingIds := rfl
  have inserted := suits.insertAll (features.map (fun feature => { feature with cell := cell }))
  have linked := inserted.onChart (Chart.tracks_resolveCell _ cell)
  rw [loadCell_eq, loadCell_eq, ids, insertAll_renumber, linkCell_renumber inserted.late]
  exact loaded_renumber linked _

/-- Whatever is asked of the copy, it stays a copy. -/
theorem perform_renumber (suits : display.Suits numbering) (request : Request α) :
    (display.renumber numbering).perform request = (display.perform request).renumber numbering := by
  cases request with
  | insert feature => exact insert_renumber display feature
  | loadCell cell features => exact congrArg Prod.fst (loadCell_renumber suits cell features)
  | erase id => exact erase_renumber suits.late id
  | eraseCell cell => exact eraseCell_renumber suits.late cell
  | resolveLinks => exact congrArg Prod.fst (resolveLinks_renumber suits.late)
  | setAttribute id name value => exact congrArg Prod.fst (setAttribute_renumber suits.late id name value)
  | setParameter parameter value => rfl
  | writeStore write => rfl
  | highlight id on => exact congrArg Prod.fst (highlight_renumber display id on)
  | setLibrary library => exact setLibrary_renumber display library
  | commands id variant => exact congrArg Prod.fst (commands_renumber suits id variant)
  | priority id variant => exact congrArg Prod.fst (priority_renumber suits id variant)
  | labels id variant => exact congrArg Prod.fst (labels_renumber suits id variant)
  | describe id variant => exact congrArg Prod.fst (describe_renumber suits id variant)
  | isSuppressed id => exact congrArg Prod.fst (isSuppressed_renumber suits id)
  | finalizeAll => exact congrArg Prod.fst (finalizeAll_renumber suits)

end Display

/-- A request that brings in a library brings in one whose procedures do not look at the count. -/
def Request.IgnoresGeneration : Request α → Prop
  | .setLibrary library => library.IgnoresGeneration
  | _ => True

namespace Display

variable [Quantity α] {display : Display α}

theorem Suits.perform (suits : display.Suits numbering) {request : Request α}
    (ignores : request.IgnoresGeneration) : (display.perform request).Suits numbering := by
  cases request with
  | insert feature => exact ⟨suits.late, suits.ignores⟩
  | loadCell cell features =>
    exact (keptByAsking numbering).loadCell cell features
      ((suits.insertAll _).onChart (Chart.tracks_resolveCell ..))
  | erase id => exact ⟨(suits.onChart (display.chart.tracks_erase id)).late, suits.ignores⟩
  | eraseCell cell => exact ⟨(suits.onChart (display.chart.tracks_eraseCell cell)).late, suits.ignores⟩
  | resolveLinks => exact suits.onChart (Chart.tracks_resolveCells ..)
  | setAttribute id name value => exact suits.setAttribute id name value
  | setParameter parameter value => exact ⟨suits.late, suits.ignores⟩
  | writeStore write => exact ⟨suits.late, suits.ignores⟩
  | highlight id on => exact suits.highlight id on
  | setLibrary library => exact ⟨suits.late, ignores⟩
  | commands id variant => exact (keptByAsking numbering).commands display id variant suits
  | priority id variant => exact (keptByAsking numbering).priority display id variant suits
  | labels id variant => exact (keptByAsking numbering).labels display id variant suits
  | describe id variant => exact (keptByAsking numbering).describe suits id variant
  | isSuppressed id => exact (keptByAsking numbering).isSuppressed suits id
  | finalizeAll => exact (keptByAsking numbering).finalizeAll suits

theorem run_renumber (suits : display.Suits numbering) {requests : List (Request α)}
    (ignore : ∀ request ∈ requests, request.IgnoresGeneration) :
    (display.renumber numbering).run requests = (display.run requests).renumber numbering ∧
      (display.run requests).Suits numbering := by
  induction requests generalizing display with
  | nil => exact ⟨rfl, suits⟩
  | cons request rest ih =>
    obtain ⟨here, later⟩ := List.forall_mem_cons.mp ignore
    have copied : (display.renumber numbering).run (request :: rest) =
        ((display.perform request).renumber numbering).run rest :=
      congrArg (fun next => next.run rest) (perform_renumber suits request)
    rw [copied]
    exact ih (suits.perform here) later

/-- Two displays that no question tells apart. -/
structure AnswersAlike (first second : Display α) : Prop where
  feature : ∀ id, first.feature? id = second.feature? id
  size : first.size = second.size
  isEmpty : first.isEmpty = second.isEmpty
  variantOf : ∀ geometry, first.variantOf geometry = second.variantOf geometry
  commands : ∀ id variant, (first.commands id variant).2 = (second.commands id variant).2
  priority : ∀ id variant, (first.priority id variant).2 = (second.priority id variant).2
  labels : ∀ id variant, (first.labels id variant).2 = (second.labels id variant).2
  describe : ∀ id variant, (first.describe id variant).2 = (second.describe id variant).2
  isSuppressed : ∀ id, (first.isSuppressed id).2 = (second.isSuppressed id).2
  finalizeAll : first.finalizeAll.2 = second.finalizeAll.2
  resolveLinks : first.resolveLinks.2 = second.resolveLinks.2
  loadCell : ∀ cell features, (first.loadCell cell features).2 = (second.loadCell cell features).2
  setAttribute : ∀ id name value,
    (first.setAttribute id name value).2 = (second.setAttribute id name value).2
  highlight : ∀ id on, (first.highlight id on).2 = (second.highlight id on).2

theorem answersAlike_renumber (suits : display.Suits numbering) :
    display.AnswersAlike (display.renumber numbering) where
  feature _ := rfl
  size := (size_renumber display).symm
  isEmpty := (List.isEmpty_map ..).symm
  variantOf _ := rfl
  commands id variant := by rw [commands_renumber suits]
  priority id variant := by rw [priority_renumber suits]
  labels id variant := by rw [labels_renumber suits]
  describe id variant := by rw [describe_renumber suits]
  isSuppressed id := by rw [isSuppressed_renumber suits]
  finalizeAll := by rw [finalizeAll_renumber suits]
  resolveLinks := by rw [resolveLinks_renumber suits.late]
  loadCell cell features := by rw [loadCell_renumber suits]
  setAttribute id name value := by rw [setAttribute_renumber suits.late]
  highlight id on := by rw [highlight_renumber]


end Display

end ChartPortrayal
