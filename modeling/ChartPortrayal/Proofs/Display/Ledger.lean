import ChartPortrayal.Proofs.Display.Unchanged

namespace ChartPortrayal

variable {α : Type}

/-- The identifiers that a request gives to features. -/
def Request.given (display : Display α) : Request α → List Nat
  | .insert _ => [display.chart.nextId]
  | .loadCell _ features => display.upcomingIds features.length
  | _ => []

/-- The identifiers of the features that a request removes. -/
def Request.removed (display : Display α) : Request α → List Nat
  | .erase id => if display.chart.contains id then [id] else []
  | .eraseCell cell => (display.chart.cellFeatures cell).map (·.id)
  | _ => []

namespace Display

/-- What is entered for the requests of a run, each on the display that it meets. -/
def ledger [Quantity α] (entries : Display α → Request α → List Nat) (display : Display α) :
    List (Request α) → List Nat
  | [] => []
  | request :: rest => entries display request ++ ledger entries (display.perform request) rest

/-- The identifiers that were given in a run. -/
def idsGiven [Quantity α] : Display α → List (Request α) → List Nat := ledger Request.given

/-- The identifiers that were removed in a run. -/
def idsRemoved [Quantity α] : Display α → List (Request α) → List Nat := ledger Request.removed

/-- What became of the features between two displays: identifiers were given, from the next one on, and
identifiers that had been given by then were removed. -/
structure Accounted (before after : Display α) (given removed : List Nat) : Prop where
  numbered : given = List.range' before.chart.nextId given.length
  lastId : after.chart.lastId = before.chart.lastId + given.length
  past : ∀ id ∈ removed, id ≤ after.chart.lastId
  present : ∀ id, (after.chart.find? id).isSome ↔
    ((before.chart.find? id).isSome ∨ id ∈ given) ∧ id ∉ removed

namespace Accounted

variable {before middle after : Display α} {given removed : List Nat}

/-- No feature came or went. -/
theorem still (lastId : after.chart.lastId = before.chart.lastId)
    (present : ∀ id, (after.chart.find? id).isSome = (before.chart.find? id).isSome) :
    Accounted before after [] [] := by
  refine ⟨rfl, lastId, fun id member => absurd member List.not_mem_nil, fun id => ?_⟩
  rw [present]
  simp

theorem of_chart (accounted : Accounted before middle given removed)
    (chart : after.chart = middle.chart) : Accounted before after given removed :=
  ⟨accounted.numbered, chart ▸ accounted.lastId, chart ▸ accounted.past, chart ▸ accounted.present⟩

theorem mem_given (accounted : Accounted before after given removed) (id : Nat) :
    id ∈ given ↔ before.chart.lastId < id ∧ id ≤ after.chart.lastId := by
  rw [accounted.numbered, List.mem_range'_1, accounted.lastId, Chart.nextId]
  omega

theorem nodup_given (accounted : Accounted before after given removed) : given.Nodup := by
  rw [accounted.numbered]
  exact List.nodup_range'

/-- Accounts are joined; what the first removed cannot be given again by the second. -/
theorem trans {furtherGiven furtherRemoved : List Nat}
    (first : Accounted before middle given removed)
    (second : Accounted middle after furtherGiven furtherRemoved) :
    Accounted before after (given ++ furtherGiven) (removed ++ furtherRemoved) := by
  refine ⟨?_, ?_, ?_, ?_⟩
  · have following : middle.chart.nextId = before.chart.nextId + given.length := by
      rw [Chart.nextId, Chart.nextId, first.lastId]
      omega
    rw [List.length_append, ← List.range'_append_1, ← following, ← first.numbered, ← second.numbered]
  · rw [second.lastId, first.lastId, List.length_append]
    omega
  · intro id member
    rcases List.mem_append.mp member with early | late
    · have grown := first.past id early
      have later := second.lastId
      omega
    · exact second.past id late
  · intro id
    have anew : id ∈ furtherGiven → id ∉ removed := by
      intro again early
      have above := ((second.mem_given id).mp again).1
      have below := first.past id early
      omega
    rw [second.present, first.present, List.mem_append, List.mem_append]
    by_cases again : id ∈ furtherGiven
    · simp [again, anew again]
    · simp [again, and_assoc]

/-- Links were set, and nothing else was done to the chart. -/
theorem relinked {display : Display α} {chart : Chart α} (alike : chart.BareAlike display.chart) :
    Accounted display { display with chart := chart } [] [] := by
  refine still alike.lastId (fun id => ?_)
  simpa only [Option.isSome_map] using congrArg Option.isSome (alike.features id)

theorem adjust (display : Display α) (id : Nat) (change : Feature α → Feature α) :
    Accounted display { display with chart := display.chart.adjust id change } [] [] := by
  refine still rfl (fun other => ?_)
  rw [Chart.find?_adjust]
  split
  · rw [Option.isSome_map]
  · rfl

theorem highlight (display : Display α) (id : Nat) (on : Bool) :
    Accounted display (display.highlight id on).1 [] [] := by
  unfold Display.highlight
  cases display.feature? id with
  | none => exact still rfl (fun _ => rfl)
  | some feature => exact adjust display id _

theorem insert (display : Display α) (feature : Feature α) :
    Accounted display (display.insert feature) [display.chart.nextId] [] := by
  refine ⟨rfl, rfl, fun id member => absurd member List.not_mem_nil, fun id => ?_⟩
  rw [Display.insert, Chart.find?_insert, List.mem_singleton]
  by_cases same : id = display.chart.nextId
  · simp [same]
  · simp [same]

theorem insertAll (display : Display α) (features : List (Feature α)) :
    Accounted display (display.insertAll features)
      (List.range' display.chart.nextId features.length) [] := by
  unfold Display.insertAll
  induction features generalizing display with
  | nil => exact still rfl (fun _ => rfl)
  | cons feature rest ih => exact (insert display feature).trans (ih (display.insert feature))

/-- Features that were there are removed. -/
theorem without {display : Display α} (identified : display.chart.Identified)
    (lastId : after.chart.lastId = display.chart.lastId)
    (there : ∀ id ∈ removed, (display.chart.find? id).isSome)
    (left : ∀ id, after.chart.find? id = if id ∈ removed then none else display.chart.find? id) :
    Accounted display after [] removed := by
  refine ⟨rfl, lastId, fun id member => ?_, fun id => ?_⟩
  · obtain ⟨feature, found⟩ := Option.isSome_iff_exists.mp (there id member)
    rw [lastId]
    exact identified.given id feature found
  · rw [left]
    by_cases gone : id ∈ removed
    · simp [gone]
    · simp [gone]

theorem erase {display : Display α} (identified : display.chart.Identified) (id : Nat) :
    Accounted display (display.erase id) [] (Request.removed display (.erase id)) := by
  have listed : ∀ other, other ∈ Request.removed display (.erase id) ↔
      other = id ∧ (display.chart.find? id).isSome := by
    intro other
    unfold Request.removed
    by_cases present : display.chart.contains id = true
    · have found : (display.chart.find? id).isSome := present
      simp [present, found]
    · have missing : ¬ (display.chart.find? id).isSome := present
      simp [present, missing]
  apply without identified (display.chart.lastId_erase id)
  · intro other member
    obtain ⟨rfl, found⟩ := (listed other).mp member
    exact found
  · intro other
    rw [Display.erase, Chart.find?_erase]
    by_cases same : other = id
    · subst same
      cases found : display.chart.find? other <;> simp [listed, found]
    · simp [listed, same]

theorem eraseCell {display : Display α} (identified : display.chart.Identified) (cell : Nat) :
    Accounted display (display.eraseCell cell) [] (Request.removed display (.eraseCell cell)) := by
  apply without identified (display.chart.lastId_eraseCell cell)
  · intro id member
    obtain ⟨feature, listed, rfl⟩ := List.mem_map.mp member
    rw [((identified.mem_cellFeatures cell feature).mp listed).1]
    rfl
  · exact display.chart.find?_eraseCell cell

variable [Quantity α]

theorem keptByAsking (before : Display α) (given removed : List Nat) :
    KeptByAsking (fun after : Display α => Accounted before after given removed) where
  commands display id _ accounted := accounted.of_chart (display.chart_request id _)
  priority display id _ accounted := accounted.of_chart (display.chart_request id _)
  labels display id _ accounted := accounted.of_chart (display.chart_request id _)

theorem loadCell (display : Display α) (cell : Nat) (features : List (Feature α)) :
    Accounted display (display.loadCell cell features).1
      (Request.given display (.loadCell cell features)) [] := by
  have numbers : Request.given display (.loadCell cell features) =
      List.range' display.chart.nextId features.length := (List.range'_eq_map_range ..).symm
  rw [numbers]
  apply (keptByAsking display _ _).loadCell
  have inserted := insertAll display (features.map (fun feature => { feature with cell := cell }))
  rw [List.length_map] at inserted
  simpa using inserted.trans (relinked (Chart.bareAlike_resolveCell ..))

theorem setAttribute (display : Display α) (id : Nat) (name value : String) :
    Accounted display (display.setAttribute id name value).1 [] [] := by
  unfold Display.setAttribute
  cases display.feature? id with
  | none => exact still rfl (fun _ => rfl)
  | some feature =>
    have edited := adjust display id (fun feature => feature.setAttribute name value)
    by_cases decides : linkAttributes.contains name = true
    · simp only [decides, ↓reduceIte]
      exact (edited.trans (relinked (Chart.bareAlike_resolveCell ..))).of_chart rfl
    · simp only [decides, Bool.false_eq_true, ↓reduceIte]
      exact edited.of_chart rfl

/-- Every request gives and removes the identifiers that are entered for it. -/
theorem perform {display : Display α} (identified : display.chart.Identified) (request : Request α) :
    Accounted display (display.perform request) (request.given display) (request.removed display) := by
  have same : Accounted display display [] [] := still rfl (fun _ => rfl)
  cases request with
  | insert feature => exact insert display feature
  | loadCell cell features => exact loadCell display cell features
  | erase id => exact erase identified id
  | eraseCell cell => exact eraseCell identified cell
  | resolveLinks => exact relinked (Chart.bareAlike_resolveCells ..)
  | setAttribute id name value => exact setAttribute display id name value
  | setParameter parameter value => exact same.of_chart rfl
  | writeStore write => exact same.of_chart rfl
  | highlight id on => exact highlight display id on
  | setLibrary library => exact same.of_chart rfl
  | commands id variant => exact (keptByAsking ..).commands display id variant same
  | priority id variant => exact (keptByAsking ..).priority display id variant same
  | labels id variant => exact (keptByAsking ..).labels display id variant same
  | describe id variant => exact (keptByAsking display [] []).describe same id variant
  | isSuppressed id => exact (keptByAsking display [] []).isSuppressed same id
  | finalizeAll => exact (keptByAsking display [] []).finalizeAll same

theorem run {display : Display α} (aligned : display.Aligned) (requests : List (Request α)) :
    Accounted display (display.run requests) (display.idsGiven requests)
      (display.idsRemoved requests) := by
  induction requests generalizing display with
  | nil => exact still rfl (fun _ => rfl)
  | cons request rest ih =>
    exact (perform aligned.identified request).trans (ih (aligned.perform request))

end Accounted

/-- On an aligned display a request for commands answers that a feature is unknown for features that are not
on the chart, and for no others. -/
theorem Aligned.commands_unknown_iff [Quantity α] {display : Display α} (aligned : display.Aligned)
    (id : Nat) (variant : Variant) (other : Nat) :
    (display.commands id variant).2 = .error (.unknownFeature other) ↔
      other = id ∧ display.feature? id = none :=
  (guarded_commands aligned variant).unknown other

end Display

end ChartPortrayal
