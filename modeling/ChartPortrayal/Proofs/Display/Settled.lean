import ChartPortrayal.Proofs.Chart.Settled
import ChartPortrayal.Proofs.Display.Request

/-! Links of a display stay resolved. Loading cells and writing attributes sets the links anew wherever a
decision may have changed, and nothing else that leaves features in place changes one. -/

namespace ChartPortrayal.Display

variable {α : Type}

theorem chart_request {β : Type} (display : Display α) (id : Nat)
    (ask : Portrayal α → Portrayal α × Except PortrayalError β) :
    (display.request id ask).1.chart = display.chart := by
  unfold request
  split <;> rfl

theorem chart_insertAll (display : Display α) (features : List (Feature α)) :
    (display.insertAll features).chart = features.foldl Chart.insert display.chart := by
  unfold insertAll
  induction features generalizing display with
  | nil => rfl
  | cons feature rest ih => exact ih (display.insert feature)

variable [Quantity α]

/-- All links of the chart are what resolution decides on. -/
structure Resolved (display : Display α) : Prop where
  identified : display.chart.Identified
  settled : display.chart.Settled

theorem resolved_start (library : Library α) (store : SettingsStore α) (eagerFinalize : Bool) :
    (start library store eagerFinalize).Resolved := ⟨.empty, Chart.settled_empty⟩

namespace Resolved

variable {display : Display α}

theorem of_chart {other : Display α} (resolved : display.Resolved) (same : other.chart = display.chart) :
    other.Resolved := ⟨same ▸ resolved.identified, same ▸ resolved.settled⟩

theorem keptByAsking : KeptByAsking (Resolved : Display α → Prop) :=
  ⟨fun display id _ resolved => resolved.of_chart (display.chart_request id _),
    fun display id _ resolved => resolved.of_chart (display.chart_request id _),
    fun display id _ resolved => resolved.of_chart (display.chart_request id _)⟩

theorem resolveLinks (resolved : display.Resolved) : display.resolveLinks.1 = display := by
  have same : display.chart.resolveAll.1 = display.chart :=
    Chart.resolveCells_self resolved.identified (fun cell _ => resolved.settled cell)
  change { display with chart := display.chart.resolveAll.1 } = display
  rw [same]

theorem loadCell (resolved : display.Resolved) (cell : Nat) (features : List (Feature α)) :
    (display.loadCell cell features).1.Resolved := by
  refine keptByAsking.loadCell cell features ?_
  dsimp only
  rw [chart_insertAll]
  have identified := resolved.identified.insertAll
    (features.map (fun feature => { feature with cell := cell }))
  refine ⟨(Chart.bareAlike_resolveCell ..).identified identified, fun other => ?_⟩
  refine Chart.settledIn_resolveCell identified ?_
  by_cases same : other = cell
  · exact .inl same
  · refine .inr ((resolved.settled other).insertAll resolved.identified (fun feature member => ?_))
    obtain ⟨_, _, rfl⟩ := List.mem_map.mp member
    exact fun back => same back.symm

/-- An attribute that decides links decides those of its own cell alone, and these are set again. -/
theorem setAttribute (resolved : display.Resolved) (id : Nat) (name value : String) :
    (display.setAttribute id name value).1.Resolved := by
  unfold Display.setAttribute
  cases found : display.feature? id with
  | none => exact resolved
  | some feature =>
    have same : ∀ feature : Feature α, (feature.setAttribute name value).id = feature.id ∧
        (feature.setAttribute name value).links = feature.links := fun _ => ⟨rfl, rfl⟩
    have identified := resolved.identified.keeps (display.chart.keeps_adjust id same)
    by_cases decides : linkAttributes.contains name = true
    · simp only [decides, ↓reduceIte]
      refine ⟨(Chart.bareAlike_resolveCell ..).identified identified, fun cell => ?_⟩
      refine Chart.settledIn_resolveCell identified ?_
      by_cases here : cell = feature.cell
      · exact .inl here
      · refine .inr ((resolved.settled cell).congr (Chart.findIn?_adjust (fun _ => rfl) ?_))
        intro stored present same
        rw [show display.chart.find? id = some feature from found] at present
        cases present
        exact here same.symm
    · simp only [decides, Bool.false_eq_true, ↓reduceIte]
      have idle : name ∉ linkAttributes := fun member => decides (List.contains_iff_mem.mpr member)
      exact ⟨identified, resolved.settled.adjust resolved.identified id
        (Linking.unseen_setAttribute idle value) (fun _ => rfl) (fun _ => rfl)⟩

theorem highlight (resolved : display.Resolved) (id : Nat) (on : Bool) :
    (display.highlight id on).1.Resolved := by
  unfold Display.highlight
  cases display.feature? id with
  | none => exact resolved
  | some feature =>
    exact ⟨resolved.identified.keeps (display.chart.keeps_adjust id (fun _ => ⟨rfl, rfl⟩)),
      resolved.settled.adjust resolved.identified id (Linking.unseen_highlight on) (fun _ => rfl)
        (fun _ => rfl)⟩

end Resolved

/-- Requests that neither bring in a feature without its cell nor take one away. -/
def Settling : Request α → Prop
  | .insert _ => False
  | .erase _ => False
  | .eraseCell _ => False
  | _ => True

theorem Resolved.perform {display : Display α} (resolved : display.Resolved) {request : Request α}
    (settling : Settling request) : (display.perform request).Resolved := by
  cases request with
  | insert feature => exact settling.elim
  | loadCell cell features => exact resolved.loadCell cell features
  | erase id => exact settling.elim
  | eraseCell cell => exact settling.elim
  | resolveLinks => exact resolved.of_chart (congrArg Display.chart resolved.resolveLinks)
  | setAttribute id name value => exact resolved.setAttribute id name value
  | setParameter parameter value => exact resolved.of_chart rfl
  | writeStore write => exact resolved.of_chart rfl
  | highlight id on => exact resolved.highlight id on
  | setLibrary library => exact resolved.of_chart rfl
  | commands id variant => exact Resolved.keptByAsking.commands display id variant resolved
  | priority id variant => exact Resolved.keptByAsking.priority display id variant resolved
  | labels id variant => exact Resolved.keptByAsking.labels display id variant resolved
  | describe id variant => exact Resolved.keptByAsking.describe resolved id variant
  | isSuppressed id => exact Resolved.keptByAsking.isSuppressed resolved id
  | finalizeAll => exact Resolved.keptByAsking.finalizeAll resolved

/-- Links stay resolved: after a run of settling requests resolution finds nothing to change. And on any chart
resolving twice is resolving once, the links do not depend on the order of the cells, and a role either is
left alone or leads, if anywhere, to another feature of the same cell. -/
theorem links_stay_resolved :
    (∀ (library : Library α) (store : SettingsStore α) (eagerFinalize : Bool)
      (requests : List (Request α)), (∀ request ∈ requests, Settling request) →
        let display := (start library store eagerFinalize).run requests
        display.resolveLinks.1 = display) ∧
    ∀ chart : Chart α, chart.Identified →
      chart.resolveAll.1.resolveAll = chart.resolveAll ∧
      (∀ cells, (∀ cell ∈ chart.cells, cell ∈ cells) →
        (chart.resolveCells cells).1.features = chart.resolveAll.1.features) ∧
      ∀ id feature stored, chart.find? id = some feature → chart.resolveAll.1.find? id = some stored →
        ∀ role, chart.decided? feature role = none ∧ stored.link? role = feature.link? role ∨
          ∀ target, stored.link? role = some target → target ≠ id ∧
            ∃ neighbour, chart.find? target = some neighbour ∧ neighbour.cell = feature.cell := by
  constructor
  · intro library store eagerFinalize requests settling display
    have step : ∀ (display : Display α) (request : Request α), display.Resolved → Settling request →
        (display.perform request).Resolved := fun _ _ resolved settling => resolved.perform settling
    exact (run_induction step (resolved_start library store eagerFinalize) requests settling).resolveLinks
  · intro chart identified
    refine ⟨Chart.resolveAll_resolveAll_self identified,
      fun cells all => Chart.features_resolveCells identified all, ?_⟩
    intro id feature stored found kept role
    have link := Chart.link?_resolveAll identified found kept role
    cases decision : chart.decided? feature role with
    | none => exact .inl ⟨rfl, by rw [link, decision, Option.getD_none]⟩
    | some choice =>
      refine .inr (fun target leads => ?_)
      have chosen : chart.decided? feature role = some (some target) := by
        rw [decision, ← leads, link, decision, Option.getD_some]
      exact Chart.decided?_apart identified found chosen

/-- An obstruction is linked to the shallower of two areas, and to the other one when the first was written
deeper; both times resolution agrees. -/
theorem links_stay_resolved_obstruction :
    let area : String → Feature Rat := fun depth =>
      (Feature.plain "DEPARE" .area).setAttribute "DRVAL1" depth
    let load : Request Rat := .loadCell 3 [area "5", area "2", .plain "OBSTRN" .point]
    let requests := [load, .setAttribute 2 "DRVAL1" "9", .highlight 3 true, .commands 3 .primary]
    let loaded := (start .standard .standard false).perform load
    let display := (start .standard .standard false).run requests
    (∀ request ∈ requests, Settling request) ∧ loaded.chart.Identified ∧
      (loaded.chart.find? 3).bind (fun feature => feature.link? .leastDepthArea) = some 2 ∧
      (display.chart.find? 3).bind (fun feature => feature.link? .leastDepthArea) = some 1 ∧
      display.resolveLinks.1 = display ∧
      loaded.chart.resolveAll.1.resolveAll = loaded.chart.resolveAll := by
  intro area load requests loaded display
  have settling : ∀ request ∈ requests, Settling request := by
    simp [requests, load, Settling]
  have identified : loaded.chart.Identified :=
    ((resolved_start .standard .standard false).perform (settling load List.mem_cons_self)).identified
  exact ⟨settling, identified, by decide +kernel, by decide +kernel,
    links_stay_resolved.1 .standard .standard false requests settling,
    (links_stay_resolved.2 loaded.chart identified).1⟩

end ChartPortrayal.Display
