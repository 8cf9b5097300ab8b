import ChartPortrayal.Proofs.Chart.Assignment

/-! Settled cells: every role that resolution decides on holds the link that it decides on. Resolving a cell
settles it and unsettles no other, and resolving settled cells changes nothing. So the links do not depend on
the order in which cells are resolved, nor on how often. -/

namespace ChartPortrayal

variable {α : Type}

namespace Chart

/-- The feature with an identifier, where it belongs to a cell. -/
def findIn? (chart : Chart α) (cell id : Nat) : Option (Feature α) :=
  (chart.find? id).filter (fun feature => feature.cell = cell)

theorem findIn?_eq_some {chart : Chart α} {cell id : Nat} {feature : Feature α} :
    chart.findIn? cell id = some feature ↔ chart.find? id = some feature ∧ feature.cell = cell := by
  rw [findIn?, Option.filter_eq_some_iff, decide_eq_true_eq]

/-- The features of a cell depend on no feature of another cell. -/
theorem cellFeatures_congr {first second : Chart α} {cell : Nat}
    (same : ∀ id, first.findIn? cell id = second.findIn? cell id) :
    first.cellFeatures cell = second.cellFeatures cell := by
  have filtered : ∀ chart : Chart α, chart.cellFeatures cell =
      (chart.features.entries.filter (fun entry => entry.2.cell == cell)).map (·.2) := by
    intro chart
    rw [cellFeatures, list, SortedMap.values, List.filter_map]
    rfl
  have present : ∀ (chart : Chart α) (entry : Nat × Feature α),
      entry ∈ chart.features.entries.filter (fun entry => entry.2.cell == cell) ↔
        chart.findIn? cell entry.1 = some entry.2 := by
    intro chart entry
    rw [List.mem_filter, SortedMap.mem_entries_iff, findIn?_eq_some, beq_iff_eq, find?]
  rw [filtered, filtered]
  congr 1
  exact SortedMap.entries_eq_of_mem_iff (first.features.ascending.filter _)
    (second.features.ascending.filter _) (fun entry => by rw [present, present, same])

theorem findIn?_insert {chart : Chart α} (identified : chart.Identified) {feature : Feature α}
    {cell : Nat} (elsewhere : feature.cell ≠ cell) (id : Nat) :
    (chart.insert feature).findIn? cell id = chart.findIn? cell id := by
  rw [findIn?, find?_insert, findIn?]
  split
  · next new =>
    rw [new, find?_nextId identified]
    exact Option.filter_some_neg (by simpa using elsewhere)
  · rfl

theorem findIn?_adjust {chart : Chart α} {id cell : Nat} {change : Feature α → Feature α}
    (stays : ∀ feature, (change feature).cell = feature.cell)
    (elsewhere : ∀ feature, chart.find? id = some feature → feature.cell ≠ cell) (other : Nat) :
    (chart.adjust id change).findIn? cell other = chart.findIn? cell other := by
  rw [findIn?, find?_adjust, findIn?]
  split
  · next same =>
    subst same
    cases found : chart.find? other with
    | none => rfl
    | some feature =>
      have away := elsewhere feature found
      rw [Option.map_some, Option.filter_some_neg (by simpa [stays] using away),
        Option.filter_some_neg (by simpa using away)]
  · rfl

/-- The features of a cell after one feature of the chart was changed within its cell. -/
theorem cellFeatures_adjust {chart : Chart α} (identified : chart.Identified) (id cell : Nat)
    {change : Feature α → Feature α} (stays : ∀ feature, (change feature).cell = feature.cell) :
    (chart.adjust id change).cellFeatures cell =
      (chart.cellFeatures cell).map (fun feature => if feature.id = id then change feature else feature) := by
  have changed : (chart.adjust id change).list =
      chart.list.map (fun feature => if feature.id = id then change feature else feature) := by
    simp only [list, adjust, SortedMap.values, SortedMap.adjust, SortedMap.mapValues, List.map_map]
    refine List.map_congr_left (fun entry member => ?_)
    have own := identified.own entry.1 entry.2 ((chart.features.mem_entries_iff _ _).mp member)
    simp only [Function.comp_apply, SortKey.order_eq_iff, own, eq_comm (a := id)]
  rw [cellFeatures, changed, List.filter_map, cellFeatures]
  congr 2
  funext feature
  simp only [Function.comp_apply]
  split <;> simp only [stays]

end Chart

namespace Linking

theorem Unseen.only {change : Feature α → Feature α} (unseen : Unseen change) (id : Nat) :
    Unseen (fun feature => if feature.id = id then change feature else feature) := by
  constructor <;> intro feature
  case id => split <;> simp only [unseen.id]
  case geometry => split <;> simp only [unseen.geometry]
  case className => split <;> simp only [unseen.className]
  case extent => split <;> simp only [unseen.extent]
  case attributes =>
    intro name deciding
    split
    · exact unseen.attributes feature name deciding
    · rfl

/-- Attributes that do not decide links may be written unseen. -/
theorem unseen_setAttribute {name : String} (idle : name ∉ linkAttributes) (value : String) :
    Unseen (fun feature : Feature α => feature.setAttribute name value) := by
  refine ⟨fun _ => rfl, fun _ => rfl, fun _ => rfl, fun _ => rfl, fun feature other deciding => ?_⟩
  have apart : other ≠ name := fun same => idle (same ▸ deciding)
  simp only [Feature.attribute?, Feature.setAttribute, SortedMap.find?_insert, SortKey.order_eq_iff,
    apart, ↓reduceIte]

theorem unseen_highlight (on : Bool) :
    Unseen (fun feature : Feature α => { feature with highlighted := on }) :=
  ⟨fun _ => rfl, fun _ => rfl, fun _ => rfl, fun _ => rfl, fun _ _ _ => rfl⟩

end Linking

variable [Quantity α]

namespace Chart

/-- The features of a cell have the links that resolution decides on. -/
def SettledIn (chart : Chart α) (cell : Nat) : Prop :=
  ∀ id feature, chart.findIn? cell id = some feature →
    ∀ role target, chart.decided? feature role = some target → feature.link? role = target

def Settled (chart : Chart α) : Prop := ∀ cell, chart.SettledIn cell

theorem settled_empty : (empty : Chart α).Settled := by
  intro cell id feature found
  cases found

/-- Whether a cell is settled depends on no feature of another cell. -/
theorem SettledIn.congr {before after : Chart α} {cell : Nat} (settled : before.SettledIn cell)
    (same : ∀ id, after.findIn? cell id = before.findIn? cell id) : after.SettledIn cell := by
  intro id feature found role target decision
  have own := (findIn?_eq_some.mp found).2
  rw [decided?, own, cellFeatures_congr same] at decision
  refine settled id feature ((same id).symm.trans found) role target ?_
  rwa [decided?, own]

/-- Features that come into one cell leave the others settled. -/
theorem SettledIn.insertAll {chart : Chart α} {cell : Nat} (settled : chart.SettledIn cell)
    (identified : chart.Identified) {features : List (Feature α)}
    (elsewhere : ∀ feature ∈ features, feature.cell ≠ cell) :
    (features.foldl Chart.insert chart).SettledIn cell := by
  induction features generalizing chart with
  | nil => exact settled
  | cons feature rest ih =>
    obtain ⟨here, later⟩ := List.forall_mem_cons.mp elsewhere
    exact ih (settled.congr (findIn?_insert identified here)) (identified.insert feature) later

/-- A change that resolution does not see, and that keeps links, leaves all cells settled. -/
theorem Settled.adjust {chart : Chart α} (settled : chart.Settled) (identified : chart.Identified)
    (id : Nat) {change : Feature α → Feature α} (unseen : Linking.Unseen change)
    (stays : ∀ feature, (change feature).cell = feature.cell)
    (links : ∀ feature, (change feature).links = feature.links) :
    (chart.adjust id change).Settled := by
  intro cell other later found role target decision
  obtain ⟨there, rfl⟩ := findIn?_eq_some.mp found
  obtain ⟨feature, stood, rfl⟩ : ∃ feature, chart.find? other = some feature ∧
      (if feature.id = id then change feature else feature) = later := by
    rw [find?_adjust] at there
    split at there
    · next same =>
      obtain ⟨feature, stood, rfl⟩ := Option.map_eq_some_iff.mp there
      exact ⟨feature, stood, if_pos ((identified.own other feature stood).trans same)⟩
    · next apart =>
      exact ⟨later, there, if_neg (fun same => apart ((identified.own other later there).symm.trans same))⟩
  have cells : (if feature.id = id then change feature else feature).cell = feature.cell := by
    split <;> simp only [stays]
  have kept : (if feature.id = id then change feature else feature).link? role = feature.link? role := by
    split <;> simp only [Feature.link?, links]
  rw [decided?, cells, cellFeatures_adjust identified id feature.cell stays,
    (unseen.only id).isConsumer feature, (unseen.only id).links_map] at decision
  rw [kept]
  exact settled feature.cell other feature (findIn?_eq_some.mpr ⟨stood, rfl⟩) role target decision

/-- Resolving a settled cell changes nothing. -/
theorem SettledIn.resolveCell_self {chart : Chart α} {cell : Nat} (settled : chart.SettledIn cell)
    (identified : chart.Identified) : (chart.resolveCell cell).1 = chart := by
  rw [resolveCell_fst]
  refine assign_self (fun assignment member => ?_)
  obtain ⟨feature, found, own, decision⟩ := (mem_assignments identified cell assignment).mp member
  exact ⟨feature, found, settled _ feature (findIn?_eq_some.mpr ⟨found, own⟩) _ _ decision⟩

theorem resolveCells_self {chart : Chart α} (identified : chart.Identified) {cells : List Nat}
    (settled : ∀ cell ∈ cells, chart.SettledIn cell) : (chart.resolveCells cells).1 = chart := by
  induction cells with
  | nil => rfl
  | cons cell rest ih =>
    obtain ⟨here, later⟩ := List.forall_mem_cons.mp settled
    rw [resolveCells_cons_fst, here.resolveCell_self identified, ih later]

/-- Resolving settles the cells that it resolves, and leaves settled what was. -/
theorem settledIn_resolveCells {chart : Chart α} (identified : chart.Identified) (cells : List Nat)
    {cell : Nat} (settled : cell ∈ cells ∨ chart.SettledIn cell) :
    (chart.resolveCells cells).1.SettledIn cell := by
  intro id stored kept role target decision
  obtain ⟨there, own⟩ := findIn?_eq_some.mp kept
  have alike := bareAlike_resolveCells chart cells
  obtain ⟨feature, found, same⟩ := alike.symm.find? there
  have near : feature.cell = cell := by rw [← Feature.cell_bare, same, Feature.cell_bare, own]
  rw [← alike.symm.decided? same] at decision
  rw [link?_resolveCells identified cells found there role, near, decision, Option.getD_some]
  split
  · rfl
  · next skipped =>
    exact (settled.resolve_left skipped) id feature (findIn?_eq_some.mpr ⟨found, near⟩) role target decision

theorem settledIn_resolveCell {chart : Chart α} (identified : chart.Identified) {resolved cell : Nat}
    (settled : cell = resolved ∨ chart.SettledIn cell) :
    (chart.resolveCell resolved).1.SettledIn cell :=
  settledIn_resolveCells identified [resolved] (settled.imp_left List.mem_singleton.mpr)

theorem settled_resolveAll {chart : Chart α} (identified : chart.Identified) :
    chart.resolveAll.1.Settled := by
  intro cell
  refine settledIn_resolveCells identified chart.cells ?_
  by_cases occupied : cell ∈ chart.cells
  · exact .inl occupied
  · refine .inr (fun id feature found => ?_)
    obtain ⟨there, own⟩ := findIn?_eq_some.mp found
    exact absurd ((mem_cells chart cell).mpr ⟨id, feature, there, own⟩) occupied

/-- What is assigned in a cell depends on no link. -/
theorem BareAlike.assignments {first second : Chart α} (alike : first.BareAlike second) (cell : Nat) :
    Linking.assignments first cell = Linking.assignments second cell := by
  have bared : ∀ chart : Chart α, Linking.assignments chart cell =
      ((((chart.cellFeatures cell).map Feature.bare).filter (·.isConsumer)).flatMap (fun consumer =>
        (Linking.links ((chart.cellFeatures cell).map Feature.bare) consumer).map
          (fun link => ⟨consumer.id, link.1, link.2⟩))) := by
    intro chart
    rw [Linking.assignments, List.filter_map, List.flatMap_map]
    simp only [Linking.links_bare]
    rfl
  rw [bared, bared, alike.cellFeatures]

/-- Each cell is counted as if it were resolved first. -/
theorem resolveCells_snd (chart : Chart α) (cells : List Nat) :
    (chart.resolveCells cells).2 =
      (cells.map (fun cell => Linking.attached (Linking.assignments chart cell))).foldr (· + ·) 0 := by
  induction cells generalizing chart with
  | nil => rfl
  | cons cell rest ih =>
    have counted : (chart.resolveCells (cell :: rest)).2 =
        Linking.attached (Linking.assignments chart cell) +
          ((chart.resolveCell cell).1.resolveCells rest).2 := rfl
    rw [counted, ih, List.map_cons, List.foldr_cons]
    simp only [(bareAlike_resolveCell chart cell).assignments]

/-- Resolving all cells once more changes nothing, and counts the same links. -/
theorem resolveAll_resolveAll_self {chart : Chart α} (identified : chart.Identified) :
    chart.resolveAll.1.resolveAll = chart.resolveAll := by
  have alike : chart.resolveAll.1.BareAlike chart := bareAlike_resolveCells chart chart.cells
  refine Prod.ext ?_ ?_
  · exact resolveCells_self (alike.identified identified)
      (fun cell _ => settled_resolveAll identified cell)
  · change (chart.resolveAll.1.resolveCells chart.resolveAll.1.cells).2 = (chart.resolveCells chart.cells).2
    rw [resolveCells_snd, resolveCells_snd, alike.cells]
    simp only [alike.assignments]

/-- Whatever the order in which the cells of a chart are resolved, and how often, the features come out with
the same links. -/
theorem features_resolveCells {chart : Chart α} (identified : chart.Identified) {cells : List Nat}
    (all : ∀ cell ∈ chart.cells, cell ∈ cells) :
    (chart.resolveCells cells).1.features = chart.resolveAll.1.features := by
  have alike := bareAlike_resolveCells chart cells
  have standard : chart.resolveAll.1.BareAlike chart := bareAlike_resolveCells chart chart.cells
  refine SortedMap.ext_find? (fun id => ?_)
  change (chart.resolveCells cells).1.find? id = chart.resolveAll.1.find? id
  cases found : chart.find? id with
  | none =>
    have missing := alike.features id
    have absent := standard.features id
    rw [found, Option.map_none, Option.map_eq_none_iff] at missing absent
    rw [missing, absent]
  | some feature =>
    obtain ⟨stored, kept, same⟩ := alike.find? found
    obtain ⟨other, there, likewise⟩ := standard.find? found
    have near := all _ ((mem_cells chart feature.cell).mpr ⟨id, feature, found, rfl⟩)
    have links : stored.links = other.links := by
      refine SortedMap.ext_find? (fun role => ?_)
      have link := link?_resolveCells identified cells found kept role
      rw [if_pos near, ← link?_resolveAll identified found there role] at link
      exact link
    have equal := Feature.eq_of_bare (same.trans likewise.symm)
    rw [links] at equal
    rw [kept, there, equal]

/-- A role that resolution decides on leads to another feature of the cell, if it leads anywhere. -/
theorem decided?_apart {chart : Chart α} (identified : chart.Identified) {id : Nat} {feature : Feature α}
    (found : chart.find? id = some feature) {role : LinkRole} {target : Nat}
    (decision : chart.decided? feature role = some (some target)) :
    target ≠ id ∧ ∃ neighbour, chart.find? target = some neighbour ∧ neighbour.cell = feature.cell := by
  rw [decided?] at decision
  split at decision
  · next consumes =>
    rw [← Linking.mem_links_iff] at decision
    obtain ⟨neighbour, near, rfl, other⟩ := Linking.exists_neighbour consumes decision
    obtain ⟨there, own⟩ := (identified.mem_cellFeatures _ neighbour).mp near
    refine ⟨fun same => ?_, neighbour, there, own⟩
    rw [same, found] at there
    cases there
    rcases other with apart | apart <;> exact apart rfl
  · cases decision

end Chart

end ChartPortrayal
