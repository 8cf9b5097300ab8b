import ChartPortrayal.Proofs.Chart.Resolution

namespace ChartPortrayal

variable {α : Type}

namespace Chart

/-- Sets links one after another. -/
def assign (chart : Chart α) (assignments : List Linking.Assignment) : Chart α :=
  assignments.foldl
    (fun current assignment => current.setLink assignment.consumer assignment.role assignment.target)
    chart

theorem assign_cons (chart : Chart α) (assignment : Linking.Assignment)
    (rest : List Linking.Assignment) :
    chart.assign (assignment :: rest) =
      (chart.setLink assignment.consumer assignment.role assignment.target).assign rest := rfl

theorem bareAlike_assign (chart : Chart α) (assignments : List Linking.Assignment) :
    (chart.assign assignments).BareAlike chart := by
  induction assignments generalizing chart with
  | nil => exact .refl chart
  | cons assignment rest ih =>
    rw [assign_cons]
    exact (ih _).trans (bareAlike_setLink chart _ _ _)

theorem tracks_assign (chart : Chart α) (assignments : List Linking.Assignment) :
    (chart.assign assignments).Tracks chart := by
  induction assignments generalizing chart with
  | nil => exact .refl chart
  | cons assignment rest ih =>
    rw [assign_cons]
    exact (ih _).trans (tracks_setLink chart _ _ _)

/-- Where all that is assigned to a role of a feature is one target, the role holds it in the end; where
nothing is, it holds what it held. -/
theorem link?_assign {chart : Chart α} {assignments : List Linking.Assignment} {id : Nat}
    {role : LinkRole} {target : Option Nat} {feature stored : Feature α}
    (found : chart.find? id = some feature)
    (kept : (chart.assign assignments).find? id = some stored)
    (agreed : ∀ assignment ∈ assignments, assignment.consumer = id → assignment.role = role →
      assignment.target = target) :
    stored.link? role =
      if ∃ assignment ∈ assignments, assignment.consumer = id ∧ assignment.role = role then target
      else feature.link? role := by
  induction assignments generalizing chart feature with
  | nil =>
    rw [assign, List.foldl_nil, found] at kept
    cases kept
    simp
  | cons assignment rest ih =>
    obtain ⟨here, later⟩ := List.forall_mem_cons.mp agreed
    have next := find?_setLink chart assignment.consumer id assignment.role assignment.target
    by_cases own : id = assignment.consumer
    · rw [if_pos own, found, Option.map_some] at next
      rw [ih next kept later, link?_relink]
      by_cases same : role = assignment.role
      · have set := here own.symm same.symm
        simp [own, same, set]
      · have other : assignment.role ≠ role := fun back => same back.symm
        simp [same, other]
    · rw [if_neg own, found] at next
      have other : assignment.consumer ≠ id := fun back => own back.symm
      rw [ih next kept later]
      simp [other]

/-- Setting links that are held already leaves the chart as it is. -/
theorem assign_self {chart : Chart α} {assignments : List Linking.Assignment}
    (held : ∀ assignment ∈ assignments, ∃ feature, chart.find? assignment.consumer = some feature ∧
      feature.link? assignment.role = assignment.target) :
    chart.assign assignments = chart := by
  induction assignments with
  | nil => rfl
  | cons assignment rest ih =>
    obtain ⟨⟨feature, found, link⟩, later⟩ := List.forall_mem_cons.mp held
    rw [assign_cons, ← link, setLink_self found, ih later]

/-- Every link leads to an identifier that has been given. -/
def LinksGiven (chart : Chart α) : Prop :=
  ∀ id feature, chart.find? id = some feature → ∀ role target, feature.link? role = some target →
    target ≤ chart.lastId

theorem LinksGiven.keeps {after before : Chart α} (given : before.LinksGiven)
    (keeps : after.Keeps before) : after.LinksGiven := by
  intro id later found role target linked
  obtain ⟨feature, stood, -, links⟩ := keeps.features id later found
  rw [Feature.link?, links] at linked
  exact Nat.le_trans (given id feature stood role target linked) keeps.lastId

theorem LinksGiven.insert {chart : Chart α} (given : chart.LinksGiven) {feature : Feature α}
    (unlinked : feature.links = .empty) : (chart.insert feature).LinksGiven := by
  intro id stored found role target linked
  rw [find?_insert] at found
  split at found
  · cases found
    rw [Feature.link?, unlinked, SortedMap.find?_empty] at linked
    cases linked
  · exact Nat.le_succ_of_le (given id stored found role target linked)

theorem LinksGiven.setLink {chart : Chart α} (given : chart.LinksGiven) {id : Nat} {role : LinkRole}
    {target : Option Nat} (bounded : ∀ other, target = some other → other ≤ chart.lastId) :
    (chart.setLink id role target).LinksGiven := by
  intro other stored found otherRole otherTarget linked
  rw [(bareAlike_setLink chart id role target).lastId]
  rw [find?_setLink] at found
  split at found
  · obtain ⟨feature, present, rfl⟩ := Option.map_eq_some_iff.mp found
    rw [link?_relink] at linked
    split at linked
    · exact bounded _ linked
    · exact given other feature present _ _ linked
  · exact given other stored found _ _ linked

theorem LinksGiven.assign {chart : Chart α} (given : chart.LinksGiven)
    {assignments : List Linking.Assignment}
    (bounded : ∀ assignment ∈ assignments, ∀ target, assignment.target = some target →
      target ≤ chart.lastId) :
    (chart.assign assignments).LinksGiven := by
  induction assignments generalizing chart with
  | nil => exact given
  | cons assignment rest ih =>
    obtain ⟨here, later⟩ := List.forall_mem_cons.mp bounded
    rw [assign_cons]
    refine ih (given.setLink here) ?_
    rwa [(bareAlike_setLink chart _ _ _).lastId]

end Chart

variable [Quantity α]

namespace Linking

theorem links_roles_nodup (neighbours : List (Feature α)) (consumer : Feature α) :
    ((links neighbours consumer).map (·.1)).Nodup := by
  unfold links
  split
  · simp
  · split
    · simp
    · split <;> simp

theorem mem_links_iff (neighbours : List (Feature α)) (consumer : Feature α) (role : LinkRole)
    (target : Option Nat) :
    (role, target) ∈ links neighbours consumer ↔
      (links neighbours consumer).lookup role = some target := by
  have distinct := links_roles_nodup neighbours consumer
  generalize links neighbours consumer = list at distinct
  induction list with
  | nil => simp
  | cons link rest ih =>
    obtain ⟨other, old⟩ := link
    obtain ⟨absent, remaining⟩ := List.nodup_cons.mp distinct
    by_cases same : role = other
    · subst same
      have gone : (role, target) ∉ rest := fun member =>
        absent (List.mem_map.mpr ⟨_, member, rfl⟩)
      simp [gone, eq_comm]
    · have apart : (role == other) = false := beq_false_of_ne same
      simp only [List.mem_cons, Prod.mk.injEq, same, false_and, false_or, List.lookup_cons, apart]
      exact ih remaining

section Neighbours

variable {neighbours : List (Feature α)} {consumer : Feature α} {target : Nat}

theorem exists_platform (taken : platform? neighbours consumer = some target) :
    ∃ neighbour ∈ neighbours, neighbour.id = target ∧ neighbour.isFloatingPlatform = true := by
  obtain ⟨neighbour, found, same⟩ := Option.map_eq_some_iff.mp taken
  have near := List.find?_some found
  simp only [Bool.and_eq_true] at near
  exact ⟨neighbour, List.mem_of_find?_eq_some found, same, near.1⟩

theorem exists_coLocatedLight (taken : coLocatedLight? neighbours consumer = some target) :
    ∃ neighbour ∈ neighbours, neighbour.id = target ∧ neighbour.id ≠ consumer.id := by
  unfold coLocatedLight? at taken
  split at taken
  · obtain ⟨neighbour, found, same⟩ := Option.map_eq_some_iff.mp taken
    have near := List.find?_some found
    simp only [Bool.and_eq_true, bne_iff_ne] at near
    exact ⟨neighbour, List.mem_of_find?_eq_some found, same, near.1.2⟩
  · cases taken

theorem exists_leastDepthArea (taken : leastDepthArea? neighbours consumer = some target) :
    ∃ neighbour ∈ neighbours, neighbour.id = target ∧ neighbour.isDepthArea = true := by
  rw [leastDepthArea?_eq] at taken
  obtain ⟨⟨leader, depth⟩, found, same⟩ := Option.map_eq_some_iff.mp taken
  obtain none | ⟨member, ranked⟩ := firstBest_ranked found
  · contradiction
  · obtain ⟨area, -⟩ := Option.ite_none_right_eq_some.mp ranked
    simp only [Bool.and_eq_true] at area
    exact ⟨leader, member, same, area.1⟩

theorem exists_underlyingDepthArea (taken : underlyingDepthArea? neighbours consumer = some target) :
    ∃ neighbour ∈ neighbours, neighbour.id = target ∧ neighbour.id ≠ consumer.id := by
  rw [underlyingDepthArea?_eq] at taken
  obtain ⟨contour, -, best⟩ := Option.bind_eq_some_iff.mp taken
  obtain ⟨⟨leader, depth⟩, found, same⟩ := Option.map_eq_some_iff.mp best
  obtain none | ⟨member, ranked⟩ := firstBest_ranked found
  · contradiction
  · obtain ⟨area, -⟩ := Option.ite_none_right_eq_some.mp ranked
    simp only [Bool.and_eq_true, bne_iff_ne] at area
    exact ⟨leader, member, same, area.1.2⟩

/-- The links of a consumer lead to neighbours, and to others than itself: what is linked by its kind is of
a class that has no links of that kind. -/
theorem exists_neighbour {role : LinkRole} (consumes : consumer.isConsumer = true)
    (linked : (role, some target) ∈ links neighbours consumer) :
    ∃ neighbour ∈ neighbours, neighbour.id = target ∧
      (neighbour.id ≠ consumer.id ∨ neighbour.className ≠ consumer.className) := by
  have platform : consumer.className = "LIGHTS" ∨ consumer.className = "TOPMAR" →
      platform? neighbours consumer = some target → ∃ neighbour ∈ neighbours, neighbour.id = target ∧
        (neighbour.id ≠ consumer.id ∨ neighbour.className ≠ consumer.className) := by
    intro rigid taken
    obtain ⟨neighbour, member, same, floats⟩ := exists_platform taken
    refine ⟨neighbour, member, same, .inr (fun likewise => ?_)⟩
    rw [Feature.isFloatingPlatform, likewise] at floats
    rcases rigid with kind | kind <;> rw [kind] at floats <;> revert floats <;> decide
  have least : consumer.className ≠ "DEPARE" → leastDepthArea? neighbours consumer = some target →
      ∃ neighbour ∈ neighbours, neighbour.id = target ∧
        (neighbour.id ≠ consumer.id ∨ neighbour.className ≠ consumer.className) := by
    intro other taken
    obtain ⟨neighbour, member, same, area⟩ := exists_leastDepthArea taken
    refine ⟨neighbour, member, same, .inr (fun likewise => ?_)⟩
    have dredged : consumer.className = "DRGARE" := by
      simpa [Feature.isDepthArea, likewise, depthAreaClasses, other] using (Bool.and_eq_true_iff.mp area).1
    revert consumes
    simp [Feature.isConsumer, dredged, hazardClasses]
  unfold links at linked
  split at linked
  · next rigid =>
    simp only [List.mem_cons, Prod.mk.injEq, List.not_mem_nil, or_false] at linked
    rcases linked with ⟨-, taken⟩ | ⟨-, taken⟩
    · exact platform (.inl rigid) taken.symm
    · obtain ⟨neighbour, member, same, other⟩ := exists_coLocatedLight taken.symm
      exact ⟨neighbour, member, same, .inl other⟩
  · split at linked
    · next rigid =>
      simp only [List.mem_singleton, Prod.mk.injEq] at linked
      exact platform (.inr rigid) linked.2.symm
    · split at linked <;> simp only [List.mem_singleton, Prod.mk.injEq] at linked
      · obtain ⟨neighbour, member, same, other⟩ := exists_underlyingDepthArea linked.2.symm
        exact ⟨neighbour, member, same, .inl other⟩
      · next other => exact least (fun kind => other (.inr kind)) linked.2.symm

end Neighbours

end Linking

namespace Chart

/-- The link that resolution decides on for a role of a feature, where it decides on one. -/
def decided? (chart : Chart α) (feature : Feature α) (role : LinkRole) : Option (Option Nat) :=
  if feature.isConsumer then
    (Linking.links (chart.cellFeatures feature.cell) feature).lookup role
  else none

/-- Decisions depend on no link. -/
theorem BareAlike.decided? {first second : Chart α} (alike : first.BareAlike second)
    {feature other : Feature α} (same : feature.bare = other.bare) (role : LinkRole) :
    first.decided? feature role = second.decided? other role := by
  have bared : ∀ (chart : Chart α) (feature : Feature α), chart.decided? feature role =
      if feature.bare.isConsumer then
        (Linking.links ((chart.cellFeatures feature.bare.cell).map Feature.bare) feature.bare).lookup role
      else none := by
    intro chart feature
    rw [Linking.links_bare]
    rfl
  rw [bared, bared, same, alike.cellFeatures]

theorem mem_assignments {chart : Chart α} (identified : chart.Identified) (cell : Nat)
    (assignment : Linking.Assignment) :
    assignment ∈ Linking.assignments chart cell ↔
      ∃ feature, chart.find? assignment.consumer = some feature ∧ feature.cell = cell ∧
        chart.decided? feature assignment.role = some assignment.target := by
  rw [Linking.assignments, List.mem_flatMap]
  constructor
  · rintro ⟨feature, member, made⟩
    obtain ⟨near, consumer⟩ := List.mem_filter.mp member
    obtain ⟨found, rfl⟩ := (identified.mem_cellFeatures cell feature).mp near
    obtain ⟨⟨role, target⟩, link, rfl⟩ := List.mem_map.mp made
    refine ⟨feature, found, rfl, ?_⟩
    rw [decided?, if_pos consumer]
    exact (Linking.mem_links_iff _ _ _ _).mp link
  · rintro ⟨feature, found, rfl, decision⟩
    have own := identified.own _ _ found
    rw [decided?] at decision
    split at decision
    · next consumer =>
      refine ⟨feature, List.mem_filter.mpr ⟨?_, consumer⟩, List.mem_map.mpr ?_⟩
      · rw [identified.mem_cellFeatures, own]
        exact ⟨found, rfl⟩
      · refine ⟨(assignment.role, assignment.target), ?_, ?_⟩
        · exact (Linking.mem_links_iff _ _ _ _).mpr decision
        · rw [own]
    · cases decision

theorem resolveCell_fst (chart : Chart α) (cell : Nat) :
    (chart.resolveCell cell).1 = chart.assign (Linking.assignments chart cell) := rfl

theorem bareAlike_resolveCell (chart : Chart α) (cell : Nat) :
    (chart.resolveCell cell).1.BareAlike chart := bareAlike_assign chart _

theorem tracks_resolveCell (chart : Chart α) (cell : Nat) :
    (chart.resolveCell cell).1.Tracks chart := tracks_assign chart _

theorem LinksGiven.resolveCell {chart : Chart α} (given : chart.LinksGiven)
    (identified : chart.Identified) (cell : Nat) : (chart.resolveCell cell).1.LinksGiven := by
  rw [resolveCell_fst]
  refine given.assign (fun assignment member target leads => ?_)
  obtain ⟨feature, -, rfl, decision⟩ := (mem_assignments identified cell assignment).mp member
  rw [decided?] at decision
  split at decision
  · next consumes =>
    rw [leads, ← Linking.mem_links_iff] at decision
    obtain ⟨neighbour, near, rfl, -⟩ := Linking.exists_neighbour consumes decision
    exact identified.given _ _ ((identified.mem_cellFeatures _ _).mp near).1
  · cases decision

/-- After its cell was resolved a feature has the links that were decided on; other roles, and features of
other cells, keep theirs. -/
theorem link?_resolveCell {chart : Chart α} (identified : chart.Identified) (cell : Nat) {id : Nat}
    {feature stored : Feature α} (found : chart.find? id = some feature)
    (kept : (chart.resolveCell cell).1.find? id = some stored) (role : LinkRole) :
    stored.link? role =
      if feature.cell = cell then (chart.decided? feature role).getD (feature.link? role)
      else feature.link? role := by
  have agreed : ∀ assignment ∈ Linking.assignments chart cell,
      assignment.consumer = id → assignment.role = role → feature.cell = cell ∧
        chart.decided? feature role = some assignment.target := by
    rintro ⟨_, _, target⟩ member rfl rfl
    obtain ⟨consumer, present, cell, decision⟩ := (mem_assignments identified cell _).mp member
    rw [found] at present
    cases present
    exact ⟨cell, decision⟩
  rw [resolveCell_fst] at kept
  by_cases here : feature.cell = cell ∧ (chart.decided? feature role).isSome
  · obtain ⟨own, decides⟩ := here
    obtain ⟨target, decision⟩ := Option.isSome_iff_exists.mp decides
    have set : ∃ assignment ∈ Linking.assignments chart cell,
        assignment.consumer = id ∧ assignment.role = role :=
      ⟨⟨id, role, target⟩, (mem_assignments identified cell _).mpr ⟨feature, found, own, decision⟩,
        rfl, rfl⟩
    have whole := link?_assign found kept (fun assignment member consumer same =>
      Option.some.inj ((agreed assignment member consumer same).2.symm.trans decision))
    rw [whole, if_pos set, if_pos own, decision, Option.getD_some]
  · have free : ¬ ∃ assignment ∈ Linking.assignments chart cell,
        assignment.consumer = id ∧ assignment.role = role := by
      rintro ⟨assignment, member, consumer, same⟩
      obtain ⟨own, decision⟩ := agreed assignment member consumer same
      exact here ⟨own, by simp [decision]⟩
    have vacuous : ∀ assignment ∈ Linking.assignments chart cell, assignment.consumer = id →
        assignment.role = role → assignment.target = none := fun assignment member consumer same =>
      (free ⟨assignment, member, consumer, same⟩).elim
    rw [link?_assign found kept vacuous, if_neg free]
    split
    · next own =>
      have silent : chart.decided? feature role = none := by
        cases decision : chart.decided? feature role with
        | none => rfl
        | some target => exact absurd ⟨own, by simp [decision]⟩ here
      rw [silent, Option.getD_none]
    · rfl

theorem resolveCells_cons_fst (chart : Chart α) (cell : Nat) (rest : List Nat) :
    (chart.resolveCells (cell :: rest)).1 = ((chart.resolveCell cell).1.resolveCells rest).1 := rfl

theorem bareAlike_resolveCells (chart : Chart α) (cells : List Nat) :
    (chart.resolveCells cells).1.BareAlike chart := by
  induction cells generalizing chart with
  | nil => exact .refl chart
  | cons cell rest ih => exact (ih _).trans (bareAlike_resolveCell chart cell)

theorem tracks_resolveCells (chart : Chart α) (cells : List Nat) :
    (chart.resolveCells cells).1.Tracks chart := by
  induction cells generalizing chart with
  | nil => exact .refl chart
  | cons cell rest ih => exact (ih _).trans (tracks_resolveCell chart cell)

theorem LinksGiven.resolveCells {chart : Chart α} (given : chart.LinksGiven)
    (identified : chart.Identified) (cells : List Nat) : (chart.resolveCells cells).1.LinksGiven := by
  induction cells generalizing chart with
  | nil => exact given
  | cons cell rest ih =>
    exact ih (given.resolveCell identified cell)
      ((bareAlike_resolveCell chart cell).identified identified)

/-- Resolving several cells sets the links that were decided on before the first: a decision is the same
whatever cells were resolved meanwhile. -/
theorem link?_resolveCells {chart : Chart α} (identified : chart.Identified) (cells : List Nat)
    {id : Nat} {feature stored : Feature α} (found : chart.find? id = some feature)
    (kept : (chart.resolveCells cells).1.find? id = some stored) (role : LinkRole) :
    stored.link? role =
      if feature.cell ∈ cells then (chart.decided? feature role).getD (feature.link? role)
      else feature.link? role := by
  induction cells generalizing chart feature with
  | nil =>
    rw [resolveCells, found] at kept
    cases kept
    rfl
  | cons cell rest ih =>
    have alike := bareAlike_resolveCell chart cell
    obtain ⟨middle, present, same⟩ := alike.find? found
    have step := link?_resolveCell identified cell found present role
    have cells : middle.cell = feature.cell := by rw [← Feature.cell_bare, same, Feature.cell_bare]
    rw [resolveCells_cons_fst] at kept
    rw [ih (alike.identified identified) present kept, alike.decided? same role, step, cells]
    by_cases here : feature.cell = cell
    · rw [if_pos here, if_pos (List.mem_cons.mpr (.inl here))]
      cases chart.decided? feature role <;> simp
    · simp [here]

/-- After all cells were resolved every feature has the links that are decided on. -/
theorem link?_resolveAll {chart : Chart α} (identified : chart.Identified) {id : Nat}
    {feature stored : Feature α} (found : chart.find? id = some feature)
    (kept : chart.resolveAll.1.find? id = some stored) (role : LinkRole) :
    stored.link? role = (chart.decided? feature role).getD (feature.link? role) := by
  have whole := link?_resolveCells identified chart.cells found kept role
  rwa [if_pos ((mem_cells chart feature.cell).mpr ⟨id, feature, found, rfl⟩)] at whole

end Chart

end ChartPortrayal
