import ChartPortrayal.Proofs.Chart.Assignment
import ChartPortrayal.Proofs.Chart.Insertion
import ChartPortrayal.Proofs.Number.Order

/-! Depth areas without a depth. An area whose depths are no numbers is no candidate for any link. One whose
depth is the undefined number is a candidate that beats no other and is beaten by none, so it steers a link
where it comes before all other candidates, and nowhere else. -/

namespace ChartPortrayal

section FirstBest

variable {α β : Type} {better : β → β → Bool} {rank? : Feature α → Option β}

theorem firstBest_append (best : Option (Feature α × β)) (first second : List (Feature α)) :
    firstBest better rank? best (first ++ second) =
      firstBest better rank? (firstBest better rank? best first) second := by
  simp only [firstBest_eq_foldl, List.foldl_append]

/-- A rank that beats no other and is beaten by none. -/
structure Inert (better : β → β → Bool) (rank : β) : Prop where
  beats : ∀ other, better rank other = false
  unbeaten : ∀ other, better other rank = false

variable {feature : Feature α} {best : Option (Feature α × β)}

/-- A feature is passed over if it has no rank, or an inert one and another feature leads. -/
theorem firstBest_pass (inert : ∀ rank, rank? feature = some rank → Inert better rank)
    (passed : rank? feature = none ∨ best ≠ none) : firstBest better rank? best [feature] = best := by
  cases ranked : rank? feature with
  | none => simp only [firstBest, ranked]
  | some rank =>
    obtain ⟨leader, rfl⟩ := Option.ne_none_iff_exists'.mp (passed.resolve_left (by simp [ranked]))
    simp [firstBest, ranked, (inert rank ranked).beats]

theorem firstBest_start {rank : β} (ranked : rank? feature = some rank) :
    firstBest better rank? none [feature] = some (feature, rank) := by
  simp only [firstBest, ranked]

/-- Whoever leads with an inert rank is never displaced. -/
theorem firstBest_stuck {leader : Feature α × β} (inert : Inert better leader.2) (rest : List (Feature α)) :
    firstBest better rank? (some leader) rest = some leader := by
  rw [firstBest_eq_foldl]
  induction rest with
  | nil => rfl
  | cons feature rest ih =>
    have stays : contend better rank? (some leader) feature = some leader := by
      cases ranked : rank? feature with
      | none => simp only [contend, ranked]
      | some rank => simp [contend, ranked, inert.unbeaten]
    rw [List.foldl_cons, stays, ih]

end FirstBest

namespace Linking

section Roles

variable {α : Type} [Quantity α]

/-- The attribute that ranks depth areas for a role. -/
def rangeAttribute : LinkRole → String
  | .leastDepthArea => "DRVAL1"
  | _ => "DRVAL2"

/-- What a feature counts for a consumer in one of the two roles of depth areas. -/
def depthRank? (role : LinkRole) (consumer feature : Feature α) : Option α :=
  match role with
  | .leastDepthArea => leastRank? consumer feature
  | _ => (contourDepth? consumer).bind (fun contour => underlyingRank? consumer contour feature)

/-- Which depths beat others in such a role. -/
def surpasses : LinkRole → α → α → Bool
  | .leastDepthArea => shallower
  | _ => deeper

/-- The depth area that a consumer is linked to in such a role. -/
def depthArea? (role : LinkRole) (neighbours : List (Feature α)) (consumer : Feature α) : Option Nat :=
  (firstBest (surpasses role) (depthRank? role consumer) none neighbours).map (·.1.id)

/-- The consumers of depth areas, with the role that they are linked in. -/
inductive Seeks (consumer : Feature α) : LinkRole → Prop where
  | hazard (kind : consumer.className ∈ hazardClasses) : Seeks consumer .leastDepthArea
  | contour (kind : consumer.className = "DEPCNT") : Seeks consumer .underlyingDepthArea
  | edge (kind : consumer.className = "DEPARE") (line : consumer.geometry = .line) :
      Seeks consumer .underlyingDepthArea

omit [Quantity α] in
theorem Seeks.moved {consumer : Feature α} {role : LinkRole} (seeks : Seeks consumer role) (last : Nat) :
    Seeks (consumer.moved last) role := by
  cases seeks with
  | hazard kind => exact .hazard kind
  | contour kind => exact .contour kind
  | edge kind line => exact .edge kind line

theorem underlyingDepthArea?_eq_depthArea? (neighbours : List (Feature α)) (consumer : Feature α) :
    underlyingDepthArea? neighbours consumer = depthArea? .underlyingDepthArea neighbours consumer := by
  rw [underlyingDepthArea?_eq, depthArea?]
  cases drawn : contourDepth? consumer with
  | none =>
    have unranked : firstBest (surpasses .underlyingDepthArea)
        (depthRank? .underlyingDepthArea consumer) none neighbours = none :=
      (firstBest_eq_none ..).mpr ⟨rfl, fun feature _ => by simp [depthRank?, drawn]⟩
    rw [unranked]
    rfl
  | some contour =>
    have ranks : depthRank? .underlyingDepthArea consumer = underlyingRank? consumer contour := by
      funext feature
      simp [depthRank?, drawn]
    rw [ranks]
    rfl

theorem decided?_of_seeks {consumer : Feature α} {role : LinkRole} (seeks : Seeks consumer role)
    (chart : Chart α) : chart.decided? consumer role =
      some (depthArea? role (chart.cellFeatures consumer.cell) consumer) := by
  cases seeks with
  | hazard kind =>
    simp only [hazardClasses, List.mem_cons, List.not_mem_nil, or_false] at kind
    rcases kind with kind | kind | kind <;>
      simp [Chart.decided?, Feature.isConsumer, hazardClasses, links, kind] <;> rfl
  | contour kind =>
    rw [← underlyingDepthArea?_eq_depthArea?]
    simp [Chart.decided?, Feature.isConsumer, links, kind]
  | edge kind line =>
    rw [← underlyingDepthArea?_eq_depthArea?]
    simp [Chart.decided?, Feature.isConsumer, links, kind, line]

/-- Who is who does not change as identifiers move up. -/
theorem depthRank?_moved (role : LinkRole) (last : Nat) (consumer feature : Feature α) :
    depthRank? role (consumer.moved last) (feature.moved last) = depthRank? role consumer feature := by
  have apart : ((feature.moved last).id != (consumer.moved last).id) = (feature.id != consumer.id) := by
    rw [Bool.eq_iff_iff, bne_iff_ne, bne_iff_ne]
    exact not_congr Chart.moved_inj
  cases role with
  | leastDepthArea => rfl
  | _ =>
    simp only [depthRank?, underlyingRank?, apart]
    rfl

end Roles

theorem inert_of_isNaN (role : LinkRole) {depth : Float} (undefined : depth.isNaN = true) :
    Inert (surpasses role) depth := by
  have below : ∀ other, decide (depth < other) = false := by
    intro other
    rw [decide_eq_false_iff_not, FloatOrder.lt_iff_compare?, FloatOrder.compare?,
      FloatOrder.compare_eq_none (.inl undefined)]
    simp
  have above : ∀ other, decide (other < depth) = false := by
    intro other
    rw [decide_eq_false_iff_not, FloatOrder.lt_iff_compare?, FloatOrder.compare?,
      FloatOrder.compare_eq_none (.inr undefined)]
    simp
  cases role with
  | leastDepthArea => exact ⟨below, above⟩
  | _ => exact ⟨above, below⟩

/-- A depth area whose range holds no numbers, or none that are ordered. -/
structure Malformed (area : Feature Float) : Prop where
  isDepthArea : area.isDepthArea = true
  undefined : ∀ name ∈ ["DRVAL1", "DRVAL2"], ∀ depth, area.number? name = some depth → depth.isNaN = true

/-- A depth that an area counts for a consumer which it meets: the one that was read from it. -/
@[mk_iff]
structure Counts (area consumer : Feature Float) (role : LinkRole) (depth : Float) : Prop where
  meets : area.extent.intersects consumer.extent = true
  read : area.number? (rangeAttribute role) = some depth
  drawn : role = .underlyingDepthArea → (contourDepth? consumer).isSome = true

/-- A depth area comes before all other candidates of a consumer, with a depth that was read. -/
structure Leads (chart : Chart Float) (area consumer : Feature Float) (role : LinkRole) : Prop where
  cell : area.cell = consumer.cell
  meets : area.extent.intersects consumer.extent = true
  read : (area.number? (rangeAttribute role)).isSome = true
  drawn : role = .underlyingDepthArea → (contourDepth? consumer).isSome = true
  first : ∀ feature ∈ chart.cellFeatures consumer.cell, depthRank? role consumer feature = none

variable {area consumer : Feature Float} {role : LinkRole}

theorem Malformed.number?_isNaN (malformed : Malformed area) {depth : Float}
    (read : area.number? (rangeAttribute role) = some depth) : depth.isNaN = true := by
  refine malformed.undefined _ ?_ depth read
  cases role <;> simp [rangeAttribute]

/-- Nothing else about a malformed area decides whether it is a candidate. -/
theorem Malformed.depthRank?_eq_some (malformed : Malformed area) (seeks : Seeks consumer role)
    (apart : area.id ≠ consumer.id) (depth : Float) :
    depthRank? role consumer area = some depth ↔ Counts area consumer role depth := by
  have underlying : depthRank? .underlyingDepthArea consumer area = some depth ↔
      Counts area consumer .underlyingDepthArea depth := by
    have under : ∀ contour, underlyingRank? consumer contour area = some depth ↔
        area.extent.intersects consumer.extent = true ∧ area.number? "DRVAL2" = some depth := by
      intro contour
      rw [underlyingRank?, Option.ite_none_right_eq_some, Option.filter_eq_some_iff,
        malformed.isDepthArea, Bool.true_and, Bool.and_eq_true, bne_iff_ne]
      have kept : area.number? "DRVAL2" = some depth → (!decide (contour < depth)) = true := by
        intro read
        have inert := inert_of_isNaN .underlyingDepthArea (malformed.undefined _ (by simp) _ read)
        exact congrArg (!·) (inert.beats contour)
      tauto
    change (contourDepth? consumer).bind _ = some depth ↔ _
    simp only [counts_iff, rangeAttribute, Option.bind_eq_some_iff, under, Option.isSome_iff_exists]
    tauto
  cases seeks with
  | hazard => simp [counts_iff, depthRank?, leastRank?, rangeAttribute, malformed.isDepthArea]
  | contour => exact underlying
  | edge => exact underlying

section Inserted

variable {chart : Chart Float}

/-- The malformed area as it stands on a chart that it was put in, and a consumer beside it. -/
theorem Malformed.depthRank?_inserted (malformed : Malformed area) (seeks : Seeks consumer role)
    (chart : Chart Float) (depth : Float) :
    depthRank? role (consumer.moved chart.lastId) { area with id := chart.nextId } = some depth ↔
      Counts area consumer role depth := by
  have stored : Malformed { area with id := chart.nextId } := ⟨malformed.isDepthArea, malformed.undefined⟩
  rw [stored.depthRank?_eq_some (seeks.moved chart.lastId) (Chart.moved_ne_nextId _ _).symm,
    counts_iff, counts_iff]
  rfl

theorem Malformed.inert (malformed : Malformed area) (seeks : Seeks consumer role)
    (chart : Chart Float) (depth : Float)
    (ranked : depthRank? role (consumer.moved chart.lastId) { area with id := chart.nextId } = some depth) :
    Inert (surpasses role) depth :=
  inert_of_isNaN role
    (malformed.number?_isNaN ((malformed.depthRank?_inserted seeks chart depth).mp ranked).read)

variable (identified : chart.Identified) (malformed : Malformed area) (seeks : Seeks consumer role)
  (rest : List (Feature Float))

include identified malformed seeks

/-- A malformed area that comes first is what the consumer is linked to. -/
theorem Leads.depthArea? (leads : Leads chart area consumer role) :
    depthArea? role (((area :: rest).foldl Chart.insert chart).cellFeatures consumer.cell)
      (consumer.moved chart.lastId) = some chart.nextId := by
  obtain ⟨later, -, among⟩ := identified.cellFeatures_insertAll_cons area rest consumer.cell
  obtain ⟨depth, read⟩ := Option.isSome_iff_exists.mp leads.read
  have ranked := (malformed.depthRank?_inserted seeks chart depth).mpr
    ⟨leads.meets, read, leads.drawn⟩
  have before : firstBest (surpasses role) (depthRank? role (consumer.moved chart.lastId)) none
      ((chart.cellFeatures consumer.cell).map (Feature.moved chart.lastId)) = none := by
    refine (firstBest_eq_none ..).mpr ⟨rfl, fun feature member => ?_⟩
    obtain ⟨other, listed, rfl⟩ := List.mem_map.mp member
    rw [depthRank?_moved, leads.first other listed]
  rw [Linking.depthArea?, among, if_pos leads.cell, firstBest_append, before, firstBest_append,
    firstBest_start ranked, firstBest_stuck (malformed.inert seeks _ _ ranked)]
  rfl

/-- A malformed area that does not come first is passed over. -/
theorem depthArea?_of_not_leads (passed : ¬ Leads chart area consumer role) :
    depthArea? role (((area :: rest).foldl Chart.insert chart).cellFeatures consumer.cell)
        (consumer.moved chart.lastId) =
      (depthArea? role ((rest.foldl Chart.insert chart).cellFeatures consumer.cell) consumer).map
        (Chart.moved chart.lastId) := by
  obtain ⟨later, without, among⟩ := identified.cellFeatures_insertAll_cons area rest consumer.cell
  have skipped : firstBest (surpasses role) (depthRank? role (consumer.moved chart.lastId)) none
      (((area :: rest).foldl Chart.insert chart).cellFeatures consumer.cell) =
        firstBest (surpasses role) (depthRank? role (consumer.moved chart.lastId)) none
          (((rest.foldl Chart.insert chart).cellFeatures consumer.cell).map
            (Feature.moved chart.lastId)) := by
    rw [among, without, List.map_append, firstBest_append, firstBest_append, firstBest_append]
    congr 1
    by_cases own : area.cell = consumer.cell
    · rw [if_pos own]
      refine firstBest_pass (malformed.inert seeks _) ?_
      by_contra both
      obtain ⟨ranks, leaderless⟩ := not_or.mp both
      obtain ⟨depth, ranked⟩ := Option.ne_none_iff_exists'.mp ranks
      obtain ⟨meets, read, drawn⟩ := (malformed.depthRank?_inserted seeks _ _).mp ranked
      have unranked := ((firstBest_eq_none ..).mp (not_not.mp leaderless)).2
      refine passed ⟨own, meets, by rw [read]; rfl, drawn, fun feature listed => ?_⟩
      rw [← depthRank?_moved role chart.lastId]
      exact unranked _ (List.mem_map_of_mem listed)
    · rw [if_neg own]
      rfl
  rw [Linking.depthArea?, skipped, firstBest_map _ (fun feature _ => depthRank?_moved ..), Option.map_map,
    Linking.depthArea?, Option.map_map]
  rfl

end Inserted

end Linking

namespace Chart

open Linking (Malformed Seeks Leads)

/-- Put in anywhere among the features of a chart, a malformed area changes the link of a consumer exactly where
it comes before all other candidates; then the consumer is linked to it. -/
theorem links_beside_malformed {chart : Chart Float} (identified : chart.Identified) {area : Feature Float}
    (malformed : Malformed area) (rest : List (Feature Float)) {id : Nat} {consumer : Feature Float}
    (found : (rest.foldl Chart.insert chart).find? id = some consumer) {role : LinkRole}
    (seeks : Seeks consumer role) {cells others : List Nat} (resolved : consumer.cell ∈ cells)
    (again : consumer.cell ∈ others) :
    ∃ without among, ((rest.foldl Chart.insert chart).resolveCells cells).1.find? id = some without ∧
      (((area :: rest).foldl Chart.insert chart).resolveCells others).1.find? (moved chart.lastId id) =
        some among ∧
      (Leads chart area consumer role → among.link? role = some chart.nextId) ∧
      (among.link? role = (without.link? role).map (moved chart.lastId) ↔
        ¬ Leads chart area consumer role) := by
  have beside := identified.find?_insertAll_cons area rest found
  obtain ⟨without, kept, -⟩ := (bareAlike_resolveCells _ cells).find? found
  obtain ⟨among, stored, -⟩ := (bareAlike_resolveCells _ others).find? beside
  have before := link?_resolveCells (identified.insertAll rest) cells found kept role
  have after := link?_resolveCells (identified.insertAll (area :: rest)) others beside stored role
  rw [if_pos resolved, Linking.decided?_of_seeks seeks, Option.getD_some] at before
  rw [if_pos (show (consumer.moved chart.lastId).cell ∈ others from again),
    Linking.decided?_of_seeks (seeks.moved chart.lastId), Option.getD_some] at after
  have led (leads : Leads chart area consumer role) : among.link? role = some chart.nextId :=
    after.trans (leads.depthArea? identified malformed seeks rest)
  refine ⟨without, among, kept, stored, led, fun same leads => ?_, fun passed => ?_⟩
  · rw [led leads] at same
    obtain ⟨target, -, up⟩ := Option.map_eq_some_iff.mp same.symm
    exact moved_ne_nextId chart target up
  · rw [after, before]
    exact Linking.depthArea?_of_not_leads identified malformed seeks rest passed

/-- An area with the lesser depth of its range alone. -/
def bareArea (depth : String) : Feature Float := (Feature.plain "DEPARE" .area).setAttribute "DRVAL1" depth

theorem malformed_nan : Malformed (bareArea "nan") := by
  have unread : ∀ name ∈ ["DRVAL1", "DRVAL2"],
      ((bareArea "nan").number? name).all (fun depth => depth.isNaN) = true := by decide +kernel
  refine ⟨by decide +kernel, fun name listed depth read => ?_⟩
  have undefined := unread name listed
  rwa [read] at undefined

theorem links_beside_malformed_wreck :
    let wreck : Feature Float := Feature.plain "WRECKS" .point
    Malformed (bareArea "nan") ∧ Leads .empty (bareArea "nan") { wreck with id := 2 } .leastDepthArea ∧
      ∃ without among,
        (([bareArea "5", wreck].foldl Chart.insert .empty).resolveCells [0]).1.find? 2 = some without ∧
        (([bareArea "nan", bareArea "5", wreck].foldl Chart.insert .empty).resolveCells [0]).1.find? 3 =
          some among ∧
        among.link? .leastDepthArea = some 1 ∧
        among.link? .leastDepthArea ≠ (without.link? .leastDepthArea).map (moved 0) := by
  intro wreck
  have leads : Leads .empty (bareArea "nan") { wreck with id := 2 } .leastDepthArea := by
    refine ⟨rfl, by decide +kernel, by decide +kernel, by decide, ?_⟩
    intro feature listed
    cases listed
  have found : ([bareArea "5", wreck].foldl Chart.insert .empty).find? 2 = some { wreck with id := 2 } := rfl
  obtain ⟨without, among, kept, stored, led, changed⟩ := links_beside_malformed .empty malformed_nan
    [bareArea "5", wreck] found (.hazard (by decide)) (List.mem_singleton_self 0) (List.mem_singleton_self 0)
  exact ⟨malformed_nan, leads, without, among, kept, stored, led leads, fun same => changed.mp same leads⟩

/-- A malformed area that comes first draws the link of a wreck away from the area around it. -/
theorem not_links_kept_beside_malformed :
    ¬ ∀ (area : Feature Float) (rest : List (Feature Float)) (id : Nat), Malformed area →
      ((((area :: rest).foldl Chart.insert .empty).resolveAll.1.find? (moved 0 id)).bind
          (·.link? .leastDepthArea)) =
        (((rest.foldl Chart.insert .empty).resolveAll.1.find? id).bind (·.link? .leastDepthArea)).map
          (moved 0) := by
  intro kept
  have same := kept (bareArea "nan") [bareArea "5", .plain "WRECKS" .point] 2 malformed_nan
  exact absurd same (by decide +kernel)

end Chart

end ChartPortrayal
