import ChartPortrayal.Chart.Linking
import ChartPortrayal.Proofs.Chart.Lookup

/-! What resolution does to a chart. It changes nothing but links, it reads none, and so the link that it
decides on for a role of a consumer is the same before and after any part of it has run. -/

namespace ChartPortrayal

variable {α : Type}

/-- A feature without its links. -/
def Feature.bare (feature : Feature α) : Feature α := { feature with links := .empty }

@[simp] theorem Feature.id_bare (feature : Feature α) : feature.bare.id = feature.id := rfl

@[simp] theorem Feature.cell_bare (feature : Feature α) : feature.bare.cell = feature.cell := rfl

/-- Links are the only thing in which two features may differ that are bare alike. -/
theorem Feature.eq_of_bare {first second : Feature α} (same : first.bare = second.bare) :
    first = { second with links := first.links } := by
  cases first
  cases second
  simp_all [bare]

@[simp] theorem Chart.bare_relink (role : LinkRole) (target : Option Nat) (feature : Feature α) :
    (Chart.relink role target feature).bare = feature.bare := by
  cases target <;> rfl

theorem Chart.link?_relink (role other : LinkRole) (target : Option Nat) (feature : Feature α) :
    (Chart.relink role target feature).link? other = if other = role then target else feature.link? other := by
  cases target with
  | none => simp only [relink, Feature.link?, SortedMap.find?_erase, SortKey.order_eq_iff]
  | some id => simp only [relink, Feature.link?, SortedMap.find?_insert, SortKey.order_eq_iff]

/-- The better of the best feature so far and one more; of equals the earlier one. -/
def contend {β : Type} (better : β → β → Bool) (rank? : Feature α → Option β)
    (best : Option (Feature α × β)) (feature : Feature α) : Option (Feature α × β) :=
  match rank? feature, best with
  | none, _ => best
  | some rank, none => some (feature, rank)
  | some rank, some leader => some (if better rank leader.2 then (feature, rank) else leader)

theorem firstBest_eq_foldl {β : Type} (better : β → β → Bool) (rank? : Feature α → Option β)
    (best : Option (Feature α × β)) (list : List (Feature α)) :
    firstBest better rank? best list = list.foldl (contend better rank?) best := by
  induction list generalizing best with
  | nil => rfl
  | cons feature rest ih =>
    rw [List.foldl_cons, ← ih]
    cases ranked : rank? feature with
    | none => simp only [firstBest, contend, ranked]
    | some rank =>
      cases best with
      | none => simp only [firstBest, contend, ranked]
      | some leader => simp only [firstBest, contend, ranked, apply_ite some]

/-- A change of features that keeps their ranks changes the best one, and not which it is. -/
theorem firstBest_map {β : Type} (better : β → β → Bool) {rank? other? : Feature α → Option β}
    {change : Feature α → Feature α} {list : List (Feature α)}
    (same : ∀ feature ∈ list, other? (change feature) = rank? feature) :
    firstBest better other? none (list.map change) =
      (firstBest better rank? none list).map (fun leader => (change leader.1, leader.2)) := by
  simp only [firstBest_eq_foldl]
  suffices general : ∀ best : Option (Feature α × β),
      (list.map change).foldl (contend better other?)
          (best.map (fun leader => (change leader.1, leader.2))) =
        (list.foldl (contend better rank?) best).map (fun leader => (change leader.1, leader.2)) from
    general none
  induction list with
  | nil => intro best; rfl
  | cons feature rest ih =>
    intro best
    obtain ⟨here, later⟩ := List.forall_mem_cons.mp same
    rw [List.map_cons, List.foldl_cons, List.foldl_cons, ← ih later]
    congr 1
    cases ranked : rank? feature with
    | none => simp only [contend, here, ranked]
    | some rank =>
      cases best with
      | none => simp only [contend, here, ranked, Option.map_none, Option.map_some]
      | some leader =>
        simp only [contend, here, ranked, Option.map_some]
        split <;> rfl

theorem firstBest_eq_none {β : Type} (better : β → β → Bool) (rank? : Feature α → Option β)
    (best : Option (Feature α × β)) (list : List (Feature α)) :
    firstBest better rank? best list = none ↔ best = none ∧ ∀ feature ∈ list, rank? feature = none := by
  rw [firstBest_eq_foldl]
  induction list generalizing best with
  | nil => simp
  | cons feature rest ih =>
    rw [List.foldl_cons, ih, List.forall_mem_cons]
    cases ranked : rank? feature with
    | none => simp [contend, ranked]
    | some rank => cases best <;> simp [contend, ranked]

/-- The best feature is one of the list, with its own rank. -/
theorem firstBest_ranked {β : Type} {better : β → β → Bool} {rank? : Feature α → Option β}
    {best : Option (Feature α × β)} {list : List (Feature α)} {leader : Feature α × β}
    (first : firstBest better rank? best list = some leader) :
    best = some leader ∨ leader.1 ∈ list ∧ rank? leader.1 = some leader.2 := by
  rw [firstBest_eq_foldl] at first
  induction list generalizing best with
  | nil => exact .inl first
  | cons feature rest ih =>
    rw [List.foldl_cons] at first
    rcases ih first with now | ⟨later, rank⟩
    · cases ranked : rank? feature with
      | none =>
        simp only [contend, ranked] at now
        exact .inl now
      | some rank =>
        cases best with
        | none =>
          simp only [contend, ranked, Option.some.injEq] at now
          subst now
          exact .inr ⟨List.mem_cons_self, ranked⟩
        | some record =>
          simp only [contend, ranked] at now
          split at now
          · cases now
            exact .inr ⟨List.mem_cons_self, ranked⟩
          · exact .inl now
    · exact .inr ⟨List.mem_cons_of_mem feature later, rank⟩

/-- No feature of the list beats the best one, where beating is a strict weak order. -/
theorem firstBest_unbeaten {β : Type} {better : β → β → Bool} {rank? : Feature α → Option β}
    (asymmetric : ∀ first second, better first second = true → better second first = false)
    (coarse : ∀ first second third, better first second = false → better second third = false →
      better first third = false)
    {best : Option (Feature α × β)} {list : List (Feature α)} {leader : Feature α × β}
    (first : firstBest better rank? best list = some leader) :
    (∀ record, best = some record → better record.2 leader.2 = false) ∧
      ∀ feature ∈ list, ∀ rank, rank? feature = some rank → better rank leader.2 = false := by
  rw [firstBest_eq_foldl] at first
  induction list generalizing best with
  | nil =>
    refine ⟨fun record now => ?_, by simp⟩
    rw [List.foldl_nil, now] at first
    cases first
    cases beats : better leader.2 leader.2 with
    | false => rfl
    | true => exact absurd (asymmetric _ _ beats) (by simp [beats])
  | cons feature rest ih =>
    rw [List.foldl_cons] at first
    obtain ⟨now, later⟩ := ih first
    -- The record that stands after this feature is beaten by neither the feature nor the record before.
    suffices here : (∀ record, best = some record → better record.2 leader.2 = false) ∧
        ∀ rank, rank? feature = some rank → better rank leader.2 = false from
      ⟨here.1, List.forall_mem_cons.mpr ⟨here.2, later⟩⟩
    cases ranked : rank? feature with
    | none =>
      refine ⟨fun record standing => now record ?_, by simp⟩
      simpa only [contend, ranked] using standing
    | some rank =>
      cases best with
      | none =>
        refine ⟨by simp, fun other same => ?_⟩
        cases same
        exact now (feature, rank) (by simp only [contend, ranked])
      | some record =>
        simp only [contend, ranked, Option.some.injEq, forall_eq'] at now ⊢
        cases wins : better rank record.2 with
        | true =>
          simp only [wins, ↓reduceIte] at now
          exact ⟨coarse _ _ _ (asymmetric _ _ wins) now, now⟩
        | false =>
          simp only [wins, Bool.false_eq_true, ↓reduceIte] at now
          exact ⟨now, coarse _ _ _ wins now⟩

namespace Linking

/-- A change of features that resolution does not see, since it leaves what resolution reads as it is. -/
structure Unseen (change : Feature α → Feature α) : Prop where
  id : ∀ feature, (change feature).id = feature.id
  geometry : ∀ feature, (change feature).geometry = feature.geometry
  className : ∀ feature, (change feature).className = feature.className
  extent : ∀ feature, (change feature).extent = feature.extent
  attributes : ∀ feature, ∀ name ∈ linkAttributes,
    (change feature).attribute? name = feature.attribute? name

theorem unseen_bare : Unseen (Feature.bare : Feature α → Feature α) :=
  ⟨fun _ => rfl, fun _ => rfl, fun _ => rfl, fun _ => rfl, fun _ _ _ => rfl⟩

namespace Unseen

variable {change : Feature α → Feature α}

theorem isFloatingPlatform (unseen : Unseen change) (feature : Feature α) :
    (change feature).isFloatingPlatform = feature.isFloatingPlatform := by
  rw [Feature.isFloatingPlatform, unseen.className, Feature.isFloatingPlatform]

theorem isSectorLight (unseen : Unseen change) (feature : Feature α) :
    (change feature).isSectorLight = feature.isSectorLight := by
  have first := unseen.attributes feature "SECTR1" (by decide)
  have second := unseen.attributes feature "SECTR2" (by decide)
  rw [Feature.isSectorLight, Feature.hasValue, Feature.hasValue, first, second, unseen.className]
  rfl

theorem isDepthArea (unseen : Unseen change) (feature : Feature α) :
    (change feature).isDepthArea = feature.isDepthArea := by
  rw [Feature.isDepthArea, unseen.className, unseen.geometry, Feature.isDepthArea]

theorem isConsumer (unseen : Unseen change) (feature : Feature α) :
    (change feature).isConsumer = feature.isConsumer := by
  rw [Feature.isConsumer, unseen.className, unseen.geometry, Feature.isConsumer]

theorem number? [Quantity α] (unseen : Unseen change) {name : String} (deciding : name ∈ linkAttributes)
    (feature : Feature α) : (change feature).number? name = feature.number? name := by
  rw [Feature.number?, unseen.attributes feature name deciding, Feature.number?]

end Unseen

variable [Quantity α]

/-- A depth that beats the shallowest so far. -/
def shallower (depth record : α) : Bool := decide (depth < record)

/-- A depth that beats the deepest so far. -/
def deeper (depth record : α) : Bool := decide (record < depth)

/-- What a depth area counts for a hazard: the lesser depth of its range. -/
def leastRank? (consumer feature : Feature α) : Option α :=
  if feature.isDepthArea && feature.extent.intersects consumer.extent then feature.number? "DRVAL1"
  else none

/-- What a depth area counts for a contour: the greater depth of its range, unless it passes the contour. -/
def underlyingRank? (consumer : Feature α) (contour : α) (feature : Feature α) : Option α :=
  if feature.isDepthArea && feature.id != consumer.id && feature.extent.intersects consumer.extent then
    (feature.number? "DRVAL2").filter (fun depth => !decide (contour < depth))
  else none

theorem leastDepthArea?_eq (neighbours : List (Feature α)) (consumer : Feature α) :
    leastDepthArea? neighbours consumer =
      (firstBest shallower (leastRank? consumer) none neighbours).map (·.1.id) := rfl

theorem underlyingDepthArea?_eq (neighbours : List (Feature α)) (consumer : Feature α) :
    underlyingDepthArea? neighbours consumer = (contourDepth? consumer).bind (fun contour =>
      (firstBest deeper (underlyingRank? consumer contour) none neighbours).map (·.1.id)) := rfl

/-- A change that resolution does not see, of a consumer and of its neighbours, changes no decision. -/
theorem Unseen.links_map {change : Feature α → Feature α} (unseen : Unseen change)
    (neighbours : List (Feature α)) (consumer : Feature α) :
    links (neighbours.map change) (change consumer) = links neighbours consumer := by
  have platform : platform? (neighbours.map change) (change consumer) =
      platform? neighbours consumer := by
    simp only [platform?, List.find?_map, Option.map_map, Function.comp_def, unseen.id,
      unseen.isFloatingPlatform, unseen.extent]
  have light : coLocatedLight? (neighbours.map change) (change consumer) =
      coLocatedLight? neighbours consumer := by
    simp only [coLocatedLight?, List.find?_map, Option.map_map, Function.comp_def, unseen.id,
      unseen.isSectorLight, unseen.extent]
  have least : leastDepthArea? (neighbours.map change) (change consumer) =
      leastDepthArea? neighbours consumer := by
    have own : leastRank? (change consumer) = leastRank? consumer := by
      funext feature
      rw [leastRank?, unseen.extent, leastRank?]
    have ranks : ∀ feature ∈ neighbours,
        leastRank? consumer (change feature) = leastRank? consumer feature := by
      intro feature _
      rw [leastRank?, unseen.isDepthArea, unseen.extent, unseen.number? (by decide), leastRank?]
    rw [leastDepthArea?_eq, leastDepthArea?_eq, own, firstBest_map _ ranks, Option.map_map]
    simp only [Function.comp_def, unseen.id]
  have underlying : underlyingDepthArea? (neighbours.map change) (change consumer) =
      underlyingDepthArea? neighbours consumer := by
    have depth : contourDepth? (change consumer) = contourDepth? consumer := by
      rw [contourDepth?, unseen.className, unseen.number? (by decide), unseen.number? (by decide),
        contourDepth?]
    rw [underlyingDepthArea?_eq, underlyingDepthArea?_eq, depth]
    refine congrArg (Option.bind (contourDepth? consumer)) (funext fun contour => ?_)
    have own : underlyingRank? (change consumer) contour = underlyingRank? consumer contour := by
      funext feature
      rw [underlyingRank?, unseen.extent, unseen.id, underlyingRank?]
    have ranks : ∀ feature ∈ neighbours, underlyingRank? consumer contour (change feature) =
        underlyingRank? consumer contour feature := by
      intro feature _
      rw [underlyingRank?, unseen.isDepthArea, unseen.id, unseen.extent, unseen.number? (by decide),
        underlyingRank?]
    rw [own, firstBest_map _ ranks, Option.map_map]
    simp only [Function.comp_def, unseen.id]
  unfold links
  rw [platform, light, least, underlying, unseen.className]

/-- Neither the links of the consumer nor those of its neighbours are looked at. -/
theorem links_bare (neighbours : List (Feature α)) (consumer : Feature α) :
    links (neighbours.map Feature.bare) consumer.bare = links neighbours consumer :=
  unseen_bare.links_map neighbours consumer

end Linking

namespace Chart

/-- Two charts that hold the same features, links aside. -/
structure BareAlike (first second : Chart α) : Prop where
  features : ∀ id, (first.find? id).map Feature.bare = (second.find? id).map Feature.bare
  lastId : first.lastId = second.lastId

theorem BareAlike.refl (chart : Chart α) : chart.BareAlike chart := ⟨fun _ => rfl, rfl⟩

theorem BareAlike.symm {first second : Chart α} (alike : first.BareAlike second) :
    second.BareAlike first := ⟨fun id => (alike.features id).symm, alike.lastId.symm⟩

theorem BareAlike.trans {first second third : Chart α} (alike : first.BareAlike second)
    (further : second.BareAlike third) : first.BareAlike third :=
  ⟨fun id => (alike.features id).trans (further.features id), alike.lastId.trans further.lastId⟩

theorem BareAlike.find? {first second : Chart α} (alike : first.BareAlike second) {id : Nat}
    {feature : Feature α} (found : second.find? id = some feature) :
    ∃ other, first.find? id = some other ∧ other.bare = feature.bare := by
  have bared := alike.features id
  rw [found, Option.map_some] at bared
  exact Option.map_eq_some_iff.mp bared

theorem BareAlike.list {first second : Chart α} (alike : first.BareAlike second) :
    first.list.map Feature.bare = second.list.map Feature.bare := by
  have maps : first.features.mapValues (fun _ => Feature.bare) =
      second.features.mapValues (fun _ => Feature.bare) := by
    refine SortedMap.ext_find? (fun id => ?_)
    rw [SortedMap.find?_mapValues, SortedMap.find?_mapValues]
    exact alike.features id
  have values := congrArg SortedMap.values maps
  simp only [SortedMap.values, SortedMap.mapValues, List.map_map] at values
  simp only [Chart.list, SortedMap.values, List.map_map]
  exact values

theorem BareAlike.cellFeatures {first second : Chart α} (alike : first.BareAlike second) (cell : Nat) :
    (first.cellFeatures cell).map Feature.bare = (second.cellFeatures cell).map Feature.bare := by
  have filtered : ∀ list : List (Feature α),
      (list.filter (fun feature => feature.cell == cell)).map Feature.bare =
        (list.map Feature.bare).filter (fun feature => feature.cell == cell) := by
    intro list
    rw [List.filter_map]
    rfl
  rw [Chart.cellFeatures, Chart.cellFeatures, filtered, filtered, alike.list]

theorem BareAlike.cells {first second : Chart α} (alike : first.BareAlike second) :
    first.cells = second.cells := by
  have bared : ∀ chart : Chart α, chart.list.map (fun feature => (feature.cell, ())) =
      (chart.list.map Feature.bare).map (fun feature => (feature.cell, ())) := by
    intro chart
    rw [List.map_map]
    rfl
  rw [Chart.cells, Chart.cells, bared, bared, alike.list]

theorem BareAlike.identified {first second : Chart α} (alike : first.BareAlike second)
    (identified : second.Identified) : first.Identified := by
  constructor <;> intro id feature found
  all_goals obtain ⟨other, stored, same⟩ := alike.symm.find? found
  · rw [← Feature.id_bare, ← same, Feature.id_bare, identified.own id other stored]
  · rw [alike.lastId]
    exact identified.given id other stored

theorem bareAlike_setLink (chart : Chart α) (id : Nat) (role : LinkRole) (target : Option Nat) :
    (chart.setLink id role target).BareAlike chart := by
  constructor
  · intro other
    rw [find?_setLink]
    split
    · rw [Option.map_map]
      congr 1
      funext feature
      exact bare_relink role target feature
    · rfl
  · unfold setLink
    cases chart.find? id with
    | none => rfl
    | some feature =>
      dsimp only
      split <;> rfl

/-- A chart that has been worked on is the old one, or its link generation says that it is not. -/
def Tracks (after before : Chart α) : Prop :=
  after = before ∨ before.linkGeneration < after.linkGeneration

theorem Tracks.refl (chart : Chart α) : chart.Tracks chart := .inl rfl

theorem Tracks.trans {first second third : Chart α} (later : third.Tracks second)
    (earlier : second.Tracks first) : third.Tracks first := by
  rcases later with rfl | raised
  · exact earlier
  · rcases earlier with rfl | before
    · exact .inr raised
    · exact .inr (Nat.lt_trans before raised)

theorem Tracks.generation_le {after before : Chart α} (tracks : after.Tracks before) :
    before.linkGeneration ≤ after.linkGeneration := by
  rcases tracks with rfl | raised
  · exact Nat.le_refl _
  · exact Nat.le_of_lt raised

theorem tracks_erase (chart : Chart α) (id : Nat) : (chart.erase id).Tracks chart := by
  unfold erase
  split
  · exact .inr (Nat.lt_succ_self _)
  · exact .refl chart

theorem tracks_eraseCell (chart : Chart α) (cell : Nat) : (chart.eraseCell cell).Tracks chart := by
  unfold eraseCell
  dsimp only
  split
  · exact .refl chart
  · exact .inr (Nat.lt_succ_self _)

theorem relink_link? (role : LinkRole) (feature : Feature α) :
    relink role (feature.link? role) feature = feature := by
  have links : (relink role (feature.link? role) feature).links = feature.links := by
    refine SortedMap.ext_find? (fun other => ?_)
    have relinked := link?_relink role other (feature.link? role) feature
    simp only [Feature.link?] at relinked ⊢
    rw [relinked]
    split
    · next same => rw [same]
    · rfl
  have bare := bare_relink role (feature.link? role) feature
  rw [Feature.eq_of_bare bare, links]

theorem adjust_self {chart : Chart α} {id : Nat} {change : Feature α → Feature α}
    (same : ∀ feature, chart.find? id = some feature → change feature = feature) :
    chart.adjust id change = chart := by
  have features : (chart.adjust id change).features = chart.features := by
    refine SortedMap.ext_find? (fun other => ?_)
    have adjusted := find?_adjust chart id other change
    simp only [Chart.find?] at adjusted ⊢
    rw [adjusted]
    split
    · next this =>
      subst this
      cases found : chart.features.find? other with
      | none => rfl
      | some feature => rw [Option.map_some, same feature found]
    · rfl
  cases chart
  simp_all [adjust]

/-- Setting a link to what it leads to already leaves the chart as it is. -/
theorem setLink_self {chart : Chart α} {id : Nat} {feature : Feature α}
    (found : chart.find? id = some feature) (role : LinkRole) :
    chart.setLink id role (feature.link? role) = chart := by
  simp only [setLink, found, ↓reduceIte]
  refine adjust_self (fun stored present => ?_)
  rw [found] at present
  cases present
  exact relink_link? role feature

/-- Setting a link leaves the chart as it is exactly where it changes no link. -/
theorem tracks_setLink (chart : Chart α) (id : Nat) (role : LinkRole) (target : Option Nat) :
    (chart.setLink id role target).Tracks chart := by
  cases found : chart.find? id with
  | none =>
    rw [setLink, found]
    exact .refl chart
  | some feature =>
    by_cases unchanged : feature.link? role = target
    · subst unchanged
      exact .inl (setLink_self found role)
    · simp only [setLink, found, unchanged, ↓reduceIte]
      exact .inr (Nat.lt_succ_self _)

end Chart

end ChartPortrayal
