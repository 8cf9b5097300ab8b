import ChartPortrayal.Proofs.Chart.Assignment
import ChartPortrayal.Proofs.Chart.Extents
import ChartPortrayal.Proofs.Chart.Ranking

/-! Resolution finds the best links. Among the features of its own cell whose boxes share a point with its own
a consumer is linked to the first of a kind, or to the one with the best depth, the first of equals. -/

namespace ChartPortrayal

namespace Chart

theorem Identified.pairwise_cellFeatures {α : Type} {chart : Chart α} (identified : chart.Identified)
    (cell : Nat) :
    (chart.cellFeatures cell).Pairwise (fun first second => first.id < second.id) := by
  have listed : chart.list.Pairwise (fun first second => first.id < second.id) := by
    rw [list, SortedMap.values, List.pairwise_map]
    refine chart.features.ascending.imp_of_mem (fun {first second} one other before => ?_)
    have stored : ∀ entry ∈ chart.features.entries, entry.2.id = entry.1 := fun entry member =>
      identified.own _ _ ((chart.features.mem_entries_iff _ _).mp member)
    rw [stored first one, stored second other]
    exact Nat.compare_eq_lt.mp before
  exact listed.filter _

variable {chart : Chart Float}

theorem strictlyBetter_shallower :
    StrictlyBetter (Linking.shallower (α := Float)) (fun depth => depth.isNaN = false) where
  asymmetric first second one other less := by
    rw [Linking.shallower, decide_eq_true_iff] at less
    rw [Linking.shallower, decide_eq_false_iff_not]
    exact (FloatOrder.not_lt_iff other one).mpr (FloatOrder.le_of_less one other less)
  strict first second third one other last less unbeaten := by
    rw [Linking.shallower, decide_eq_true_iff] at less ⊢
    rw [Linking.shallower, decide_eq_false_iff_not] at unbeaten
    exact FloatOrder.lt_of_less_of_le one less ((FloatOrder.not_lt_iff last other).mp unbeaten)

/-- A feature of the consumer's cell whose box shares a point with that of the consumer. -/
structure Near (chart : Chart Float) (consumer feature : Feature Float) : Prop where
  stored : chart.find? feature.id = some feature
  cell : feature.cell = consumer.cell
  meets : feature.extent.Meets consumer.extent

/-- The boxes of a cell are spanned by finite corners, and no depth that links are decided by is undefined. -/
structure RegularCell (chart : Chart Float) (cell : Nat) : Prop where
  spanned : ∀ feature ∈ chart.cellFeatures cell, feature.extent.IsSpanned
  defined : ∀ feature ∈ chart.cellFeatures cell, ∀ name ∈ ["DRVAL1", "DRVAL2", "VALDCO"],
    ∀ depth, feature.number? name = some depth → depth.isNaN = false

section Candidates

variable {consumer : Feature Float}

theorem near_iff (identified : chart.Identified) (regular : chart.RegularCell consumer.cell)
    (found : chart.find? consumer.id = some consumer) (feature : Feature Float) :
    chart.Near consumer feature ↔
      feature ∈ chart.cellFeatures consumer.cell ∧ feature.extent.intersects consumer.extent = true := by
  have own := (identified.mem_cellFeatures _ _).mpr ⟨found, rfl⟩
  constructor
  · rintro ⟨stored, cell, meets⟩
    have member := (identified.mem_cellFeatures _ _).mpr ⟨stored, cell⟩
    exact ⟨member, (Extent.intersects_iff_meets (regular.spanned _ member).isProper
      (regular.spanned _ own).isProper).mpr meets⟩
  · rintro ⟨member, intersects⟩
    obtain ⟨stored, cell⟩ := (identified.mem_cellFeatures _ _).mp member
    exact ⟨stored, cell, (Extent.intersects_iff_meets (regular.spanned _ member).isProper
      (regular.spanned _ own).isProper).mp intersects⟩

variable (identified : chart.Identified) (regular : chart.RegularCell consumer.cell)
  (found : chart.find? consumer.id = some consumer)

include identified regular found

theorem isFirst_platform? :
    IsFirst (fun feature => chart.Near consumer feature ∧ feature.isFloatingPlatform = true)
      (Linking.platform? (chart.cellFeatures consumer.cell) consumer) := by
  refine isFirst_find? (identified.pairwise_cellFeatures _) (fun feature => ?_)
  rw [near_iff identified regular found, Bool.and_eq_true, and_assoc, and_comm (a := _ = true)]

theorem isFirst_coLocatedLight? :
    IsFirst (fun feature => consumer.isSectorLight = true ∧ chart.Near consumer feature ∧
        feature.isSectorLight = true ∧ feature.id ≠ consumer.id)
      (Linking.coLocatedLight? (chart.cellFeatures consumer.cell) consumer) := by
  unfold Linking.coLocatedLight?
  by_cases sector : consumer.isSectorLight = true
  · rw [if_pos sector]
    refine isFirst_find? (identified.pairwise_cellFeatures _) (fun feature => ?_)
    rw [near_iff identified regular found]
    simp only [sector, true_and, Bool.and_eq_true, bne_iff_ne]
    tauto
  · rw [if_neg sector]
    exact fun feature chosen => sector chosen.1

/-- What a consumer that surrounds itself with depth areas may be linked to. -/
structure NearArea (chart : Chart Float) (consumer feature : Feature Float) : Prop
    extends chart.Near consumer feature where
  className : feature.className = "DEPARE" ∨ feature.className = "DRGARE"
  geometry : feature.geometry = .area

omit identified regular found in
theorem isDepthArea_iff (feature : Feature Float) :
    feature.isDepthArea = true ↔
      (feature.className = "DEPARE" ∨ feature.className = "DRGARE") ∧ feature.geometry = .area := by
  simp [Feature.isDepthArea, depthAreaClasses]

theorem nearArea_iff (feature : Feature Float) :
    chart.NearArea consumer feature ↔ feature ∈ chart.cellFeatures consumer.cell ∧
      (feature.isDepthArea && feature.extent.intersects consumer.extent) = true := by
  rw [Bool.and_eq_true, isDepthArea_iff]
  constructor
  · rintro ⟨near, className, geometry⟩
    obtain ⟨member, intersects⟩ := (near_iff identified regular found feature).mp near
    exact ⟨member, ⟨className, geometry⟩, intersects⟩
  · rintro ⟨member, ⟨className, geometry⟩, intersects⟩
    exact ⟨(near_iff identified regular found feature).mpr ⟨member, intersects⟩, className, geometry⟩

theorem isOptimum_leastDepthArea? :
    IsOptimum (fun feature depth => chart.NearArea consumer feature ∧ feature.number? "DRVAL1" = some depth)
      (fun depth record => depth ≤ record)
      (Linking.leastDepthArea? (chart.cellFeatures consumer.cell) consumer) := by
  rw [Linking.leastDepthArea?_eq]
  refine isOptimum_firstBest strictlyBetter_shallower (identified.pairwise_cellFeatures _)
    (fun feature depth => ?_) (fun feature depth chosen => ?_) (fun first second one other => ?_)
  · rw [nearArea_iff identified regular found, Linking.leastRank?, Option.ite_none_right_eq_some, and_assoc]
  · exact regular.defined feature ((nearArea_iff identified regular found feature).mp chosen.1).1 "DRVAL1"
      (by simp) depth chosen.2
  · rw [Linking.shallower, decide_eq_false_iff_not]
    exact (FloatOrder.not_lt_iff other one).symm

/-- What a consumer that draws the depth of one attribute may take for the area under it, with the greater
depth of its range. -/
structure Underlies (chart : Chart Float) (consumer : Feature Float) (name : String)
    (feature : Feature Float) (depth : Float) : Prop extends chart.NearArea consumer feature where
  ends : feature.number? "DRVAL2" = some depth
  within : ∃ contour, consumer.number? name = some contour ∧ depth ≤ contour

theorem underlies_iff {name : String} {contour : Float} (read : consumer.number? name = some contour)
    (defined : contour.isNaN = false) (bound : consumer.isDepthArea = false) (feature : Feature Float)
    (depth : Float) :
    chart.Underlies consumer name feature depth ↔ feature ∈ chart.cellFeatures consumer.cell ∧
      Linking.underlyingRank? consumer contour feature = some depth := by
  have sounds : feature ∈ chart.cellFeatures consumer.cell → feature.number? "DRVAL2" = some depth →
      depth.isNaN = false := fun member => regular.defined feature member "DRVAL2" (by simp) depth
  rw [Linking.underlyingRank?, Option.ite_none_right_eq_some, Option.filter_eq_some_iff,
    Bool.not_eq_true', decide_eq_false_iff_not, Bool.and_right_comm, Bool.and_eq_true, bne_iff_ne]
  constructor
  · rintro ⟨near, ends, level, known, within⟩
    cases read.symm.trans known
    obtain ⟨member, area⟩ := (nearArea_iff identified regular found feature).mp near
    have other : feature.id ≠ consumer.id := by
      intro same
      have stored := near.stored
      rw [same, found] at stored
      cases stored
      rw [bound] at area
      cases area
    exact ⟨member, ⟨area, other⟩, ends, (FloatOrder.not_lt_iff defined (sounds member ends)).mpr within⟩
  · rintro ⟨member, ⟨area, -⟩, ends, within⟩
    exact ⟨(nearArea_iff identified regular found feature).mpr ⟨member, area⟩, ends, contour, read,
      (FloatOrder.not_lt_iff defined (sounds member ends)).mp within⟩

theorem isOptimum_underlyingDepthArea? {name : String}
    (drawn : Linking.contourDepth? consumer = consumer.number? name)
    (decides : name ∈ ["DRVAL1", "DRVAL2", "VALDCO"]) (bound : consumer.isDepthArea = false) :
    IsOptimum (chart.Underlies consumer name) (fun depth record => record ≤ depth)
      (Linking.underlyingDepthArea? (chart.cellFeatures consumer.cell) consumer) := by
  have own := (identified.mem_cellFeatures _ _).mpr ⟨found, rfl⟩
  rw [Linking.underlyingDepthArea?_eq, drawn]
  cases read : consumer.number? name with
  | none =>
    intro feature depth chosen
    obtain ⟨contour, known, -⟩ := chosen.within
    rw [read] at known
    cases known
  | some contour =>
    have defined := regular.defined consumer own name decides contour read
    refine isOptimum_firstBest strictlyBetter_shallower.reverse (identified.pairwise_cellFeatures _)
      (underlies_iff identified regular found read defined bound) (fun feature depth chosen => ?_)
      (fun first second one other => ?_)
    · have near := (nearArea_iff identified regular found feature).mp chosen.toNearArea
      exact regular.defined feature near.1 "DRVAL2" (by simp) depth chosen.ends
    · rw [Linking.shallower, decide_eq_false_iff_not]
      exact (FloatOrder.not_lt_iff one other).symm

end Candidates

/-- What is decided on for a consumer is what its cell's resolution leaves it with. -/
theorem link?_of_mem_links (identified : chart.Identified) {id : Nat} {consumer resolved : Feature Float}
    (found : chart.find? id = some consumer)
    (kept : (chart.resolveCell consumer.cell).1.find? id = some resolved)
    (consumes : consumer.isConsumer = true) (role : LinkRole) (target : Option Nat)
    (decided : (role, target) ∈ Linking.links (chart.cellFeatures consumer.cell) consumer) :
    resolved.link? role = target := by
  rw [link?_resolveCell identified _ found kept, if_pos rfl, decided?, if_pos consumes,
    (Linking.mem_links_iff _ _ _ _).mp decided, Option.getD_some]

/-- After its cell was resolved every consumer is linked to the best of the features that share a point with
it: a light or a topmark to the first floating platform, a sector light to the first other sector light, a
hazard to the area that starts shallowest, and a contour to the area that ends deepest without passing it. -/
theorem resolveCell_optimal (identified : chart.Identified) {id : Nat} {consumer : Feature Float}
    (found : chart.find? id = some consumer) (regular : chart.RegularCell consumer.cell) :
    ∃ resolved, (chart.resolveCell consumer.cell).1.find? id = some resolved ∧
      (consumer.className = "LIGHTS" ∨ consumer.className = "TOPMAR" →
        IsFirst (fun feature => chart.Near consumer feature ∧ feature.isFloatingPlatform = true)
          (resolved.link? .platform)) ∧
      (consumer.className = "LIGHTS" →
        IsFirst (fun feature => consumer.isSectorLight = true ∧ chart.Near consumer feature ∧
            feature.isSectorLight = true ∧ feature.id ≠ consumer.id)
          (resolved.link? .coLocatedLight)) ∧
      (consumer.className ∈ hazardClasses →
        IsOptimum (fun feature depth =>
            chart.NearArea consumer feature ∧ feature.number? "DRVAL1" = some depth)
          (fun depth record => depth ≤ record) (resolved.link? .leastDepthArea)) ∧
      (consumer.className = "DEPCNT" →
        IsOptimum (chart.Underlies consumer "VALDCO") (fun depth record => record ≤ depth)
          (resolved.link? .underlyingDepthArea)) ∧
      (consumer.className = "DEPARE" ∧ consumer.geometry = .line →
        IsOptimum (chart.Underlies consumer "DRVAL1") (fun depth record => record ≤ depth)
          (resolved.link? .underlyingDepthArea)) := by
  obtain ⟨resolved, kept, -⟩ := (bareAlike_resolveCell chart consumer.cell).find? found
  have settled := link?_of_mem_links identified found kept
  rw [← identified.own id consumer found] at found
  generalize near : chart.cellFeatures consumer.cell = neighbours at settled
  refine ⟨resolved, kept, ?_, ?_, ?_, ?_, ?_⟩
  · intro attached
    have listed : consumer.isConsumer = true ∧
        (.platform, Linking.platform? neighbours consumer) ∈ Linking.links neighbours consumer := by
      rcases attached with light | topmark
      · simp [Feature.isConsumer, Linking.links, light]
      · simp [Feature.isConsumer, Linking.links, topmark]
    rw [settled listed.1 .platform _ listed.2, ← near]
    exact isFirst_platform? identified regular found
  · intro light
    rw [settled (by simp [Feature.isConsumer, light]) .coLocatedLight
      (Linking.coLocatedLight? neighbours consumer) (by simp [Linking.links, light]), ← near]
    exact isFirst_coLocatedLight? identified regular found
  · intro hazard
    have listed : (.leastDepthArea, Linking.leastDepthArea? neighbours consumer) ∈
        Linking.links neighbours consumer := by
      simp only [hazardClasses, List.mem_cons, List.not_mem_nil, or_false] at hazard
      rcases hazard with kind | kind | kind <;> simp [Linking.links, kind]
    rw [settled (by simp [Feature.isConsumer, hazard]) .leastDepthArea _ listed, ← near]
    exact isOptimum_leastDepthArea? identified regular found
  · intro contour
    rw [settled (by simp [Feature.isConsumer, contour]) .underlyingDepthArea
      (Linking.underlyingDepthArea? neighbours consumer) (by simp [Linking.links, contour]), ← near]
    refine isOptimum_underlyingDepthArea? identified regular found ?_ (by simp) ?_
    · rw [Linking.contourDepth?, if_pos contour]
    · simp [Feature.isDepthArea, depthAreaClasses, contour]
  · rintro ⟨edge, line⟩
    rw [settled (by simp [Feature.isConsumer, edge, line]) .underlyingDepthArea
      (Linking.underlyingDepthArea? neighbours consumer) (by simp [Linking.links, edge]), ← near]
    refine isOptimum_underlyingDepthArea? identified regular found ?_ (by simp) ?_
    · rw [Linking.contourDepth?, if_neg (by simp [edge])]
    · simp [Feature.isDepthArea, line]

/-- Of three areas around a wreck, given by their corners in whatever order, two start equally shallow: the
wreck is linked to the first of them. -/
theorem resolveCell_optimal_wreck :
    let area (near far : Float) (start : String) : Feature Float :=
      { (Feature.plain "DEPARE" .area).setAttribute "DRVAL1" start with
        extent := .spanning near far far near }
    let wreck : Feature Float := { (Feature.plain "WRECKS" .point) with extent := .point 2.0 2.0 }
    let chart : Chart Float :=
      [wreck, area 0.0 4.0 "10", area 2.0 1.0 "5", area 1.0 3.0 "5.0"].foldl Chart.insert .empty
    chart.Identified ∧ chart.RegularCell 0 ∧
      ∃ resolved, (chart.resolveCell 0).1.find? 1 = some resolved ∧
      resolved.link? .leastDepthArea = some 3 ∧
      IsOptimum (fun feature depth =>
          chart.NearArea { wreck with id := 1 } feature ∧ feature.number? "DRVAL1" = some depth)
        (fun depth record => depth ≤ record) (some 3) := by
  intro area wreck chart
  have identified : chart.Identified := Identified.empty.insertAll _
  have found : chart.find? 1 = some { wreck with id := 1 } := rfl
  have listed : chart.cellFeatures 0 =
      [{ wreck with id := 1 }, { area 0.0 4.0 "10" with id := 2 }, { area 2.0 1.0 "5" with id := 3 },
        { area 1.0 3.0 "5.0" with id := 4 }] := rfl
  have spanned : ∀ near far : Float, near.isFinite = true → far.isFinite = true →
      ∀ start id, Extent.IsSpanned { area near far start with id := id }.extent :=
    fun near far one other _ _ => ⟨near, far, far, near, ⟨one, other⟩, ⟨other, one⟩, rfl⟩
  have depths : ∀ feature ∈ chart.cellFeatures 0, ∀ name ∈ ["DRVAL1", "DRVAL2", "VALDCO"],
      (feature.number? name).all (fun depth => !depth.isNaN) = true := by
    rw [listed]
    decide +kernel
  have regular : chart.RegularCell 0 := by
    refine ⟨?_, fun feature member name known depth read => ?_⟩
    · rw [listed]
      simp only [List.forall_mem_cons, List.not_mem_nil, false_imp_iff, implies_true, and_true]
      refine ⟨⟨2.0, 2.0, 2.0, 2.0, by decide +kernel, by decide +kernel, rfl⟩, ?_, ?_, ?_⟩
      · exact spanned 0.0 4.0 (by decide +kernel) (by decide +kernel) "10" 2
      · exact spanned 2.0 1.0 (by decide +kernel) (by decide +kernel) "5" 3
      · exact spanned 1.0 3.0 (by decide +kernel) (by decide +kernel) "5.0" 4
    · have defined := depths feature member name known
      rw [read] at defined
      simpa using defined
  obtain ⟨resolved, kept, -, -, best, -⟩ := resolveCell_optimal identified found regular
  have linked : ((chart.resolveCell 0).1.find? 1).bind (·.link? .leastDepthArea) = some 3 := by
    decide +kernel
  have leads : resolved.link? .leastDepthArea = some 3 := by
    rw [← linked]
    exact (congrArg (Option.bind · (·.link? .leastDepthArea)) kept).symm
  refine ⟨identified, regular, resolved, kept, leads, ?_⟩
  rw [← leads]
  exact best (by decide)

end Chart

end ChartPortrayal
