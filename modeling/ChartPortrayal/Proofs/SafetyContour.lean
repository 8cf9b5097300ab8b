import Mathlib.Data.Fin.VecNotation
import Mathlib.Data.Finset.Max
import Mathlib.Data.Fintype.Basic
import Mathlib.Data.Rat.Cast.Order
import Mathlib.Order.Fin.Basic
import Mathlib.Tactic.FinCases
import Mathlib.Tactic.Linarith
import ChartPortrayal.Conditional.Depth
import ChartPortrayal.Proofs.Chart.Assignment

/-! The safety contour among nested depth areas. Resolution links each contour to the area that ends at its
depth, without the datum offset; the choice of the safety contour then compares both ends of that area with
the offset. Together they draw one contour bold, the shallowest that is not above the safety contour. -/

namespace ChartPortrayal

/-- A depth area of a cell, with its range. -/
structure Feature.IsDepthBand (feature : Feature Rat) (cell : Nat) (upper lower : Rat) : Prop where
  cell : feature.cell = cell
  className : feature.className = "DEPARE"
  geometry : feature.geometry = .area
  upper : feature.number? "DRVAL1" = some upper
  lower : feature.number? "DRVAL2" = some lower

/-- A depth contour of a cell, with its depth. -/
structure Feature.IsContour (feature : Feature Rat) (cell : Nat) (depth : Rat) : Prop where
  cell : feature.cell = cell
  className : feature.className = "DEPCNT"
  depth : feature.number? "VALDCO" = some depth

/-- Depths that a cell charts from the shallowest to the deepest: a contour at each, an area between each
and the next, and no other depth area in the cell. -/
structure NestedDepths (chart : Chart Rat) (cell : Nat) {n : Nat} (depth : Fin (n + 1) → Rat)
    (area : Fin n → Nat) (contour : Fin (n + 1) → Nat) : Prop where
  ascending : StrictMono depth
  areas : ∀ i, ∃ feature, chart.find? (area i) = some feature ∧
    feature.IsDepthBand cell (depth i.castSucc) (depth i.succ)
  contours : ∀ i, ∃ feature, chart.find? (contour i) = some feature ∧ feature.IsContour cell (depth i)
  meeting : ∀ i j first second, chart.find? (area i) = some first →
    chart.find? (contour j) = some second → first.extent.intersects second.extent = true
  others : ∀ feature ∈ chart.cellFeatures cell, feature.isDepthArea = true → ∃ i, feature.id = area i

/-- The feature is drawn bold, in the colour of the safety contour. -/
def Depth.DrawnAsSafetyContour (chart : Chart Rat) (settings : Settings Rat) (variant : Variant)
    (id : Nat) : Prop :=
  ∃ feature, chart.find? id = some feature ∧ ∃ pattern label,
    Depth.depthContour.compute ⟨feature, chart, settings, variant⟩ =
      some (.directives (.simpleLine pattern 2 "DEPSC" ::
        .overridePriority ["--D13010", "NOSCAMIN"] :: label))

namespace NestedDepths

open Linking

variable {chart : Chart Rat} {cell n : Nat} {depth : Fin (n + 1) → Rat} {area : Fin n → Nat}
  {contour : Fin (n + 1) → Nat}

theorem deeper_asymm (first second : Rat) (beats : deeper first second = true) :
    deeper second first = false := by
  rw [deeper, decide_eq_true_eq] at beats
  rw [deeper, decide_eq_false_iff_not, not_lt]
  exact beats.le

theorem deeper_coarse (first second third : Rat) (one : deeper first second = false)
    (other : deeper second third = false) : deeper first third = false := by
  rw [deeper, decide_eq_false_iff_not, not_lt] at one other ⊢
  exact one.trans other

/-- An area counts for a contour exactly when it ends at the contour's depth or above it. -/
theorem underlyingRank?_area (nested : NestedDepths chart cell depth area contour)
    (identified : chart.Identified) {i : Fin n} {j : Fin (n + 1)} {first second : Feature Rat}
    (one : chart.find? (area i) = some first) (other : chart.find? (contour j) = some second) :
    underlyingRank? second (depth j) first =
      if i.succ ≤ j then some (depth i.succ) else none := by
  obtain ⟨feature, found, band⟩ := nested.areas i
  cases one.symm.trans found
  obtain ⟨feature, found, line⟩ := nested.contours j
  cases other.symm.trans found
  have kinds : first.isDepthArea = true := by
    simp [Feature.isDepthArea, depthAreaClasses, band.className, band.geometry]
  have apart : first.id ≠ second.id := by
    rw [identified.own _ _ one, identified.own _ _ other]
    intro same
    rw [same, other] at one
    cases one
    exact absurd (band.className.symm.trans line.className) (by decide)
  have tests : (first.isDepthArea && first.id != second.id &&
      first.extent.intersects second.extent) = true := by
    simp [kinds, apart, nested.meeting i j first second one other]
  rw [underlyingRank?, if_pos tests, band.lower, Option.filter_some]
  by_cases above : i.succ ≤ j
  · have ordered := nested.ascending.monotone above
    rw [if_pos above, if_pos]
    simpa using ordered
  · have ordered := nested.ascending (not_le.mp above)
    rw [if_neg above, if_neg]
    simpa using ordered

/-- Whatever counts for a contour is one of the areas. -/
theorem area_of_underlyingRank? (nested : NestedDepths chart cell depth area contour)
    (identified : chart.Identified) {j : Fin (n + 1)} {feature second : Feature Rat} {rank : Rat}
    (near : feature ∈ chart.cellFeatures cell) (other : chart.find? (contour j) = some second)
    (ranked : underlyingRank? second (depth j) feature = some rank) :
    ∃ i : Fin n, feature.id = area i ∧ i.succ ≤ j ∧ rank = depth i.succ := by
  have kind : feature.isDepthArea = true := by
    by_contra other
    simp [underlyingRank?, other] at ranked
  obtain ⟨i, same⟩ := nested.others feature near kind
  have found := ((identified.mem_cellFeatures cell feature).mp near).1
  rw [same] at found
  rw [nested.underlyingRank?_area identified found other] at ranked
  split at ranked
  · next above =>
    cases ranked
    exact ⟨i, same, above, rfl⟩
  · cases ranked

theorem underlyingDepthArea?_contour (nested : NestedDepths chart cell depth area contour)
    {j : Fin (n + 1)} {second : Feature Rat} (other : chart.find? (contour j) = some second) :
    underlyingDepthArea? (chart.cellFeatures cell) second =
      (firstBest deeper (underlyingRank? second (depth j)) none (chart.cellFeatures cell)).map (·.1.id) := by
  obtain ⟨feature, found, line⟩ := nested.contours j
  cases other.symm.trans found
  rw [underlyingDepthArea?_eq, contourDepth?, if_pos line.className, line.depth, Option.bind_some]

/-- No area lies above the shallowest contour. -/
theorem underlyingDepthArea?_zero (nested : NestedDepths chart cell depth area contour)
    (identified : chart.Identified) {second : Feature Rat}
    (other : chart.find? (contour 0) = some second) :
    underlyingDepthArea? (chart.cellFeatures cell) second = none := by
  rw [nested.underlyingDepthArea?_contour other, Option.map_eq_none_iff, firstBest_eq_none]
  refine ⟨rfl, fun feature near => ?_⟩
  cases ranked : underlyingRank? second (depth 0) feature with
  | none => rfl
  | some rank =>
    obtain ⟨i, -, above, -⟩ := nested.area_of_underlyingRank? identified near other ranked
    exact absurd above (not_le.mpr (Fin.succ_pos i))

/-- Under every other contour lies the area that ends at its depth. -/
theorem underlyingDepthArea?_succ (nested : NestedDepths chart cell depth area contour)
    (identified : chart.Identified) (i : Fin n) {second : Feature Rat}
    (other : chart.find? (contour i.succ) = some second) :
    underlyingDepthArea? (chart.cellFeatures cell) second = some (area i) := by
  obtain ⟨first, found, band⟩ := nested.areas i
  have near : first ∈ chart.cellFeatures cell := by
    rw [identified.mem_cellFeatures, identified.own _ _ found]
    exact ⟨found, band.cell⟩
  have rank : underlyingRank? second (depth i.succ) first = some (depth i.succ) := by
    rw [nested.underlyingRank?_area identified found other, if_pos le_rfl]
  rw [nested.underlyingDepthArea?_contour other]
  cases best : firstBest deeper (underlyingRank? second (depth i.succ)) none
      (chart.cellFeatures cell) with
  | none =>
    have unranked := ((firstBest_eq_none ..).mp best).2 first near
    rw [rank] at unranked
    cases unranked
  | some leader =>
    rcases firstBest_ranked best with before | ⟨member, leads⟩
    · cases before
    obtain ⟨k, same, above, record⟩ := nested.area_of_underlyingRank? identified member other leads
    -- The area that ends at the contour is not beaten, so the leader ends as deep.
    have unbeaten := (firstBest_unbeaten deeper_asymm deeper_coarse best).2 first near _ rank
    have ended : i.succ ≤ k.succ := by
      rw [record, deeper, decide_eq_false_iff_not, not_lt] at unbeaten
      exact nested.ascending.le_iff_le.mp unbeaten
    have equal : k = i := Fin.succ_inj.mp (le_antisymm above ended)
    rw [Option.map_some, same, equal]

theorem decided?_contour {feature : Feature Rat} (line : feature.className = "DEPCNT") :
    chart.decided? feature .underlyingDepthArea =
      some (underlyingDepthArea? (chart.cellFeatures feature.cell) feature) := by
  have consumer : feature.isConsumer = true := by simp [Feature.isConsumer, line]
  have links : links (chart.cellFeatures feature.cell) feature =
      [(.underlyingDepthArea, underlyingDepthArea? (chart.cellFeatures feature.cell) feature)] := by
    simp [Linking.links, line]
  rw [Chart.decided?, if_pos consumer, links]
  rfl

end NestedDepths

namespace Depth

/-- The depth at which the area on the shallow side of the situation's feature starts. -/
def underlyingStart? (situation : Situation Rat) : Option Rat :=
  (situation.linked? .underlyingDepthArea).bind (fun area => area.number? "DRVAL1")

theorem isSafetyContour_iff (situation : Situation Rat) (depth : Rat) :
    isSafetyContour situation depth = true ↔
      corrected situation.settings depth = situation.settings.safetyContour ∨
      situation.settings.safetyContour < corrected situation.settings depth ∧
        ∃ start, underlyingStart? situation = some start ∧
          corrected situation.settings start < situation.settings.safetyContour := by
  have equal : (corrected situation.settings depth == situation.settings.safetyContour) =
      decide (corrected situation.settings depth = situation.settings.safetyContour) := rfl
  rw [isSafetyContour, equal, ← underlyingStart?]
  rcases lt_trichotomy (corrected situation.settings depth) situation.settings.safetyContour with
    above | same | below
  · simp [above, above.ne, above.not_gt]
  · simp [same]
  · simp only [below.ne', below.not_gt, below, decide_false, Bool.false_eq_true, ↓reduceIte, false_or,
      true_and]
    cases underlyingStart? situation <;> simp

theorem drawnAsSafetyContour_iff {chart : Chart Rat} {settings : Settings Rat} {variant : Variant}
    {id cell : Nat} {feature : Feature Rat} {depth : Rat} (found : chart.find? id = some feature)
    (line : feature.IsContour cell depth) :
    DrawnAsSafetyContour chart settings variant id ↔
      isSafetyContour ⟨feature, chart, settings, variant⟩ depth = true := by
  have kind : feature.className ≠ "DEPARE" := by simp [line.className]
  have computed : depthContour.compute ⟨feature, chart, settings, variant⟩ =
      some (.directives (Depth.contour ⟨feature, chart, settings, variant⟩ depth)) := by
    simp [depthContour, Procedure.ofDirectives, kind, line.depth]
  constructor
  · rintro ⟨stored, present, pattern, label, drawn⟩
    cases found.symm.trans present
    by_contra other
    simp [computed, Depth.contour, other] at drawn
  · intro safety
    refine ⟨feature, found, ?_⟩
    rw [computed, Depth.contour, if_pos safety]
    exact ⟨_, _, rfl⟩

end Depth

namespace NestedDepths

variable {chart : Chart Rat} {cell n : Nat} {depth : Fin (n + 1) → Rat} {area : Fin n → Nat}
  {contour : Fin (n + 1) → Nat} {cells : List Nat}

/-- Once the cell is resolved, the contour's area starts at the depth before its own. -/
theorem underlyingStart?_resolved (nested : NestedDepths chart cell depth area contour)
    (identified : chart.Identified) (resolves : cell ∈ cells) (settings : Settings Rat)
    (variant : Variant) (i : Fin (n + 1)) :
    ∃ stored, (chart.resolveCells cells).1.find? (contour i) = some stored ∧
      stored.IsContour cell (depth i) ∧
      Depth.underlyingStart? ⟨stored, (chart.resolveCells cells).1, settings, variant⟩ =
        Fin.cases none (fun before => some (depth before.castSucc)) i := by
  obtain ⟨feature, found, line⟩ := nested.contours i
  have alike := Chart.bareAlike_resolveCells chart cells
  obtain ⟨stored, kept, same⟩ := alike.find? found
  have link := Chart.link?_resolveCells identified cells found kept .underlyingDepthArea
  rw [line.cell, if_pos resolves, decided?_contour line.className, Option.getD_some, line.cell] at link
  have lined : stored.IsContour cell (depth i) := by
    obtain ⟨own, className, number⟩ := line
    rw [Feature.eq_of_bare same]
    exact ⟨own, className, number⟩
  refine ⟨stored, kept, lined, ?_⟩
  rw [Depth.underlyingStart?, Situation.linked?, Chart.linked?, link]
  cases i using Fin.cases with
  | zero => rw [nested.underlyingDepthArea?_zero identified found]; rfl
  | succ before =>
    obtain ⟨first, present, band⟩ := nested.areas before
    obtain ⟨above, stands, bare⟩ := alike.find? present
    have upper : above.number? "DRVAL1" = some (depth before.castSucc) := by
      rw [Feature.eq_of_bare bare]
      exact band.upper
    rw [nested.underlyingDepthArea?_succ identified before found, Option.bind_some, stands,
      Option.bind_some, upper]
    rfl

/-- The contour drawn bold is the first that is not above the safety contour. -/
theorem drawn_iff_isLeast (nested : NestedDepths chart cell depth area contour)
    (identified : chart.Identified) (resolves : cell ∈ cells) (settings : Settings Rat)
    (variant : Variant) (reached : Depth.corrected settings (depth 0) ≤ settings.safetyContour)
    (i : Fin (n + 1)) :
    Depth.DrawnAsSafetyContour (chart.resolveCells cells).1 settings variant (contour i) ↔
      IsLeast {j | settings.safetyContour ≤ Depth.corrected settings (depth j)} i := by
  obtain ⟨stored, kept, line, start⟩ :=
    nested.underlyingStart?_resolved identified resolves settings variant i
  rw [Depth.drawnAsSafetyContour_iff kept line, Depth.isSafetyContour_iff, start]
  dsimp only
  have deeper : StrictMono (fun j => Depth.corrected settings (depth j)) := by
    intro j k less
    simpa [Depth.corrected] using nested.ascending less
  constructor
  · rintro (same | ⟨below, before, starts, above⟩)
    · exact ⟨same.ge, fun j deep => deeper.le_iff_le.mp (same.le.trans deep)⟩
    · refine ⟨below.le, fun j deep => ?_⟩
      cases i using Fin.cases with
      | zero => cases starts
      | succ before =>
        cases starts
        exact Fin.castSucc_lt_iff_succ_le.mp (deeper.lt_iff_lt.mp (lt_of_lt_of_le above deep))
  · rintro ⟨deep, least⟩
    have deep : settings.safetyContour ≤ Depth.corrected settings (depth i) := deep
    rcases deep.eq_or_lt with same | below
    · exact .inl same.symm
    · cases i using Fin.cases with
      | zero => exact absurd below (not_lt.mpr reached)
      | succ before =>
        -- the contour before this one is not deep enough, for it would come first
        refine .inr ⟨below, depth before.castSucc, rfl, ?_⟩
        by_contra shallow
        have first : before.succ ≤ before.castSucc := least (not_lt.mp shallow)
        exact absurd first (not_le.mpr Fin.castSucc_lt_succ)

/-- Among depths that are charted from the shallowest to the deepest, in whatever order their features were
inserted, one contour is drawn as the safety contour once links are resolved, in all cells or in this one:
the shallowest whose corrected depth is not above the safety contour. -/
theorem existsUnique_safetyContour {features : List (Feature Rat)} {cell n : Nat}
    {depth : Fin (n + 1) → Rat} {area : Fin n → Nat} {contour : Fin (n + 1) → Nat}
    (nested : NestedDepths (features.foldl Chart.insert .empty) cell depth area contour)
    {resolved : Chart Rat}
    (resolution : resolved = (features.foldl Chart.insert .empty).resolveAll.1 ∨
      resolved = ((features.foldl Chart.insert .empty).resolveCell cell).1)
    (settings : Settings Rat) (variant : Variant)
    (reached : Depth.corrected settings (depth 0) ≤ settings.safetyContour)
    (covered : settings.safetyContour ≤ Depth.corrected settings (depth (Fin.last n))) :
    (∃! i, Depth.DrawnAsSafetyContour resolved settings variant (contour i)) ∧
    ∀ i, Depth.DrawnAsSafetyContour resolved settings variant (contour i) ↔
      IsLeast {j | settings.safetyContour ≤ Depth.corrected settings (depth j)} i := by
  have identified : (features.foldl Chart.insert (.empty : Chart Rat)).Identified :=
    Chart.Identified.empty.insertAll features
  have drawn : ∀ i, Depth.DrawnAsSafetyContour resolved settings variant (contour i) ↔
      IsLeast {j | settings.safetyContour ≤ Depth.corrected settings (depth j)} i := by
    rcases resolution with rfl | rfl
    · obtain ⟨feature, found, line⟩ := nested.contours 0
      have within := (Chart.mem_cells _ cell).mpr ⟨contour 0, feature, found, line.cell⟩
      exact nested.drawn_iff_isLeast identified within settings variant reached
    · exact nested.drawn_iff_isLeast identified (List.mem_singleton_self cell) settings variant reached
  refine ⟨?_, drawn⟩
  have inhabited : (Finset.univ.filter (fun j : Fin (n + 1) =>
      settings.safetyContour ≤ Depth.corrected settings (depth j))).Nonempty :=
    ⟨Fin.last n, Finset.mem_filter.mpr ⟨Finset.mem_univ _, covered⟩⟩
  have least := Finset.isLeast_min' _ inhabited
  rw [Finset.coe_filter_univ] at least
  exact ⟨_, (drawn _).mpr least, fun other also => ((drawn other).mp also).unique least⟩

private def areaBetween (upper lower : String) : Feature Rat :=
  ((Feature.plain "DEPARE" .area).setAttribute "DRVAL1" upper).setAttribute "DRVAL2" lower

private def contourAt (depth : String) : Feature Rat :=
  (Feature.plain "DEPCNT" .line).setAttribute "VALDCO" depth

/-- Two areas and three contours, of which the deepest is the first below a safety contour of twelve
metres; they are inserted in no order. -/
theorem existsUnique_safetyContour_twelve :
    let features := [contourAt "10", areaBetween "10" "20", contourAt "20", contourAt "0",
      areaBetween "0" "10"]
    let chart := features.foldl Chart.insert (.empty : Chart Rat)
    let settings := { (Settings.standard : Settings Rat) with safetyContour := 12 }
    NestedDepths chart 0 ![0, 10, 20] ![5, 2] ![4, 1, 3] ∧
      (∃! i, Depth.DrawnAsSafetyContour chart.resolveAll.1 settings .primary (![4, 1, 3] i)) ∧
      Depth.DrawnAsSafetyContour chart.resolveAll.1 settings .primary 3 := by
  intro features chart settings
  have nested : NestedDepths chart 0 ![0, 10, 20] ![5, 2] ![4, 1, 3] := by
    refine ⟨by decide +kernel, ?_, ?_, ?_, by decide +kernel⟩
    · intro i
      fin_cases i <;> exact ⟨_, rfl, by constructor <;> decide +kernel⟩
    · intro i
      fin_cases i <;> exact ⟨_, rfl, by constructor <;> decide +kernel⟩
    · intro i j first second
      fin_cases i <;> fin_cases j <;> rintro ⟨⟩ ⟨⟩ <;> decide +kernel
  have unique := existsUnique_safetyContour nested (.inl rfl) settings .primary
    (by decide +kernel) (by decide +kernel)
  refine ⟨nested, unique.1, (unique.2 2).mpr ⟨by decide +kernel, ?_⟩⟩
  intro j
  fin_cases j <;> decide +kernel

end NestedDepths

end ChartPortrayal
