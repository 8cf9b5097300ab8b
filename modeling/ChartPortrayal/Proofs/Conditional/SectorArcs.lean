import Mathlib
import ChartPortrayal.Proofs.Conditional.Written

/-! The arcs of lights with sectors. Bearings are taken modulo a full circle, so that a sector is a closed arc
of the circle. Of two lights at one place, the one that sweeps all bearings of the other, and more, has the
greater arc. The other light may be one that is seen all round. Its bearings then still count as the ends of
an arc, though it is seen beyond them. -/

namespace ChartPortrayal.Light

open Text (isWord)

deriving instance DecidableEq for Sector

/-- The angle between bearings is the one below a full circle that leads from one to the other, whole turns
aside. -/
theorem sweepBetween_eq_iff {start finish angle : Rat} :
    sweepBetween start finish = angle ↔
      (0 ≤ angle ∧ angle < 360) ∧ ∃ turns : Int, finish = start + angle + turns * 360 := by
  have circle : (0 : Rat) < 360 := by norm_num
  have reduced : sweepBetween start finish = toIcoMod circle 0 (finish - start) := by
    have degrees : (360.0 : Rat) = 360 := by norm_num
    have remainder : sweepBetween start finish =
        (finish - start) - 360.0 * ⌊(finish - start) / 360.0⌋ := rfl
    rw [remainder, degrees, toIcoMod, toIcoDiv_eq_floor, sub_zero, zsmul_eq_mul, mul_comm]
  rw [reduced, toIcoMod_eq_iff, Set.mem_Ico, zero_add]
  simp only [zsmul_eq_mul, sub_eq_iff_eq_add', add_assoc]

theorem sweepBetween_spec (start finish : Rat) :
    (0 ≤ sweepBetween start finish ∧ sweepBetween start finish < 360) ∧
      ∃ turns : Int, finish = start + sweepBetween start finish + turns * 360 :=
  sweepBetween_eq_iff.mp rfl

theorem sweepBetween_eq_zero_comm {first second : Rat} (same : sweepBetween first second = 0) :
    sweepBetween second first = 0 := by
  obtain ⟨range, turns, reached⟩ := sweepBetween_eq_iff.mp same
  refine sweepBetween_eq_iff.mpr ⟨range, -turns, ?_⟩
  rw [reached]
  push_cast
  ring

namespace Sector

/-- The closed arc from one bearing of a sector to the other. -/
def swept (sector : Sector Rat) : Set Rat :=
  {bearing | ∃ (angle : Rat) (turns : Int), 0 ≤ angle ∧ angle ≤ sector.sweep ∧
    bearing = sector.start + angle + turns * 360}

/-- The bearings at which a light with a sector is seen: all of them where it shines all round. -/
def lit (sector : Sector Rat) : Set Rat :=
  {bearing | isAllRound sector.sweep = true ∨ bearing ∈ sector.swept}

theorem sweep_lt (sector : Sector Rat) : sector.sweep < 360 := (sweepBetween_spec ..).1.2

theorem mem_swept_iff {sector : Sector Rat} {angle : Rat} (forward : 0 ≤ angle) (within : angle < 360)
    (turns : Int) :
    sector.start + angle + turns * 360 ∈ sector.swept ↔ angle ≤ sector.sweep := by
  refine ⟨?_, fun reached => ⟨angle, turns, forward, reached, rfl⟩⟩
  rintro ⟨other, more, ahead, reached, same⟩
  have one : sweepBetween sector.start (sector.start + angle + turns * 360) = angle :=
    sweepBetween_eq_iff.mpr ⟨⟨forward, within⟩, turns, rfl⟩
  have two : sweepBetween sector.start (sector.start + angle + turns * 360) = other :=
    sweepBetween_eq_iff.mpr ⟨⟨ahead, reached.trans_lt sector.sweep_lt⟩, more, same⟩
  rwa [← one, two]

/-- A bearing at an angle from the start of a sector, as it is seen from the start of another one. -/
theorem exists_seen (outer inner : Sector Rat) : ∃ turns : Int, ∀ angle,
    inner.start + angle = outer.start + (sweepBetween outer.start inner.start + angle) + turns * 360 := by
  obtain ⟨-, turns, starts⟩ := sweepBetween_spec outer.start inner.start
  refine ⟨turns, fun angle => ?_⟩
  generalize sweepBetween outer.start inner.start = offset at *
  rw [starts]
  ring

/-- The bearings of a sector, seen from the start of another one that sweeps them all. -/
theorem angle_le_of_subset {outer inner : Sector Rat} (inside : inner.swept ⊆ outer.swept) {angle : Rat}
    (forward : 0 ≤ angle) (covered : angle ≤ inner.sweep)
    (within : sweepBetween outer.start inner.start + angle < 360) :
    sweepBetween outer.start inner.start + angle ≤ outer.sweep := by
  obtain ⟨turns, seen⟩ := exists_seen outer inner
  have reached : inner.start + angle + (0 : Int) * 360 ∈ outer.swept :=
    inside ⟨angle, 0, forward, covered, rfl⟩
  rw [seen, Int.cast_zero, zero_mul, add_zero] at reached
  have ahead := (sweepBetween_spec outer.start inner.start).1.1
  exact (mem_swept_iff (add_nonneg ahead forward) within turns).mp reached

/-- An arc lies within another one exactly when it ends no later, seen from the start of the other one. -/
theorem swept_subset_iff (outer inner : Sector Rat) :
    inner.swept ⊆ outer.swept ↔ sweepBetween outer.start inner.start + inner.sweep ≤ outer.sweep := by
  have ahead := (sweepBetween_spec outer.start inner.start).1.1
  have bound := outer.sweep_lt
  constructor
  · intro inside
    by_contra beyond
    rw [not_le] at beyond
    have begins : sweepBetween outer.start inner.start + 0 ≤ outer.sweep :=
      angle_le_of_subset inside le_rfl (sweepBetween_spec ..).1.1 (by
        rw [add_zero]
        exact (sweepBetween_spec ..).1.2)
    -- a bearing of the inner arc past the end of the outer one, and short of its start
    let far := min (sweepBetween outer.start inner.start + inner.sweep) ((outer.sweep + 360) / 2)
    have past : outer.sweep < far := lt_min beyond (by linarith)
    have short : far < 360 := (min_le_right _ _).trans_lt (by linarith)
    have left : far ≤ sweepBetween outer.start inner.start + inner.sweep := min_le_left _ _
    have reached : sweepBetween outer.start inner.start + (far - sweepBetween outer.start inner.start) ≤
        outer.sweep :=
      angle_le_of_subset inside (by linarith) (by linarith) (by linarith)
    linarith
  · rintro reaches bearing ⟨angle, more, forward, within, rfl⟩
    obtain ⟨turns, seen⟩ := exists_seen outer inner
    refine ⟨_, turns + more, add_nonneg ahead forward, by linarith, ?_⟩
    rw [seen]
    push_cast
    ring

/-- A sector encloses another one exactly when it sweeps all bearings of the other one, and more. -/
theorem encloses_iff (outer inner : Sector Rat) :
    outer.encloses inner = true ↔ inner.swept ⊂ outer.swept := by
  have encloses : outer.encloses inner = true ↔
      sweepBetween outer.start inner.start + inner.sweep ≤ outer.sweep ∧ inner.sweep < outer.sweep := by
    simp [Sector.encloses]
  have ahead := (sweepBetween_spec outer.start inner.start).1.1
  have behind := (sweepBetween_spec inner.start outer.start).1.1
  rw [encloses, Set.ssubset_def, swept_subset_iff, swept_subset_iff, and_congr_right_iff]
  intro inside
  rw [not_le]
  constructor
  · intro lesser
    linarith
  · intro strict
    by_contra greater
    have same : sweepBetween outer.start inner.start = 0 := by linarith
    rw [sweepBetween_eq_zero_comm same] at strict
    linarith

theorem lit_of_not_allRound {sector : Sector Rat} (bounded : isAllRound sector.sweep = false) :
    sector.lit = sector.swept := by
  simp [lit, bounded]

theorem not_lit_ssubset_of_allRound {other : Sector Rat} (round : isAllRound other.sweep = true)
    (sector : Sector Rat) : ¬ other.lit ⊂ sector.lit := by
  have everywhere : other.lit = Set.univ := by simp [lit, round]
  rw [everywhere]
  exact fun strict => strict.2 (Set.subset_univ _)

theorem not_allRound_of_drawn? {feature : Feature Rat} {sector : Sector Rat}
    (drawn : drawn? feature = some sector) : isAllRound sector.sweep = false := by
  simpa using (Option.filter_eq_some_iff.mp drawn).2

end Sector

/-- The arcs that are drawn, as they are read. -/
def arcs (directives : List Directive) : List (SectorArc Rat) :=
  (directives.filter (fun directive => directive.tag = "CA")).map
    (fun directive => Parameters.sectorArc directive.parameters)

theorem parameters_arc (situation : Situation Rat) (sector : Sector Rat) {colour : String}
    (word : isWord colour = true) :
    (arc situation sector colour).parameters =
      ["OUTLW", "4", colour, "2", Quantity.plain sector.start, Quantity.plain sector.finish,
        Quantity.plain (arcRadius situation sector)] := by
  refine Directive.parameters_ofParameters "CA" (fun field member => Directive.isField_of_isWord ?_)
  simp only [List.mem_cons, List.not_mem_nil, or_false] at member
  rcases member with rfl | rfl | rfl | rfl | rfl | rfl | rfl
  case inr.inr.inl => exact word
  all_goals first | rfl | exact PlainWords.isWord_plain _

theorem radius_arc (situation : Situation Rat) (sector : Sector Rat) {colour : String}
    (word : isWord colour = true) :
    (Parameters.sectorArc (arc situation sector colour).parameters : SectorArc Rat).radius =
      if isOuter situation sector then 25 else 20 := by
  rw [parameters_arc situation sector word]
  change ((((some (Quantity.plain (arcRadius situation sector))).filter (· != "")).map
    Directive.unquote).bind Quantity.read?).getD (20.0 : Rat) = _
  rw [arcRadius]
  cases isOuter situation sector <;> decide +kernel

theorem arcs_descriptionText (situation : Situation Rat) : arcs (descriptionText situation) = [] := by
  unfold descriptionText
  dsimp only
  split <;> rfl

theorem compute_of_isBeam {situation : Situation Rat} (beams : isBeam situation.feature = true) :
    light.compute situation = some (.directives (beam situation)) := by
  simp only [isBeam, Bool.not_eq_true', Bool.or_eq_false_iff] at beams
  simp [light, Procedure.ofDirectives, beams]

/-- A light that is drawn as a sector has one arc. -/
theorem exists_arc {situation : Situation Rat} (beams : isBeam situation.feature = true)
    {sector : Sector Rat} (drawn : Sector.drawn? situation.feature = some sector) :
    ∃ directives arc, light.compute situation = some (.directives directives) ∧ arcs directives = [arc] ∧
      arc.radius = if isOuter situation sector then 25 else 20 := by
  let colour := (colourStyle (situation.feature.codes "COLOUR")).arc
  have word : isWord colour = true := (isWord_colourStyle _).2
  refine ⟨_, Parameters.sectorArc (arc situation sector colour).parameters, compute_of_isBeam beams, ?_,
    radius_arc situation sector word⟩
  have written : beam situation =
      [leg situation sector.start, leg situation sector.finish, arc situation sector colour] ++
        descriptionText situation := by rw [beam, drawn]
  rw [written, arcs, List.filter_append, List.map_append, ← arcs, ← arcs, arcs_descriptionText]
  rfl

theorem isOuter_iff {situation : Situation Rat} {neighbour : Feature Rat} {sector other : Sector Rat}
    (linked : situation.linked? .coLocatedLight = some neighbour)
    (bearings : Sector.ofFeature? neighbour = some other) :
    isOuter situation sector = true ↔ other.swept ⊂ sector.swept := by
  rw [isOuter, linked, Option.bind_some, bearings, Sector.encloses_iff]

/-- The arc of a light with a sector has the greater radius exactly when it sweeps all bearings between those
of the light at the same place, and more, and else it has the lesser one. These are the bearings at which the
other light is seen, unless that is seen all round. -/
theorem radius_of_coLocated {situation : Situation Rat} (beams : isBeam situation.feature = true)
    {sector other : Sector Rat} (drawn : Sector.drawn? situation.feature = some sector)
    {neighbour : Feature Rat} (linked : situation.linked? .coLocatedLight = some neighbour)
    (bearings : Sector.ofFeature? neighbour = some other) :
    ∃ directives arc, light.compute situation = some (.directives directives) ∧ arcs directives = [arc] ∧
      (arc.radius = 25 ↔ other.swept ⊂ sector.swept) ∧
      (arc.radius = 20 ↔ ¬ other.swept ⊂ sector.swept) ∧
      (isAllRound other.sweep = false → (other.swept ⊂ sector.swept ↔ other.lit ⊂ sector.lit)) ∧
      (isAllRound other.sweep = true → ¬ other.lit ⊂ sector.lit) := by
  obtain ⟨directives, arc, computed, alone, radius⟩ := exists_arc beams drawn
  have outer : isOuter situation sector = true ↔ other.swept ⊂ sector.swept := isOuter_iff linked bearings
  refine ⟨directives, arc, computed, alone, ?_, ?_, fun part => ?_, fun round => ?_⟩
  · rw [← outer, radius]
    cases isOuter situation sector <;> simp
  · rw [← outer, radius]
    cases isOuter situation sector <;> simp
  · rw [Sector.lit_of_not_allRound part, Sector.lit_of_not_allRound (Sector.not_allRound_of_drawn? drawn)]
  · exact Sector.not_lit_ssubset_of_allRound round sector

/-- A light that is seen from ten degrees before north has the greater arc beside one that is seen from five
degrees before north to the east. -/
theorem radius_of_coLocated_eastward :
    let neighbour : Feature Rat :=
      ((Feature.plain "LIGHTS" .point).setAttribute "SECTR1" "355").setAttribute "SECTR2" "450"
    let feature : Feature Rat := Chart.relink .coLocatedLight (some 1)
      (((Feature.plain "LIGHTS" .point).setAttribute "SECTR1" "-10").setAttribute "SECTR2" "200")
    let situation : Situation Rat :=
      ⟨{ feature with id := 2 }, (Chart.empty.insert neighbour).insert feature, .standard, .primary⟩
    Sector.lit ⟨355, 450⟩ ⊂ Sector.lit ⟨-10, 200⟩ ∧
      ∃ directives arc, light.compute situation = some (.directives directives) ∧ arcs directives = [arc] ∧
        arc.radius = 25 := by
  intro neighbour feature situation
  have drawn : Sector.drawn? situation.feature = some ⟨-10, 200⟩ := by decide +kernel
  have linked : situation.linked? .coLocatedLight = some { neighbour with id := 1 } := rfl
  have bearings : Sector.ofFeature? { neighbour with id := 1 } = some (⟨355, 450⟩ : Sector Rat) := by
    decide +kernel
  have within : Sector.swept ⟨355, 450⟩ ⊂ Sector.swept ⟨-10, 200⟩ :=
    (Sector.encloses_iff ⟨-10, 200⟩ ⟨355, 450⟩).mp (by decide +kernel)
  obtain ⟨directives, arc, computed, alone, greater, -, seen, -⟩ :=
    radius_of_coLocated (by decide +kernel) drawn linked bearings
  exact ⟨(seen (by decide +kernel)).mp within, directives, arc, computed, alone, greater.mpr within⟩

/-- A light that is seen over little more than half the horizon has the greater arc beside one that is seen
all round. -/
theorem not_radius_of_lit :
    ¬ ∀ (situation : Situation Rat) (sector other : Sector Rat) (neighbour : Feature Rat),
      isBeam situation.feature = true → Sector.drawn? situation.feature = some sector →
        situation.linked? .coLocatedLight = some neighbour → Sector.ofFeature? neighbour = some other →
          ∃ directives arc, light.compute situation = some (.directives directives) ∧
            arcs directives = [arc] ∧ (arc.radius = 25 ↔ other.lit ⊂ sector.lit) ∧
            (arc.radius = 20 ↔ ¬ other.lit ⊂ sector.lit) := by
  intro strict
  let neighbour : Feature Rat :=
    ((Feature.plain "LIGHTS" .point).setAttribute "SECTR1" "0").setAttribute "SECTR2" "360"
  let feature : Feature Rat := Chart.relink .coLocatedLight (some 1)
    (((Feature.plain "LIGHTS" .point).setAttribute "SECTR1" "350").setAttribute "SECTR2" "200")
  let situation : Situation Rat :=
    ⟨{ feature with id := 2 }, (Chart.empty.insert neighbour).insert feature, .standard, .primary⟩
  have beams : isBeam situation.feature = true := by decide +kernel
  have drawn : Sector.drawn? situation.feature = some ⟨350, 200⟩ := by decide +kernel
  obtain ⟨directives, arc, computed, alone, greater, -⟩ :=
    strict situation ⟨350, 200⟩ ⟨0, 360⟩ { neighbour with id := 1 } beams drawn rfl (by decide +kernel)
  obtain ⟨same, drawnArc, again, one, radius⟩ := exists_arc beams drawn
  cases computed.symm.trans again
  cases alone.symm.trans one
  have outer : isOuter situation ⟨350, 200⟩ = true := by decide +kernel
  rw [outer] at radius
  exact Sector.not_lit_ssubset_of_allRound (by decide +kernel) ⟨350, 200⟩ (greater.mp radius)

end ChartPortrayal.Light
