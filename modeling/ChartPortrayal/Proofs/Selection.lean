import ChartPortrayal.Rule.Selection

/-! Selection is the last maximum. A scan of the candidates keeps the best rule so far: the last one with the
highest score among those that were scanned, or the default as long as none of them scored. -/

namespace ChartPortrayal

/-- The better of two selections is the one with the higher score, and the later one of equals. -/
def Selection.Outlasts (best other : Selection) : Prop :=
  other.score < best.score ∨ other.score = best.score ∧ other.index ≤ best.index

namespace Rule

variable {α : Type} [Quantity α]

/-- A rule after the default that accepts a feature, with its place and the constraints that it satisfies. -/
structure Contends (candidates : List Rule) (feature : Feature α) (selection : Selection) : Prop where
  later : 0 < selection.index
  listed : candidates[selection.index]? = some selection.rule
  accepted : selection.rule.evaluate? feature = some selection.matched

/-- The default stands for a route leg that does not say which kind it is, and where no other rule scores. -/
def DefaultStands (candidates : List Rule) (feature : Feature α) : Prop :=
  feature.className = "leglin" ∧ feature.attribute? "select" = none ∨
    ∀ selection, Contends candidates feature selection → selection.score = 0

omit [Quantity α] in
theorem isUndecidedLeg_iff {feature : Feature α} :
    isUndecidedLeg feature = true ↔
      feature.className = "leglin" ∧ feature.attribute? "select" = none := by
  simp [isUndecidedLeg, routeLegClass, routeLegAttribute]

/-- A list of constraints accepts a feature unless one of them rejects it, and what is satisfied stands in the
order of the list. -/
theorem satisfiedConstraints?_eq_some {feature : Feature α} {constraints matched : List Constraint} :
    satisfiedConstraints? feature constraints = some matched ↔
      (∀ constraint ∈ constraints, constraint.verdict feature ≠ .rejected) ∧
        matched = constraints.filter (fun constraint => constraint.verdict feature = .satisfied) := by
  induction constraints generalizing matched with
  | nil => simp [satisfiedConstraints?, eq_comm]
  | cons constraint rest ih =>
    rw [satisfiedConstraints?, List.forall_mem_cons]
    cases verdict : constraint.verdict feature with
    | satisfied =>
      simp only [Option.map_eq_some_iff, ih, verdict, decide_true, List.filter_cons_of_pos]
      constructor
      · rintro ⟨others, ⟨accepted, rfl⟩, rfl⟩
        exact ⟨⟨by decide, accepted⟩, rfl⟩
      · rintro ⟨⟨-, accepted⟩, rfl⟩
        exact ⟨_, ⟨accepted, rfl⟩, rfl⟩
    | silent => simp [ih, verdict]
    | rejected => simp

section Scan

/-- The best of some selections: the last one with the highest score, or the default where none scores. -/
structure Leads (contends : Selection → Prop) (default best : Selection) : Prop where
  chosen : best = default ∨ contends best ∧ 0 < best.score
  unbeaten : ∀ other, contends other → 0 < other.score → best.Outlasts other

theorem Leads.congr {contends others : Selection → Prop} {default best : Selection}
    (leads : Leads contends default best) (same : ∀ other, contends other ↔ others other) :
    Leads others default best := by
  have equal : contends = others := funext (fun other => propext (same other))
  rwa [← equal]

variable {feature : Feature α} {contends : Selection → Prop} {default best : Selection}

/-- A challenge keeps the best of what was seen and of the rule that comes after. -/
theorem Leads.challenge (leads : Leads contends default best) {index : Nat}
    (earlier : ∀ other, contends other → other.index < index) (rule : Rule) :
    Leads (fun other => contends other ∨
        other.index = index ∧ other.rule = rule ∧ rule.evaluate? feature = some other.matched)
      default (challenge feature best index rule) := by
  unfold Rule.challenge
  cases evaluated : rule.evaluate? feature with
  | none =>
    refine leads.congr (fun other => ?_)
    simp
  | some matched =>
    dsimp only
    split
    · next wins =>
      obtain ⟨some, notWorse⟩ := wins
      have scores : 0 < matched.length := List.length_pos_iff.mpr some
      refine ⟨.inr ⟨.inr ⟨rfl, rfl, rfl⟩, scores⟩, ?_⟩
      rintro other (before | ⟨place, -, same⟩) positive
      · have placed := earlier other before
        rcases leads.unbeaten other before positive with less | ⟨equal, -⟩
        · exact .inl (Nat.lt_of_lt_of_le less notWorse)
        · rcases Nat.lt_or_eq_of_le notWorse with more | tie
          · exact .inl (equal ▸ more)
          · exact .inr ⟨equal.trans tie, Nat.le_of_lt placed⟩
      · cases same
        exact .inr ⟨rfl, Nat.le_of_eq place⟩
    · next loses =>
      refine ⟨leads.chosen.imp_right (fun kept => ⟨.inl kept.1, kept.2⟩), ?_⟩
      rintro other (before | ⟨-, -, same⟩) positive
      · exact leads.unbeaten other before positive
      · cases same
        have some : other.matched ≠ [] := List.length_pos_iff.mp positive
        exact .inl (Nat.lt_of_not_le (fun notWorse => loses ⟨some, notWorse⟩))

/-- A scan keeps the best of what was seen and of all the rules that come after. -/
theorem Leads.scan (leads : Leads contends default best) {index : Nat}
    (earlier : ∀ other, contends other → other.index < index) (rest : List Rule) :
    Leads (fun other => contends other ∨
        ∃ place, other.index = index + place ∧ rest[place]? = some other.rule ∧
          other.rule.evaluate? feature = some other.matched)
      default (scanCandidates feature best index rest) := by
  induction rest generalizing contends best index with
  | nil =>
    refine leads.congr (fun other => ?_)
    simp
  | cons rule following ih =>
    rw [scanCandidates]
    refine (ih (leads.challenge earlier rule) ?_).congr (fun other => ?_)
    · rintro other (before | ⟨place, -⟩)
      · exact Nat.lt_succ_of_lt (earlier other before)
      · exact Nat.lt_succ_of_le (Nat.le_of_eq place)
    · rw [or_assoc]
      refine or_congr_right ⟨?_, ?_⟩
      · rintro (⟨place, rfl, evaluated⟩ | ⟨place, further, listed, evaluated⟩)
        · exact ⟨0, place, rfl, evaluated⟩
        · exact ⟨place + 1, by omega, listed, evaluated⟩
      · rintro ⟨_ | place, further, listed, evaluated⟩
        · cases listed
          exact .inl ⟨further, rfl, evaluated⟩
        · exact .inr ⟨place, by omega, listed, evaluated⟩

end Scan

theorem contends_cons_iff {rule : Rule} {rest : List Rule} {feature : Feature α} {selection : Selection} :
    Contends (rule :: rest) feature selection ↔
      ∃ place, selection.index = 1 + place ∧ rest[place]? = some selection.rule ∧
        selection.rule.evaluate? feature = some selection.matched := by
  constructor
  · rintro ⟨later, listed, accepted⟩
    obtain ⟨place, same⟩ : ∃ place, selection.index = place + 1 := ⟨selection.index - 1, by omega⟩
    rw [same, List.getElem?_cons_succ] at listed
    exact ⟨place, by omega, listed, accepted⟩
  · rintro ⟨place, same, listed, accepted⟩
    refine ⟨by omega, ?_, accepted⟩
    rw [same, Nat.add_comm, List.getElem?_cons_succ, listed]

theorem leads_scanCandidates (rule : Rule) (rest : List Rule) (feature : Feature α) :
    Leads (Contends (rule :: rest) feature) (.ofDefault rule)
      (scanCandidates feature (.ofDefault rule) 1 rest) := by
  have start : Leads (fun _ => False) (.ofDefault rule) (.ofDefault rule) :=
    ⟨.inl rfl, fun _ seen => seen.elim⟩
  refine (start.scan (fun _ seen => seen.elim) rest).congr (fun other => ?_)
  rw [false_or, contends_cons_iff]

/-- The best of the contenders is selected, unless the default stands. -/
theorem select?_cons_cases (rule : Rule) (rest : List Rule) (feature : Feature α) :
    DefaultStands (rule :: rest) feature ∧
        select? (rule :: rest) feature = some (.ofDefault rule) ∨
      ¬ DefaultStands (rule :: rest) feature ∧ ∃ selection,
        select? (rule :: rest) feature = some selection ∧
          Contends (rule :: rest) feature selection ∧ 0 < selection.score ∧
          ∀ other, Contends (rule :: rest) feature other → selection.Outlasts other := by
  rw [select?_cons]
  cases leg : isUndecidedLeg feature with
  | true => exact .inl ⟨.inl (isUndecidedLeg_iff.mp leg), rfl⟩
  | false =>
    obtain ⟨chosen, unbeaten⟩ := leads_scanCandidates rule rest feature
    simp only [Bool.false_eq_true, ↓reduceIte]
    generalize scanCandidates feature (.ofDefault rule) 1 rest = best at chosen unbeaten
    rcases chosen with rfl | ⟨contends, scores⟩
    · refine .inl ⟨.inr (fun other accepted => ?_), rfl⟩
      apply Nat.eq_zero_of_not_pos
      intro scores
      -- the default scores nothing, so it outlasts nothing that does
      rcases unbeaten other accepted scores with less | ⟨equal, -⟩
      · exact Nat.not_lt_zero _ less
      · exact Nat.ne_of_gt scores equal
    · refine .inr ⟨?_, best, rfl, contends, scores, fun other accepted => ?_⟩
      · rintro (undecided | unscored)
        · rw [isUndecidedLeg_iff.mpr undecided] at leg
          cases leg
        · exact Nat.ne_of_gt scores (unscored best contends)
      · rcases Nat.eq_zero_or_pos other.score with nothing | positive
        · exact .inl (nothing ▸ scores)
        · exact unbeaten other accepted positive

/-- Two contenders that outlast each other are the same. -/
theorem Contends.eq_of_outlasts {candidates : List Rule} {feature : Feature α} {first second : Selection}
    (one : Contends candidates feature first) (other : Contends candidates feature second)
    (forth : first.Outlasts second) (back : second.Outlasts first) : first = second := by
  have places : first.index = second.index := by
    rcases forth with less | ⟨equal, ahead⟩ <;> rcases back with more | ⟨same, behind⟩ <;> omega
  have rules : first.rule = second.rule := by
    have listed := one.listed
    rw [places, other.listed] at listed
    exact (Option.some.inj listed).symm
  have matched : first.matched = second.matched := by
    have accepted := one.accepted
    rw [rules, other.accepted] at accepted
    exact (Option.some.inj accepted).symm
  cases first
  cases second
  simp_all

/-- The contenders are the same whatever the default is. -/
theorem contends_default_iff (default rule : Rule) (rest : List Rule) (feature : Feature α)
    (selection : Selection) :
    Contends (default :: rest) feature selection ↔ Contends (rule :: rest) feature selection := by
  rw [contends_cons_iff, contends_cons_iff]

/-- A selection with another default. -/
theorem select?_default (default rule : Rule) (rest : List Rule) (feature : Feature α) :
    select? (default :: rest) feature = (select? (rule :: rest) feature).map (fun selection =>
      if selection.isDefault then .ofDefault default else selection) := by
  have same : Contends (default :: rest) feature = Contends (rule :: rest) feature :=
    funext (fun selection => propext (contends_default_iff default rule rest feature selection))
  have stands : DefaultStands (default :: rest) feature ↔ DefaultStands (rule :: rest) feature := by
    rw [DefaultStands, same, DefaultStands]
  rcases select?_cons_cases default rest feature with ⟨stood, here⟩ | ⟨other, first, here, one, -, best⟩
  · rcases select?_cons_cases rule rest feature with ⟨-, there⟩ | ⟨other, -⟩
    · rw [here, there]
      rfl
    · exact absurd (stands.mp stood) other
  · rcases select?_cons_cases rule rest feature with ⟨stood, -⟩ | ⟨-, second, there, two, -, better⟩
    · exact absurd (stands.mpr stood) other
    · rw [same] at one best
      cases one.eq_of_outlasts two (best second two) (better first one)
      have later : first.isDefault = false := by simp [Selection.isDefault, Nat.ne_of_gt one.later]
      rw [here, there, Option.map_some, later]
      rfl

/-- Nothing is selected among no candidates. Of candidates the default is selected where it stands, and else
the last of the rules after it that have the highest score among all that accept the feature, with the
constraints that it satisfies, in their order. What the default asks for does not matter, and a lone candidate
is what a scan would come to. -/
theorem selected_last_maximum (feature : Feature α) :
    (∀ candidates, select? candidates feature = none ↔ candidates = []) ∧
    ∀ rule rest,
      (DefaultStands (rule :: rest) feature →
        select? (rule :: rest) feature = some (.ofDefault rule)) ∧
      (¬ DefaultStands (rule :: rest) feature → ∃ selection,
        select? (rule :: rest) feature = some selection ∧
          Contends (rule :: rest) feature selection ∧ 0 < selection.score ∧
          (∀ other, Contends (rule :: rest) feature other → selection.Outlasts other) ∧
          selection.matched = selection.rule.constraints.filter
            (fun constraint => constraint.verdict feature = .satisfied)) ∧
      (∀ constraints, select? ({ rule with constraints } :: rest) feature =
        (select? (rule :: rest) feature).map (fun selection =>
          if selection.isDefault then .ofDefault { rule with constraints } else selection)) ∧
      (rest = [] → select? (rule :: rest) feature =
        some (scanCandidates feature (.ofDefault rule) 1 rest)) := by
  refine ⟨fun candidates => ?_, fun rule rest => ⟨fun stands => ?_, fun falls => ?_, fun constraints => ?_,
    fun alone => ?_⟩⟩
  · cases candidates with
    | nil => simp [select?]
    | cons rule rest => simp [select?_cons]
  · rcases select?_cons_cases rule rest feature with ⟨-, selected⟩ | ⟨other, -⟩
    · exact selected
    · exact absurd stands other
  · rcases select?_cons_cases rule rest feature with ⟨stands, -⟩ | ⟨-, selection, selected, contends, rest⟩
    · exact absurd stands falls
    · exact ⟨selection, selected, contends, rest.1, rest.2,
        (satisfiedConstraints?_eq_some.mp contends.accepted).2⟩
  · exact select?_default { rule with constraints } rule rest feature
  · subst alone
    rw [select?_cons, scanCandidates]
    split <;> rfl

/-- Of four rules for a buoy, the two in the middle score alike and the last one rejects it: the second of
the equals is selected. -/
theorem selected_last_maximum_colour :
    let buoy : Feature Float :=
      ((Feature.plain "BOYLAT" .point).setAttribute "COLOUR" "3").setAttribute "CATLAM" "1"
    let asking (recordId : UInt32) (constraints : List Constraint) : Rule :=
      { Rule.plain "BOYLAT" .simplifiedPoints "SY(BOYLAT01)" .standard with constraints, recordId }
    let rest : List Rule :=
      [asking 2 [⟨"COLOUR", .equals "3"⟩], asking 3 [⟨"BOYSHP", .anyValue⟩, ⟨"CATLAM", .anyValue⟩],
        asking 4 [⟨"COLOUR", .anyValue⟩, ⟨"CATLAM", .equals "2"⟩]]
    ¬ DefaultStands (asking 1 [] :: rest) buoy ∧ ∃ selection,
      select? (asking 1 [] :: rest) buoy = some selection ∧ selection.index = 2 ∧
        selection.matched = [⟨"CATLAM", .anyValue⟩] ∧
        ∀ other, Contends (asking 1 [] :: rest) buoy other → selection.Outlasts other := by
  intro buoy asking rest
  have selected : select? (asking 1 [] :: rest) buoy =
      some ⟨asking 3 [⟨"BOYSHP", .anyValue⟩, ⟨"CATLAM", .anyValue⟩], 2, [⟨"CATLAM", .anyValue⟩]⟩ := by
    decide +kernel
  have falls : ¬ DefaultStands (asking 1 [] :: rest) buoy := by
    rintro (⟨leg, -⟩ | unscored)
    · exact absurd leg (by decide)
    · have scores := unscored ⟨_, 2, [⟨"CATLAM", .anyValue⟩]⟩ ⟨by decide, rfl, by decide +kernel⟩
      exact absurd scores (by decide)
  obtain ⟨selection, found, -, -, best, -⟩ :=
    ((selected_last_maximum buoy).2 (asking 1 []) rest).2.1 falls
  cases selected.symm.trans found
  exact ⟨falls, _, selected, rfl, rfl, best⟩

end Rule

end ChartPortrayal
