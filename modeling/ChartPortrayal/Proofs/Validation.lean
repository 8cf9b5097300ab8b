import ChartPortrayal.Portrayal.Slot
import ChartPortrayal.Proofs.Chart.Lookup
import ChartPortrayal.Proofs.Compilation

namespace ChartPortrayal

variable {α : Type} [Quantity α]

namespace Rule

theorem rule_challenge (feature : Feature α) (best : Selection) (index : Nat) (rule : Rule) :
    (challenge feature best index rule).rule = best.rule ∨
      (challenge feature best index rule).rule = rule := by
  unfold challenge
  split
  · split
    · exact .inr rfl
    · exact .inl rfl
  · exact .inl rfl

theorem rule_scanCandidates (feature : Feature α) (best : Selection) (index : Nat) (rest : List Rule) :
    (scanCandidates feature best index rest).rule ∈ best.rule :: rest := by
  induction rest generalizing best index with
  | nil => exact List.mem_cons_self
  | cons rule following ih =>
    have later := ih (challenge feature best index rule) (index + 1)
    rw [scanCandidates]
    rcases List.mem_cons.mp later with same | member
    · rw [same]
      rcases rule_challenge feature best index rule with kept | taken
      · simp [kept]
      · simp [taken]
    · exact List.mem_cons_of_mem _ (List.mem_cons_of_mem _ member)

/-- What is selected is one of the candidates. -/
theorem mem_of_select? {candidates : List Rule} {feature : Feature α} {selection : Selection}
    (selected : select? candidates feature = some selection) : selection.rule ∈ candidates := by
  cases candidates with
  | nil => cases selected
  | cons rule rest =>
    rw [select?_cons] at selected
    cases selected
    split
    · exact List.mem_cons_self
    · exact rule_scanCandidates feature _ 1 rest

end Rule

namespace Library

variable {library : Library α}

theorem compileRule_of_firstRuleError {rules : List Rule} {index : Nat}
    (valid : library.firstRuleError index rules = .ok ()) {rule : Rule} (member : rule ∈ rules) :
    ∃ place commands, library.compileRule rule place = .ok commands := by
  induction rules generalizing index with
  | nil => cases member
  | cons first rest ih =>
    rw [firstRuleError] at valid
    cases compiled : library.compileRule first index with
    | error error => simp [compiled] at valid
    | ok commands =>
      rcases List.mem_cons.mp member with rfl | later
      · exact ⟨index, commands, compiled⟩
      · exact ih (by simpa [compiled] using valid) later

theorem firstRuleError_of_validate {buckets : List (List Rule)}
    (valid : buckets.forM (library.firstRuleError 0) = .ok ()) {rules : List Rule}
    (member : rules ∈ buckets) : library.firstRuleError 0 rules = .ok () := by
  induction buckets with
  | nil => cases member
  | cons first rest ih =>
    have opened : (library.firstRuleError 0 first >>= fun _ => rest.forM (library.firstRuleError 0)) =
        .ok () := valid
    cases checked : library.firstRuleError 0 first with
    | error error =>
      rw [checked] at opened
      cases opened
    | ok done =>
      rw [checked] at opened
      rcases List.mem_cons.mp member with rfl | later
      · exact checked
      · exact ih opened later

/-- Every rule of a validated library compiles, and under whatever index. -/
theorem compileRule_of_validate (valid : library.validate = .ok ()) {table : Table} {className : String}
    {rule : Rule} (member : rule ∈ library.candidates table className) :
    ∃ commands, ∀ index, library.compileRule rule index = .ok commands := by
  rw [candidates] at member
  cases found : library.rules.find? (table, className) with
  | none =>
    rw [found] at member
    cases member
  | some rules =>
    rw [found, Option.getD_some] at member
    have bucket := (library.rules.mem_values_iff rules).mpr ⟨_, found⟩
    obtain ⟨place, commands, compiled⟩ :=
      compileRule_of_firstRuleError (firstRuleError_of_validate valid bucket) member
    exact ⟨commands, fun index => compileRule_ok.mpr (compileRule_ok.mp compiled)⟩

/-- The placeholder rule compiles in every library, and calls nothing. -/
theorem compileRule_placeholder (library : Library α) (className : String) (geometry : Geometry)
    (table : Table) :
    ∃ commands, ∀ index,
      library.compileRule (placeholderRule className geometry table) index = .ok commands := by
  have static : ∀ directive ∈ Directive.tokenize (placeholderRule className geometry table).instruction,
      ¬ directive.IsCall := by
    cases geometry with
    | point =>
      change ∀ directive ∈ Directive.tokenize "SY(QUESMRK1)", ¬ directive.IsCall
      decide +kernel
    | line =>
      change ∀ directive ∈ Directive.tokenize "LC(QUESMRK1)", ¬ directive.IsCall
      decide +kernel
    | area =>
      change ∀ directive ∈ Directive.tokenize "AP(QUESMRK1);LS(DASH,1,CHMGD)", ¬ directive.IsCall
      decide +kernel
  obtain ⟨commands, compiled⟩ := library.exists_bindAll_of_static static
  have calls := callCount_eq_zero.mpr (bindAll_static static compiled)
  exact ⟨commands, fun index => compileRule_ok.mpr ⟨compiled, by omega⟩⟩

end Library

/-- In a validated library the rule that is chosen for a feature compiles, whatever the feature is. -/
theorem Scene.compileRule_choose {scene : Scene α} (valid : scene.library.validate = .ok ())
    (feature : Feature α) (variant : Variant) :
    ∃ commands, ∀ index,
      scene.library.compileRule (scene.choose feature variant).rule index = .ok commands := by
  unfold choose
  dsimp only
  split
  · next selection selected =>
    exact Library.compileRule_of_validate valid (Rule.mem_of_select? selected)
  · exact Library.compileRule_placeholder _ _ _ _

end ChartPortrayal
