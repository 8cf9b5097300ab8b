import ChartPortrayal.Proofs.Overriding
import ChartPortrayal.Proofs.Refresh

namespace ChartPortrayal

variable {α : Type} [Quantity α]

namespace Scene

variable {scene : Scene α} {situation : Situation α}

/-- A command that is no call goes into the expansion as it is. -/
theorem expand_cons_static {expansion : Expansion α} {command : Command α} {rest : List (Command α)}
    (static : command.isConditional = false) :
    scene.expand situation expansion (command :: rest) =
      scene.expand situation { expansion with commands := expansion.commands ++ [command] } rest := by
  cases command <;> first | rfl | cases static

theorem expand_append_static {expansion : Expansion α} {commands rest : List (Command α)}
    (static : ∀ command ∈ commands, command.isConditional = false) :
    scene.expand situation expansion (commands ++ rest) =
      scene.expand situation { expansion with commands := expansion.commands ++ commands } rest := by
  induction commands generalizing expansion with
  | nil => simp
  | cons command following ih =>
    rw [List.cons_append, expand_cons_static (static command (by simp)),
      ih (fun other member => static other (by simp [member]))]
    simp

theorem expand_static {expansion : Expansion α} {commands : List (Command α)}
    (static : ∀ command ∈ commands, command.isConditional = false) :
    scene.expand situation expansion commands =
      .ok { expansion with commands := expansion.commands ++ commands } := by
  have appended : scene.expand situation expansion (commands ++ []) =
      scene.expand situation { expansion with commands := expansion.commands ++ commands } [] :=
    expand_append_static static
  simpa [expand] using appended

/-- An expanded call gives way to its fragment, and to nothing where the procedure may return nothing. -/
theorem expand_call {expansion result : Expansion α} {name : String} {procedure : Procedure α}
    {rest : List (Command α)} (static : ∀ command ∈ rest, command.isConditional = false)
    (expanded : scene.expand situation expansion (.callConditional name procedure :: rest) =
      .ok result) :
    match procedure.compute situation with
    | some fragment => ∃ middle priority,
        scene.library.compileFragment name fragment.text = .ok middle ∧
        applyOverrides expansion.priority middle = .ok priority ∧
        result = ⟨expansion.commands ++ middle ++ rest, priority, some name, some fragment.text⟩
    | none => procedure.alwaysReturns = false ∧
        result = { expansion with commands := expansion.commands ++ rest, procedure := some name } := by
  rw [expand] at expanded
  cases returned : procedure.compute situation with
  | some fragment =>
    simp only [returned] at expanded
    cases compiled : scene.library.compileFragment name fragment.text with
    | error error => simp [compiled] at expanded
    | ok middle =>
      simp only [compiled, expand_static static] at expanded
      cases applied : applyOverrides expansion.priority middle with
      | error error => simp [applied] at expanded
      | ok priority =>
        simp only [applied] at expanded
        exact ⟨middle, priority, compiled, applied, (Except.ok.inj expanded).symm⟩
  | none =>
    simp only [returned] at expanded
    cases always : procedure.alwaysReturns with
    | true => simp [always] at expanded
    | false =>
      simp only [always, Bool.false_eq_true, ↓reduceIte, expand_static static] at expanded
      exact ⟨rfl, (Except.ok.inj expanded).symm⟩

/-- A built slot comes from the commands of the chosen rule and their expansion. -/
theorem build_ok {feature : Feature α} {variant : Variant} {slot : Slot α}
    (built : scene.build feature variant = .ok slot) :
    let choice := scene.choose feature variant
    ∃ commands expansion,
      scene.library.compileRule choice.rule (choice.index.getD 0) = .ok commands ∧
      scene.expand (scene.situation feature variant) ⟨[], choice.rule.priority, none, none⟩ commands =
        .ok expansion ∧
      slot =
        { stamp := some (scene.stamp feature variant)
          commands := expansion.commands
          priority := expansion.priority
          binding := some
            { key := (scene.stamp feature variant).rule
              instruction := choice.rule.instruction
              matched := choice.matched.map Constraint.text
              procedure := expansion.procedure
              fragment := expansion.fragment }
          labels := none } := by
  intro choice
  rw [build] at built
  cases compiled : scene.library.compileRule choice.rule (choice.index.getD 0) with
  | error error => simp [choice, compiled] at built
  | ok commands =>
    cases expanded : scene.expand (scene.situation feature variant)
        ⟨[], choice.rule.priority, none, none⟩ commands with
    | error error => simp [choice, compiled, expanded] at built
    | ok expansion =>
      refine ⟨commands, expansion, rfl, expanded, ?_⟩
      simp only [choice, compiled, expanded] at built
      exact (Except.ok.inj built).symm

/-- A slot is current when it has been built. -/
theorem stamp_of_build {feature : Feature α} {variant : Variant} {slot : Slot α}
    (built : scene.build feature variant = .ok slot) :
    slot.stamp = some (scene.stamp feature variant) := by
  obtain ⟨commands, expansion, -, -, rfl⟩ := build_ok built
  rfl

theorem isFatal_of_expand {expansion : Expansion α} {commands : List (Command α)}
    {error : PortrayalError} (failed : scene.expand situation expansion commands = .error error) :
    error.isFatal = true ∨ error = .overflow := by
  induction commands generalizing expansion with
  | nil => cases failed
  | cons command rest ih =>
    cases command with
    | callConditional name procedure =>
      rw [expand] at failed
      cases returned : procedure.compute situation with
      | some fragment =>
        simp only [returned] at failed
        cases compiled : scene.library.compileFragment name fragment.text with
        | error cause =>
          simp only [compiled] at failed
          cases failed
          exact .inl (Library.isFatal_of_compileFragment compiled)
        | ok middle =>
          simp only [compiled] at failed
          cases applied : applyOverrides expansion.priority middle with
          | error cause =>
            simp only [applied] at failed
            cases failed
            rw [applyOverrides_eq] at applied
            exact .inr (PriorityOverride.eq_overflow_of_applyAll applied)
          | ok priority =>
            simp only [applied] at failed
            exact ih failed
      | none =>
        simp only [returned] at failed
        split at failed
        · cases failed
          exact .inl rfl
        · exact ih failed
    | _ => exact ih failed

/-- Building a slot fails for reasons that spoil the library, or where overrides take a view group beyond its
type, and not because a feature is unknown. -/
theorem isFatal_of_build {feature : Feature α} {variant : Variant} {error : PortrayalError}
    (failed : scene.build feature variant = .error error) : error.isFatal = true ∨ error = .overflow := by
  rw [build] at failed
  cases compiled : scene.library.compileRule (scene.choose feature variant).rule
      ((scene.choose feature variant).index.getD 0) with
  | error cause =>
    simp only [compiled] at failed
    cases failed
    exact .inl (Library.isFatal_of_compileRule compiled)
  | ok commands =>
    cases expanded : scene.expand (scene.situation feature variant)
        ⟨[], (scene.choose feature variant).rule.priority, none, none⟩ commands with
    | error cause =>
      simp only [compiled, expanded] at failed
      cases failed
      exact isFatal_of_expand expanded
    | ok expansion =>
      simp only [compiled, expanded] at failed
      cases failed

/-- What stands in the expansion of a rule without a call. -/
theorem expand_rule_static {rule : Rule} {index : Nat} {commands : List (Command α)}
    {priority : Priority} {expansion : Expansion α}
    (static : ∀ directive ∈ Directive.tokenize rule.instruction, ¬ directive.IsCall)
    (compiled : scene.library.compileRule rule index = .ok commands)
    (expanded : scene.expand situation ⟨[], priority, none, none⟩ commands = .ok expansion) :
    scene.library.compile rule.instruction = .ok expansion.commands ∧ expansion.fragment = none := by
  have whole := (Library.compileRule_ok.mp compiled).1
  rw [expand_static (Library.bindAll_static static whole)] at expanded
  cases expanded
  exact ⟨whole, rfl⟩

/-- What stands in the expansion of a rule with a call at some place. -/
theorem expand_rule_call {rule : Rule} {index : Nat} {commands : List (Command α)}
    {priority : Priority} {expansion : Expansion α} {before after : List Directive} {call : Directive}
    (split : Directive.tokenize rule.instruction = before ++ call :: after) (calls : call.IsCall)
    (compiled : scene.library.compileRule rule index = .ok commands)
    (expanded : scene.expand situation ⟨[], priority, none, none⟩ commands = .ok expansion) :
    ∃ procedure first last,
      scene.library.procedures.find? (Parameters.name call.parameters) = some procedure ∧
      scene.library.bindAll before = .ok first ∧ scene.library.bindAll after = .ok last ∧
      (∀ command ∈ first ++ last, command.isConditional = false) ∧
      match procedure.compute situation with
      | some fragment => ∃ middle,
          scene.library.compileFragment (Parameters.name call.parameters) fragment.text = .ok middle ∧
          expansion.commands = first ++ middle ++ last ∧ expansion.fragment = some fragment.text
      | none => expansion.commands = first ++ last ∧ expansion.fragment = none := by
  obtain ⟨whole, single⟩ := Library.compileRule_ok.mp compiled
  rw [Library.compile, split] at whole
  obtain ⟨first, rest, compiledFirst, compiledRest, rfl⟩ := Library.bindAll_append.mp whole
  obtain ⟨command?, last, bound, compiledLast, rfl⟩ := Library.bindAll_cons.mp compiledRest
  obtain ⟨procedure, found, rfl⟩ := Library.bind_call calls bound
  obtain ⟨staticFirst, staticLast⟩ := Library.static_around_call rfl single
  rw [expand_append_static staticFirst] at expanded
  have replaced := expand_call staticLast expanded
  refine ⟨procedure, first, last, found, compiledFirst, compiledLast, ?_, ?_⟩
  · intro command member
    exact (List.mem_append.mp member).elim (staticFirst command) (staticLast command)
  · cases returned : procedure.compute situation with
    | some fragment =>
      obtain ⟨middle, _, compiledMiddle, -, rfl⟩ := by simpa only [returned] using replaced
      exact ⟨middle, compiledMiddle, by simp, rfl⟩
    | none =>
      obtain ⟨_, rfl⟩ := by simpa only [returned] using replaced
      exact ⟨by simp, rfl⟩

/-- No call is left in the expansion of a rule. -/
theorem expand_rule_no_call {rule : Rule} {index : Nat} {commands : List (Command α)}
    {priority : Priority} {expansion : Expansion α}
    (compiled : scene.library.compileRule rule index = .ok commands)
    (expanded : scene.expand situation ⟨[], priority, none, none⟩ commands = .ok expansion) :
    ∀ command ∈ expansion.commands, command.isConditional = false := by
  by_cases called : ∃ call ∈ Directive.tokenize rule.instruction, call.IsCall
  · obtain ⟨call, member, calls⟩ := called
    obtain ⟨before, after, split⟩ := List.append_of_mem member
    obtain ⟨procedure, first, last, _, _, _, static, replaced⟩ :=
      expand_rule_call split calls compiled expanded
    cases returned : procedure.compute situation with
    | none =>
      obtain ⟨spliced, _⟩ := by simpa only [returned] using replaced
      rwa [spliced]
    | some fragment =>
      obtain ⟨middle, fragmentCompiled, spliced, _⟩ := by simpa only [returned] using replaced
      rw [spliced]
      intro command present
      simp only [List.mem_append] at present static
      rcases present with (early | inside) | late
      · exact static command (.inl early)
      · exact (Library.compileFragment_ok.mp fragmentCompiled).2 command inside
      · exact static command (.inr late)
  · have static : ∀ directive ∈ Directive.tokenize rule.instruction, ¬ directive.IsCall :=
      fun directive member calls => called ⟨directive, member, calls⟩
    exact Library.bindAll_static static (expand_rule_static static compiled expanded).1

/-- Splicing as substitution in the instruction of the rule that is chosen for a feature. -/
structure Spliced (scene : Scene α) (feature : Feature α) (variant : Variant) (binding : Binding)
    (commands : List (Command α)) : Prop where
  instruction : binding.instruction = (scene.choose feature variant).rule.instruction
  /-- An instruction that calls nothing is compiled as it stands. -/
  static : (∀ directive ∈ Directive.tokenize binding.instruction, ¬ directive.IsCall) →
    scene.library.compile binding.instruction = .ok commands ∧ binding.fragment = none
  /-- Around a call stand the commands before and after it, and in its place those of the fragment that
  the procedure returned, if it did. -/
  called : ∀ before call after,
    Directive.tokenize binding.instruction = before ++ call :: after → call.IsCall →
      ∃ procedure first last,
        scene.library.procedures.find? (Parameters.name call.parameters) = some procedure ∧
        scene.library.bindAll before = .ok first ∧ scene.library.bindAll after = .ok last ∧
        match procedure.compute (scene.situation feature variant) with
        | some fragment => ∃ middle, scene.library.compile fragment.text = .ok middle ∧
            commands = first ++ middle ++ last ∧ binding.fragment = some fragment.text
        | none => commands = first ++ last ∧ binding.fragment = none
  noCall : ∀ command ∈ commands, command.isConditional = false

theorem spliced_of_build {feature : Feature α} {variant : Variant} {slot : Slot α}
    (built : scene.build feature variant = .ok slot) :
    ∃ binding, slot.binding = some binding ∧ scene.Spliced feature variant binding slot.commands := by
  obtain ⟨compiled, expansion, rule, expanded, rfl⟩ := build_ok built
  refine ⟨_, rfl, rfl, ?_, ?_, expand_rule_no_call rule expanded⟩
  · intro static
    exact expand_rule_static static rule expanded
  · intro before call after split calls
    obtain ⟨procedure, first, last, registered, compiledFirst, compiledLast, _, replaced⟩ :=
      expand_rule_call split calls rule expanded
    refine ⟨procedure, first, last, registered, compiledFirst, compiledLast, ?_⟩
    cases returned : procedure.compute (scene.situation feature variant) with
    | none => simpa only [returned] using replaced
    | some fragment =>
      obtain ⟨middle, fragmentCompiled, spliced, recorded⟩ := by simpa only [returned] using replaced
      exact ⟨middle, (Library.compileFragment_ok.mp fragmentCompiled).1, spliced, recorded⟩

end Scene

namespace Portrayal

/-- A slot that is current, if it is, holds what building gives. Slots that are stale or fresh promise
nothing. -/
def Genuine (portrayal : Portrayal α) (scene : Scene α) (variant : Variant) : Prop :=
  ∀ feature, scene.chart.find? portrayal.id = some feature →
    portrayal.IsCurrent scene variant feature →
      scene.build feature variant = .ok { portrayal.slot variant with labels := none }

theorem genuine_fresh (id : Nat) (scene : Scene α) (variant : Variant) :
    (fresh id : Portrayal α).Genuine scene variant := by
  intro feature _ current
  simp [IsCurrent, Slot.fresh] at current

/-- Brought up to date, a genuine slot holds what is built now. -/
theorem refresh_built {scene : Scene α} {portrayal : Portrayal α} {variant : Variant}
    (genuine : portrayal.Genuine scene variant)
    (refreshed : (portrayal.refresh scene variant).2 = .ok ()) :
    ∃ feature, scene.chart.find? portrayal.id = some feature ∧
      scene.build feature variant =
        .ok { (portrayal.refresh scene variant).1.slot variant with labels := none } := by
  have ended := portrayal.refreshed scene variant
  generalize portrayal.refresh scene variant = outcome at ended refreshed
  cases ended with
  | unknown => cases refreshed
  | current found current => exact ⟨_, found, genuine _ found current⟩
  | failed => cases refreshed
  | built found _ built =>
    obtain ⟨commands, expansion, -, -, rfl⟩ := Scene.build_ok built
    exact ⟨_, found, by rw [built, slot_setSlot]⟩

/-- A portrayal with a genuine slot answers with commands that are built now. -/
theorem finalize_built {scene : Scene α} {portrayal : Portrayal α} {variant : Variant}
    {commands : List (Command α)} (genuine : portrayal.Genuine scene variant)
    (finalized : (portrayal.finalize scene variant).2 = .ok commands) :
    ∃ feature slot, scene.chart.find? portrayal.id = some feature ∧
      scene.build feature variant = .ok slot ∧ slot.commands = commands ∧
      ((portrayal.finalize scene variant).1.slot variant).binding = slot.binding := by
  obtain ⟨refreshed, same⟩ := readSlot_ok.mp finalized
  obtain ⟨feature, found, built⟩ := refresh_built genuine refreshed
  have kept : (portrayal.finalize scene variant).1 = (portrayal.refresh scene variant).1 :=
    readSlot_fst Slot.commands
  exact ⟨feature, _, found, built, same, by rw [kept]⟩

/-- The commands of a feature compile the instruction of the rule that is chosen for it, with the fragment
of the procedure in place of the call. -/
theorem finalize_splices {scene : Scene α} {portrayal : Portrayal α} {variant : Variant}
    {commands : List (Command α)} (genuine : portrayal.Genuine scene variant)
    (finalized : (portrayal.finalize scene variant).2 = .ok commands) :
    ∃ feature binding, scene.chart.find? portrayal.id = some feature ∧
      ((portrayal.finalize scene variant).1.slot variant).binding = some binding ∧
      scene.Spliced feature variant binding commands := by
  obtain ⟨feature, slot, found, built, rfl, stored⟩ := finalize_built genuine finalized
  rw [stored]
  obtain ⟨binding, recorded, spliced⟩ := Scene.spliced_of_build built
  exact ⟨feature, binding, found, recorded, spliced⟩

/-- The symbol of a restriction takes the place of its call, between the line and the colour of the rule. -/
theorem finalize_splices_restriction :
    let rule : Rule :=
      .plain "RESARE" .symbolizedBoundaries "LS(DASH,2,CHMGD);CS(RESTRN01);AC(CHBRN)" .standard
    let area := (Feature.plain "RESARE" .area).setAttribute "RESTRN" "7"
    let scene : Scene Rat := ⟨Library.standard.addRule rule, Chart.empty.insert area, .standard⟩
    ∃ commands feature binding, ((fresh 1).finalize scene .primary).2 = .ok commands ∧
      commands.map Command.text = ["LS(DASH,2,CHMGD)", "SY(QUESMRK1)", "AC(CHBRN)"] ∧
      scene.chart.find? 1 = some feature ∧ scene.Spliced feature .primary binding commands := by
  intro rule area scene
  have written : (((fresh 1).finalize scene .primary).2.toOption.map (·.map Command.text)) =
      some ["LS(DASH,2,CHMGD)", "SY(QUESMRK1)", "AC(CHBRN)"] := by decide +kernel
  cases finalized : ((fresh 1).finalize scene .primary).2 with
  | error error => simp [finalized, Except.toOption] at written
  | ok commands =>
    obtain ⟨feature, binding, found, _, spliced⟩ := finalize_splices (genuine_fresh 1 scene .primary) finalized
    refine ⟨commands, feature, binding, rfl, ?_, found, spliced⟩
    simpa [finalized, Except.toOption] using written

end Portrayal

end ChartPortrayal
