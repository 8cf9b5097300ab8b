import ChartPortrayal.Instruction.Compilation

namespace ChartPortrayal

/-- A directive that calls a conditional procedure. -/
def Directive.IsCall (directive : Directive) : Prop := directive.tag = "CS"

instance (directive : Directive) : Decidable directive.IsCall :=
  inferInstanceAs (Decidable (directive.tag = "CS"))

namespace Library

variable {α : Type}

theorem callCount_append (first last : List (Command α)) :
    callCount (first ++ last) = callCount first + callCount last := by
  simp [callCount]

theorem callCount_eq_zero {commands : List (Command α)} :
    callCount commands = 0 ↔ ∀ command ∈ commands, command.isConditional = false := by
  simp [callCount, List.filter_eq_nil_iff]

theorem callCount_singleton {command : Command α} (conditional : command.isConditional = true) :
    callCount [command] = 1 := by
  simp [callCount, conditional]

/-- A call uses up the one that a rule may make. -/
theorem static_around_call {before after : List (Command α)} {call : Command α}
    (calls : call.isConditional = true) (single : callCount (before ++ call :: after) ≤ 1) :
    (∀ command ∈ before, command.isConditional = false) ∧
      ∀ command ∈ after, command.isConditional = false := by
  rw [← callCount_eq_zero, ← callCount_eq_zero]
  rw [callCount_append, ← List.singleton_append, callCount_append, callCount_singleton calls] at single
  omega

variable [Quantity α] {library : Library α}

theorem bindAll_cons {directive : Directive} {rest : List Directive} {commands : List (Command α)} :
    library.bindAll (directive :: rest) = .ok commands ↔
      ∃ command? remaining, library.bind directive = .ok command? ∧
        library.bindAll rest = .ok remaining ∧ commands = command?.toList ++ remaining := by
  rw [bindAll]
  cases library.bind directive with
  | error error => simp
  | ok command? =>
    cases library.bindAll rest with
    | error error => simp
    | ok remaining => simp [eq_comm]

/-- Compiling an append succeeds exactly when both parts compile, and gives their commands in order. -/
theorem bindAll_append {before after : List Directive} {commands : List (Command α)} :
    library.bindAll (before ++ after) = .ok commands ↔
      ∃ first last, library.bindAll before = .ok first ∧ library.bindAll after = .ok last ∧
        commands = first ++ last := by
  induction before generalizing commands with
  | nil => simp [bindAll, eq_comm]
  | cons directive rest ih =>
    rw [List.cons_append, bindAll_cons]
    constructor
    · rintro ⟨command?, joined, bound, appended, rfl⟩
      obtain ⟨middle, last, remaining, following, rfl⟩ := ih.mp appended
      exact ⟨command?.toList ++ middle, last, bindAll_cons.mpr ⟨command?, middle, bound, remaining, rfl⟩,
        following, (List.append_assoc ..).symm⟩
    · rintro ⟨first, last, compiled, following, rfl⟩
      obtain ⟨command?, middle, bound, remaining, rfl⟩ := bindAll_cons.mp compiled
      exact ⟨command?, middle ++ last, bound, ih.mpr ⟨middle, last, remaining, following, rfl⟩,
        List.append_assoc ..⟩

/-- Every compiled command comes from a directive. -/
theorem mem_of_bindAll {directives : List Directive} {commands : List (Command α)}
    (compiled : library.bindAll directives = .ok commands) {command : Command α}
    (member : command ∈ commands) :
    ∃ directive ∈ directives, library.bind directive = .ok (some command) := by
  induction directives generalizing commands with
  | nil =>
    cases compiled
    simp at member
  | cons directive rest ih =>
    obtain ⟨command?, remaining, bound, following, rfl⟩ := bindAll_cons.mp compiled
    rcases List.mem_append.mp member with own | later
    · have same : command? = some command := by simpa [eq_comm] using own
      exact ⟨directive, by simp, same ▸ bound⟩
    · obtain ⟨source, present, written⟩ := ih following later
      exact ⟨source, List.mem_cons_of_mem _ present, written⟩

/-- Every directive of compiled ones compiles, and its command is among theirs. -/
theorem mem_bindAll {directives : List Directive} {commands : List (Command α)}
    (compiled : library.bindAll directives = .ok commands) {directive : Directive}
    (member : directive ∈ directives) :
    ∃ command?, library.bind directive = .ok command? ∧ ∀ command ∈ command?, command ∈ commands := by
  induction directives generalizing commands with
  | nil => cases member
  | cons first rest ih =>
    obtain ⟨command?, remaining, bound, following, rfl⟩ := bindAll_cons.mp compiled
    rcases List.mem_cons.mp member with rfl | later
    · refine ⟨command?, bound, fun command same => ?_⟩
      rw [Option.mem_def.mp same]
      exact List.mem_cons_self
    · obtain ⟨other, written, kept⟩ := ih following later
      exact ⟨other, written, fun command same => List.mem_append_right _ (kept command same)⟩

/-- A call compiles to a call of the procedure that its first parameter names. -/
theorem bind_call {directive : Directive} (call : directive.IsCall) {command? : Option (Command α)}
    (bound : library.bind directive = .ok command?) :
    ∃ procedure, library.procedures.find? (Parameters.name directive.parameters) = some procedure ∧
      command? = some (.callConditional (Parameters.name directive.parameters) procedure) := by
  rw [bind, call] at bound
  cases found : library.procedures.find? (Parameters.name directive.parameters) with
  | none => simp [found] at bound
  | some procedure =>
    have same : some (Command.callConditional (Parameters.name directive.parameters) procedure) =
        command? := by simpa [found] using bound
    exact ⟨procedure, rfl, same.symm⟩

/-- A call of a registered procedure compiles. -/
theorem bind_call_of_find? {directive : Directive} (call : directive.IsCall) {procedure : Procedure α}
    (found : library.procedures.find? (Parameters.name directive.parameters) = some procedure) :
    library.bind directive =
      .ok (some (.callConditional (Parameters.name directive.parameters) procedure)) := by
  rw [bind, call]
  simp [found]

/-- An override compiles when its payload can be read. -/
theorem bind_of_parse (library : Library α) {directive : Directive} (tag : directive.tag = "OP")
    {override : PriorityOverride} (parsed : PriorityOverride.parse directive.payload = .ok override) :
    library.bind directive = .ok (some (.overridePriority override)) := by
  rw [bind, tag]
  simp [parsed]

/-- What is written as anything but a call compiles to anything but a call. -/
theorem bind_static {directive : Directive} (static : ¬ directive.IsCall) {command : Command α}
    (bound : library.bind directive = .ok (some command)) : command.isConditional = false := by
  rw [bind] at bound
  split at bound
  case h_4 =>
    obtain ⟨style, _, rfl⟩ : ∃ style, Parameters.lineStyle? directive.parameters 0 = some style ∧
        Command.showSimpleLine style = command := by simpa using bound
    rfl
  case h_10 tag => exact absurd tag static
  case h_11 =>
    split at bound <;> cases bound
    rfl
  case h_12 => cases bound
  all_goals
    cases bound
    rfl

/-- Nothing but a call can fail to compile. -/
theorem exists_bind_of_static (library : Library α) {directive : Directive} (static : ¬ directive.IsCall) :
    ∃ command?, library.bind directive = .ok command? := by
  rw [bind]
  split
  case h_10 tag => exact absurd tag static
  case h_11 => split <;> exact ⟨_, rfl⟩
  all_goals exact ⟨_, rfl⟩

theorem exists_bindAll_of_static (library : Library α) {directives : List Directive}
    (static : ∀ directive ∈ directives, ¬ directive.IsCall) :
    ∃ commands, library.bindAll directives = .ok commands := by
  induction directives with
  | nil => exact ⟨[], rfl⟩
  | cons directive rest ih =>
    obtain ⟨here, later⟩ := List.forall_mem_cons.mp static
    obtain ⟨command?, bound⟩ := library.exists_bind_of_static here
    obtain ⟨remaining, compiled⟩ := ih later
    exact ⟨command?.toList ++ remaining, bindAll_cons.mpr ⟨command?, remaining, bound, compiled, rfl⟩⟩

/-- Compiled directives without a call hold no call. -/
theorem bindAll_static {directives : List Directive}
    (static : ∀ directive ∈ directives, ¬ directive.IsCall) {commands : List (Command α)}
    (compiled : library.bindAll directives = .ok commands) :
    ∀ command ∈ commands, command.isConditional = false := by
  intro command member
  obtain ⟨directive, present, bound⟩ := mem_of_bindAll compiled member
  exact bind_static (static directive present) bound

/-- Only registered procedures are called. -/
theorem find?_of_bind {directive : Directive} {name : String} {procedure : Procedure α}
    (bound : library.bind directive = .ok (some (.callConditional name procedure))) :
    library.procedures.find? name = some procedure := by
  by_cases call : directive.IsCall
  · obtain ⟨registered, found, same⟩ := bind_call call bound
    cases same
    exact found
  · have static := bind_static call bound
    cases static

theorem find?_of_compile {text : String} {commands : List (Command α)}
    (compiled : library.compile text = .ok commands) {name : String} {procedure : Procedure α}
    (member : Command.callConditional name procedure ∈ commands) :
    library.procedures.find? name = some procedure := by
  obtain ⟨directive, -, bound⟩ := mem_of_bindAll compiled member
  exact find?_of_bind bound

/-- A rule compiles when its instruction does and calls one procedure at most. -/
theorem compileRule_ok {rule : Rule} {index : Nat} {commands : List (Command α)} :
    library.compileRule rule index = .ok commands ↔
      library.compile rule.instruction = .ok commands ∧ callCount commands ≤ 1 := by
  rw [compileRule]
  cases library.compile rule.instruction with
  | error error => simp
  | ok compiled =>
    by_cases several : 1 < callCount compiled
    · simp only [several, ↓reduceIte, reduceCtorEq, Except.ok.injEq, false_iff, not_and]
      rintro rfl
      omega
    · simp only [several, ↓reduceIte, Except.ok.injEq, iff_self_and]
      rintro rfl
      omega

/-- A fragment compiles when its text does and calls nothing. -/
theorem compileFragment_ok {procedure text : String} {commands : List (Command α)} :
    library.compileFragment procedure text = .ok commands ↔
      library.compile text = .ok commands ∧ ∀ command ∈ commands, command.isConditional = false := by
  rw [compileFragment]
  cases library.compile text with
  | error error => simp
  | ok compiled =>
    by_cases nested : compiled.any Command.isConditional = true
    · simp only [nested, ↓reduceIte, reduceCtorEq, Except.ok.injEq, false_iff, not_and]
      rintro rfl static
      obtain ⟨command, member, call⟩ := List.any_eq_true.mp nested
      rw [static command member] at call
      cases call
    · simp only [nested, Bool.false_eq_true, ↓reduceIte, Except.ok.injEq, iff_self_and]
      rintro rfl command member
      cases call : command.isConditional with
      | false => rfl
      | true => exact absurd (List.any_eq_true.mpr ⟨command, member, call⟩) nested

/-- A text compiles as a fragment exactly when none of its directives is a call, of whatever procedure. -/
theorem exists_compileFragment_iff (library : Library α) (procedure text : String) :
    (∃ commands, library.compileFragment procedure text = .ok commands) ↔
      ∀ directive ∈ Directive.tokenize text, ¬ directive.IsCall := by
  constructor
  · rintro ⟨commands, compiled⟩ directive member call
    obtain ⟨whole, static⟩ := compileFragment_ok.mp compiled
    obtain ⟨command?, bound, kept⟩ := mem_bindAll whole member
    obtain ⟨called, -, rfl⟩ := bind_call call bound
    have conditional := static _ (kept _ rfl)
    cases conditional
  · intro static
    obtain ⟨commands, compiled⟩ := library.exists_bindAll_of_static static
    exact ⟨commands, compileFragment_ok.mpr ⟨compiled, bindAll_static static compiled⟩⟩

/-- The one error of a directive is a call that leads nowhere. -/
theorem isFatal_of_bind {directive : Directive} {error : PortrayalError}
    (failed : library.bind directive = .error error) : error.isFatal = true := by
  by_cases call : directive.IsCall
  · have tag : directive.tag = "CS" := call
    unfold bind at failed
    simp only [tag] at failed
    split at failed
    · cases failed
    · cases failed
      rfl
  · obtain ⟨command?, bound⟩ := exists_bind_of_static library call
    rw [bound] at failed
    cases failed

theorem isFatal_of_bindAll {directives : List Directive} {error : PortrayalError}
    (failed : library.bindAll directives = .error error) : error.isFatal = true := by
  induction directives with
  | nil => cases failed
  | cons directive rest ih =>
    rw [bindAll] at failed
    cases bound : library.bind directive with
    | error cause =>
      rw [bound] at failed
      cases failed
      exact isFatal_of_bind bound
    | ok command? =>
      cases following : library.bindAll rest with
      | error cause =>
        rw [bound, following] at failed
        cases failed
        exact ih following
      | ok commands =>
        rw [bound, following] at failed
        cases failed

/-- Whatever keeps a rule from compiling spoils the library. -/
theorem isFatal_of_compileRule {rule : Rule} {index : Nat} {error : PortrayalError}
    (failed : library.compileRule rule index = .error error) : error.isFatal = true := by
  rw [compileRule] at failed
  cases compiled : library.compile rule.instruction with
  | error cause =>
    rw [compiled] at failed
    cases failed
    exact isFatal_of_bindAll compiled
  | ok commands =>
    rw [compiled] at failed
    dsimp only at failed
    split at failed <;> cases failed
    rfl

theorem isFatal_of_compileFragment {procedure text : String} {error : PortrayalError}
    (failed : library.compileFragment procedure text = .error error) : error.isFatal = true := by
  rw [compileFragment] at failed
  cases compiled : library.compile text with
  | error cause =>
    rw [compiled] at failed
    cases failed
    exact isFatal_of_bindAll compiled
  | ok commands =>
    rw [compiled] at failed
    dsimp only at failed
    split at failed <;> cases failed
    rfl

end Library

end ChartPortrayal
