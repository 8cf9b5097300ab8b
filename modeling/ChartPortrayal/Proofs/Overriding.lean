import ChartPortrayal.Portrayal.Slot
import ChartPortrayal.Proofs.Compilation
import ChartPortrayal.Proofs.Instruction.ViewGroup
import ChartPortrayal.Proofs.Outcome

namespace ChartPortrayal

variable {α : Type}

/-- The override that a command is, if it is one. -/
def Command.override? : Command α → Option PriorityOverride
  | .overridePriority override => some override
  | _ => none

/-- The override that a directive stands for; one that cannot be read stands for none. -/
def Directive.override? (directive : Directive) : Option PriorityOverride :=
  if directive.tag = "OP" then (PriorityOverride.parse directive.payload).toOption else none

namespace PriorityOverride

/-- Writes overrides over a priority, in order. -/
def applyAll (overrides : List PriorityOverride) (priority : Priority) : Except PortrayalError Priority :=
  overrides.foldlM (fun current override => override.apply current) priority

theorem applyAll_cons (override : PriorityOverride) (rest : List PriorityOverride) (priority : Priority) :
    applyAll (override :: rest) priority = override.apply priority >>= applyAll rest := List.foldlM_cons

/-- Overrides that cannot be written take the view group beyond its type. -/
theorem eq_overflow_of_applyAll {overrides : List PriorityOverride} {priority : Priority}
    {error : PortrayalError} (failed : applyAll overrides priority = .error error) : error = .overflow := by
  induction overrides generalizing priority with
  | nil => cases failed
  | cons override rest ih =>
    rw [applyAll_cons] at failed
    rcases bind_eq_error_iff.mp failed with refused | ⟨current, -, failed⟩
    · exact (apply_eq_error_iff.mp refused).1
    · exact ih failed

theorem exists_applyAll_iff {overrides : List PriorityOverride} {priority : Priority} :
    (∃ effective, applyAll overrides priority = .ok effective) ↔ applyAll overrides priority ≠ .error .overflow := by
  cases applied : applyAll overrides priority with
  | ok effective => simp
  | error error => simp [eq_overflow_of_applyAll applied]

/-- The overrides that a fragment gives, in order. Other directives give none, and neither do overrides that
cannot be read. -/
def ofFragment (fragment : Option String) : List PriorityOverride :=
  (fragment.elim [] Directive.tokenize).filterMap Directive.override?

/-- An override that can be written over every priority. -/
def Fits (override : PriorityOverride) : Prop := ∀ priority, ∃ effective, override.apply priority = .ok effective

theorem exists_applyAll {overrides : List PriorityOverride} (fit : ∀ override ∈ overrides, override.Fits)
    (priority : Priority) : ∃ effective, applyAll overrides priority = .ok effective := by
  induction overrides generalizing priority with
  | nil => exact ⟨priority, rfl⟩
  | cons override rest ih =>
    obtain ⟨here, later⟩ := List.forall_mem_cons.mp fit
    obtain ⟨current, applied⟩ := here priority
    rw [applyAll_cons, applied]
    exact ih later current

theorem Fits.of_room {override : PriorityOverride}
    (room : ∀ current : UInt32, override.viewGroup.merged current.toNat < UInt32.size) : override.Fits := by
  intro priority
  cases applied : override.apply priority with
  | ok effective => exact ⟨effective, rfl⟩
  | error error =>
    exact absurd (apply_eq_error_iff.mp applied).2 (Nat.not_le_of_lt (room priority.viewGroup))

theorem Fits.of_blank {override : PriorityOverride}
    (blank : override.viewGroup.digits.any Option.isSome = false) : override.Fits := by
  refine .of_room (fun current => ?_)
  rw [ViewGroupPattern.merged_of_blank blank]
  exact current.toNat_lt

/-- All five digits can be written on top of any number above them, if they come before those of the greatest
view group. -/
theorem Fits.of_fixed {override : PriorityOverride} {number : Nat}
    (fixed : override.viewGroup.fixed? = some number) (early : number ≤ 67295) : override.Fits := by
  refine .of_room (fun current => ?_)
  have size : UInt32.size = 4294967296 := rfl
  have greatest := current.toNat_lt
  rw [ViewGroupPattern.merged_of_fixed? fixed]
  omega

end PriorityOverride

theorem applyOverrides_eq (priority : Priority) (commands : List (Command α)) :
    applyOverrides priority commands =
      PriorityOverride.applyAll (commands.filterMap Command.override?) priority := by
  induction commands generalizing priority with
  | nil => rfl
  | cons command rest ih =>
    rw [applyOverrides, List.foldlM_cons]
    cases command with
    | overridePriority override =>
      have own : (Command.overridePriority override : Command α).override? = some override := rfl
      rw [List.filterMap_cons_some own, PriorityOverride.applyAll_cons]
      exact congrArg (override.apply priority >>= ·) (funext ih)
    | _ => exact ih priority

variable [Quantity α]

namespace Library

variable {library : Library α}

/-- A directive compiles to an override exactly when it can be read as one. -/
theorem override?_of_bind {directive : Directive} {command? : Option (Command α)}
    (bound : library.bind directive = .ok command?) :
    command?.bind Command.override? = directive.override? := by
  unfold Directive.override?
  rw [bind] at bound
  split at bound
  case h_4 tag =>
    rw [tag, if_neg (by decide)]
    cases bound
    cases Parameters.lineStyle? directive.parameters 0 <;> rfl
  case h_10 tag =>
    rw [tag, if_neg (by decide)]
    split at bound <;> cases bound
    rfl
  case h_11 tag =>
    rw [if_pos tag]
    split at bound
    · next parsed =>
      cases bound
      rw [parsed]
      rfl
    · next failed =>
      cases bound
      rw [failed]
      rfl
  case h_12 =>
    rename_i other
    rw [if_neg other]
    cases bound
    rfl
  all_goals
    next tag =>
    rw [tag, if_neg (by decide)]
    cases bound
    rfl

theorem overrides_of_bindAll {directives : List Directive} {commands : List (Command α)}
    (compiled : library.bindAll directives = .ok commands) :
    commands.filterMap Command.override? = directives.filterMap Directive.override? := by
  induction directives generalizing commands with
  | nil =>
    cases compiled
    rfl
  | cons directive rest ih =>
    obtain ⟨command?, remaining, bound, following, rfl⟩ := bindAll_cons.mp compiled
    rw [List.filterMap_append, ih following, List.filterMap_cons, ← override?_of_bind bound]
    cases command? with
    | none => rfl
    | some command => cases same : command.override? <;> simp [same]

end Library

end ChartPortrayal
