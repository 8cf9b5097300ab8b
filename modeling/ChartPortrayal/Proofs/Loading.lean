import ChartPortrayal.Proofs.Conditional.Registration
import ChartPortrayal.Proofs.Validation

/-! Loading a library. A rule is at fault when it calls an unknown procedure, or more than one procedure. A
library is refused for the first rule at fault, and what is loaded compiles whatever rule is chosen. -/

namespace ChartPortrayal

variable {α : Type} [Quantity α]

/-- The names that the calls among directives give, in order. -/
def Directive.calledNames (directives : List Directive) : List String :=
  (directives.filter (fun directive => directive.IsCall)).map
    (fun directive => Parameters.name directive.parameters)

theorem Directive.calledNames_cons_call {directive : Directive} (call : directive.IsCall)
    (rest : List Directive) :
    calledNames (directive :: rest) = Parameters.name directive.parameters :: calledNames rest := by
  simp [calledNames, call]

theorem Directive.calledNames_cons_static {directive : Directive} (static : ¬ directive.IsCall)
    (rest : List Directive) : calledNames (directive :: rest) = calledNames rest := by
  simp [calledNames, static]

namespace Rule

def calledNames (rule : Rule) : List String := Directive.calledNames (Directive.tokenize rule.instruction)

/-- A rule calls procedures and aliases of the registry only, and one of them at most. -/
structure IsSound (rule : Rule) (registry : Registry α) : Prop where
  known : ∀ name ∈ rule.calledNames, registry.isTaken name = true
  single : rule.calledNames.length ≤ 1

/-- What is wrong with the rule at an index of its class. An unknown name counts before the number of
calls. -/
def fault? (rule : Rule) (registry : Registry α) (index : Nat) : Option PortrayalError :=
  match rule.calledNames.find? (fun name => !registry.isTaken name) with
  | some name => some (.unknownProcedure name)
  | none =>
    if 1 < rule.calledNames.length then
      some (.multipleConditionalCalls rule.className index rule.calledNames.length)
    else none

omit [Quantity α] in
theorem fault?_eq_none_iff {rule : Rule} {registry : Registry α} {index : Nat} :
    rule.fault? registry index = none ↔ rule.IsSound registry := by
  rw [fault?]
  cases unknown : rule.calledNames.find? (fun name => !registry.isTaken name) with
  | some name =>
    have stranger := List.find?_some unknown
    refine iff_of_false nofun (fun sound => ?_)
    simp [sound.known name (List.mem_of_find?_eq_some unknown)] at stranger
  | none =>
    have known : ∀ name ∈ rule.calledNames, registry.isTaken name = true := by
      simpa using List.find?_eq_none.mp unknown
    simp only [ite_eq_right_iff, reduceCtorEq, imp_false, Nat.not_lt]
    exact ⟨fun single => ⟨known, single⟩, IsSound.single⟩

end Rule

namespace Library

variable {library : Library α}

/-- A library that was put together from the standard one. -/
inductive Built : Library α → Prop where
  | standard : Built standard
  | addRule {library : Library α} (built : Built library) (rule : Rule) : Built (library.addRule rule)
  | addDefinition {library : Library α} (built : Built library) (definition : Definition) :
      Built (library.addDefinition definition)
  | withProcedures {library : Library α} (built : Built library) {registry : Registry α}
      (reached : registry.Reached) : Built { library with procedures := registry }

theorem Built.closed (built : library.Built) : library.procedures.Closed := by
  induction built with
  | standard => exact Registry.Reached.standard.closed
  | addRule _ _ closed => exact closed
  | addDefinition _ _ closed => exact closed
  | withProcedures _ reached _ => exact reached.closed

theorem bind_call_of_find?_none {directive : Directive} (call : directive.IsCall)
    (missing : library.procedures.find? (Parameters.name directive.parameters) = none) :
    library.bind directive = .error (.unknownProcedure (Parameters.name directive.parameters)) := by
  rw [bind, call]
  simp [missing]

/-- Directives that call known names only compile, to as many calls as they write. -/
theorem exists_bindAll_of_known (closed : library.procedures.Closed) {directives : List Directive}
    (known : ∀ name ∈ Directive.calledNames directives, library.procedures.isTaken name = true) :
    ∃ commands, library.bindAll directives = .ok commands ∧
      callCount commands = (Directive.calledNames directives).length := by
  induction directives with
  | nil => exact ⟨[], rfl, rfl⟩
  | cons directive rest ih =>
    by_cases call : directive.IsCall
    · rw [Directive.calledNames_cons_call call] at known ⊢
      obtain ⟨here, later⟩ := List.forall_mem_cons.mp known
      obtain ⟨remaining, compiled, count⟩ := ih later
      obtain ⟨procedure, found⟩ := Option.isSome_iff_exists.mp ((closed.isSome_find? _).trans here)
      refine ⟨_, bindAll_cons.mpr ⟨_, remaining, bind_call_of_find? call found, compiled, rfl⟩, ?_⟩
      rw [callCount_append, count, List.length_cons, Nat.add_comm]
      exact congrArg (_ + ·) (callCount_singleton rfl)
    · rw [Directive.calledNames_cons_static call] at known ⊢
      obtain ⟨remaining, compiled, count⟩ := ih known
      obtain ⟨command?, bound⟩ := library.exists_bind_of_static call
      refine ⟨_, bindAll_cons.mpr ⟨command?, remaining, bound, compiled, rfl⟩, ?_⟩
      have plain : callCount command?.toList = 0 := callCount_eq_zero.mpr (fun command member =>
        bind_static call (bound.trans (congrArg Except.ok (Option.mem_toList.mp member))))
      rw [callCount_append, plain, count, Nat.zero_add]

/-- The first unknown name that directives call is the error. -/
theorem bindAll_of_unknown (closed : library.procedures.Closed) {directives : List Directive} {name : String}
    (unknown : (Directive.calledNames directives).find? (fun name => !library.procedures.isTaken name) =
      some name) : library.bindAll directives = .error (.unknownProcedure name) := by
  induction directives with
  | nil => cases unknown
  | cons directive rest ih =>
    rw [bindAll]
    by_cases call : directive.IsCall
    · rw [Directive.calledNames_cons_call call, List.find?_cons] at unknown
      have taken := closed.isSome_find? (Parameters.name directive.parameters)
      cases found : library.procedures.find? (Parameters.name directive.parameters) with
      | none =>
        rw [← taken, found] at unknown
        cases unknown
        rw [bind_call_of_find?_none call found]
      | some procedure =>
        rw [← taken, found] at unknown
        rw [bind_call_of_find? call found, ih unknown]
    · rw [Directive.calledNames_cons_static call] at unknown
      obtain ⟨command?, bound⟩ := library.exists_bind_of_static call
      rw [bound, ih unknown]

/-- A rule without a fault compiles. -/
theorem exists_compileRule_of_isSound (closed : library.procedures.Closed) {rule : Rule}
    (sound : rule.IsSound library.procedures) (index : Nat) :
    ∃ commands, library.compileRule rule index = .ok commands := by
  obtain ⟨commands, compiled, count⟩ := exists_bindAll_of_known closed sound.known
  exact ⟨commands, compileRule_ok.mpr ⟨compiled, count ▸ sound.single⟩⟩

/-- A rule with a fault fails to compile for it. -/
theorem compileRule_of_fault? (closed : library.procedures.Closed) {rule : Rule} {index : Nat}
    {error : PortrayalError} (fault : rule.fault? library.procedures index = some error) :
    library.compileRule rule index = .error error := by
  rw [Rule.fault?] at fault
  rw [compileRule, compile]
  cases unknown : rule.calledNames.find? (fun name => !library.procedures.isTaken name) with
  | some name =>
    rw [unknown] at fault
    cases fault
    rw [bindAll_of_unknown closed unknown]
  | none =>
    rw [unknown] at fault
    have known : ∀ name ∈ rule.calledNames, library.procedures.isTaken name = true := by
      simpa using List.find?_eq_none.mp unknown
    obtain ⟨commands, compiled, count⟩ := exists_bindAll_of_known closed known
    by_cases several : 1 < rule.calledNames.length
    · rw [if_pos several] at fault
      cases fault
      change callCount commands = rule.calledNames.length at count
      rw [compiled]
      dsimp only
      rw [count, if_pos several]
    · rw [if_neg several] at fault
      cases fault

theorem compileRule_eq_error_iff (closed : library.procedures.Closed) {rule : Rule} {index : Nat}
    {error : PortrayalError} :
    library.compileRule rule index = .error error ↔ rule.fault? library.procedures index = some error := by
  constructor
  · intro failed
    cases fault : rule.fault? library.procedures index with
    | none =>
      have sound := Rule.fault?_eq_none_iff.mp fault
      obtain ⟨commands, compiled⟩ := exists_compileRule_of_isSound closed sound index
      rw [compiled] at failed
      cases failed
    | some other =>
      rw [compileRule_of_fault? closed fault] at failed
      cases failed
      rfl
  · exact compileRule_of_fault? closed

theorem exists_compileRule_iff (closed : library.procedures.Closed) {rule : Rule} {index : Nat} :
    (∃ commands, library.compileRule rule index = .ok commands) ↔ rule.IsSound library.procedures := by
  constructor
  · rintro ⟨commands, compiled⟩
    apply Rule.fault?_eq_none_iff.mp
    cases fault : rule.fault? library.procedures index with
    | none => rfl
    | some error =>
      rw [compileRule_of_fault? closed fault] at compiled
      cases compiled
  · exact fun sound => exists_compileRule_of_isSound closed sound index

/-- Where a rule stands: in a table, under a class, and after so many others. -/
abbrev Place := (Table × String) × Nat

/-- The rule at a place. -/
def ruleAt? (library : Library α) (place : Place) : Option Rule :=
  (library.candidates place.1.1 place.1.2)[place.2]?

section Order

open SortKey (order)

/-- All rules with their places, in order. -/
def placedRules (library : Library α) : List (Place × Rule) :=
  library.rules.entries.flatMap (fun entry =>
    entry.2.zipIdx.map (fun placed => ((entry.1, placed.2), placed.1)))

omit [Quantity α] in
theorem mem_placedRules_iff {place : Place} {rule : Rule} :
    (place, rule) ∈ library.placedRules ↔ library.ruleAt? place = some rule := by
  obtain ⟨key, index⟩ := place
  have bucket : ∀ rules : List Rule,
      ((key, index), rule) ∈ rules.zipIdx.map (fun placed => ((key, placed.2), placed.1)) ↔
        rules[index]? = some rule := by
    intro rules
    rw [List.mem_map]
    constructor
    · rintro ⟨⟨other, place⟩, listed, same⟩
      cases same
      exact List.mem_zipIdx_iff_getElem?.mp listed
    · exact fun listed => ⟨(rule, index), List.mem_zipIdx_iff_getElem?.mpr listed, rfl⟩
  rw [placedRules, List.mem_flatMap, ruleAt?, candidates]
  constructor
  · rintro ⟨⟨other, rules⟩, listed, member⟩
    have same : other = key := by
      obtain ⟨placed, -, equal⟩ := List.mem_map.mp member
      exact congrArg (·.1.1) equal
    subst same
    rw [(library.rules.mem_entries_iff _ _).mp listed]
    exact (bucket rules).mp member
  · intro found
    cases listed : library.rules.find? key with
    | none => simp [listed] at found
    | some rules =>
      rw [listed] at found
      exact ⟨(key, rules), (library.rules.mem_entries_iff _ _).mpr listed, (bucket rules).mpr found⟩

omit [Quantity α] in
theorem pairwise_placedRules (library : Library α) :
    library.placedRules.Pairwise (fun first second => order first.1 second.1 = .lt) := by
  rw [placedRules, List.pairwise_flatMap]
  constructor
  · intro entry _
    rw [List.pairwise_map, List.pairwise_iff_getElem]
    intro first second _ _ before
    simp only [List.getElem_zipIdx, Nat.zero_add]
    exact Ordering.then_eq_lt.mpr (.inr ⟨SortKey.order_self _, Nat.compare_eq_lt.mpr before⟩)
  · refine library.rules.ascending.imp (fun {first second} before => ?_)
    intro one oneMember other otherMember
    obtain ⟨_, -, rfl⟩ := List.mem_map.mp oneMember
    obtain ⟨_, -, rfl⟩ := List.mem_map.mp otherMember
    exact Ordering.then_eq_lt.mpr (.inl before)

/-- The check of one rule. -/
def checkRule (library : Library α) (placed : Place × Rule) : Except PortrayalError Unit :=
  (library.compileRule placed.2 placed.1.2).map (fun _ => ())

theorem checkRule_eq_error_iff {placed : Place × Rule} {error : PortrayalError} :
    library.checkRule placed = .error error ↔ library.compileRule placed.2 placed.1.2 = .error error := by
  rw [checkRule]
  cases library.compileRule placed.2 placed.1.2 <;> simp [Except.map]

theorem checkRule_eq_ok_iff {placed : Place × Rule} :
    library.checkRule placed = .ok () ↔
      ∃ commands, library.compileRule placed.2 placed.1.2 = .ok commands := by
  rw [checkRule]
  cases library.compileRule placed.2 placed.1.2 <;> simp [Except.map]

theorem firstRuleError_eq_forM (key : Table × String) (start : Nat) (rules : List Rule) :
    library.firstRuleError start rules =
      forM ((rules.zipIdx start).map (fun placed => ((key, placed.2), placed.1))) library.checkRule := by
  induction rules generalizing start with
  | nil => rfl
  | cons rule rest ih =>
    rw [firstRuleError, ih, List.zipIdx_cons, List.map_cons, List.forM_cons, checkRule]
    cases library.compileRule rule start <;> rfl

/-- The library is checked rule by rule, in the order of their places. -/
theorem validate_eq_forM : library.validate = forM library.placedRules library.checkRule := by
  rw [validate, SortedMap.values, placedRules, List.forM_eq_forM]
  induction library.rules.entries with
  | nil => rfl
  | cons entry rest ih =>
    rw [List.map_cons, List.forM_cons, ih, List.flatMap_cons, List.forM_append,
      firstRuleError_eq_forM entry.1]

/-- A list in ascending order fails a check for the first of its entries that does. -/
theorem forM_eq_error_iff {κ ν ε : Type} [SortKey κ] {entries : List (κ × ν)}
    (ascending : entries.Pairwise (fun first second => order first.1 second.1 = .lt))
    {check : κ × ν → Except ε Unit} {error : ε} :
    forM entries check = .error error ↔
      ∃ entry ∈ entries, check entry = .error error ∧
        ∀ earlier ∈ entries, order earlier.1 entry.1 = .lt → check earlier = .ok () := by
  induction entries with
  | nil => simp [pure, Except.pure]
  | cons first rest ih =>
    obtain ⟨below, tail⟩ := List.pairwise_cons.mp ascending
    rw [List.forM_cons]
    cases checked : check first with
    | error own =>
      constructor
      · rintro ⟨⟩
        refine ⟨first, List.mem_cons_self, checked, fun earlier member before => ?_⟩
        rcases List.mem_cons.mp member with rfl | later
        · rw [SortKey.order_self] at before
          cases before
        · rw [SortKey.order_swap, below earlier later] at before
          cases before
      · rintro ⟨entry, member, failed, clear⟩
        rcases List.mem_cons.mp member with rfl | later
        · exact checked.symm.trans failed
        · have passed := clear first List.mem_cons_self (below entry later)
          rw [checked] at passed
          cases passed
    | ok done =>
      change forM rest check = .error error ↔ _
      rw [ih tail]
      constructor
      · rintro ⟨entry, member, failed, clear⟩
        refine ⟨entry, List.mem_cons_of_mem _ member, failed, fun earlier listed before => ?_⟩
        rcases List.mem_cons.mp listed with rfl | later
        · exact checked
        · exact clear earlier later before
      · rintro ⟨entry, member, failed, clear⟩
        rcases List.mem_cons.mp member with rfl | later
        · rw [checked] at failed
          cases failed
        · exact ⟨entry, later, failed, fun earlier listed =>
            clear earlier (List.mem_cons_of_mem _ listed)⟩

end Order

theorem validated_eq_error_iff {error : PortrayalError} :
    library.validated = .error error ↔ library.validate = .error error := by
  rw [validated]
  cases library.validate <;> simp

/-- A validated library is the one that was checked. -/
theorem validated_eq_ok_iff {loaded : Library α} :
    library.validated = .ok loaded ↔ library.validate = .ok () ∧ loaded = library := by
  rw [validated]
  cases library.validate <;> simp [eq_comm]

/-- A library is refused for the first rule with a fault. -/
theorem validate_eq_error_iff (closed : library.procedures.Closed) {error : PortrayalError} :
    library.validate = .error error ↔
      ∃ place rule, library.ruleAt? place = some rule ∧
        rule.fault? library.procedures place.2 = some error ∧
        ∀ earlier other, library.ruleAt? earlier = some other → SortKey.order earlier place = .lt →
          other.IsSound library.procedures := by
  rw [validate_eq_forM, forM_eq_error_iff (pairwise_placedRules library)]
  simp only [Prod.exists, Prod.forall, mem_placedRules_iff, checkRule_eq_error_iff,
    compileRule_eq_error_iff closed, checkRule_eq_ok_iff, exists_compileRule_iff closed]

/-- A library is accepted when its rules are sound. -/
theorem validate_eq_ok_iff (closed : library.procedures.Closed) :
    library.validate = .ok () ↔
      ∀ place rule, library.ruleAt? place = some rule → rule.IsSound library.procedures := by
  constructor
  · intro valid place rule found
    obtain ⟨commands, compiled⟩ := compileRule_of_validate valid (List.mem_of_getElem? found)
    exact (exists_compileRule_iff closed).mp ⟨commands, compiled place.2⟩
  · intro sound
    cases checked : library.validate with
    | ok => rfl
    | error error =>
      obtain ⟨place, rule, found, fault, -⟩ := (validate_eq_error_iff closed).mp checked
      rw [Rule.fault?_eq_none_iff.mpr (sound place rule found)] at fault
      cases fault

/-- A library loads exactly when each of its rules calls known procedures only, and one at most. It is refused
for the first rule with a fault, by table, then by class, then in the order they were added. Once it is
loaded, all candidates compile, and so do the placeholder rules. -/
theorem validated_exact (built : library.Built) :
    ((∃ loaded, library.validated = .ok loaded) ↔
      ∀ place rule, library.ruleAt? place = some rule → rule.IsSound library.procedures) ∧
    (∀ error, library.validated = .error error ↔
      ∃ place rule, library.ruleAt? place = some rule ∧
        rule.fault? library.procedures place.2 = some error ∧
        ∀ earlier other, library.ruleAt? earlier = some other → SortKey.order earlier place = .lt →
          other.IsSound library.procedures) ∧
    ∀ loaded, library.validated = .ok loaded → loaded = library ∧
      (∀ table className rule index, rule ∈ loaded.candidates table className →
        ∃ commands, loaded.compileRule rule index = .ok commands) ∧
      ∀ className geometry table index,
        ∃ commands, loaded.compileRule (placeholderRule className geometry table) index = .ok commands := by
  refine ⟨?_, fun error => ?_, fun loaded accepted => ?_⟩
  · rw [← validate_eq_ok_iff built.closed]
    constructor
    · rintro ⟨loaded, accepted⟩
      exact (validated_eq_ok_iff.mp accepted).1
    · exact fun valid => ⟨library, validated_eq_ok_iff.mpr ⟨valid, rfl⟩⟩
  · rw [validated_eq_error_iff, validate_eq_error_iff built.closed]
  · obtain ⟨valid, rfl⟩ := validated_eq_ok_iff.mp accepted
    refine ⟨rfl, fun table className rule index member => ?_, fun className geometry table index => ?_⟩
    · obtain ⟨commands, compiled⟩ := compileRule_of_validate valid member
      exact ⟨commands, compiled index⟩
    · obtain ⟨commands, compiled⟩ := loaded.compileRule_placeholder className geometry table
      exact ⟨commands, compiled index⟩

/-- Of two rules at fault the one in the first table is reported, though it was added last. Its own first
fault is the unknown name. -/
theorem validated_exact_two_faults :
    let twice : Rule := .plain "DEPCNT" .lines "CS(DEPCNT02);CS(DEPCNT03)" .standard
    let renamed : Rule := .plain "WRECKS" .simplifiedPoints "SY(WRECKS05);CS(WRECKS05)" .standard
    let stranger : Rule := .plain "WRECKS" .simplifiedPoints "CS(WRECKS02);CS( WRECKS99 ,1" .standard
    let library : Library Float := ((standard.addRule twice).addRule renamed).addRule stranger
    library.Built ∧ library.validated = .error (.unknownProcedure "WRECKS99") := by
  intro twice renamed stranger library
  have built : library.Built := ((Built.standard.addRule twice).addRule renamed).addRule stranger
  have listed : library.placedRules =
      [(((.simplifiedPoints, "WRECKS"), 0), renamed), (((.simplifiedPoints, "WRECKS"), 1), stranger),
        (((.lines, "DEPCNT"), 0), twice)] := by decide +kernel
  refine ⟨built, ((validated_exact built).2.1 _).mpr
    ⟨((.simplifiedPoints, "WRECKS"), 1), stranger, ?_, by decide +kernel, ?_⟩⟩
  · rw [← mem_placedRules_iff, listed]
    simp
  · intro earlier other found before
    rw [← mem_placedRules_iff, listed] at found
    simp only [List.mem_cons, Prod.mk.injEq, List.not_mem_nil, or_false] at found
    rcases found with ⟨rfl, rfl⟩ | ⟨rfl, -⟩ | ⟨rfl, -⟩
    · exact Rule.fault?_eq_none_iff.mp (show renamed.fault? library.procedures 0 = none by decide +kernel)
    · exact absurd before (by decide)
    · exact absurd before (by decide)

end Library

end ChartPortrayal
