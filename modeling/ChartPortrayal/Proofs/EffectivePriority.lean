import ChartPortrayal.Proofs.Failure
import ChartPortrayal.Proofs.Instruction.ViewGroup
import ChartPortrayal.Proofs.Overriding

namespace ChartPortrayal

namespace PriorityOverride

variable {β : Type}

/-- The value that the last one gives of those overrides that give one. -/
def last? (field : PriorityOverride → Option β) (overrides : List PriorityOverride) : Option β :=
  (overrides.filterMap field).getLast?

theorem last?_cons (field : PriorityOverride → Option β) (override : PriorityOverride)
    (rest : List PriorityOverride) :
    last? field (override :: rest) = (last? field rest).or (field override) := by
  unfold last?
  cases given : field override with
  | none => simp [given]
  | some value =>
    rw [List.filterMap_cons_some given, List.getLast?_cons]
    cases (rest.filterMap field).getLast? <;> rfl

theorem getD_last?_cons (field : PriorityOverride → Option β) (override : PriorityOverride)
    (rest : List PriorityOverride) (default : β) :
    (last? field (override :: rest)).getD default =
      (last? field rest).getD ((field override).getD default) := by
  rw [last?_cons]
  cases last? field rest <;> rfl

end PriorityOverride

open PriorityOverride (last?)

/-- A priority that overrides were written over. Each of its fields, and each of the last five digits of its
view group, is what the last override says that gives it, or else what it was. The digits above are kept, and
the scale minimum is ignored from the first override on that asks for it. -/
structure Priority.Overwritten (priority : Priority) (overrides : List PriorityOverride)
    (effective : Priority) : Prop where
  draw : effective.draw.toNat =
    (last? (fun override => override.draw.map Fin.val) overrides).getD priority.draw.toNat
  radar : effective.radar = (last? PriorityOverride.radar overrides).getD priority.radar
  category : effective.category = (last? PriorityOverride.category overrides).getD priority.category
  digit : ∀ place : Fin 5, effective.viewGroup.toNat / 10 ^ place.val % 10 =
    (last? (fun override => (override.viewGroup.digit? place).map Fin.val) overrides).getD
      (priority.viewGroup.toNat / 10 ^ place.val % 10)
  above : effective.viewGroup.toNat / 100000 = priority.viewGroup.toNat / 100000
  ignores : effective.ignoreScaleMinimum = true ↔
    priority.ignoreScaleMinimum = true ∨ ∃ override ∈ overrides, override.ignoreScaleMinimum = true

namespace PriorityOverride

variable {priority current effective : Priority} {override : PriorityOverride} {overrides : List PriorityOverride}

/-- Below the limit there is room for whatever digits, and the group stays below the limit. -/
theorem exists_apply (bounded : priority.viewGroup.toNat < Priority.viewGroupLimit) :
    ∃ current, override.apply priority = .ok current ∧
      current.viewGroup.toNat < Priority.viewGroupLimit := by
  have kept := override.viewGroup.merged_div priority.viewGroup.toNat
  have limit : Priority.viewGroupLimit = 4294900000 := rfl
  have size : UInt32.size = 4294967296 := rfl
  cases applied : override.apply priority with
  | error error =>
    have exceeds := (apply_eq_error_iff.mp applied).2
    omega
  | ok current =>
    have merged := (apply_eq_ok_iff.mp applied).1
    exact ⟨current, rfl, by omega⟩

theorem exists_applyAll_of_bounded (bounded : priority.viewGroup.toNat < Priority.viewGroupLimit)
    (overrides : List PriorityOverride) : ∃ effective, applyAll overrides priority = .ok effective := by
  induction overrides generalizing priority with
  | nil => exact ⟨priority, rfl⟩
  | cons override rest ih =>
    obtain ⟨current, applied, bounded⟩ := exists_apply bounded
    rw [applyAll_cons, applied]
    exact ih bounded

theorem draw_apply (applied : override.apply priority = .ok current) :
    current.draw.toNat = (override.draw.map Fin.val).getD priority.draw.toNat := by
  rw [(apply_eq_ok_iff.mp applied).2.1]
  cases override.draw with
  | none => rfl
  | some digit => exact UInt8.toNat_ofNat_of_lt' (Nat.lt_trans digit.isLt (by decide))

/-- The first override is written, and the other ones over it. -/
theorem overwritten_cons (applied : override.apply priority = .ok current)
    (written : current.Overwritten overrides effective) :
    priority.Overwritten (override :: overrides) effective := by
  obtain ⟨merged, -, radar, category, ignores⟩ := apply_eq_ok_iff.mp applied
  refine ⟨?_, ?_, ?_, fun place => ?_, ?_, ?_⟩
  · rw [getD_last?_cons, ← draw_apply applied]
    exact written.draw
  · rw [getD_last?_cons, ← radar]
    exact written.radar
  · rw [getD_last?_cons, ← category]
    exact written.category
  · have own := override.viewGroup.merged_digit priority.viewGroup.toNat place
    rw [getD_last?_cons, ← ViewGroupPattern.writtenDigit, ← own, ← merged]
    exact written.digit place
  · rw [written.above, merged, ViewGroupPattern.merged_div]
  · have asked : current.ignoreScaleMinimum = true ↔
        priority.ignoreScaleMinimum = true ∨ override.ignoreScaleMinimum = true := by
      rw [ignores, Bool.or_eq_true_iff]
    simp only [written.ignores, asked, List.mem_cons, exists_eq_or_imp, or_assoc]

theorem overwritten_applyAll (written : applyAll overrides priority = .ok effective) :
    priority.Overwritten overrides effective := by
  induction overrides generalizing priority with
  | nil =>
    cases written
    exact ⟨rfl, rfl, rfl, fun _ => rfl, rfl, by simp⟩
  | cons override rest ih =>
    rw [applyAll_cons] at written
    cases applied : override.apply priority with
    | error error =>
      rw [applied] at written
      cases written
    | ok current =>
      rw [applied] at written
      exact overwritten_cons applied (ih written)

end PriorityOverride

variable {α : Type} [Quantity α]

namespace Scene

variable {scene : Scene α} {situation : Situation α} {feature : Feature α} {variant : Variant}

/-- Of what an expansion puts together, the fragment alone changes the priority. -/
theorem priority_of_expand {commands : List (Command α)} {priority : Priority} {expansion : Expansion α}
    (single : Library.callCount commands ≤ 1)
    (expanded : scene.expand situation ⟨[], priority, none, none⟩ commands = .ok expansion) :
    PriorityOverride.applyAll (PriorityOverride.ofFragment expansion.fragment) priority =
      .ok expansion.priority := by
  by_cases called : ∃ command ∈ commands, command.isConditional = true
  · obtain ⟨call, member, conditional⟩ := called
    obtain ⟨before, after, rfl⟩ := List.append_of_mem member
    obtain ⟨early, late⟩ := Library.static_around_call conditional single
    obtain ⟨name, procedure, rfl⟩ : ∃ name procedure, call = .callConditional name procedure := by
      cases call <;> first | exact ⟨_, _, rfl⟩ | cases conditional
    rw [expand_append_static early] at expanded
    have replaced := expand_call late expanded
    cases returned : procedure.compute situation with
    | none =>
      obtain ⟨_, rfl⟩ := by simpa only [returned] using replaced
      rfl
    | some fragment =>
      obtain ⟨middle, effective, compiled, applied, rfl⟩ := by simpa only [returned] using replaced
      have overrides := Library.overrides_of_bindAll (Library.compileFragment_ok.mp compiled).1
      rwa [PriorityOverride.ofFragment, Option.elim, ← overrides, ← applyOverrides_eq]
  · have static : ∀ command ∈ commands, command.isConditional = false := by
      intro command member
      exact Bool.eq_false_iff.mpr (fun conditional => called ⟨command, member, conditional⟩)
    rw [expand_static static] at expanded
    cases expanded
    rfl

theorem priority_of_build {slot : Slot α} (built : scene.build feature variant = .ok slot) :
    ∃ binding, slot.binding = some binding ∧ scene.Spliced feature variant binding slot.commands ∧
      PriorityOverride.applyAll (PriorityOverride.ofFragment binding.fragment)
        (scene.choose feature variant).rule.priority = .ok slot.priority := by
  obtain ⟨binding, recorded, spliced⟩ := spliced_of_build built
  obtain ⟨compiled, expansion, rule, expanded, rfl⟩ := build_ok built
  cases recorded
  exact ⟨_, rfl, spliced, priority_of_expand (Library.compileRule_ok.mp rule).2 expanded⟩

end Scene

namespace Portrayal

variable {portrayal : Portrayal α} {scene : Scene α} {feature : Feature α} {variant : Variant}

/-- The effective priority of a feature is that of its rule with the overrides of its fragment written over it,
the last one having the last word. A rule that compiles gives commands whenever its call can be replaced. -/
theorem priority_last_given (genuine : portrayal.Genuine scene variant)
    (found : scene.chart.find? portrayal.id = some feature)
    (bounded : (scene.choose feature variant).rule.priority.viewGroup.toNat < Priority.viewGroupLimit) :
    let rule := (scene.choose feature variant).rule
    let slot := (portrayal.finalize scene variant).1.slot variant
    (∀ commands, (∀ index, scene.library.compileRule rule index = .ok commands) →
      (∀ command ∈ commands, command.IsReplaceable (scene.situation feature variant)) →
        (portrayal.finalize scene variant).2.isOk = true) ∧
    ∀ commands, (portrayal.finalize scene variant).2 = .ok commands →
      ∃ binding, slot.binding = some binding ∧ scene.Spliced feature variant binding commands ∧
        (portrayal.priority scene variant).2 = .ok slot.priority ∧
        rule.priority.Overwritten (PriorityOverride.ofFragment binding.fragment) slot.priority := by
  intro rule slot
  constructor
  · intro commands compiled replaceable
    have single := (Library.compileRule_ok.mp (compiled 0)).2
    have built := (Scene.exists_build_iff_expand compiled).mpr ((Scene.exists_expand_iff single).mpr
      (fun name procedure member =>
        ⟨replaceable _ member, PriorityOverride.exists_applyAll_of_bounded bounded _⟩))
    have contained := portrayal.contained_readSlot scene variant Slot.commands
    exact contained.answers.mpr ⟨feature, found, .inr built⟩
  · intro commands finalized
    obtain ⟨refreshed, same⟩ := readSlot_ok.mp finalized
    obtain ⟨present, there, built⟩ := refresh_built genuine refreshed
    cases found.symm.trans there
    obtain ⟨binding, recorded, spliced, written⟩ := Scene.priority_of_build built
    have kept : (portrayal.finalize scene variant).1 = (portrayal.refresh scene variant).1 :=
      readSlot_fst Slot.commands
    subst same
    simp only [slot, kept]
    exact ⟨binding, recorded, spliced, readSlot_ok.mpr ⟨refreshed, rfl⟩,
      PriorityOverride.overwritten_applyAll written⟩

/-- The first override gives the draw order, the category and two digits, one of which the last override gives
again. The second one is too short to be read, and the one in the rule itself does not count. -/
theorem priority_last_given_parts :
    let priority : Priority := ⟨4, .suppressed, .standard, 1234567, false⟩
    let rule : Rule := .plain "RESARE" .symbolizedBoundaries "OP(9-------);CS(PARTS);SY(A)" priority
    let parts : Procedure Rat :=
      .constant "PARTS" true (some "OP(3-D--01-,NOSCAMIN);SY(X);OP(33);OP(-O---2--)")
    let library : Library Rat := ⟨.empty, .empty, ⟨SortedMap.empty.insert parts.name parts, .empty⟩⟩
    let scene : Scene Rat :=
      ⟨library.addRule rule, Chart.empty.insert (.plain "RESARE" .area), .standard⟩
    ∃ feature binding, scene.chart.find? 1 = some feature ∧
      (scene.choose feature .primary).rule.priority = priority ∧
      (((fresh 1).finalize scene .primary).1.slot .primary).binding = some binding ∧
      ((fresh 1).priority scene .primary).2 = .ok ⟨3, .above, .base, 1234217, true⟩ ∧
      priority.Overwritten (PriorityOverride.ofFragment binding.fragment)
        ⟨3, .above, .base, 1234217, true⟩ := by
  intro priority rule parts library scene
  have read : ((fresh 1).priority scene .primary).2.toOption =
      some ⟨3, .above, .base, 1234217, true⟩ := by decide +kernel
  have chosen : (scene.chart.find? 1).map (fun feature => (scene.choose feature .primary).rule.priority) =
      some priority := by decide +kernel
  cases found : scene.chart.find? 1 with
  | none => simp [found] at chosen
  | some feature =>
    rw [found, Option.map_some, Option.some.injEq] at chosen
    have bounded : (scene.choose feature .primary).rule.priority.viewGroup.toNat <
        Priority.viewGroupLimit := by
      rw [chosen]
      decide
    obtain ⟨-, given⟩ := priority_last_given (genuine_fresh 1 scene .primary) found bounded
    cases finalized : ((fresh 1).finalize scene .primary).2 with
    | error error =>
      have answered : ((fresh 1).finalize scene .primary).2.isOk = true := by decide +kernel
      simp [finalized, Except.isOk, Except.toBool] at answered
    | ok commands =>
      obtain ⟨binding, recorded, -, answered, written⟩ := given commands finalized
      rw [answered, Except.toOption, Option.some.injEq] at read
      rw [chosen, read] at written
      exact ⟨feature, binding, rfl, chosen, recorded, by rw [answered, read], written⟩

end Portrayal

end ChartPortrayal
