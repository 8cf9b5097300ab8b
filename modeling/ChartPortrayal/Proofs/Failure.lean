import ChartPortrayal.Proofs.Conditional.Fragments
import ChartPortrayal.Proofs.Containment
import ChartPortrayal.Proofs.Locality
import ChartPortrayal.Proofs.Validation

/-! When portrayal fails. With a validated library and the standard procedures one thing on a chart can make a
feature fail: instructions that a new object carries, where they hold a call themselves, or overrides that take
the view group beyond its type. Labels also fail where a format is wider than what can be laid out. -/

namespace ChartPortrayal

open PriorityOverride (applyAll ofFragment)

/-- The instructions that a new object carries hold a call. -/
def MarinerObject.CarriesCall {α : Type} (feature : Feature α) : Prop :=
  feature.hasValue "SYMINS" = true ∧
    ∃ text, feature.attribute? "SYMINS" = some text ∧
      ∃ directive ∈ Directive.tokenize (Text.trim text), directive.IsCall

/-- The overrides in the instructions of a new object take the view group of a priority beyond its type. -/
def MarinerObject.CarriesExcess {α : Type} (feature : Feature α) (priority : Priority) : Prop :=
  feature.hasValue "SYMINS" = true ∧
    ∃ text, feature.attribute? "SYMINS" = some text ∧
      applyAll (ofFragment (some (Text.trim text))) priority = .error .overflow

variable {α : Type} [Quantity α]

/-- A call of the procedure can be replaced: by a fragment without calls, or by nothing where that is
allowed. -/
def Procedure.Replaces (procedure : Procedure α) (situation : Situation α) : Prop :=
  match procedure.compute situation with
  | some fragment => ∀ directive ∈ Directive.tokenize fragment.text, ¬ directive.IsCall
  | none => procedure.alwaysReturns = false

/-- A command that an expansion can place: any but a call, and a call that can be replaced. -/
def Command.IsReplaceable (situation : Situation α) : Command α → Prop
  | .callConditional _ procedure => procedure.Replaces situation
  | _ => True

/-- A call of the procedure can be replaced, and the overrides of its fragment can be written over a priority. -/
def Procedure.GivesWay (procedure : Procedure α) (situation : Situation α) (priority : Priority) : Prop :=
  procedure.Replaces situation ∧ ∃ effective, applyAll
    (ofFragment ((procedure.compute situation).map Fragment.text)) priority = .ok effective

/-- A standard procedure always puts directives together, but for two: one may have nothing to draw, and one
passes on what a new object carries. -/
theorem cases_of_standard {entry : Procedure α × List String} (member : entry ∈ standardProcedures) :
    (∃ name compute, entry.1 = .ofDirectives name compute ∧ name ≠ "SYMINS01") ∨
      entry.1 = Restriction.restriction ∨ entry.1 = MarinerObject.newObject := by
  simp only [standardProcedures, List.mem_cons, List.not_mem_nil, or_false] at member
  rcases member with rfl | rfl | rfl | rfl | rfl | rfl | rfl | rfl | rfl | rfl | rfl | rfl | rfl | rfl |
    rfl | rfl
  all_goals first
    | exact .inl ⟨_, _, rfl, by decide⟩
    | exact .inr (.inl rfl)
    | exact .inr (.inr rfl)

/-- A procedure that writes sound directives, and is silent only where it may be, gives way whatever the priority
is. -/
theorem givesWay_of_writesSound {procedure : Procedure α} (sound : procedure.WritesSound)
    {situation : Situation α}
    (returns : procedure.compute situation = none → procedure.alwaysReturns = false) (priority : Priority) :
    procedure.GivesWay situation priority := by
  unfold Procedure.GivesWay Procedure.Replaces
  cases returned : procedure.compute situation with
  | none => exact ⟨returns returned, priority, rfl⟩
  | some fragment =>
    obtain ⟨list, rfl, sound⟩ := sound situation fragment returned
    simp only [Option.map_some, Fragment.text, ofFragment, Option.elim, sound.tokenize]
    exact ⟨fun directive present => (sound directive present).static,
      PriorityOverride.exists_applyAll sound.fits priority⟩

theorem MarinerObject.givesWay_newObject (situation : Situation α) (priority : Priority) :
    (newObject : Procedure α).GivesWay situation priority ↔
      ¬ (CarriesCall situation.feature ∨ CarriesExcess situation.feature priority) := by
  unfold Procedure.GivesWay Procedure.Replaces
  cases carried : situation.feature.hasValue "SYMINS" with
  | false =>
    have returned : (newObject : Procedure α).compute situation =
        some (.directives (newObjectSymbols situation.feature.geometry)) := by
      simp only [newObject, carried, Bool.false_eq_true, ↓reduceIte]
    have sound : Directive.AllSound α (newObjectSymbols situation.feature.geometry) :=
      allSound_newObjectSymbols _
    simp only [returned, Option.map_some, Fragment.text, ofFragment, Option.elim, sound.tokenize, CarriesCall,
      CarriesExcess, carried, Bool.false_eq_true, false_and, or_self, not_false_eq_true, iff_true]
    exact ⟨fun directive member => (sound directive member).static,
      PriorityOverride.exists_applyAll sound.fits priority⟩
  | true =>
    cases held : situation.feature.attribute? "SYMINS" with
    | none => simp [Feature.hasValue, held] at carried
    | some text =>
      have returned : (newObject : Procedure α).compute situation = some (.verbatim (Text.trim text)) := by
        simp only [newObject, carried, held, ↓reduceIte, Option.map_some]
      simp only [returned, Option.map_some, Fragment.text, CarriesCall, CarriesExcess, carried, held, true_and,
        Option.some.injEq, exists_eq_left', not_or, not_exists, not_and, PriorityOverride.exists_applyAll_iff]

namespace Scene

/-- The rule that is chosen for a feature follows the instructions that the feature carries, and these hold a call
in turn, or overrides that cannot be written over the priority of the rule. -/
def SpoiltByCarried (scene : Scene α) (feature : Feature α) (variant : Variant) : Prop :=
  (∃ call ∈ Directive.tokenize (scene.choose feature variant).rule.instruction, call.IsCall ∧
      scene.library.procedures.canonicalName? (Parameters.name call.parameters) = some "SYMINS01") ∧
    (MarinerObject.CarriesCall feature ∨
      MarinerObject.CarriesExcess feature (scene.choose feature variant).rule.priority)

/-- The commands of a rule can be expanded exactly when its call gives way, if it has one. -/
theorem exists_expand_iff {scene : Scene α} {situation : Situation α} {priority : Priority}
    {commands : List (Command α)} (single : Library.callCount commands ≤ 1) :
    (∃ result, scene.expand situation ⟨[], priority, none, none⟩ commands = .ok result) ↔
      ∀ name procedure, .callConditional name procedure ∈ commands →
        procedure.GivesWay situation priority := by
  by_cases called : ∃ name procedure, .callConditional name procedure ∈ commands
  · obtain ⟨name, procedure, member⟩ := called
    obtain ⟨before, after, rfl⟩ := List.append_of_mem member
    obtain ⟨early, late⟩ := Library.static_around_call rfl single
    have only : (∀ other called, .callConditional other called ∈ before ++ .callConditional name procedure :: after →
        called.GivesWay situation priority) ↔ procedure.GivesWay situation priority := by
      refine ⟨fun each => each name procedure member, fun gives other called listed => ?_⟩
      rcases List.mem_append.mp listed with first | last
      · cases early _ first
      · rcases List.mem_cons.mp last with same | last
        · cases same
          exact gives
        · cases late _ last
    rw [only, expand_append_static early, expand, Procedure.GivesWay, Procedure.Replaces]
    cases returned : procedure.compute situation with
    | some fragment =>
      dsimp only
      rw [← scene.library.exists_compileFragment_iff name fragment.text]
      cases compiled : scene.library.compileFragment name fragment.text with
      | error error => simp
      | ok middle =>
        have overrides : middle.filterMap Command.override? = ofFragment (some fragment.text) :=
          Library.overrides_of_bindAll (Library.compileFragment_ok.mp compiled).1
        simp only [applyOverrides_eq, overrides, Option.map_some, Except.ok.injEq, exists_eq', true_and]
        cases applyAll (ofFragment (some fragment.text)) priority with
        | error error => simp
        | ok effective => simp [expand_static late]
    | none =>
      cases always : procedure.alwaysReturns with
      | true => simp
      | false =>
        have kept : applyAll (ofFragment none) priority = .ok priority := rfl
        simp [expand_static late, kept]
  · have static : ∀ command ∈ commands, command.isConditional = false := by
      intro command member
      cases command with
      | callConditional name procedure => exact absurd ⟨name, procedure, member⟩ called
      | _ => rfl
    refine iff_of_true ⟨_, expand_static static⟩ (fun name procedure member => ?_)
    exact absurd ⟨name, procedure, member⟩ called

/-- A slot is built once the commands of the chosen rule are expanded. -/
theorem exists_build_iff_expand {scene : Scene α} {feature : Feature α} {variant : Variant}
    {commands : List (Command α)}
    (compiled : ∀ index,
      scene.library.compileRule (scene.choose feature variant).rule index = .ok commands) :
    (∃ slot, scene.build feature variant = .ok slot) ↔
      ∃ expansion, scene.expand (scene.situation feature variant)
        ⟨[], (scene.choose feature variant).rule.priority, none, none⟩ commands = .ok expansion := by
  simp only [build, compiled]
  cases scene.expand (scene.situation feature variant)
    ⟨[], (scene.choose feature variant).rule.priority, none, none⟩ commands <;> simp

end Scene

namespace Portrayal

variable {portrayal : Portrayal α} {scene : Scene α} {variant : Variant} {feature : Feature α}

theorem isOk_readSlot {β : Type} (read : Slot α → β) :
    (portrayal.readSlot scene variant read).2.isOk = (portrayal.refresh scene variant).2.isOk := by
  unfold readSlot
  generalize portrayal.refresh scene variant = outcome
  obtain ⟨current, error | ⟨⟩⟩ := outcome <;> rfl

theorem isOk_refresh_iff (found : scene.chart.find? portrayal.id = some feature) :
    (portrayal.refresh scene variant).2.isOk = true ↔
      portrayal.IsCurrent scene variant feature ∨ ∃ slot, scene.build feature variant = .ok slot := by
  rw [← isOk_readSlot Slot.commands, (portrayal.contained_readSlot scene variant Slot.commands).answers,
    answers_iff found]

theorem isOk_labels_iff (found : scene.chart.find? portrayal.id = some feature) :
    (portrayal.labels scene variant).2.isOk = true ↔
      (portrayal.refresh scene variant).2.isOk = true ∧ ¬ portrayal.LabelsStop scene variant := by
  by_cases stops : portrayal.LabelsStop scene variant
  · rw [labels_of_stop stops]
    simp [stops, Except.isOk, Except.toBool]
  · rw [isOk_refresh_iff found, (contained_labels stops).answers, answers_iff found]
    simp [stops]

/-- Labels stop at a format that cannot be laid out, and at nothing else. -/
theorem LabelsStop.exists_wide (stops : portrayal.LabelsStop scene variant) :
    ∃ commands text, (portrayal.finalize scene variant).2 = .ok commands ∧ .showText text ∈ commands ∧
      ¬ text.content.Fits := by
  obtain ⟨feature, current, -, refreshed, -, stopped⟩ := stops
  obtain ⟨-, text, listed, wide⟩ := Label.ofCommands_eq_error stopped
  refine ⟨_, text, readSlot_ok.mpr ⟨?_, rfl⟩, ?_, wide⟩
  · rw [refreshed]
  · rwa [refreshed]

end Portrayal

variable [PlainWords α]

/-- Calls of standard procedures give way whatever the situation is, unless a new object carries a call, or
overrides beyond the type of view groups. -/
theorem givesWay_of_standard {entry : Procedure α × List String} (member : entry ∈ standardProcedures)
    (situation : Situation α) (priority : Priority) :
    entry.1.GivesWay situation priority ↔ ¬ (entry.1.name = "SYMINS01" ∧
      (MarinerObject.CarriesCall situation.feature ∨ MarinerObject.CarriesExcess situation.feature priority)) := by
  have sound := fun other => writesSound_of_standard member other
  rcases cases_of_standard member with ⟨name, compute, same, other⟩ | same | same
  · rw [same] at sound ⊢
    exact iff_of_true (givesWay_of_writesSound (sound other) (fun silent => by cases silent) priority)
      (fun both => other both.1)
  · rw [same] at sound ⊢
    have other : "RESTRN01" ≠ "SYMINS01" := by decide
    exact iff_of_true (givesWay_of_writesSound (sound other) (fun _ => rfl) priority)
      (fun both => other both.1)
  · rw [same, MarinerObject.givesWay_newObject]
    simp [MarinerObject.newObject]

theorem givesWay_of_registered {name : String} {procedure : Procedure α}
    (found : (Registry.standard : Registry α).find? name = some procedure) (situation : Situation α)
    (priority : Priority) :
    (Registry.standard : Registry α).canonicalName? name = some procedure.name ∧
      (procedure.GivesWay situation priority ↔ ¬ (procedure.name = "SYMINS01" ∧
        (MarinerObject.CarriesCall situation.feature ∨
          MarinerObject.CarriesExcess situation.feature priority))) := by
  have each : (Registry.standard : Registry α).Holds (fun procedure =>
      procedure.GivesWay situation priority ↔ ¬ (procedure.name = "SYMINS01" ∧
        (MarinerObject.CarriesCall situation.feature ∨
          MarinerObject.CarriesExcess situation.feature priority))) :=
    Registry.holds_standard (fun _ member => givesWay_of_standard member situation priority)
  obtain ⟨canonical, known, present⟩ := Option.bind_eq_some_iff.mp found
  rw [Registry.named_standard canonical procedure present]
  exact ⟨known, Registry.named_standard canonical procedure present ▸ each canonical procedure present⟩

/-- In a validated library with the standard procedures, a slot can be built for a feature exactly unless the
instructions that the feature carries spoil it. -/
theorem Scene.exists_build_iff {scene : Scene α} (valid : scene.library.validate = .ok ())
    (standard : scene.library.procedures = .standard) (feature : Feature α) (variant : Variant) :
    (∃ slot, scene.build feature variant = .ok slot) ↔ ¬ scene.SpoiltByCarried feature variant := by
  obtain ⟨commands, compiled⟩ := scene.compileRule_choose valid feature variant
  obtain ⟨whole, single⟩ := Library.compileRule_ok.mp (compiled 0)
  have registered := fun {name procedure} (found : scene.library.procedures.find? name = some procedure) =>
    givesWay_of_registered (standard ▸ found) (scene.situation feature variant)
      (scene.choose feature variant).rule.priority
  rw [exists_build_iff_expand compiled, exists_expand_iff single]
  constructor
  · rintro gives ⟨⟨call, member, calls, named⟩, carries⟩
    obtain ⟨command?, bound, kept⟩ := Library.mem_bindAll whole member
    obtain ⟨procedure, found, rfl⟩ := Library.bind_call calls bound
    obtain ⟨canonical, way⟩ := registered found
    rw [standard, canonical, Option.some.injEq] at named
    exact way.mp (gives _ _ (kept _ rfl)) ⟨named, carries⟩
  · intro clean name procedure member
    obtain ⟨directive, written, bound⟩ := Library.mem_of_bindAll whole member
    have calls : directive.IsCall := by
      by_contra static
      have conditional := Library.bind_static static bound
      cases conditional
    obtain ⟨called, found, same⟩ := Library.bind_call calls bound
    cases same
    obtain ⟨canonical, way⟩ := registered found
    refine way.mpr (fun both => clean ⟨⟨directive, written, calls, ?_⟩, both.2⟩)
    rw [standard, canonical, both.1]

/-- With a validated library and the standard procedures, commands and priority of a feature are there exactly
when its slot is current, or the instructions that the feature carries do not spoil it. Labels are there then as
well, unless some text among the commands has a format that cannot be laid out and stops them. -/
theorem Portrayal.answers_unless_spoilt {scene : Scene Float} (valid : scene.library.validate = .ok ())
    (standard : scene.library.procedures = .standard) {portrayal : Portrayal Float} {feature : Feature Float}
    (found : scene.chart.find? portrayal.id = some feature) (variant : Variant) :
    let answers := portrayal.IsCurrent scene variant feature ∨ ¬ scene.SpoiltByCarried feature variant
    let stops := portrayal.LabelsStop scene variant
    ((portrayal.finalize scene variant).2.isOk = true ↔ answers) ∧
      ((portrayal.priority scene variant).2.isOk = true ↔ answers) ∧
      ((portrayal.labels scene variant).2.isOk = true ↔ answers ∧ ¬ stops) ∧
      (stops → ∃ commands text, (portrayal.finalize scene variant).2 = .ok commands ∧
        .showText text ∈ commands ∧ ¬ text.content.Fits) := by
  intro answers stops
  have refreshed : (portrayal.refresh scene variant).2.isOk = true ↔ answers := by
    rw [isOk_refresh_iff found, Scene.exists_build_iff valid standard]
  have commands : (portrayal.finalize scene variant).2.isOk = (portrayal.refresh scene variant).2.isOk :=
    isOk_readSlot Slot.commands
  have priority : (portrayal.priority scene variant).2.isOk = (portrayal.refresh scene variant).2.isOk :=
    isOk_readSlot Slot.priority
  rw [commands, priority, isOk_labels_iff found, refreshed]
  exact ⟨Iff.rfl, Iff.rfl, Iff.rfl, LabelsStop.exists_wide⟩

/-- Instructions that a new object carries are followed where they hold no call, however broken they are. -/
theorem Portrayal.answers_unless_spoilt_symbol :
    let library : Library Float :=
      Library.standard.addRule (.plain "NEWOBJ" .simplifiedPoints "CS(SYMINS02)" .standard)
    let feature : Feature Float :=
      (Feature.plain "NEWOBJ" .point).setAttribute "SYMINS" "SY(BCNCAR01);LS(;CS;TX('"
    let scene : Scene Float := ⟨library, Chart.empty.insert feature, .standard⟩
    let stored : Feature Float := { feature with id := 1 }
    scene.library.validate = .ok () ∧ scene.library.procedures = .standard ∧
      scene.chart.find? 1 = some stored ∧ ¬ scene.SpoiltByCarried stored .primary ∧
      ((fresh 1).finalize scene .primary).2.isOk = true := by
  intro library feature scene stored
  have valid : scene.library.validate = .ok () := by decide +kernel
  have found : scene.chart.find? (fresh (α := Float) 1).id = some stored := rfl
  have written : stored.attribute? "SYMINS" = some "SY(BCNCAR01);LS(;CS;TX('" := by decide +kernel
  have clean : ¬ scene.SpoiltByCarried stored .primary := by
    rintro ⟨-, ⟨-, text, held, carried⟩ | ⟨-, text, held, carried⟩⟩
    all_goals
      rw [written, Option.some.injEq] at held
      subst held
      revert carried
      decide +kernel
  have answers := answers_unless_spoilt valid rfl found .primary
  exact ⟨valid, rfl, found, clean, answers.1.mpr (.inr clean)⟩

/-- A new object that carries a call of a standard procedure makes its own portrayal fail. -/
theorem not_answers_with_call_carried :
    ¬ ∀ (scene : Scene Float) (portrayal : Portrayal Float) (feature : Feature Float) (variant : Variant),
      scene.library.validate = .ok () → scene.library.procedures = .standard →
        scene.chart.find? portrayal.id = some feature →
          (portrayal.finalize scene variant).2.isOk = true ∧
            (portrayal.priority scene variant).2.isOk = true ∧
            (portrayal.labels scene variant).2.isOk = true := by
  intro answered
  let library : Library Float :=
    Library.standard.addRule (.plain "NEWOBJ" .simplifiedPoints "CS(SYMINS01)" .standard)
  let feature : Feature Float := (Feature.plain "NEWOBJ" .point).setAttribute "SYMINS" "CS(DEPARE02)"
  let scene : Scene Float := ⟨library, Chart.empty.insert feature, .standard⟩
  let stored : Feature Float := { feature with id := 1 }
  have valid : scene.library.validate = .ok () := by decide +kernel
  have standard : scene.library.procedures = .standard := rfl
  have found : scene.chart.find? (Portrayal.fresh (α := Float) 1).id = some stored := rfl
  have answers := (answered scene (.fresh 1) stored .primary valid standard found).1
  have fails : ((Portrayal.fresh 1).finalize scene .primary).2.isOk = false := by decide +kernel
  rw [fails] at answers
  cases answers

end ChartPortrayal
