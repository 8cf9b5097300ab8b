import ChartPortrayal.Proofs.Conditional.Fragments

namespace ChartPortrayal

variable {α : Type}

/-- What a command writes, where it writes a text. -/
def Command.textContent? : Command α → Option TextContent
  | .showText text => some text.content
  | _ => none

/-- A directive for a text. -/
def Directive.IsText (directive : Directive) : Prop := directive.tag = "TX" ∨ directive.tag = "TE"

instance (directive : Directive) : Decidable directive.IsText :=
  inferInstanceAs (Decidable (_ ∨ _))

variable [Quantity α]

namespace Library

variable {library : Library α}

theorem textContent?_of_bind {directive : Directive} (graphic : ¬ directive.IsText) {command : Command α}
    (bound : library.bind directive = .ok (some command)) : command.textContent? = none := by
  rw [bind] at bound
  split at bound
  case h_4 =>
    obtain ⟨style, _, rfl⟩ : ∃ style, Parameters.lineStyle? directive.parameters 0 = some style ∧
        Command.showSimpleLine style = command := by simpa using bound
    rfl
  case h_6 tag => exact absurd (.inl tag) graphic
  case h_7 tag => exact absurd (.inr tag) graphic
  case h_10 => split at bound <;> cases bound; rfl
  case h_11 => split at bound <;> cases bound; rfl
  case h_12 => cases bound
  all_goals
    cases bound
    rfl

/-- A plain text writes what its parameters say. -/
theorem textContent?_plain {directive : Directive} (tag : directive.tag = "TX") {command : Command α}
    (bound : library.bind directive = .ok (some command)) :
    command.textContent? = some (Parameters.plainContent directive.parameters) := by
  rw [bind, tag] at bound
  cases bound
  rfl

/-- Commands of directives that are no texts write nothing, and those of the rest follow them. -/
theorem graphics_of_append {graphics rest : List Directive} {commands : List (Command α)}
    (graphic : ∀ directive ∈ graphics, ¬ directive.IsText)
    (each : library.Matches (graphics ++ rest) commands) :
    ∃ silent last, commands = silent ++ last ∧ (∀ command ∈ silent, command.textContent? = none) ∧
      library.Matches rest last := by
  induction graphics generalizing commands with
  | nil => exact ⟨[], commands, rfl, List.forall_mem_nil _, each⟩
  | cons directive others ih =>
    obtain ⟨here, later⟩ := List.forall_mem_cons.mp graphic
    obtain ⟨command, remaining, bound, following, rfl⟩ := List.forall₂_cons_left_iff.mp each
    obtain ⟨silent, last, rfl, quiet, kept⟩ := ih later following
    exact ⟨command :: silent, last, rfl,
      List.forall_mem_cons.mpr ⟨textContent?_of_bind here bound, quiet⟩, kept⟩

end Library

namespace Light

/-- Whether a light is neither a flood nor a spot nor a strip light. -/
def isBeam (feature : Feature α) : Bool :=
  let categories := feature.codes "CATLIT"
  !(categories.contains 8 || categories.contains 11 || categories.contains 9)

/-- Whether a light is drawn with its description: the mariner wants descriptions, and there is one. -/
def isDescribed (situation : Situation α) : Bool :=
  isBeam situation.feature && situation.settings.lightDescriptions && description situation.feature != ""

theorem text_eq (situation : Situation α) :
    (if isBeam situation.feature then descriptionText situation else []) =
      if isDescribed situation then
        [.ofParameters "TX" (textFields (description situation.feature))]
      else [] := by
  unfold isDescribed descriptionText
  cases isBeam situation.feature with
  | false => rfl
  | true =>
    cases situation.settings.lightDescriptions with
    | false => rfl
    | true => by_cases empty : description situation.feature = "" <;> simp [empty, textFields]

theorem graphic_symbol (name : String) : ¬ (Directive.symbol name).IsText := by
  simp [Directive.IsText, Directive.symbol, Directive.ofParameters]

theorem graphic_orientation (situation : Situation α) :
    ∀ directive ∈ orientation situation, ¬ directive.IsText := by
  unfold orientation
  split
  · cases situation.feature.number? "ORIENT" with
    | none => simp
    | some bearing => simp [leg, Directive.IsText, Directive.ofParameters]
  · simp

/-- Of what a light is drawn with only the description is a text. -/
theorem exists_graphics (situation : Situation α) :
    ∃ graphics, (∀ directive ∈ graphics, ¬ directive.IsText) ∧
      light.compute situation = some (.directives (graphics ++
        if isBeam situation.feature then descriptionText situation else [])) := by
  have drawn : ∃ graphics, (∀ directive ∈ graphics, ¬ directive.IsText) ∧
      beam situation = graphics ++ descriptionText situation := by
    refine ⟨_, ?_, rfl⟩
    split
    · simp [leg, arc, Directive.IsText, Directive.ofParameters]
    · refine List.forall_mem_cons.mpr ⟨?_, graphic_orientation situation⟩
      simp [flare, Directive.rotatedSymbol, Directive.IsText, Directive.ofParameters]
  simp only [light, Procedure.ofDirectives, isBeam]
  split
  · next flood =>
    simp only [flood, Bool.true_or, Bool.not_true, Bool.false_eq_true, ↓reduceIte, List.append_nil]
    exact ⟨_, by simpa using graphic_symbol _, rfl⟩
  · next other =>
    split
    · next strip =>
      simp only [strip, Bool.or_true, Bool.not_true, Bool.false_eq_true, ↓reduceIte, List.append_nil]
      exact ⟨_, by simpa using graphic_symbol _, rfl⟩
    · next plain =>
      obtain ⟨graphics, graphic, same⟩ := drawn
      simp only [other, plain, Bool.or_self, Bool.not_false, ↓reduceIte]
      exact ⟨graphics, graphic, by rw [same]⟩

theorem plainContent_quoted (text : String) (rest : List String) :
    Parameters.plainContent (Directive.quoted text :: rest) = .literal text := by
  have present : Directive.quoted text ≠ "" := by
    intro empty
    have characters := Directive.toList_quoted text
    rw [empty] at characters
    cases characters
  have source : Parameters.textOr (Directive.quoted text :: rest) 0 (Directive.quoted "") =
      Directive.quoted text := by
    rw [Parameters.textOr, Parameters.nonempty?, List.getElem?_cons_zero,
      Option.filter_some_pos (by simpa using present), Option.getD_some]
  rw [Parameters.plainContent, source, Directive.toList_quoted]
  simp [Directive.unquote_quoted]

/-- A quoted text is written as it is. -/
theorem textContent?_of_quoted {library : Library α} {text : String} (unquoted : Text.quote ∉ text.toList)
    {command : Command α}
    (bound : library.bind (.ofParameters "TX" (textFields text)) = .ok (some command)) :
    command.textContent? = some (.literal text) := by
  have read : (Directive.ofParameters "TX" (textFields text)).parameters = textFields text :=
    Directive.parameters_ofParameters "TX" (isField_textFields unquoted)
  rw [Library.textContent?_plain rfl bound, read, textFields, plainContent_quoted]

/-- The texts among the commands of a light are its description, where it is drawn with that. -/
theorem textContents_light {library : Library α} {situation : Situation α} {directives : List Directive}
    (returned : light.compute situation = some (.directives directives)) {commands : List (Command α)}
    (each : library.Matches directives commands) :
    commands.filterMap Command.textContent? =
      if isDescribed situation then [.literal (description situation.feature)] else [] := by
  obtain ⟨graphics, graphic, drawn⟩ := exists_graphics situation
  rw [drawn] at returned
  cases returned
  obtain ⟨silent, last, rfl, quiet, kept⟩ := Library.graphics_of_append graphic each
  rw [text_eq] at kept
  rw [List.filterMap_append, List.filterMap_eq_nil_iff.mpr quiet, List.nil_append]
  split at kept
  · next described =>
    obtain ⟨command, none, bound, ended, rfl⟩ := List.forall₂_cons_left_iff.mp kept
    cases ended
    have written := textContent?_of_quoted (quote_not_mem_description situation.feature) bound
    rw [if_pos described, List.filterMap_cons_some written, List.filterMap_nil]
  · next silent =>
    cases kept
    rw [if_neg silent, List.filterMap_nil]

theorem eq_light_of_name {entry : Procedure Float × List String} (standard : entry ∈ standardProcedures)
    (name : entry.1.name = "LIGHTS05") : entry.1 = light := by
  simp only [standardProcedures, List.mem_cons, List.not_mem_nil, or_false] at standard
  rcases standard with rfl | rfl | rfl | rfl | rfl | rfl | rfl | rfl | rfl | rfl | rfl | rfl | rfl | rfl |
    rfl | rfl
  all_goals first
    | exact absurd name (by decide)
    | rfl

end Light

/-- Whatever a standard procedure returns, the one for new objects aside, is read as it was written: every
directive is one command, in order, none is a call, and the texts of a light are its description or none. -/
theorem fragment_read_as_written (library : Library Float) (situation : Situation Float)
    {entry : Procedure Float × List String} (standard : entry ∈ standardProcedures)
    (other : entry.1.name ≠ "SYMINS01") {fragment : Fragment}
    (returned : entry.1.compute situation = some fragment) :
    ∃ directives commands, fragment = .directives directives ∧
      Directive.tokenize fragment.text = directives ∧
      library.compileFragment entry.1.name fragment.text = .ok commands ∧
      library.Matches directives commands ∧
      (∀ command ∈ commands, command.isConditional = false) ∧
      (entry.1.name = "LIGHTS05" → commands.filterMap Command.textContent? =
        if Light.isDescribed situation then [.literal (Light.description situation.feature)] else []) := by
  obtain ⟨directives, rfl, sound⟩ := writesSound_of_standard standard other situation fragment returned
  obtain ⟨commands, compiled, each⟩ := library.compileFragment_sound entry.1.name sound
  refine ⟨directives, commands, rfl, sound.tokenize, compiled, each,
    (Library.compileFragment_ok.mp compiled).2, fun name => ?_⟩
  rw [Light.eq_light_of_name standard name] at returned
  exact Light.textContents_light returned each

/-- A light whose signal group looks like the end of a text and a symbol: it is all text. -/
theorem fragment_read_as_written_group :
    let feature : Feature Float := ((Feature.plain "LIGHTS" .point).setAttribute "LITCHR" "2").setAttribute
      "SIGGRP" "(2');SY(XR"
    let situation : Situation Float := ⟨feature, .empty, .standard, .primary⟩
    let directives : List Directive := [.rotatedSymbol "LITDEF11" "135",
      .ofParameters "TX" [Directive.quoted "Fl(2);SY(XR", "3", "2", "2", Directive.quoted "15110", "2", "1",
        "CHBLK", "23"]]
    (Light.light : Procedure Float).compute situation = some (.directives directives) ∧
      ∃ commands, (Library.standard : Library Float).compileFragment "LIGHTS05"
          (Directive.textOf directives) = .ok commands ∧
        commands.length = 2 ∧
        commands.filterMap Command.textContent? = [.literal "Fl(2);SY(XR"] := by
  intro feature situation directives
  have returned : (Light.light : Procedure Float).compute situation = some (.directives directives) := by
    decide +kernel
  have standard : ((Light.light : Procedure Float), ["LIGHTS06"]) ∈ standardProcedures := by
    simp [standardProcedures]
  obtain ⟨list, commands, same, -, compiled, each, -, texts⟩ :=
    fragment_read_as_written .standard situation standard (by decide) returned
  cases same
  have described : Light.isDescribed situation = true := by decide +kernel
  have description : Light.description feature = "Fl(2);SY(XR" := by decide +kernel
  have texts := texts rfl
  rw [if_pos described, description] at texts
  exact ⟨returned, commands, compiled, each.length_eq.symm, texts⟩

end ChartPortrayal
