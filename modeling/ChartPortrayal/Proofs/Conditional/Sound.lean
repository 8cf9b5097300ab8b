import Mathlib.Data.List.Forall2
import ChartPortrayal.Proofs.Instruction.Words
import ChartPortrayal.Proofs.Overriding

/-! Sound directives: those that are read as they were written and stand for a command in every library, a
call excepted. All constructors of directives that procedures use make sound ones, whatever numbers they are
given, and whatever text stands between quotes. -/

namespace ChartPortrayal

open Text (isWord)

theorem LinePattern.isWord_code (pattern : LinePattern) : isWord pattern.code = true := by
  cases pattern <;> rfl

theorem LinePattern.ofCode?_code (pattern : LinePattern) : ofCode? pattern.code = some pattern := by
  cases pattern <;> rfl

variable {α : Type} [Quantity α]

namespace Directive

/-- A directive that is read as it was written, and for which every library has a command that is no call. If it
is an override, it can be written over every priority. -/
structure Sound (α : Type) [Quantity α] (directive : Directive) : Prop where
  legible : directive.Legible
  static : ¬ directive.IsCall
  bound : ∀ library : Library α, ∃ command, library.bind directive = .ok (some command)
  fits : ∀ override, directive.override? = some override → override.Fits

/-- The tags that stand for a command whatever the parameters are. -/
def steadyTags : List String := ["TX", "TE", "SY", "LC", "AC", "AP", "CA", "SL"]

namespace Sound

theorem of_steady {tag : String} (steady : tag ∈ steadyTags) {fields : List String}
    (each : ∀ field ∈ fields, IsField field) : (ofParameters tag fields).Sound α := by
  simp only [steadyTags, List.mem_cons, List.not_mem_nil, or_false] at steady
  rcases steady with rfl | rfl | rfl | rfl | rfl | rfl | rfl | rfl
  all_goals exact
    { legible := legible_ofParameters ⟨_, _, rfl, by decide, by decide⟩ each
      static := by simp [IsCall, ofParameters]
      bound := fun _ => ⟨_, rfl⟩
      fits := by simp [override?, ofParameters] }

theorem of_words {tag : String} (steady : tag ∈ steadyTags) {words : List String}
    (all : words.all isWord = true) : (ofParameters tag words).Sound α :=
  of_steady steady (fun word member => isField_of_isWord (List.all_eq_true.mp all word member))

variable {name colour : String}

theorem symbol (word : isWord name = true) : (symbol name).Sound α :=
  of_words (by decide) (by simp [word])

theorem rotatedSymbol {rotation : String} (word : isWord name = true) (turned : isWord rotation = true) :
    (rotatedSymbol name rotation).Sound α :=
  of_words (by decide) (by simp [word, turned])

theorem complexLine (word : isWord name = true) : (complexLine name).Sound α :=
  of_words (by decide) (by simp [word])

theorem areaColour (word : isWord colour = true) : (areaColour colour).Sound α :=
  of_words (by decide) (by simp [word])

theorem areaPattern (word : isWord name = true) : (areaPattern name).Sound α :=
  of_words (by decide) (by simp [word])

/-- A line in one of the three patterns; with another one the directive would be dropped. -/
theorem simpleLine (pattern : LinePattern) (width : Nat) (word : isWord colour = true) :
    (simpleLine pattern.code width colour).Sound α := by
  have each : ∀ field ∈ [pattern.code, toString width, colour], IsField field := by
    intro field member
    refine isField_of_isWord ?_
    simp only [List.mem_cons, List.not_mem_nil, or_false] at member
    rcases member with rfl | rfl | rfl
    · exact pattern.isWord_code
    · exact Text.isWord_natural width
    · exact word
  have read := parameters_ofParameters "LS" each
  have present : Parameters.nonempty? [pattern.code, toString width, colour] 0 = some pattern.code := by
    cases pattern <;> rfl
  have style : (Parameters.lineStyle? [pattern.code, toString width, colour] 0).isSome = true := by
    rw [Parameters.lineStyle?, present, Option.bind_some, pattern.ofCode?_code, Option.map_some,
      Option.isSome_some]
  refine ⟨legible_ofParameters ⟨'L', 'S', rfl, rfl, rfl⟩ each,
    by simp [IsCall, Directive.simpleLine, ofParameters], fun library => ?_,
    by simp [override?, Directive.simpleLine, ofParameters]⟩
  obtain ⟨style, found⟩ := Option.isSome_iff_exists.mp style
  refine ⟨.showSimpleLine style, ?_⟩
  rw [← read] at found
  exact congrArg (fun style? => Except.ok (Option.map Command.showSimpleLine style?)) found

/-- An override whose payload can be read; another one would be dropped. -/
theorem overridePriority {fields : List String} (all : fields.all isWord = true)
    {override : PriorityOverride} (parsed : PriorityOverride.parse (Text.join "," fields) = .ok override)
    (fits : override.Fits) : (overridePriority fields).Sound α where
  legible := legible_ofParameters ⟨'O', 'P', rfl, rfl, rfl⟩
    (fun word member => isField_of_isWord (List.all_eq_true.mp all word member))
  static := by simp [IsCall, Directive.overridePriority, ofParameters]
  bound library := ⟨.overridePriority override, library.bind_of_parse rfl parsed⟩
  fits other read := by
    have own : (Directive.overridePriority fields).override? = some override := by
      simp only [override?, Directive.overridePriority, ofParameters, ↓reduceIte, parsed, Except.toOption]
    rw [own] at read
    cases read
    exact fits

end Sound

/-- All directives of a list are sound. -/
def AllSound (α : Type) [Quantity α] (list : List Directive) : Prop :=
  ∀ directive ∈ list, directive.Sound α

theorem allSound_nil : AllSound α [] := by
  intro directive member
  cases member

theorem allSound_cons {directive : Directive} {rest : List Directive} :
    AllSound α (directive :: rest) ↔ directive.Sound α ∧ AllSound α rest := List.forall_mem_cons

theorem allSound_append {first last : List Directive} :
    AllSound α (first ++ last) ↔ AllSound α first ∧ AllSound α last := List.forall_mem_append

theorem allSound_symbols {names : List String} (words : ∀ name ∈ names, isWord name = true) :
    AllSound α (names.map symbol) := by
  intro directive member
  obtain ⟨name, present, rfl⟩ := List.mem_map.mp member
  exact .symbol (words name present)

/-- Sound directives are read one by one, in the order in which they were written. -/
theorem AllSound.tokenize {list : List Directive} (sound : AllSound α list) :
    tokenize (textOf list) = list :=
  tokenize_textOf (fun directive member => (sound directive member).legible)

/-- The overrides among sound directives can be written over every priority. -/
theorem AllSound.fits {list : List Directive} (sound : AllSound α list) :
    ∀ override ∈ list.filterMap override?, override.Fits := by
  intro override listed
  obtain ⟨directive, member, read⟩ := List.mem_filterMap.mp listed
  exact (sound directive member).fits override read

end Directive

namespace Library

/-- Every directive stands for the command at its place, and there are no others. -/
def Matches (library : Library α) (directives : List Directive) (commands : List (Command α)) : Prop :=
  List.Forall₂ (fun directive command => library.bind directive = .ok (some command)) directives commands

/-- What each directive stands for is what all of them compile to. -/
theorem Matches.bindAll {library : Library α} {directives : List Directive} {commands : List (Command α)}
    (each : library.Matches directives commands) : library.bindAll directives = .ok commands := by
  induction each with
  | nil => rfl
  | cons bound _ ih => exact bindAll_cons.mpr ⟨_, _, bound, ih, rfl⟩

/-- Of sound directives each has its command, in the same order. -/
theorem bindAll_sound (library : Library α) {list : List Directive} (sound : Directive.AllSound α list) :
    ∃ commands, library.bindAll list = .ok commands ∧ library.Matches list commands := by
  induction list with
  | nil => exact ⟨[], rfl, .nil⟩
  | cons directive rest ih =>
    obtain ⟨here, later⟩ := Directive.allSound_cons.mp sound
    obtain ⟨command, bound⟩ := here.bound library
    obtain ⟨commands, compiled, each⟩ := ih later
    exact ⟨command :: commands, bindAll_cons.mpr ⟨some command, commands, bound, compiled, rfl⟩,
      .cons bound each⟩

/-- A fragment of sound directives compiles, each directive to its command. -/
theorem compileFragment_sound (library : Library α) (procedure : String) {list : List Directive}
    (sound : Directive.AllSound α list) :
    ∃ commands, library.compileFragment procedure (Directive.textOf list) = .ok commands ∧
      library.Matches list commands := by
  obtain ⟨commands, compiled, each⟩ := library.bindAll_sound sound
  refine ⟨commands, compileFragment_ok.mpr ⟨?_, ?_⟩, each⟩
  · rw [compile, sound.tokenize, compiled]
  · exact bindAll_static (fun directive member => (sound directive member).static) compiled

end Library

end ChartPortrayal
