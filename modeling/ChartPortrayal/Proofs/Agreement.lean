import ChartPortrayal.Portrayal.Slot
import ChartPortrayal.Proofs.Compilation
import ChartPortrayal.Proofs.Locality

namespace ChartPortrayal

variable {α : Type} [Quantity α]

namespace Rule

theorem satisfiedConstraints?_unmarked (feature : Feature α) (constraints : List Constraint) :
    satisfiedConstraints? feature.unmarked constraints = satisfiedConstraints? feature constraints := by
  induction constraints with
  | nil => rfl
  | cons constraint rest ih =>
    have verdicts : constraint.verdict feature.unmarked = constraint.verdict feature := rfl
    rw [satisfiedConstraints?, satisfiedConstraints?, verdicts, ih]

theorem challenge_unmarked (feature : Feature α) (best : Selection) (index : Nat) (rule : Rule) :
    challenge feature.unmarked best index rule = challenge feature best index rule := by
  unfold challenge evaluate?
  rw [satisfiedConstraints?_unmarked]

theorem scanCandidates_unmarked (feature : Feature α) (best : Selection) (index : Nat)
    (rules : List Rule) :
    scanCandidates feature.unmarked best index rules = scanCandidates feature best index rules := by
  induction rules generalizing best index with
  | nil => rfl
  | cons rule rest ih => rw [scanCandidates, scanCandidates, challenge_unmarked, ih]

/-- Highlights do not matter for the selection of a rule. -/
theorem select?_unmarked (candidates : List Rule) (feature : Feature α) :
    select? candidates feature.unmarked = select? candidates feature := by
  cases candidates with
  | nil => rfl
  | cons rule rest =>
    rw [select?_cons, select?_cons, scanCandidates_unmarked]
    rfl

end Rule

theorem Label.ofCommands_unmarked (settings : Settings α) (feature : Feature α)
    (commands : List (Command α)) :
    ofCommands settings feature.unmarked commands = ofCommands settings feature commands := rfl

/-- A plain library calls local procedures. -/
theorem Library.IsPlain.isLocal_of_compile {library : Library α} (plain : library.IsPlain)
    {text : String} {commands : List (Command α)} (compiled : library.compile text = .ok commands)
    {name : String} {procedure : Procedure α}
    (member : Command.callConditional name procedure ∈ commands) : procedure.IsLocal :=
  (plain name procedure (find?_of_compile compiled member)).isLocal

namespace Scene

theorem choose_unmarked (scene : Scene α) (feature : Feature α) (variant : Variant) :
    scene.choose feature.unmarked variant = scene.choose feature variant := by
  simp only [choose, Rule.select?_unmarked]
  rfl

/-- The rule for a feature depends on the library and on the feature, its highlight aside. -/
theorem choose_congr {first second : Scene α} {feature other : Feature α}
    (library : first.library = second.library) (unmarked : feature.unmarked = other.unmarked)
    (variant : Variant) : first.choose feature variant = second.choose other variant := by
  rw [← choose_unmarked first, unmarked, ← choose_unmarked second]
  unfold choose
  rw [library]

theorem stamp_congr {first second : Scene α} {feature other : Feature α}
    (library : first.library = second.library)
    (symbology : first.store.symbologyGeneration = second.store.symbologyGeneration)
    (links : first.chart.linkGeneration = second.chart.linkGeneration)
    (unmarked : feature.unmarked = other.unmarked) (variant : Variant) :
    first.stamp feature variant = second.stamp other variant := by
  have geometry : feature.geometry = other.geometry := by
    simpa using congrArg Feature.geometry unmarked
  rw [stamp, stamp, choose_congr library unmarked, symbology, links, geometry]

/-- Commands are expanded alike in situations that the procedures they call do not tell apart. -/
theorem expand_congr {scene other : Scene α} (library : other.library = scene.library)
    {first second : Situation α} (className : first.feature.className = second.feature.className)
    {commands : List (Command α)}
    (answers : ∀ name procedure, Command.callConditional name procedure ∈ commands →
      procedure.compute first = procedure.compute second) (expansion : Expansion α) :
    other.expand first expansion commands = scene.expand second expansion commands := by
  induction commands generalizing expansion with
  | nil => rfl
  | cons command rest ih =>
    have later := ih (fun name procedure member => answers name procedure (List.mem_cons_of_mem _ member))
    cases command with
    | callConditional name procedure =>
      have answer := answers name procedure List.mem_cons_self
      simp only [expand, answer, library, className, later]
    | _ => exact later _

/-- Alike situations expand commands alike, where the procedures that are called are local. -/
theorem expand_alike {scene other : Scene α} (library : other.library = scene.library)
    {first second : Situation α} (alike : first.Alike second) {commands : List (Command α)}
    (blind : ∀ name procedure, Command.callConditional name procedure ∈ commands → procedure.IsLocal)
    (expansion : Expansion α) :
    other.expand first expansion commands = scene.expand second expansion commands := by
  have className : first.feature.className = second.feature.className := by
    simpa using congrArg Feature.className alike.feature
  exact expand_congr library className
    (fun name procedure member => blind name procedure member first second alike) expansion

/-- Two scenes that build the same slot for a feature, which may look different in them. -/
structure Agrees (first second : Scene α) (feature other : Feature α) : Prop where
  library : first.library = second.library
  symbology : first.store.symbologyGeneration = second.store.symbologyGeneration
  links : first.chart.linkGeneration = second.chart.linkGeneration
  alike : ∀ variant, (first.situation feature variant).Alike (second.situation other variant)

namespace Agrees

variable {first second : Scene α} {feature other : Feature α}

omit [Quantity α] in
theorem unmarked (agrees : first.Agrees second feature other) : feature.unmarked = other.unmarked :=
  (agrees.alike .primary).feature

theorem choose (agrees : first.Agrees second feature other) (variant : Variant) :
    first.choose feature variant = second.choose other variant :=
  choose_congr agrees.library agrees.unmarked variant

theorem stamp (agrees : first.Agrees second feature other) (variant : Variant) :
    first.stamp feature variant = second.stamp other variant :=
  stamp_congr agrees.library agrees.symbology agrees.links agrees.unmarked variant

theorem build (agrees : first.Agrees second feature other) (plain : second.library.IsPlain)
    (variant : Variant) : first.build feature variant = second.build other variant := by
  unfold Scene.build
  simp only [agrees.choose, agrees.stamp, agrees.library]
  cases compiled : second.library.compileRule (second.choose other variant).rule
      ((second.choose other variant).index.getD 0) with
  | error error => rfl
  | ok commands =>
    have whole := (Library.compileRule_ok.mp compiled).1
    have blind : ∀ name procedure, Command.callConditional name procedure ∈ commands →
        procedure.IsLocal := fun name procedure member => plain.isLocal_of_compile whole member
    simp only [expand_alike agrees.library (agrees.alike variant) blind]

end Agrees

end Scene

end ChartPortrayal
