import ChartPortrayal.Instruction.Compilation
import ChartPortrayal.Label.Basic
import ChartPortrayal.Rule.Selection
import ChartPortrayal.Settings.Store

/-!
The commands of a feature in one variant, and how they come about: a rule is selected, its instruction is
compiled, and the fragment of the procedure that it calls takes the place of the call. Overrides in the
fragment change the priority; those in the rule itself do not.

A slot carries the stamp of what it was built from. It is current as long as the generations of symbology
and links and the selected rule are the ones in its stamp. Labels are kept beside the commands, under the
generation of texts.
-/

namespace ChartPortrayal

/-- Which rule a slot was built from; the placeholder rule has no index. -/
structure RuleKey where
  table : Table
  index : Option Nat
deriving DecidableEq

structure Stamp where
  symbology : Nat
  links : Nat
  rule : RuleKey
deriving DecidableEq

/-- What a slot was compiled from. -/
structure Binding where
  key : RuleKey
  instruction : String
  /-- The satisfied constraints in their encoded form. -/
  matched : List String
  /-- The procedure that was called, as the rule names it. -/
  procedure : Option String
  fragment : Option String
deriving DecidableEq

/-- Labels, with the generation of texts for which they were resolved. -/
structure LabelCache where
  generation : Nat
  texts : List String
deriving DecidableEq

structure Slot (α : Type) where
  stamp : Option Stamp
  commands : List (Command α)
  priority : Priority
  binding : Option Binding
  labels : Option LabelCache

def Slot.fresh {α : Type} : Slot α := ⟨none, [], .standard, none, none⟩

structure Scene (α : Type) where
  library : Library α
  chart : Chart α
  store : SettingsStore α

structure RuleChoice where
  rule : Rule
  index : Option Nat
  matched : List Constraint
deriving DecidableEq

def placeholderViewGroup : UInt32 := 21010

/-- The rule for classes that the library has none for. It draws late and in the display base, so that an
unknown feature does not go unseen. -/
def placeholderRule (className : String) (geometry : Geometry) (table : Table) : Rule :=
  .plain className table
    (match geometry with
      | .point => "SY(QUESMRK1)"
      | .line => "LC(QUESMRK1)"
      | .area => "AP(QUESMRK1);LS(DASH,1,CHMGD)")
    (.limited 8 .above .base placeholderViewGroup)

/-- The commands of a rule with a fragment in place of the call. -/
structure Expansion (α : Type) where
  commands : List (Command α)
  priority : Priority
  procedure : Option String
  fragment : Option String

def applyOverrides {α : Type} (priority : Priority) (commands : List (Command α)) :
    Except PortrayalError Priority :=
  commands.foldlM
    (fun current command =>
      match command with
      | .overridePriority override => override.apply current
      | _ => .ok current)
    priority

namespace Scene

variable {α : Type} [Quantity α]

def situation (scene : Scene α) (feature : Feature α) (variant : Variant) : Situation α where
  feature := feature
  chart := scene.chart
  settings := scene.store.settings
  variant := variant

def choose (scene : Scene α) (feature : Feature α) (variant : Variant) : RuleChoice :=
  let table := Table.forGeometry feature.geometry variant
  match Rule.select? (scene.library.candidates table feature.className) feature with
  | some selection => ⟨selection.rule, some selection.index, selection.matched⟩
  | none => ⟨placeholderRule feature.className feature.geometry table, none, []⟩

def stamp (scene : Scene α) (feature : Feature α) (variant : Variant) : Stamp where
  symbology := scene.store.symbologyGeneration
  links := scene.chart.linkGeneration
  rule := ⟨Table.forGeometry feature.geometry variant, (scene.choose feature variant).index⟩

/-- Puts the commands of a rule into an expansion one by one, calls aside, which are replaced. -/
def expand (scene : Scene α) (situation : Situation α) :
    Expansion α → List (Command α) → Except PortrayalError (Expansion α)
  | expansion, [] => .ok expansion
  | expansion, .callConditional name procedure :: rest =>
    match procedure.compute situation with
    | some fragment =>
      match scene.library.compileFragment name fragment.text with
      | .ok commands =>
        match applyOverrides expansion.priority commands with
        | .ok priority =>
          scene.expand situation
            { commands := expansion.commands ++ commands
              priority
              procedure := some name
              fragment := some fragment.text } rest
        | .error error => .error error
      | .error error => .error error
    | none =>
      if procedure.alwaysReturns then
        .error (.emptyProcedureOutput name situation.feature.className)
      else scene.expand situation { expansion with procedure := some name } rest
  | expansion, command :: rest =>
    scene.expand situation { expansion with commands := expansion.commands ++ [command] } rest

def build (scene : Scene α) (feature : Feature α) (variant : Variant) :
    Except PortrayalError (Slot α) :=
  let choice := scene.choose feature variant
  let stamp := scene.stamp feature variant
  match scene.library.compileRule choice.rule (choice.index.getD 0) with
  | .error error => .error error
  | .ok commands =>
    match scene.expand (scene.situation feature variant) ⟨[], choice.rule.priority, none, none⟩
        commands with
    | .error error => .error error
    | .ok expansion =>
      .ok
        { stamp := some stamp
          commands := expansion.commands
          priority := expansion.priority
          binding := some
            { key := stamp.rule
              instruction := choice.rule.instruction
              matched := choice.matched.map Constraint.text
              procedure := expansion.procedure
              fragment := expansion.fragment }
          labels := none }

end Scene

end ChartPortrayal
