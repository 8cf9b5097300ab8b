import ChartPortrayal.Rule.Basic
import ChartPortrayal.Text.Fields

/-!
Selection of the look-up rule for a feature. A rule is rejected when an attribute fails its constraint, and
scores one for each constraint that is satisfied. The best score wins, the last of equals, and a rule that
scores nothing never displaces the default.
-/

namespace ChartPortrayal

/-- Whether an attribute value is the one that a rule expects. Lists are compared as sets of codes, numbers
as numbers with a tolerance for fractions, and other texts literally. -/
def valuesMatch (α : Type) [Quantity α] (expected actual : String) : Bool :=
  let expected := Text.trim expected
  let actual := Text.trim actual
  if expected.toList.contains ',' || actual.toList.contains ',' then
    let wanted := CodeList.parse expected
    !wanted.isEmpty && (CodeList.parse actual).sameSet wanted.codes
  else
    match integer64? expected, integer64? actual with
    | some first, some second => first == second
    | _, _ =>
      match (Quantity.read? expected : Option α), (Quantity.read? actual : Option α) with
      | some first, some second => decide (Quantity.magnitude (first - second) < 1e-9)
      | _, _ => expected == actual

inductive Verdict where
  | satisfied
  /-- The constraint has nothing to say, and does not count. -/
  | silent
  | rejected
deriving DecidableEq

namespace Constraint

variable {α : Type} [Quantity α]

def verdict (constraint : Constraint) (feature : Feature α) : Verdict :=
  match constraint.test, (feature.attribute? constraint.acronym).map Text.trim with
  | .unknown, none => .satisfied
  | .anyValue, none => .silent
  | .equals _, none => .rejected
  | .anyValue, some value => if value = "" then .rejected else .satisfied
  | .unknown, some value => if value = "" then .satisfied else .rejected
  | .equals expected, some value => if valuesMatch α expected value then .satisfied else .rejected

end Constraint

/-- A rule with its place among the candidates and the constraints that were satisfied. -/
structure Selection where
  rule : Rule
  index : Nat
  matched : List Constraint
deriving DecidableEq

namespace Selection

def score (selection : Selection) : Nat := selection.matched.length

def isDefault (selection : Selection) : Bool := selection.index == 0

def ofDefault (rule : Rule) : Selection := ⟨rule, 0, []⟩

end Selection

namespace Rule

variable {α : Type} [Quantity α]

/-- The constraints of a list that are satisfied, in order, unless one rejects the feature. -/
def satisfiedConstraints? (feature : Feature α) : List Constraint → Option (List Constraint)
  | [] => some []
  | constraint :: rest =>
    match constraint.verdict feature with
    | .rejected => none
    | .silent => satisfiedConstraints? feature rest
    | .satisfied => (satisfiedConstraints? feature rest).map (constraint :: ·)

def evaluate? (rule : Rule) (feature : Feature α) : Option (List Constraint) :=
  satisfiedConstraints? feature rule.constraints

def challenge (feature : Feature α) (best : Selection) (index : Nat) (rule : Rule) : Selection :=
  match rule.evaluate? feature with
  | some matched =>
    if matched ≠ [] ∧ best.score ≤ matched.length then ⟨rule, index, matched⟩ else best
  | none => best

def scanCandidates (feature : Feature α) (best : Selection) : Nat → List Rule → Selection
  | _, [] => best
  | index, rule :: rest =>
    scanCandidates feature (challenge feature best index rule) (index + 1) rest

/-- The class of route legs, which choose their rule by one attribute. -/
def routeLegClass : String := "leglin"

def routeLegAttribute : String := "select"

def isUndecidedLeg (feature : Feature α) : Bool :=
  feature.className == routeLegClass && (feature.attribute? routeLegAttribute).isNone

/-- Selects among the candidates; only an empty list has no selection. A default that stands alone and asks
for nothing is taken at once, and a route leg that does not say which kind it is takes the default. -/
def select? (candidates : List Rule) (feature : Feature α) : Option Selection :=
  match candidates with
  | [] => none
  | rule :: rest =>
    if rest.isEmpty && rule.constraints.isEmpty then some (.ofDefault rule)
    else if isUndecidedLeg feature then some (.ofDefault rule)
    else some (scanCandidates feature (.ofDefault rule) 1 rest)

/-- A default that stands alone would be selected by a scan as well. -/
theorem select?_cons (rule : Rule) (rest : List Rule) (feature : Feature α) :
    select? (rule :: rest) feature =
      some (if isUndecidedLeg feature then .ofDefault rule
        else scanCandidates feature (.ofDefault rule) 1 rest) := by
  rw [select?]
  split
  · next alone =>
    have none := List.isEmpty_iff.mp (Bool.and_eq_true_iff.mp alone).1
    subst none
    simp [scanCandidates]
  · split <;> rfl

end Rule

end ChartPortrayal
