import ChartPortrayal.Proofs.Number.Sign
import ChartPortrayal.Proofs.Selection
import ChartPortrayal.Proofs.Text.Trimming

/-! Values match like equal things do. Whichever way two texts are compared, as lists, integers, fractions or
texts, it makes no difference which of them a rule expects; and a text matches itself, unless it is a list
in which no field holds a code. -/

namespace ChartPortrayal

namespace CodeList

theorem sameSet_comm (first second : CodeList) :
    first.sameSet second.codes = second.sameSet first.codes :=
  Bool.and_comm ..

theorem sameSet_self (list : CodeList) : list.sameSet list.codes = true := by
  simp [sameSet, contains]

/-- Only a list without codes holds the same codes as one without any. -/
theorem isEmpty_of_sameSet {first second : CodeList} (same : first.sameSet second.codes = true)
    (empty : second.isEmpty = true) : first.isEmpty = true := by
  have bare : second.codes = [] := List.isEmpty_iff.mp empty
  simpa [sameSet, bare, isEmpty, List.eq_nil_iff_forall_not_mem] using same

/-- Of two lists with the same codes one is empty when the other is. -/
theorem matches_comm (first second : CodeList) :
    (!first.isEmpty && second.sameSet first.codes) = (!second.isEmpty && first.sameSet second.codes) := by
  rw [sameSet_comm second first]
  cases same : first.sameSet second.codes with
  | false => rw [Bool.and_false, Bool.and_false]
  | true =>
    have alike : first.isEmpty = second.isEmpty :=
      Bool.eq_iff_iff.mpr ⟨isEmpty_of_sameSet (sameSet_comm .. ▸ same), isEmpty_of_sameSet same⟩
    rw [alike]

end CodeList

/-- A text with commas in which no field holds a code. -/
def IsCodelessList (text : String) : Prop :=
  ',' ∈ (Text.trim text).toList ∧ (CodeList.parse (Text.trim text)).isEmpty = true

instance (text : String) : Decidable (IsCodelessList text) := instDecidableAnd

/-- A text that denotes no number or a finite one, and neither infinity nor the undefined number. -/
def DenotesFinitely (text : String) : Prop :=
  (Quantity.read? (Text.trim text) : Option Float).all Float.isFinite = true

instance (text : String) : Decidable (DenotesFinitely text) := instDecidableEqBool _ _

theorem valuesMatch_comm (first second : String) :
    valuesMatch Float first second = valuesMatch Float second first := by
  simp only [valuesMatch]
  rw [Bool.or_comm]
  split
  · exact CodeList.matches_comm ..
  · rcases integer64? (Text.trim first) with _ | one <;>
      rcases integer64? (Text.trim second) with _ | other
    case some.some => exact Bool.beq_comm ..
    -- unless both are integers, they are compared as fractions, and as texts unless both are fractions
    all_goals
      dsimp only
      rcases (Quantity.read? (Text.trim first) : Option Float) with _ | one <;>
        rcases (Quantity.read? (Text.trim second) : Option Float) with _ | other
      case some.some => exact decide_eq_decide.mpr (FloatSign.magnitude_sub_lt_comm ..)
      all_goals exact Bool.beq_comm ..

/-- A list without codes matches nothing. -/
theorem valuesMatch_of_isCodelessList {text : String} (codeless : IsCodelessList text) (other : String) :
    valuesMatch Float text other = false := by
  obtain ⟨comma, empty⟩ := codeless
  simp [valuesMatch, comma, empty]

theorem valuesMatch_self {text : String} (finite : DenotesFinitely text) (coded : ¬ IsCodelessList text) :
    valuesMatch Float text text = true := by
  simp only [valuesMatch, Bool.or_self]
  split
  · next comma =>
    have filled : (CodeList.parse (Text.trim text)).isEmpty = false := by
      by_contra empty
      exact coded ⟨by simpa using comma, by simpa using empty⟩
    rw [filled, CodeList.sameSet_self]
    rfl
  · cases integer64? (Text.trim text) with
    | some value => exact beq_self_eq_true value
    | none =>
      dsimp only
      cases read : (Quantity.read? (Text.trim text) : Option Float) with
      | none => exact beq_self_eq_true _
      | some number =>
        rw [DenotesFinitely, read, Option.all_some] at finite
        exact decide_eq_true (FloatSign.magnitude_sub_self_lt finite (by decide +kernel))

theorem valuesMatch_trim (first second : String) :
    valuesMatch Float first (Text.trim second) = valuesMatch Float first second := by
  simp only [valuesMatch, Text.trim_trim]

/-- A constraint that expects the very text of an attribute is satisfied by it, unless that is a list
without codes. -/
theorem Constraint.verdict_self {feature : Feature Float} {acronym text : String}
    (held : feature.attribute? acronym = some text) (finite : DenotesFinitely text) :
    Constraint.verdict ⟨acronym, .equals text⟩ feature =
      if IsCodelessList text then .rejected else .satisfied := by
  simp only [Constraint.verdict, held, Option.map_some, valuesMatch_trim]
  by_cases codeless : IsCodelessList text
  · rw [valuesMatch_of_isCodelessList codeless, if_pos codeless, if_neg Bool.false_ne_true]
  · rw [valuesMatch_self finite codeless, if_neg codeless, if_pos rfl]

theorem Rule.accepts_iff {rule : Rule} {feature : Feature Float} :
    (rule.evaluate? feature).isSome = true ↔
      ∀ constraint ∈ rule.constraints, constraint.verdict feature ≠ .rejected := by
  simp only [Option.isSome_iff_exists, Rule.evaluate?, Rule.satisfiedConstraints?_eq_some,
    exists_and_left, exists_eq, and_true]

/-- Matching is symmetric. A list without codes matches no text at all. Any other text that denotes neither
infinity nor the undefined number matches itself, so that of a rule that expects exactly the text which an
attribute has, only the other constraints decide whether it accepts the feature. -/
theorem valuesMatch_symmetric_reflexive :
    (∀ first second, valuesMatch Float first second = valuesMatch Float second first) ∧
      (∀ text, IsCodelessList text → ∀ other, valuesMatch Float text other = false) ∧
      ∀ text, DenotesFinitely text → ¬ IsCodelessList text →
        valuesMatch Float text text = true ∧
          ∀ (rule : Rule) (feature : Feature Float) (acronym : String),
            feature.attribute? acronym = some text →
            ((rule.evaluate? feature).isSome = true ↔
              ∀ constraint ∈ rule.constraints, constraint ≠ ⟨acronym, .equals text⟩ →
                constraint.verdict feature ≠ .rejected) := by
  refine ⟨valuesMatch_comm, fun text codeless => valuesMatch_of_isCodelessList codeless,
    fun text finite coded => ⟨valuesMatch_self finite coded, fun rule feature acronym held => ?_⟩⟩
  rw [Rule.accepts_iff]
  refine ⟨fun accepted constraint listed _ => accepted constraint listed,
    fun others constraint listed => ?_⟩
  by_cases same : constraint = ⟨acronym, .equals text⟩
  · rw [same, Constraint.verdict_self held finite, if_neg coded]
    decide
  · exact others constraint listed same

theorem valuesMatch_symmetric_reflexive_depth :
    DenotesFinitely "2.50" ∧ ¬ IsCodelessList "2.50" ∧ IsCodelessList "a,b" ∧
      valuesMatch Float "2.50" "2.50" = true ∧ valuesMatch Float "a,b" "a,b" = false ∧
      let rule := { Rule.plain "DEPARE" .plainBoundaries "AC(DEPVS)" .standard with
        constraints := [⟨"DRVAL1", .equals "2.50"⟩] }
      let area : Feature Float := (Feature.plain "DEPARE" .area).setAttribute "DRVAL1" "2.50"
      (rule.evaluate? area).isSome = true := by
  have finite : DenotesFinitely "2.50" := by decide +kernel
  have coded : ¬ IsCodelessList "2.50" := by decide +kernel
  have codeless : IsCodelessList "a,b" := by decide +kernel
  obtain ⟨self, accepts⟩ := valuesMatch_symmetric_reflexive.2.2 "2.50" finite coded
  refine ⟨finite, coded, codeless, self, valuesMatch_symmetric_reflexive.2.1 "a,b" codeless "a,b", ?_⟩
  exact (accepts _ _ "DRVAL1" (by decide +kernel)).mpr (by simp)

/-- Free text with a comma does not match itself. -/
theorem not_valuesMatch_reflexive : ¬ ∀ text, valuesMatch Float text text = true := by
  intro reflexive
  exact absurd (reflexive "a,b") (by decide +kernel)

end ChartPortrayal
