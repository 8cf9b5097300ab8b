import Mathlib.Data.String.Basic
import ChartPortrayal.Proofs.Selection
import ChartPortrayal.Proofs.Splicing
import ChartPortrayal.Proofs.Text.Trimming

namespace ChartPortrayal

namespace Constraint

/-- A constraint that its encoded form can hold: the acronym fills the bytes of one, and a value that is expected
is trimmed and none of the two texts that stand for the other tests. -/
structure IsEncodable (constraint : Constraint) : Prop where
  acronym : constraint.acronym.utf8ByteSize = acronymBytes
  value : ∀ value, constraint.test = .equals value → Text.trim value = value ∧ value ≠ "" ∧ value ≠ "?"

theorem splitBytes_append (first rest : List Char) :
    splitBytes (String.utf8Len first) (first ++ rest) = some (first, rest) := by
  induction first with
  | nil => rw [String.utf8Len_nil, List.nil_append, splitBytes]
  | cons char others ih =>
    obtain ⟨size, whole⟩ : ∃ size, String.utf8Len others + char.utf8Size = size + 1 :=
      ⟨String.utf8Len others + char.utf8Size - 1, by have := char.utf8Size_pos; omega⟩
    have left : size + 1 - char.utf8Size = String.utf8Len others := by omega
    rw [String.utf8Len_cons, whole, List.cons_append, splitBytes, if_pos (by omega), left, ih]
    rfl

/-- Characters are split where the first part fills the bytes, and nowhere else. -/
theorem splitBytes_eq_some {size : Nat} {chars first rest : List Char}
    (split : splitBytes size chars = some (first, rest)) :
    chars = first ++ rest ∧ String.utf8Len first = size := by
  induction chars generalizing size first with
  | nil =>
    cases size with
    | zero =>
      cases split
      exact ⟨rfl, rfl⟩
    | succ size => cases split
  | cons char others ih =>
    cases size with
    | zero =>
      cases split
      exact ⟨rfl, rfl⟩
    | succ size =>
      rw [splitBytes] at split
      split at split
      · next fits =>
        obtain ⟨⟨head, tail⟩, later, same⟩ := Option.map_eq_some_iff.mp split
        cases same
        obtain ⟨rfl, filled⟩ := ih later
        refine ⟨rfl, ?_⟩
        rw [String.utf8Len_cons, filled]
        omega
      · cases split

/-- What a value asks, as a distinction of cases. -/
theorem testOf_eq (value : String) :
    testOf value = if value = "" then .anyValue else if value = "?" then .unknown else .equals value := by
  unfold testOf
  split <;> simp_all

theorem parse?_eq_some_iff {encoded : String} {constraint : Constraint} :
    parse? encoded = some constraint ↔
      ∃ rest, encoded = constraint.acronym ++ String.ofList rest ∧
        constraint.acronym.utf8ByteSize = acronymBytes ∧
        constraint.test = testOf (String.ofList (Text.trimChars rest)) := by
  rw [parse?, Option.map_eq_some_iff]
  constructor
  · rintro ⟨⟨first, rest⟩, split, rfl⟩
    obtain ⟨whole, filled⟩ := splitBytes_eq_some split
    refine ⟨rest, ?_, ?_, rfl⟩
    · rw [← String.ofList_append, ← whole, String.ofList_toList]
    · rw [String.utf8ByteSize_ofList, filled]
  · rintro ⟨rest, rfl, filled, asked⟩
    have size : String.utf8Len constraint.acronym.toList = acronymBytes := by
      rw [← String.utf8ByteSize_ofList, String.ofList_toList, filled]
    refine ⟨(constraint.acronym.toList, rest), ?_, ?_⟩
    · rw [String.toList_append, String.toList_ofList, ← size, splitBytes_append]
    · rw [String.ofList_toList, ← asked]

theorem isEncodable_of_parse? {encoded : String} {constraint : Constraint}
    (parsed : parse? encoded = some constraint) : constraint.IsEncodable := by
  obtain ⟨rest, -, filled, asked⟩ := parse?_eq_some_iff.mp parsed
  refine ⟨filled, fun value expected => ?_⟩
  rw [expected, testOf_eq] at asked
  split at asked
  · cases asked
  · next solid =>
    split at asked
    · cases asked
    · next known =>
      cases asked
      exact ⟨by rw [Text.trim, String.toList_ofList, Text.trimChars_trimChars], solid, known⟩

theorem IsEncodable.parse?_text {constraint : Constraint} (encodable : constraint.IsEncodable) :
    parse? constraint.text = some constraint := by
  rw [parse?_eq_some_iff, text]
  cases asked : constraint.test with
  | anyValue => exact ⟨[' '], rfl, encodable.acronym, rfl⟩
  | unknown => exact ⟨['?'], rfl, encodable.acronym, rfl⟩
  | equals value =>
    obtain ⟨trimmed, solid, known⟩ := encodable.value value asked
    refine ⟨value.toList, by rw [String.ofList_toList], encodable.acronym, ?_⟩
    have same : String.ofList (Text.trimChars value.toList) = value := trimmed
    rw [same, testOf_eq, if_neg solid, if_neg known]

/-- A constraint is read from its encoded form exactly when the form can hold it. -/
theorem parse?_text_iff {constraint : Constraint} :
    parse? constraint.text = some constraint ↔ constraint.IsEncodable :=
  ⟨isEncodable_of_parse?, IsEncodable.parse?_text⟩

/-- Constraints that can be encoded are told apart by their encoded forms. -/
theorem IsEncodable.eq_of_text {first second : Constraint} (one : first.IsEncodable)
    (other : second.IsEncodable) (same : first.text = second.text) : first = second := by
  have parsed := one.parse?_text
  rw [same, other.parse?_text] at parsed
  exact (Option.some.inj parsed).symm

end Constraint

namespace Scene

variable {α : Type} [Quantity α] {scene : Scene α} {feature : Feature α} {variant : Variant}

/-- What is satisfied is asked by the rule. -/
theorem matched_subset (scene : Scene α) (feature : Feature α) (variant : Variant) :
    ∀ constraint ∈ (scene.choose feature variant).matched,
      constraint ∈ (scene.choose feature variant).rule.constraints := by
  rw [choose]
  cases candidates : scene.library.candidates (Table.forGeometry feature.geometry variant)
      feature.className with
  | nil => simp [Rule.select?]
  | cons rule rest =>
    rcases Rule.select?_cons_cases rule rest feature with ⟨-, selected⟩ | ⟨-, selection, selected, contends, -⟩
    · simp [selected, Selection.ofDefault]
    · have matched := (Rule.satisfiedConstraints?_eq_some.mp contends.accepted).2
      simp only [selected, matched]
      exact fun constraint member => (List.mem_filter.mp member).1

end Scene

namespace Constraint

variable {α : Type} [Quantity α]

/-- What is read as a constraint is written so that it is read as the same constraint again; and this goes for
every constraint that the encoded form can hold, and for no other. So the texts of satisfied constraints that a
slot keeps are read as these constraints, and tell them from all others of the rule. -/
theorem encoded_forms_identify (portrayal : Portrayal α) (scene : Scene α) (variant : Variant) :
    (∀ encoded constraint, parse? encoded = some constraint →
        parse? constraint.text = some constraint) ∧
      (∀ constraint : Constraint, parse? constraint.text = some constraint ↔ constraint.IsEncodable) ∧
      ∀ feature commands, portrayal.Genuine scene variant →
        scene.chart.find? portrayal.id = some feature →
        (portrayal.finalize scene variant).2 = .ok commands →
        (∀ constraint ∈ (scene.choose feature variant).rule.constraints, constraint.IsEncodable) →
        ∃ binding, ((portrayal.finalize scene variant).1.slot variant).binding = some binding ∧
          binding.matched.map parse? = (scene.choose feature variant).matched.map some ∧
          ∀ constraint ∈ (scene.choose feature variant).rule.constraints,
            constraint.text ∈ binding.matched ↔ constraint ∈ (scene.choose feature variant).matched := by
  refine ⟨fun encoded constraint parsed => (isEncodable_of_parse? parsed).parse?_text,
    fun constraint => parse?_text_iff, fun feature commands genuine found finalized encodable => ?_⟩
  obtain ⟨present, slot, there, built, -, stored⟩ := Portrayal.finalize_built genuine finalized
  cases found.symm.trans there
  obtain ⟨-, expansion, -, -, rfl⟩ := Scene.build_ok built
  have asked := scene.matched_subset feature variant
  refine ⟨_, stored, ?_, fun constraint member => ⟨fun written => ?_, List.mem_map_of_mem⟩⟩
  · rw [List.map_map]
    exact List.map_congr_left (fun constraint member => (encodable _ (asked _ member)).parse?_text)
  · obtain ⟨other, matched, same⟩ := List.mem_map.mp written
    rwa [← (encodable _ (asked _ matched)).eq_of_text (encodable _ member) same]

/-- The second rule for a buoy asks for two colours, for an attribute with a name of five letters and six bytes
that the buoy does not have, and for one that has nothing to say. -/
theorem encoded_forms_identify_colour :
    let constraints : List Constraint := [⟨"COLOUR", .equals "3,4"⟩, ⟨"NATÉX", .unknown⟩, ⟨"CATLAM", .anyValue⟩]
    let rule : Rule := .plain "BOYLAT" .simplifiedPoints "SY(BOYLAT01)" .standard
    let buoy : Feature Rat := (Feature.plain "BOYLAT" .point).setAttribute "COLOUR" "4,3"
    let scene : Scene Rat :=
      ⟨(Library.standard.addRule rule).addRule { rule with constraints }, Chart.empty.insert buoy, .standard⟩
    parse? "NATÉX? " = some ⟨"NATÉX", .unknown⟩ ∧ parse? "NATÉX?" = some ⟨"NATÉX", .unknown⟩ ∧
      ∃ feature binding, scene.chart.find? 1 = some feature ∧
        (((Portrayal.fresh 1).finalize scene .primary).1.slot .primary).binding = some binding ∧
        binding.matched = ["COLOUR3,4", "NATÉX?"] ∧
        binding.matched.map parse? = [some ⟨"COLOUR", .equals "3,4"⟩, some ⟨"NATÉX", .unknown⟩] := by
  intro constraints rule buoy scene
  obtain ⟨again, encoded, slots⟩ := encoded_forms_identify (Portrayal.fresh 1) scene .primary
  have parsed : parse? "NATÉX? " = some ⟨"NATÉX", .unknown⟩ := by decide +kernel
  have encodable : ∀ constraint ∈ constraints, constraint.IsEncodable := by
    have reads : constraints.all (fun constraint => parse? constraint.text = some constraint) = true := by
      decide +kernel
    exact fun constraint member =>
      (encoded constraint).mp (of_decide_eq_true (List.all_eq_true.mp reads constraint member))
  have chosen : (scene.chart.find? 1).map (fun feature =>
      ((scene.choose feature .primary).rule.constraints, (scene.choose feature .primary).matched)) =
        some (constraints, [⟨"COLOUR", .equals "3,4"⟩, ⟨"NATÉX", .unknown⟩]) := by decide +kernel
  have recorded : ((((Portrayal.fresh 1).finalize scene .primary).1.slot .primary).binding.map Binding.matched) =
      some ["COLOUR3,4", "NATÉX?"] := by decide +kernel
  have answered : ((Portrayal.fresh 1).finalize scene .primary).2.isOk = true := by decide +kernel
  obtain ⟨feature, found, same⟩ := Option.map_eq_some_iff.mp chosen
  obtain ⟨asked, matched⟩ := Prod.mk.inj same
  cases finalized : ((Portrayal.fresh 1).finalize scene .primary).2 with
  | error error =>
    rw [finalized] at answered
    cases answered
  | ok commands =>
    obtain ⟨binding, stored, read, -⟩ := slots feature commands (Portrayal.genuine_fresh 1 scene .primary)
      found finalized (by rw [asked]; exact encodable)
    rw [stored] at recorded
    rw [matched] at read
    exact ⟨parsed, again _ _ parsed, feature, binding, found, stored, Option.some.inj recorded, read⟩

end Constraint

end ChartPortrayal
