import Mathlib.Data.List.Basic
import ChartPortrayal.Library.Snapshot
import ChartPortrayal.Proofs.Json.Reading

namespace ChartPortrayal

namespace Json

/-- A decoder takes every value back out of its document. -/
structure Encodes {β : Type} (encode : β → Json) (decode? : Json → Option β) : Prop where
  integral : ∀ value, (encode value).IsIntegral
  decoded : ∀ value, decode? (encode value) = some value

section Fields

/-- Where no name is repeated a member is found by its name. -/
theorem filter_name {members : List (String × Json)} (distinct : (members.map (·.1)).Nodup)
    {member : String × Json} (stands : member ∈ members) :
    members.filter (fun other => other.1 == member.1) = [member] := by
  induction members with
  | nil => cases stands
  | cons first rest ih =>
    rw [List.map_cons, List.nodup_cons] at distinct
    rw [List.filter_cons]
    rcases List.mem_cons.mp stands with rfl | later
    · have alone : rest.filter (fun other => other.1 == member.1) = [] := by
        refine List.filter_eq_nil_iff.mpr (fun other within same => distinct.1 ?_)
        rw [← beq_iff_eq.mp same]
        exact List.mem_map_of_mem within
      rw [if_pos (beq_self_eq_true member.1), alone]
    · have apart : ¬ (first.1 == member.1) = true := by
        intro same
        apply distinct.1
        rw [beq_iff_eq.mp same]
        exact List.mem_map_of_mem later
      rw [if_neg apart, ih distinct.2 later]

/-- An object has the fields of a record when it has a member for each of them. -/
theorem fields?_object {names : List String} {members : List (String × Json)}
    (named : members.map (·.1) = names) (distinct : names.Nodup) :
    fields? names (.object members) = some (members.map (fun member => some member.2)) := by
  subst named
  have once : (members.map (·.1)).all (fun name =>
      decide ((members.filter (fun member => member.1 == name)).length ≤ 1)) = true := by
    rw [List.all_eq_true]
    intro name named
    obtain ⟨member, stands, rfl⟩ := List.mem_map.mp named
    rw [filter_name distinct stands]
    rfl
  rw [fields?, if_pos once, List.map_map]
  congr 1
  apply List.map_congr_left
  intro member stands
  have first := congrArg List.head? (filter_name distinct stands)
  rw [List.head?_filter] at first
  rw [Function.comp_apply, first]
  rfl

/-- A record is a document in full when its fields are. -/
theorem isIntegral_record {members : List (String × Json)}
    (each : (members.map (·.2)).Forall IsIntegral) : IsIntegral (.object members) := by
  apply IsIntegral.object
  intro member stands
  exact List.forall_iff_forall_mem.mp each _ (List.mem_map_of_mem stands)

end Fields

section Values

theorem encodes_string : Encodes .string string? := ⟨.string, fun _ => rfl⟩

/-- Only zero is written as zero, and it has no sign. -/
theorem integer?_ofInt (value : Int) : integer? (.ofInt value) = some value := by
  have sign : toString value ≠ "-0" := by
    intro same
    have zero : some value = some 0 := by
      rw [← signedInteger?_toString, same]
      decide
    cases zero
    revert same
    decide
  rw [ofInt, integer?, if_neg sign, signedInteger?_toString]

theorem natBelow?_ofNat {bound value : Nat} (below : value < bound) :
    natBelow? bound (.ofNat value) = some value := by
  have read : integer? (.ofNat value) = some (value : Int) := integer?_ofInt value
  rw [natBelow?, read, Option.filter_some, if_pos (by simpa using below)]
  rfl

theorem encodes_uint8 : Encodes (fun value : UInt8 => .ofNat value.toNat) uint8? where
  integral value := .ofNat _
  decoded value := by
    have below : value.toNat < Nat.pow 2 8 := value.toNat_lt
    rw [uint8?, natBelow?_ofNat below, Option.map_some, UInt8.ofNat_toNat]

theorem encodes_uint32 : Encodes (fun value : UInt32 => .ofNat value.toNat) uint32? where
  integral value := .ofNat _
  decoded value := by
    have below : value.toNat < Nat.pow 2 32 := value.toNat_lt
    rw [uint32?, natBelow?_ofNat below, Option.map_some, UInt32.ofNat_toNat]

theorem encodes_int32 : Encodes (fun value : Int32 => .ofInt value.toInt) int32? where
  integral value := .number _
  decoded value := by
    rw [int32?, integer?_ofInt, Option.filter_some, if_pos (fitsSigned_toInt value), Option.map_some,
      Int32.ofInt_toInt]

variable {β : Type}

/-- A name from a fixed list is read as the value that it names. -/
theorem encodes_choice {values : List β} {name : β → String} (listed : ∀ value, value ∈ values)
    (distinct : ∀ first second, name first = name second → first = second) :
    Encodes (fun value => .string (name value)) (choice? values name) where
  integral value := .string _
  decoded value := by
    have present : (values.find? (fun other => name other == name value)).isSome = true :=
      List.find?_isSome.mpr ⟨value, listed value, beq_self_eq_true _⟩
    obtain ⟨other, found⟩ := Option.isSome_iff_exists.mp present
    have named : (name other == name value) = true := by
      have holds := List.find?_some found
      exact holds
    rwa [distinct _ _ (beq_iff_eq.mp named)] at found

theorem Encodes.list {encode : β → Json} {decode? : Json → Option β} (encodes : Encodes encode decode?) :
    Encodes (fun values : List β => .array (values.map encode)) (listOf? decode?) where
  integral values := by
    apply IsIntegral.array
    intro item member
    obtain ⟨value, -, rfl⟩ := List.mem_map.mp member
    exact encodes.integral value
  decoded values := by
    change (values.map encode).mapM decode? = some values
    induction values with
    | nil => rfl
    | cons value rest ih =>
      rw [List.map_cons, List.mapM_cons, encodes.decoded, ih]
      rfl

end Values

end Json

open Json (Encodes)

theorem AttributeTest.encodes : Encodes AttributeTest.toJson AttributeTest.ofJson? where
  integral test := by
    cases test with
    | anyValue => exact Json.isIntegral_record (.string _)
    | unknown => exact Json.isIntegral_record (.string _)
    | equals value => exact Json.isIntegral_record ⟨.string _, .string _⟩
  decoded test := by
    cases test with
    | anyValue => rfl
    | unknown => rfl
    | equals value => rfl

theorem Constraint.encodes : Encodes Constraint.toJson Constraint.ofJson? where
  integral constraint :=
    Json.isIntegral_record ⟨.string _, AttributeTest.encodes.integral _⟩
  decoded constraint := by
    have fields : Json.fields? ["name", "test"] constraint.toJson =
        some [some (.string constraint.acronym), some constraint.test.toJson] :=
      Json.fields?_object rfl (by decide)
    have test := AttributeTest.encodes.decoded constraint.test
    simp only [ofJson?, fields, Json.string?, test, Option.pure_def, Option.bind_eq_bind, Option.bind_some]

theorem RadarPriority.encodes :
    Encodes (fun radar => .string (name radar)) (Json.choice? all name) := by
  apply Json.encodes_choice
  · intro radar
    cases radar <;> decide
  · intro first second
    cases first <;> cases second <;> decide

theorem DisplayCategory.encodes :
    Encodes (fun category => .string (name category)) (Json.choice? all name) := by
  apply Json.encodes_choice
  · intro category
    cases category <;> decide
  · intro first second
    cases first <;> cases second <;> decide

theorem Table.encodes : Encodes (fun table => .string (name table)) (Json.choice? all name) := by
  apply Json.encodes_choice
  · intro table
    cases table <;> decide
  · intro first second
    cases first <;> cases second <;> decide

theorem DefinitionKind.encodes :
    Encodes (fun kind => .string (name kind)) (Json.choice? all name) := by
  apply Json.encodes_choice
  · intro kind
    cases kind <;> decide
  · intro first second
    cases first <;> cases second <;> decide

theorem Priority.encodes : Encodes Priority.toJson Priority.ofJson? where
  integral priority :=
    Json.isIntegral_record ⟨.ofNat _, .string _, .string _, .ofNat _, .bool _⟩
  decoded priority := by
    have fields : Json.fields? ["draw", "radar", "category", "view_group", "ignore_scamin"] priority.toJson =
        some [some (.ofNat priority.draw.toNat), some (.string priority.radar.name),
          some (.string priority.category.name), some (.ofNat priority.viewGroup.toNat),
          some (.bool priority.ignoreScaleMinimum)] :=
      Json.fields?_object rfl (by decide)
    have draw := Json.encodes_uint8.decoded priority.draw
    have radar := RadarPriority.encodes.decoded priority.radar
    have category := DisplayCategory.encodes.decoded priority.category
    have viewGroup := Json.encodes_uint32.decoded priority.viewGroup
    simp only [ofJson?, fields, draw, radar, category, viewGroup, Json.optional?, Json.bool?, Option.pure_def,
      Option.bind_eq_bind, Option.bind_some]

theorem Rule.encodes : Encodes Rule.toJson Rule.ofJson? where
  integral rule :=
    Json.isIntegral_record ⟨.string _, .string _, Constraint.encodes.list.integral _, .string _,
      Priority.encodes.integral _, .ofNat _⟩
  decoded rule := by
    have fields :
        Json.fields? ["class", "table", "constraints", "instruction", "priority", "rcid"] rule.toJson =
          some [some (.string rule.className), some (.string rule.table.name),
            some (.array (rule.constraints.map Constraint.toJson)), some (.string rule.instruction),
            some rule.priority.toJson, some (.ofNat rule.recordId.toNat)] :=
      Json.fields?_object rfl (by decide)
    have table := Table.encodes.decoded rule.table
    have constraints := Constraint.encodes.list.decoded rule.constraints
    have priority := Priority.encodes.decoded rule.priority
    have recordId := Json.encodes_uint32.decoded rule.recordId
    simp only [ofJson?, fields, Json.string?, table, constraints, priority, recordId, Json.optional?,
      Option.pure_def, Option.bind_eq_bind, Option.bind_some]

theorem BoundingBox.encodes : Encodes BoundingBox.toJson BoundingBox.ofJson? where
  integral box := Json.isIntegral_record ⟨.number _, .number _, .number _, .number _⟩
  decoded box := by
    have fields : Json.fields? ["x", "y", "width", "height"] box.toJson =
        some [some (.ofInt box.x.toInt), some (.ofInt box.y.toInt), some (.ofInt box.width.toInt),
          some (.ofInt box.height.toInt)] :=
      Json.fields?_object rfl (by decide)
    simp only [ofJson?, fields, Json.encodes_int32.decoded, Option.pure_def, Option.bind_eq_bind,
      Option.bind_some]

theorem Definition.encodes_pivot : Encodes Definition.pivotJson Definition.pivotOfJson? where
  integral pivot := by
    apply Json.IsIntegral.array
    exact List.forall_iff_forall_mem.mp ⟨.number _, .number _⟩
  decoded pivot := by
    have first := Json.encodes_int32.decoded pivot.1
    have second := Json.encodes_int32.decoded pivot.2
    simp only [pivotJson, pivotOfJson?, first, second, Option.pure_def, Option.bind_eq_bind, Option.bind_some]

theorem Definition.encodes : Encodes Definition.toJson Definition.ofJson? where
  integral definition :=
    Json.isIntegral_record ⟨.string _, .string _, .string _, Json.encodes_string.list.integral _,
      BoundingBox.encodes.integral _, encodes_pivot.integral _⟩
  decoded definition := by
    have fields : Json.fields? ["kind", "name", "program", "colors", "bbox", "pivot"] definition.toJson =
        some [some (.string definition.kind.name), some (.string definition.name),
          some (.string definition.program), some (.array (definition.colours.map .string)),
          some definition.box.toJson, some (pivotJson definition.pivot)] :=
      Json.fields?_object rfl (by decide)
    have kind := DefinitionKind.encodes.decoded definition.kind
    have colours := Json.encodes_string.list.decoded definition.colours
    have box := BoundingBox.encodes.decoded definition.box
    have pivot := encodes_pivot.decoded definition.pivot
    simp only [ofJson?, fields, Json.string?, kind, colours, box, pivot, Json.optional?, Option.pure_def,
      Option.bind_eq_bind, Option.bind_some]

theorem Snapshot.encodes : Encodes Snapshot.toJson Snapshot.ofJson? where
  integral snapshot :=
    Json.isIntegral_record ⟨Rule.encodes.list.integral _, Definition.encodes.list.integral _⟩
  decoded snapshot := by
    have fields : Json.fields? ["rules", "definitions"] snapshot.toJson =
        some [some (.array (snapshot.rules.map Rule.toJson)),
          some (.array (snapshot.definitions.map Definition.toJson))] :=
      Json.fields?_object rfl (by decide)
    have rules := Rule.encodes.list.decoded snapshot.rules
    have definitions := Definition.encodes.list.decoded snapshot.definitions
    simp only [ofJson?, fields, rules, definitions, Json.optional?, Option.pure_def, Option.bind_eq_bind,
      Option.bind_some]

/-- A snapshot is read from the text that is written for it. -/
theorem Snapshot.read_pretty (snapshot : Snapshot) : read snapshot.toJson.pretty = .ok snapshot := by
  rw [read, Json.read?_pretty (encodes.integral snapshot), Option.bind_some, encodes.decoded]

end ChartPortrayal
