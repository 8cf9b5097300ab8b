import ChartPortrayal.Proofs.Instruction.Names

namespace ChartPortrayal

open Text (isWord isWordChar)

theorem RadarPriority.isWordChar_of_code {char : Char} {radar : RadarPriority}
    (read : ofCode? char = some radar) : isWordChar char = true := by
  unfold ofCode? at read
  split at read
  · rfl
  · rfl
  · cases read

theorem DisplayCategory.isWordChar_of_code {char : Char} {category : DisplayCategory}
    (read : ofCode? char = some category) : isWordChar char = true := by
  unfold ofCode? at read
  split at read
  iterate 4 rfl
  cases read

namespace PriorityOverride

variable {raw : String} {flag : Bool} {override : PriorityOverride}

theorem isWordChar_of_digit? {char : Char} {digit : Fin 10} (read : digit? char = some digit) :
    isWordChar char = true := by
  unfold digit? at read
  split at read
  · next ascii =>
    refine Text.isWordChar_of_isDigit ?_
    simpa [Text.isAsciiDigit, Char.isDigit, Char.le_def] using ascii
  · cases read

theorem isWordChar_of_field? {β : Type} {read? : Char → Option β} {char : Char} {field : Option β}
    (letters : ∀ value, read? char = some value → isWordChar char = true)
    (read : field? read? char = some field) : isWordChar char = true := by
  unfold field? at read
  split at read
  · next hyphen =>
    rw [hyphen]
    rfl
  · obtain ⟨value, found, -⟩ := Option.map_eq_some_iff.mp read
    exact letters value found

/-- What can be read is a word, and is kept as it was written. -/
theorem fields?_some (read : fields? raw flag = some override) :
    isWord raw = true ∧ override.raw = raw ∧ override.ignoreScaleMinimum = flag := by
  unfold fields? at read
  split at read
  · next draw radar category tenThousands thousands hundreds tens units chars =>
    simp only [Option.bind_eq_bind, Option.bind_eq_some_iff, Option.pure_def, Option.some.injEq] at read
    obtain ⟨_, first, _, second, _, third, _, fourth, _, fifth, _, sixth, _, seventh, _, eighth, rfl⟩ :=
      read
    have digit : ∀ {char field}, field? digit? char = some field → isWordChar char = true :=
      fun read => isWordChar_of_field? (fun _ => isWordChar_of_digit?) read
    have word : isWord raw = true := by
      rw [isWord, chars]
      simp only [List.all_cons, List.all_nil, Bool.and_true, Bool.and_eq_true]
      exact ⟨digit first, isWordChar_of_field? (fun _ => RadarPriority.isWordChar_of_code) second,
        isWordChar_of_field? (fun _ => DisplayCategory.isWordChar_of_code) third, digit fourth,
        digit fifth, digit sixth, digit seventh, digit eighth⟩
    exact ⟨word, rfl, rfl⟩
  · cases read

/-- The characters of an override and its flag, as the fields of its payload. -/
def fields (override : PriorityOverride) : List String :=
  override.raw :: if override.ignoreScaleMinimum then [scaleFlag] else []

theorem payload_eq_join (override : PriorityOverride) :
    override.payload = Text.join "," override.fields := by
  unfold payload fields
  split <;> rfl

theorem parse_eq_ok {payload : String} (parsed : parse payload = .ok override) :
    fields? override.raw override.ignoreScaleMinimum = some override := by
  unfold parse at parsed
  split at parsed
  · cases parsed
  · next raw flags _ =>
    cases read : fields? raw (flags.contains scaleFlag) with
    | none =>
      rw [read] at parsed
      cases parsed
    | some other =>
      rw [read] at parsed
      cases parsed
      obtain ⟨-, same, flag⟩ := fields?_some read
      rw [same, flag, read]

theorem isWord_of_mem_fields (read : fields? override.raw override.ignoreScaleMinimum = some override) :
    ∀ field ∈ override.fields, isWord field = true := by
  obtain ⟨word, -⟩ := fields?_some read
  intro field member
  rcases List.mem_cons.mp member with rfl | flag
  · exact word
  · split at flag
    · rw [List.mem_singleton.mp flag]
      rfl
    · cases flag

theorem isWord_fields {payload : String} (parsed : parse payload = .ok override) :
    ∀ field ∈ override.fields, isWord field = true :=
  isWord_of_mem_fields (parse_eq_ok parsed)

/-- An override whose characters can be read is read from its payload. -/
theorem parse_payload_of_fields? (read : fields? override.raw override.ignoreScaleMinimum = some override) :
    parse override.payload = .ok override := by
  have each : ∀ field ∈ override.fields,
      Text.trimChars field.toList = field.toList ∧ ',' ∉ field.toList := by
    intro field member
    have word := isWord_of_mem_fields read field member
    refine ⟨(Directive.isField_of_isWord word).trimmed, fun comma => ?_⟩
    have char := Text.isWord_iff.mp word ',' comma
    revert char
    decide
  have flagged : (if override.ignoreScaleMinimum then [scaleFlag] else []).contains scaleFlag =
      override.ignoreScaleMinimum := by
    cases override.ignoreScaleMinimum <;> rfl
  rw [parse, payload_eq_join, fields, Text.commaFields_join each]
  simp only [flagged, read]

/-- An override that was read from some payload is read from its own. -/
theorem parse_payload {payload : String} (parsed : parse payload = .ok override) :
    parse override.payload = .ok override :=
  parse_payload_of_fields? (parse_eq_ok parsed)

end PriorityOverride

end ChartPortrayal
