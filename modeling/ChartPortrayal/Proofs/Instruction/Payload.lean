import ChartPortrayal.Proofs.Instruction.Override
import ChartPortrayal.Proofs.Instruction.ViewGroup
import ChartPortrayal.Proofs.Number.Digits
import ChartPortrayal.Proofs.Text.Fields

/-! The payloads that are overrides. What can be read is what is spelled with the letters of each place, whatever
flags follow, and the text of a priority is read as the override that gives this priority. -/

namespace ChartPortrayal

/-- The letters of a place that takes a digit. -/
def PriorityOverride.digitLetters : List Char := "0123456789-".toList

/-- The letters that may stand at each place of an override. -/
def PriorityOverride.letters : List (List Char) :=
  [digitLetters, "OS-".toList, "DSOM-".toList, digitLetters, digitLetters, digitLetters, digitLetters,
    digitLetters]

/-- Eight characters, each of them a letter of its place. -/
def PriorityOverride.IsSpelled (chars : List Char) : Prop := List.Forall₂ (· ∈ ·) chars letters

namespace PriorityOverride

theorem isAsciiDigit_iff_mem {char : Char} :
    Text.isAsciiDigit char = true ↔ char ∈ "0123456789".toList := by
  constructor
  · intro digit
    simp only [Text.isAsciiDigit, Bool.and_eq_true, decide_eq_true_eq, Char.le_def,
      UInt32.le_iff_toNat_le] at digit
    obtain ⟨low, high⟩ := digit
    change 48 ≤ char.toNat at low
    change char.toNat ≤ 57 at high
    have known : char = Char.ofNat char.toNat := (Char.ofNat_toNat char).symm
    generalize char.toNat = code at low high known
    subst known
    interval_cases code <;> decide
  · intro member
    have listed : "0123456789".toList.all Text.isAsciiDigit = true := rfl
    exact List.all_eq_true.mp listed char member

variable {char : Char}

theorem exists_field?_digit : (∃ digit, field? digit? char = some digit) ↔ char ∈ digitLetters := by
  have letters : char ∈ digitLetters ↔ char ∈ "0123456789".toList ∨ char = '-' := by
    change char ∈ "0123456789".toList ++ ['-'] ↔ _
    rw [List.mem_append, List.mem_singleton]
  rw [letters, ← isAsciiDigit_iff_mem, field?, digit?]
  split
  · simp_all
  · split <;> simp_all

theorem exists_field?_radar :
    (∃ radar, field? RadarPriority.ofCode? char = some radar) ↔ char ∈ "OS-".toList := by
  unfold field? RadarPriority.ofCode?
  split
  · simp_all
  · split <;> simp_all

theorem exists_field?_category :
    (∃ category, field? DisplayCategory.ofCode? char = some category) ↔ char ∈ "DSOM-".toList := by
  unfold field? DisplayCategory.ofCode?
  split
  · simp_all
  · split <;> simp_all

/-- What is read place by place is read as a whole. -/
theorem fields?_of_chars {raw : String} {c₀ c₁ c₂ c₃ c₄ c₅ c₆ c₇ : Char}
    (chars : raw.toList = [c₀, c₁, c₂, c₃, c₄, c₅, c₆, c₇]) {draw : Option (Fin 10)}
    {radar : Option RadarPriority} {category : Option DisplayCategory} {viewGroup : ViewGroupPattern}
    (drawn : field? digit? c₀ = some draw) (lit : field? RadarPriority.ofCode? c₁ = some radar)
    (sorted : field? DisplayCategory.ofCode? c₂ = some category)
    (tenThousands : field? digit? c₃ = some viewGroup.tenThousands)
    (thousands : field? digit? c₄ = some viewGroup.thousands)
    (hundreds : field? digit? c₅ = some viewGroup.hundreds) (tens : field? digit? c₆ = some viewGroup.tens)
    (units : field? digit? c₇ = some viewGroup.units) (flag : Bool) :
    fields? raw flag = some
      { raw, draw, radar, category, viewGroup, ignoreScaleMinimum := flag } := by
  unfold fields?
  rw [chars]
  simp only [drawn, lit, sorted, tenThousands, thousands, hundreds, tens, units]
  rfl

/-- Eight characters are read exactly when each of them is a letter of its place. -/
theorem exists_fields?_iff {raw : String} {flag : Bool} :
    (∃ override, fields? raw flag = some override) ↔ IsSpelled raw.toList := by
  constructor
  · rintro ⟨override, read⟩
    unfold fields? at read
    split at read
    · next draw radar category tenThousands thousands hundreds tens units chars =>
      simp only [Option.bind_eq_bind, Option.bind_eq_some_iff] at read
      obtain ⟨_, first, _, second, _, third, _, fourth, _, fifth, _, sixth, _, seventh, _, eighth, -⟩ := read
      rw [chars]
      exact .cons (exists_field?_digit.mp ⟨_, first⟩) <| .cons (exists_field?_radar.mp ⟨_, second⟩) <|
        .cons (exists_field?_category.mp ⟨_, third⟩) <| .cons (exists_field?_digit.mp ⟨_, fourth⟩) <|
        .cons (exists_field?_digit.mp ⟨_, fifth⟩) <| .cons (exists_field?_digit.mp ⟨_, sixth⟩) <|
        .cons (exists_field?_digit.mp ⟨_, seventh⟩) <| .cons (exists_field?_digit.mp ⟨_, eighth⟩) .nil
    · cases read
  · intro spelled
    simp only [IsSpelled, letters, List.forall₂_cons_right_iff, List.forall₂_nil_right_iff] at spelled
    obtain ⟨c₀, _, first, ⟨c₁, _, second, ⟨c₂, _, third, ⟨c₃, _, fourth, ⟨c₄, _, fifth, ⟨c₅, _, sixth, ⟨c₆,
      _, seventh, ⟨c₇, _, eighth, rfl, rfl⟩, rfl⟩, rfl⟩, rfl⟩, rfl⟩, rfl⟩, rfl⟩, chars⟩ := spelled
    obtain ⟨draw, drawn⟩ := exists_field?_digit.mpr first
    obtain ⟨radar, lit⟩ := exists_field?_radar.mpr second
    obtain ⟨category, sorted⟩ := exists_field?_category.mpr third
    obtain ⟨tenThousands, fourth⟩ := exists_field?_digit.mpr fourth
    obtain ⟨thousands, fifth⟩ := exists_field?_digit.mpr fifth
    obtain ⟨hundreds, sixth⟩ := exists_field?_digit.mpr sixth
    obtain ⟨tens, seventh⟩ := exists_field?_digit.mpr seventh
    obtain ⟨units, eighth⟩ := exists_field?_digit.mpr eighth
    have read : fields? raw flag = some
        ⟨raw, draw, radar, category, ⟨tenThousands, thousands, hundreds, tens, units⟩, flag⟩ :=
      fields?_of_chars chars drawn lit sorted fourth fifth sixth seventh eighth flag
    exact ⟨_, read⟩

/-- The part of a payload that is to be an override: all up to the first comma, without blanks around it. -/
def head (payload : String) : List Char :=
  Text.trimChars (payload.toList.takeWhile (· != ','))

/-- Some field after the first comma is the flag. -/
def IsFlagged (payload : String) : Prop :=
  ∃ field, Text.FollowsIn ',' field payload.toList ∧ Text.trimChars field = scaleFlag.toList

/-- Payloads are read by the part up to the first comma and by whether the flag follows. -/
theorem parse_eq (payload : String) : ∃ flag, (flag = true ↔ IsFlagged payload) ∧
    parse payload =
      match fields? (String.ofList (head payload)) flag with
      | some override => .ok override
      | none => .error (.invalidPriorityOverride payload) := by
  obtain ⟨later, split, members⟩ := Text.exists_splitChars ',' payload.toList
  refine ⟨(later.map (fun field => String.ofList (Text.trimChars field))).contains scaleFlag, ?_, ?_⟩
  · rw [List.contains_iff_mem, List.mem_map]
    constructor
    · rintro ⟨field, member, same⟩
      refine ⟨field, (members field).mp member, ?_⟩
      rw [← same, String.toList_ofList]
    · rintro ⟨field, follows, same⟩
      refine ⟨field, (members field).mpr follows, ?_⟩
      rw [same, String.ofList_toList]
  · unfold head
    cases read : fields? (String.ofList (Text.trimChars (payload.toList.takeWhile (· != ','))))
        ((later.map (fun field => String.ofList (Text.trimChars field))).contains scaleFlag) with
    | none => simp only [parse, Text.commaFields, split, List.map_cons, read]
    | some override => simp only [parse, Text.commaFields, split, List.map_cons, read]

theorem exists_parse_iff (payload : String) :
    (∃ override, parse payload = .ok override) ↔ IsSpelled (head payload) := by
  obtain ⟨flag, -, read⟩ := parse_eq payload
  have fields : (∃ override, fields? (String.ofList (head payload)) flag = some override) ↔
      IsSpelled (String.ofList (head payload)).toList := exists_fields?_iff
  rw [String.toList_ofList] at fields
  rw [read, ← fields]
  cases fields? (String.ofList (head payload)) flag <;> simp

theorem parse_eq_error (payload : String) (misspelled : ¬ IsSpelled (head payload)) :
    parse payload = .error (.invalidPriorityOverride payload) := by
  rw [← exists_parse_iff] at misspelled
  obtain ⟨flag, -, read⟩ := parse_eq payload
  rw [read] at misspelled ⊢
  split
  · next override found => exact absurd ⟨override, by rw [found]⟩ misspelled
  · rfl

theorem ignoreScaleMinimum_iff {payload : String} {override : PriorityOverride}
    (parsed : parse payload = .ok override) :
    override.ignoreScaleMinimum = true ↔ IsFlagged payload := by
  obtain ⟨flag, flagged, read⟩ := parse_eq payload
  rw [read] at parsed
  split at parsed
  · next other found =>
    cases parsed
    rw [(fields?_some found).2.2, flagged]
  · cases parsed

theorem field?_digitChar (digit : Fin 10) : field? digit? (Nat.digitChar digit.val) = some (some digit) := by
  revert digit
  decide

theorem field?_radarCode (radar : RadarPriority) :
    field? RadarPriority.ofCode? radar.code = some (some radar) := by
  cases radar <;> rfl

theorem field?_categoryCode (category : DisplayCategory) :
    field? DisplayCategory.ofCode? category.code = some (some category) := by
  cases category <;> rfl

/-- The last digit of a number. -/
def lastDigit (number : Nat) : Fin 10 := ⟨number % 10, Nat.mod_lt number (Nat.succ_pos 9)⟩

@[simp] theorem val_lastDigit (number : Nat) : (lastDigit number).val = number % 10 := rfl

/-- All five digits of a view group. -/
def fixedPattern (viewGroup : Nat) : ViewGroupPattern where
  tenThousands := some (lastDigit (viewGroup / 10000))
  thousands := some (lastDigit (viewGroup / 1000))
  hundreds := some (lastDigit (viewGroup / 100))
  tens := some (lastDigit (viewGroup / 10))
  units := some (lastDigit viewGroup)

/-- A pattern of all five digits leaves nothing of a view group that has no more. -/
theorem merged_fixedPattern {viewGroup current : Nat} (short : viewGroup ≤ 99999) (five : current ≤ 99999) :
    (fixedPattern viewGroup).merged current = viewGroup := by
  simp only [fixedPattern, ViewGroupPattern.merged, ViewGroupPattern.writtenDigit, Option.map_some,
    Option.getD_some, val_lastDigit]
  omega

/-- The override that gives a priority. -/
def giving (priority : Priority) : PriorityOverride where
  raw := priority.text
  draw := some (lastDigit priority.draw.toNat)
  radar := some priority.radar
  category := some priority.category
  viewGroup := fixedPattern priority.viewGroup.toNat
  ignoreScaleMinimum := false

variable {printed : Priority}

/-- A priority of one digit and a view group of five are written with eight characters. -/
theorem toList_text (single : printed.draw ≤ 9) (five : printed.viewGroup ≤ 99999) :
    printed.text.toList = [Nat.digitChar printed.draw.toNat, printed.radar.code, printed.category.code] ++
      (Text.places 5 printed.viewGroup.toNat).map Nat.digitChar := by
  have digit : printed.draw.toNat < 10 := by
    have bound : printed.draw.toNat ≤ 9 := UInt8.le_iff_toNat_le.mp single
    omega
  have short : printed.viewGroup.toNat < 10 ^ 5 := by
    have bound : printed.viewGroup.toNat ≤ 99999 := UInt32.le_iff_toNat_le.mp five
    omega
  rw [Priority.text, String.toList_append, String.toList_append, Text.toString_digit digit,
    String.toList_ofList, Text.toList_padLeft_zero (by decide) short]
  rfl

theorem parse_text (single : printed.draw ≤ 9) (five : printed.viewGroup ≤ 99999) :
    parse printed.text = .ok (giving printed) := by
  have digit : printed.draw.toNat < 10 := by
    have bound : printed.draw.toNat ≤ 9 := UInt8.le_iff_toNat_le.mp single
    omega
  have drawn := field?_digitChar (lastDigit printed.draw.toNat)
  rw [val_lastDigit, Nat.mod_eq_of_lt digit] at drawn
  have placed : ∀ number, field? digit? (Nat.digitChar (number % 10)) = some (some (lastDigit number)) :=
    fun number => field?_digitChar (lastDigit number)
  have chars := toList_text single five
  simp only [Text.places, Nat.div_div_eq_div_mul, List.nil_append, List.cons_append, List.map_cons,
    List.map_nil] at chars
  have read : fields? (giving printed).raw (giving printed).ignoreScaleMinimum = some (giving printed) :=
    fields?_of_chars chars drawn (field?_radarCode _) (field?_categoryCode _) (placed _) (placed _) (placed _)
      (placed _) (placed _) false
  have payload : (giving printed).payload = printed.text := rfl
  rw [← payload]
  exact parse_payload_of_fields? read

/-- The override that gives a priority leaves nothing of another one. -/
theorem apply_giving (single : printed.draw ≤ 9) (five : printed.viewGroup ≤ 99999) {priority : Priority}
    (other : priority.viewGroup ≤ 99999) :
    (giving printed).apply priority =
      .ok { printed with ignoreScaleMinimum := priority.ignoreScaleMinimum } := by
  have drawn : UInt8.ofNat (printed.draw.toNat % 10) = printed.draw := by
    have bound : printed.draw.toNat ≤ 9 := UInt8.le_iff_toNat_le.mp single
    rw [Nat.mod_eq_of_lt (by omega), UInt8.ofNat_toNat]
  have merged := merged_fixedPattern (UInt32.le_iff_toNat_le.mp five) (UInt32.le_iff_toNat_le.mp other)
  refine apply_eq_ok_iff.mpr ⟨merged.symm, ?_, rfl, rfl, (Bool.or_false _).symm⟩
  simp only [giving, Option.map_some, Option.getD_some, val_lastDigit, drawn]

/-- A payload is an override exactly when the part up to its first comma is spelled with the letters of each
place, and is refused as it stands otherwise; the flag is on exactly when it is one of the later fields. The
payload that a command with the override prints is read as this override. The text of a priority whose draw
order has one digit and whose view group has five is an override, which gives this priority to every feature
whose view group has no more digits either. -/
theorem parse_exact :
    (∀ payload : String,
      ((∃ override, parse payload = .ok override) ↔ IsSpelled (head payload)) ∧
        (¬ IsSpelled (head payload) → parse payload = .error (.invalidPriorityOverride payload)) ∧
        ∀ override, parse payload = .ok override →
          (override.ignoreScaleMinimum = true ↔ IsFlagged payload) ∧
            parse (Command.overridePriority override : Command Float).directive.payload = .ok override) ∧
      ∀ printed : Priority, printed.draw ≤ 9 → printed.viewGroup ≤ 99999 →
        ∃ override, parse printed.text = .ok override ∧
          ∀ priority : Priority, priority.viewGroup ≤ 99999 →
            override.apply priority =
              .ok { printed with ignoreScaleMinimum := priority.ignoreScaleMinimum } := by
  refine ⟨fun payload => ⟨exists_parse_iff payload, parse_eq_error payload, fun override parsed => ?_⟩,
    fun printed single five => ⟨giving printed, parse_text single five, fun priority other => ?_⟩⟩
  · exact ⟨ignoreScaleMinimum_iff parsed, parse_payload parsed⟩
  · exact apply_giving single five other

/-- An override with a blank before it, flags that are not known, and one that is. -/
theorem parse_exact_flagged :
    let payload := " 8O--4---, x,,NOSCAMIN "
    let printed : Priority := ⟨7, .suppressed, .mariner, 4010, false⟩
    (∃ override, parse payload = .ok override ∧ override.ignoreScaleMinimum = true ∧
        parse override.payload = .ok override) ∧
      parse "8O--4--" = .error (.invalidPriorityOverride "8O--4--") ∧
      ∃ override, parse "7SM04010" = .ok override ∧ override.apply .standard = .ok printed := by
  intro payload printed
  obtain ⟨payloads, priorities⟩ := parse_exact
  obtain ⟨override, parsed⟩ := (payloads payload).1.mpr (by unfold IsSpelled; decide +kernel)
  obtain ⟨flagged, again⟩ := (payloads payload).2.2 override parsed
  have flag : IsFlagged payload :=
    ⟨"NOSCAMIN ".toList, ⟨by decide, " 8O--4---, x,".toList, [], by decide +kernel, .inl rfl⟩, by decide +kernel⟩
  have short : parse "8O--4--" = .error (.invalidPriorityOverride "8O--4--") :=
    (payloads "8O--4--").2.1 (by unfold IsSpelled; decide +kernel)
  obtain ⟨given, written, applied⟩ := priorities printed (by decide) (by decide)
  have text : printed.text = "7SM04010" := by decide +kernel
  rw [text] at written
  exact ⟨⟨override, parsed, flagged.mpr flag, again⟩, short, given, written,
    applied .standard (by decide)⟩

end PriorityOverride

end ChartPortrayal
