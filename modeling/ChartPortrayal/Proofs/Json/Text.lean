import ChartPortrayal.Json.Reader
import ChartPortrayal.Proofs.Number.Numerals

namespace ChartPortrayal.Json

open Text (isAsciiDigit)

section Strings

theorem hexValue?_hexDigit : ∀ value < 16, hexValue? (hexDigit value) = some value := by decide

theorem hexUnit?_hexDigit {value : Nat} (small : value < 32) :
    hexUnit? '0' '0' (hexDigit (value / 16)) (hexDigit (value % 16)) = some value := by
  have zero : hexValue? '0' = some 0 := by decide
  have high := hexValue?_hexDigit (value / 16) (by omega)
  have low := hexValue?_hexDigit (value % 16) (by omega)
  simp only [hexUnit?, zero, high, low, Option.pure_def, Option.bind_eq_bind, Option.bind_some]
  congr 1
  omega

/-- A letter after a backslash is one code unit. -/
theorem stringUnits?_simpleEscape {letter : Char} {unit : Nat} (known : simpleEscape? letter = some unit)
    (rest : List Char) :
    stringUnits? (backslash :: letter :: rest) =
      (stringUnits? rest).map (fun parts => (unit :: parts.1, parts.2)) := by
  have apart : backslash ≠ doubleQuote := by decide
  have other : letter ≠ 'u' := by
    rintro rfl
    revert known
    decide +revert
  rw [stringUnits?.eq_def]
  simp only [apart, ↓reduceIte]
  split
  · next same =>
    cases same
    exact absurd rfl other
  · next same =>
    cases same
    rw [known]
    cases stringUnits? rest with
    | none => rfl
    | some parts => rfl
  · next same => cases same

theorem stringUnits?_hexEscape {first second third fourth : Char} {unit : Nat}
    (known : hexUnit? first second third fourth = some unit) (rest : List Char) :
    stringUnits? (backslash :: 'u' :: first :: second :: third :: fourth :: rest) =
      (stringUnits? rest).map (fun parts => (unit :: parts.1, parts.2)) := by
  have apart : backslash ≠ doubleQuote := by decide
  rw [stringUnits?.eq_def]
  simp only [apart, ↓reduceIte, known]
  cases stringUnits? rest with
  | none => rfl
  | some parts => rfl

/-- The three forms of a character in a string: a letter after a backslash, four hexadecimal digits, or the
character itself. -/
theorem escape_cases (char : Char) :
    (∃ letter, escape char = [backslash, letter] ∧ simpleEscape? letter = some char.toNat) ∨
    (char.toNat < 32 ∧ escape char =
      [backslash, 'u', '0', '0', hexDigit (char.toNat / 16), hexDigit (char.toNat % 16)]) ∨
    (char ≠ doubleQuote ∧ char ≠ backslash ∧ 32 ≤ char.toNat ∧ escape char = [char]) := by
  unfold escape
  split
  · next same => exact .inl ⟨doubleQuote, rfl, by rw [same]; decide⟩
  split
  · next same => exact .inl ⟨backslash, rfl, by rw [same]; decide⟩
  iterate 5
    split
    · next same => exact .inl ⟨_, rfl, by rw [same]; decide⟩
  split
  · next control => exact .inr (.inl ⟨control, rfl⟩)
  · next quote slash _ _ _ _ _ visible => exact .inr (.inr ⟨quote, slash, Nat.le_of_not_lt visible, rfl⟩)

/-- A character as it stands in a string is one code unit, and the unit is the character. -/
theorem stringUnits?_escape (char : Char) (rest : List Char) :
    stringUnits? (escape char ++ rest) =
      (stringUnits? rest).map (fun parts => (char.toNat :: parts.1, parts.2)) := by
  rcases escape_cases char with ⟨letter, form, known⟩ | ⟨control, form⟩ | ⟨quote, slash, visible, form⟩
  · rw [form]
    exact stringUnits?_simpleEscape known rest
  · rw [form]
    exact stringUnits?_hexEscape (hexUnit?_hexDigit control) rest
  · rw [form, List.singleton_append, stringUnits?.eq_def]
    simp only [quote, slash, Nat.not_lt.mpr visible, ↓reduceIte]

/-- The closing quote is the first quote that is not escaped. -/
theorem stringUnits?_flatMap_escape (chars rest : List Char) :
    stringUnits? (chars.flatMap escape ++ doubleQuote :: rest) = some (chars.map Char.toNat, rest) := by
  induction chars with
  | nil =>
    rw [List.flatMap_nil, List.nil_append, stringUnits?.eq_def]
    simp only [↓reduceIte, List.map_nil]
  | cons char chars ih =>
    rw [List.flatMap_cons, List.append_assoc, stringUnits?_escape, ih]
    rfl

/-- No character is half of a pair. -/
theorem not_half (char : Char) : isHighHalf char.toNat = false ∧ isLowHalf char.toNat = false := by
  have valid : char.toNat < 0xd800 ∨ 0xdfff < char.toNat ∧ char.toNat < 0x110000 := char.valid
  simp only [isHighHalf, isLowHalf, Bool.and_eq_false_iff, decide_eq_false_iff_not]
  omega

theorem unitChars?_toNat (chars : List Char) : unitChars? (chars.map Char.toNat) = some chars := by
  induction chars with
  | nil => rfl
  | cons char rest ih =>
    obtain ⟨high, low⟩ := not_half char
    cases rest with
    | nil => simp [unitChars?, high, low]
    | cons next rest =>
      rw [List.map_cons, List.map_cons] at *
      simp only [unitChars?, high, low, Bool.false_eq_true, ↓reduceIte, ih, Option.map_some,
        Char.ofNat_toNat]

/-- A string is read back as it was, up to its closing quote. -/
theorem stringRest?_escape (text : String) (rest : List Char) :
    stringRest? (text.toList.flatMap escape ++ doubleQuote :: rest) = some (some text, rest) := by
  rw [stringRest?, stringUnits?_flatMap_escape]
  simp only [Option.map_some, unitChars?_toNat, String.ofList_toList]

theorem toList_quotedText (text : String) (rest : List Char) :
    (quotedText text).toList ++ rest =
      doubleQuote :: (text.toList.flatMap escape ++ doubleQuote :: rest) := by
  rw [quotedText, String.toList_ofList, List.cons_append, List.append_assoc, List.singleton_append]

end Strings

section Numbers

/-- What follows a number does not continue it. -/
def EndsNumber (rest : List Char) : Prop :=
  ∀ char, rest.head? = some char → isAsciiDigit char = false ∧ char ≠ '.' ∧ char ≠ 'e' ∧ char ≠ 'E'

theorem endsNumber_nil : EndsNumber [] := by
  intro char found
  cases found

theorem EndsNumber.cons {char : Char} (ends : isAsciiDigit char = false ∧ char ≠ '.' ∧ char ≠ 'e' ∧ char ≠ 'E')
    (rest : List Char) : EndsNumber (char :: rest) := by
  intro other found
  cases found
  exact ends

variable {rest : List Char}

/-- Digits that something else follows are split off as a whole. -/
theorem splitDigits?_append {digits : List Char} (some : digits ≠ [])
    (each : ∀ char ∈ digits, isAsciiDigit char = true) (ends : EndsNumber rest) :
    splitDigits? (digits ++ rest) = .some (digits, rest) := by
  have taken : (digits ++ rest).takeWhile isAsciiDigit = digits := by
    rw [List.takeWhile_append_of_pos each]
    cases rest with
    | nil => simp
    | cons char rest => simp [(ends char rfl).1]
  have dropped : (digits ++ rest).dropWhile isAsciiDigit = rest := by
    rw [List.dropWhile_append_of_pos each]
    cases rest with
    | nil => rfl
    | cons char rest => simp [(ends char rfl).1]
  rw [splitDigits?, taken, dropped, if_neg some]

/-- A number other than zero does not start with a zero. -/
theorem head?_toDigits_ne {number : Nat} (positive : 0 < number) :
    (Nat.toDigits 10 number).head? ≠ some '0' := by
  induction number using Nat.strongRecOn with
  | ind number ih =>
    by_cases small : number < 10
    · have digit : ∀ digit < 10, 0 < digit → Nat.digitChar digit ≠ '0' := by decide
      rw [Nat.toDigits_of_lt_base small, List.head?_cons]
      intro same
      exact digit number small positive (Option.some.inj same)
    · have shorter := ih (number / 10) (by omega) (by omega)
      obtain ⟨first, others, written⟩ :=
        List.exists_cons_of_ne_nil (Nat.toDigits_ne_nil : Nat.toDigits 10 (number / 10) ≠ [])
      rw [written] at shorter
      rw [Nat.toDigits_of_base_le (by omega) (by omega), written]
      exact shorter

theorem splitWhole?_toString (number : Nat) (ends : EndsNumber rest) :
    splitWhole? ((toString number).toList ++ rest) = some ((toString number).toList, rest) := by
  have digits : ∀ char ∈ (toString number).toList, isAsciiDigit char = true :=
    fun _ member => Text.isAsciiDigit_of_mem member
  have canonical : (toString number).toList.head? ≠ some '0' ∨ (toString number).toList.length = 1 := by
    rw [Text.toList_toString]
    by_cases zero : number = 0
    · right
      rw [zero, Nat.toDigits_zero]
      rfl
    · left
      exact head?_toDigits_ne (Nat.pos_of_ne_zero zero)
  rw [splitWhole?, splitDigits?_append (Text.toList_toString_ne_nil number) digits ends, Option.filter_some]
  exact if_pos (by simpa using canonical)

theorem splitFraction?_none (ends : EndsNumber rest) : splitFraction? rest = some ([], rest) := by
  cases rest with
  | nil => rfl
  | cons char rest =>
    obtain ⟨-, point, -, -⟩ := ends char rfl
    unfold splitFraction?
    split
    · next same =>
      cases same
      exact absurd rfl point
    · rfl

theorem splitExponent?_none (ends : EndsNumber rest) : splitExponent? rest = some ([], rest) := by
  cases rest with
  | nil => rfl
  | cons char rest =>
    obtain ⟨-, -, lower, upper⟩ := ends char rfl
    simp only [splitExponent?, lower, upper, or_self, ↓reduceIte]

/-- An integer is read as it is written. -/
theorem number?_toString (number : Int) (ends : EndsNumber rest) :
    number? ((toString number).toList ++ rest) = some (.number (toString number), rest) := by
  have whole := splitWhole?_toString number.natAbs ends
  have literal := toString_int number
  rw [literal]
  cases decide (number < 0) with
  | true =>
    have text : (signText true ++ toString number.natAbs).toList =
        '-' :: (toString number.natAbs).toList := by
      rw [String.toList_append]
      rfl
    rw [text, List.cons_append]
    simp only [number?, whole, splitFraction?_none ends, splitExponent?_none ends, Option.bind_eq_bind,
      Option.bind_some, Option.pure_def, List.append_nil, List.singleton_append]
    rw [← text, String.ofList_toList]
  | false =>
    have text : (signText false ++ toString number.natAbs).toList = (toString number.natAbs).toList := by
      rw [String.toList_append]
      rfl
    have unsigned : ∀ tail, (toString number.natAbs).toList ++ rest ≠ '-' :: tail := by
      intro tail same
      obtain ⟨first, others, written⟩ := List.exists_cons_of_ne_nil (Text.toList_toString_ne_nil number.natAbs)
      have digit : isAsciiDigit first = true :=
        Text.isAsciiDigit_of_mem (by rw [written]; exact List.mem_cons_self)
      rw [written] at same
      cases same
      cases digit
    rw [text]
    unfold number?
    split
    next sign chars parts =>
      have same : (sign, chars) = ([], (toString number.natAbs).toList ++ rest) := by
        rw [← parts]
        split
        · next tail minus => exact absurd minus (unsigned tail)
        · rfl
      cases same
      simp only [whole, splitFraction?_none ends, splitExponent?_none ends, Option.bind_eq_bind,
        Option.bind_some, Option.pure_def, List.append_nil, List.nil_append]
      rw [← text, String.ofList_toList]

end Numbers

end ChartPortrayal.Json
