import ChartPortrayal.Proofs.Json.Text

/-! Documents are read as they were written over several lines. The reader gets along with one call for each
character of the text, which is less than it is given. -/

namespace ChartPortrayal.Json

open Text (isAsciiDigit)

/-- Documents that the writer makes up in full: all strings are texts, and all numbers are integers. -/
inductive IsIntegral : Json → Prop where
  | null : IsIntegral .null
  | bool (value : Bool) : IsIntegral (.bool value)
  | number (value : Int) : IsIntegral (.number (toString value))
  | string (text : String) : IsIntegral (.string text)
  | array {items : List Json} (each : ∀ item ∈ items, IsIntegral item) : IsIntegral (.array items)
  | object {members : List (String × Json)} (each : ∀ member ∈ members, IsIntegral member.2) :
      IsIntegral (.object members)

theorem IsIntegral.ofNat (value : Nat) : IsIntegral (.ofNat value) := number value

section Blanks

/-- Blanks in front of a value do not matter. -/
theorem value?_congr (fuel : Nat) {first second : List Char}
    (same : skipBlanks first = skipBlanks second) : value? fuel first = value? fuel second := by
  cases fuel with
  | zero => rfl
  | succ fuel => simp only [value?, same]

theorem skipBlanks_of_black {char : Char} (black : isBlank char = false) (rest : List Char) :
    skipBlanks (char :: rest) = char :: rest := by
  rw [skipBlanks, List.dropWhile_cons_of_neg (by simp [black])]

theorem skipBlanks_comma (rest : List Char) : skipBlanks (',' :: rest) = ',' :: rest :=
  skipBlanks_of_black (by decide) rest

theorem endsNumber_comma (rest : List Char) : EndsNumber (',' :: rest) := .cons (by decide) _

theorem toList_lineBreak (level : Nat) :
    (lineBreak level).toList = '\n' :: List.replicate (2 * level) ' ' := by
  have newLine : "\n".toList = ['\n'] := rfl
  simp only [lineBreak, String.toList_append, newLine, String.toList_ofList, List.singleton_append]

theorem skipBlanks_lineBreak (level : Nat) (chars : List Char) :
    skipBlanks ((lineBreak level).toList ++ chars) = skipBlanks chars := by
  have blank : ∀ char ∈ (lineBreak level).toList, isBlank char = true := by
    intro char member
    rw [toList_lineBreak, List.mem_cons] at member
    rcases member with rfl | member
    · rfl
    · rw [List.eq_of_mem_replicate member]
      rfl
  exact List.dropWhile_append_of_pos blank

theorem length_lineBreak_pos (level : Nat) : 0 < (lineBreak level).length := by
  rw [← String.length_toList, toList_lineBreak]
  exact Nat.succ_pos _

theorem endsNumber_lineBreak (level : Nat) (rest : List Char) :
    EndsNumber ((lineBreak level).toList ++ rest) := by
  rw [toList_lineBreak]
  exact .cons (by decide) _

end Blanks

section Values

/-- A value that starts with a sign or with a digit is a number. -/
theorem value?_number {first : Char} (starts : first = '-' ∨ isAsciiDigit first = true) (fuel : Nat)
    (rest : List Char) : value? (fuel + 1) (first :: rest) = number? (first :: rest) := by
  have apart : isBlank first = false ∧ first ≠ doubleQuote ∧ first ≠ '[' ∧ first ≠ openBrace := by
    rcases starts with rfl | digit
    · decide
    · have apart : ∀ char, isAsciiDigit char = false → first ≠ char := by
        rintro char other rfl
        rw [digit] at other
        cases other
      refine ⟨?_, apart _ (by decide), apart _ (by decide), apart _ (by decide)⟩
      simp only [isBlank, apart ' ' (by decide), apart '\t' (by decide), apart '\n' (by decide),
        apart '\r' (by decide), decide_false, Bool.or_self]
  obtain ⟨black, quote, bracket, brace⟩ := apart
  rw [value?, skipBlanks_of_black black]
  split
  · next same => cases same
  · next same =>
    cases same
    exact absurd starts (by decide)
  · next same =>
    cases same
    exact absurd starts (by decide)
  · next same =>
    cases same
    exact absurd starts (by decide)
  · next same =>
    cases same
    simp only [quote, bracket, brace, ↓reduceIte]

theorem value?_array {chars : List Char} (other : ∀ rest, skipBlanks chars ≠ ']' :: rest) (fuel : Nat) :
    value? (fuel + 1) ('[' :: chars) =
      (items? fuel chars).map (fun parts => (.array parts.1, parts.2)) := by
  have black : skipBlanks ('[' :: chars) = '[' :: chars := skipBlanks_of_black (by decide) chars
  have quote : '[' ≠ doubleQuote := by decide
  rw [value?, black]
  split
  · next same => cases same
  · next same => cases same
  · next same => cases same
  · next same => cases same
  · next same =>
    cases same
    -- No closing bracket follows, so the items are read.
    simp only [quote, ↓reduceIte]

theorem value?_object {char : Char} {chars tail : List Char} (starts : skipBlanks chars = char :: tail)
    (other : char ≠ closeBrace) (fuel : Nat) :
    value? (fuel + 1) (openBrace :: chars) =
      (members? fuel chars).map (fun parts => (ofMembers? parts.1, parts.2)) := by
  have black : skipBlanks (openBrace :: chars) = openBrace :: chars := skipBlanks_of_black (by decide) chars
  have quote : openBrace ≠ doubleQuote := by decide
  have bracket : openBrace ≠ '[' := by decide
  rw [value?, black]
  split
  · next same => cases same
  · next same => cases same
  · next same => cases same
  · next same => cases same
  · next same =>
    cases same
    simp only [quote, bracket, ↓reduceIte, starts, other]

/-- No value starts with a closing bracket. -/
theorem value?_closeBracket (fuel : Nat) {chars rest : List Char} (starts : skipBlanks chars = ']' :: rest) :
    value? fuel chars = none := by
  have bracket : ∀ fuel, value? (fuel + 1) (']' :: rest) = none := fun _ => rfl
  cases fuel with
  | zero => rfl
  | succ fuel =>
    rw [← bracket fuel]
    exact value?_congr _ starts

theorem items?_closeBracket (fuel : Nat) {chars rest : List Char} (starts : skipBlanks chars = ']' :: rest) :
    items? fuel chars = none := by
  cases fuel with
  | zero => rfl
  | succ fuel => rw [items?, value?_closeBracket fuel starts]

end Values

section Layout

variable (level : Nat) (rest : List Char)

theorem toList_prettyItems_cons (item next : Json) (items : List Json) :
    (prettyItems level (item :: next :: items)).toList ++ rest =
      (lineBreak level).toList ++ ((prettyFrom level item).toList ++
        ',' :: ((prettyItems level (next :: items)).toList ++ rest)) := by
  simp only [prettyItems, String.toList_append, List.append_assoc]
  rfl

theorem toList_prettyMembers_singleton (name : String) (value : Json) :
    (prettyMembers level [(name, value)]).toList ++ rest =
      (lineBreak level).toList ++ ((quotedText name).toList ++ ':' ::
        ' ' :: ((prettyFrom level value).toList ++ rest)) := by
  simp only [prettyMembers, String.toList_append, List.append_assoc]
  rfl

theorem toList_prettyMembers_cons (name : String) (value : Json) (next : String × Json)
    (members : List (String × Json)) :
    (prettyMembers level ((name, value) :: next :: members)).toList ++ rest =
      (lineBreak level).toList ++ ((quotedText name).toList ++ ':' :: ' ' ::
        ((prettyFrom level value).toList ++
          ',' :: ((prettyMembers level (next :: members)).toList ++ rest))) := by
  simp only [prettyMembers, String.toList_append, List.append_assoc]
  rfl

theorem toList_prettyFrom_array (item : Json) (items : List Json) :
    (prettyFrom level (.array (item :: items))).toList ++ rest =
      '[' :: ((prettyItems (level + 1) (item :: items)).toList ++
        ((lineBreak level).toList ++ ']' :: rest)) := by
  rw [prettyFrom]
  simp only [String.toList_append, List.append_assoc]
  rfl

theorem toList_prettyFrom_object (member : String × Json) (members : List (String × Json)) :
    (prettyFrom level (.object (member :: members))).toList ++ rest =
      openBrace :: ((prettyMembers (level + 1) (member :: members)).toList ++
        ((lineBreak level).toList ++ closeBrace :: rest)) := by
  rw [prettyFrom]
  simp only [String.toList_append, List.append_assoc]
  rfl

/-- The items of an array take up less room than the array. -/
theorem length_prettyItems_lt (item : Json) (items : List Json) :
    (prettyItems (level + 1) (item :: items)).length < (prettyFrom level (.array (item :: items))).length := by
  have newLine := length_lineBreak_pos level
  rw [prettyFrom]
  simp only [String.length_append]
  omega

theorem length_prettyMembers_lt (member : String × Json) (members : List (String × Json)) :
    (prettyMembers (level + 1) (member :: members)).length <
      (prettyFrom level (.object (member :: members))).length := by
  have newLine := length_lineBreak_pos level
  rw [prettyFrom]
  simp only [String.length_append]
  omega

end Layout

/-- A document is read from its text at any level, whatever follows it. -/
def IsReadBack (document : Json) : Prop :=
  ∀ level fuel rest, (prettyFrom level document).length ≤ fuel → EndsNumber rest →
    value? fuel ((prettyFrom level document).toList ++ rest) = some (document, rest)

/-- The items of an array are read up to the closing bracket. -/
theorem items?_prettyItems {item : Json} {items : List Json}
    (each : ∀ other ∈ item :: items, IsReadBack other) (level : Nat) {fuel : Nat}
    (enough : (prettyItems level (item :: items)).length ≤ fuel) {closing rest : List Char}
    (closes : skipBlanks closing = ']' :: rest) (ends : EndsNumber closing) :
    items? fuel ((prettyItems level (item :: items)).toList ++ closing) = some (item :: items, rest) := by
  have newLine := length_lineBreak_pos level
  induction items generalizing item fuel with
  | nil =>
    obtain ⟨here, -⟩ := List.forall_mem_cons.mp each
    rw [prettyItems, String.length_append] at enough
    cases fuel with
    | zero => omega
    | succ fuel =>
      have read := here level fuel closing (by omega) ends
      rw [prettyItems, String.toList_append, List.append_assoc]
      simp only [items?, value?_congr fuel (skipBlanks_lineBreak level _), read, closes]
  | cons next items ih =>
    obtain ⟨here, later⟩ := List.forall_mem_cons.mp each
    rw [prettyItems, String.length_append, String.length_append, String.length_append] at enough
    cases fuel with
    | zero => omega
    | succ fuel =>
      have read := here level fuel _ (by omega)
        (endsNumber_comma ((prettyItems level (next :: items)).toList ++ closing))
      have remaining : (prettyItems level (next :: items)).length ≤ fuel := by omega
      have following := ih later remaining
      rw [toList_prettyItems_cons]
      simp only [items?, value?_congr fuel (skipBlanks_lineBreak level _), read, skipBlanks_comma, following,
        Option.map_some]

/-- A name is read with the colon after it, wherever its line is broken. -/
theorem memberName?_quotedText (level : Nat) (name : String) (rest : List Char) :
    memberName? ((lineBreak level).toList ++ ((quotedText name).toList ++ ':' :: rest)) =
      some (some name, rest) := by
  have quote : ∀ rest, skipBlanks (doubleQuote :: rest) = doubleQuote :: rest :=
    skipBlanks_of_black (by decide)
  have colon : skipBlanks (':' :: rest) = ':' :: rest := skipBlanks_of_black (by decide) rest
  rw [toList_quotedText, memberName?, skipBlanks_lineBreak, quote]
  simp only [↓reduceIte, stringRest?_escape, colon]

theorem skipBlanks_prettyMembers (level : Nat) (member : String × Json) (members : List (String × Json))
    (closing : List Char) : ∃ tail,
      skipBlanks ((prettyMembers level (member :: members)).toList ++ closing) = doubleQuote :: tail := by
  obtain ⟨name, value⟩ := member
  cases members with
  | nil =>
    simp only [prettyMembers, String.toList_append, List.append_assoc, skipBlanks_lineBreak,
      toList_quotedText]
    exact ⟨_, skipBlanks_of_black (by decide) _⟩
  | cons next members =>
    simp only [prettyMembers, String.toList_append, List.append_assoc, skipBlanks_lineBreak,
      toList_quotedText]
    exact ⟨_, skipBlanks_of_black (by decide) _⟩

/-- The members of an object are read up to the closing brace. -/
theorem members?_prettyMembers {member : String × Json} {members : List (String × Json)}
    (each : ∀ other ∈ member :: members, IsReadBack other.2) (level : Nat) {fuel : Nat}
    (enough : (prettyMembers level (member :: members)).length ≤ fuel) {closing rest : List Char}
    (closes : skipBlanks closing = closeBrace :: rest) (ends : EndsNumber closing) :
    members? fuel ((prettyMembers level (member :: members)).toList ++ closing) =
      some (some (member :: members), rest) := by
  have newLine := length_lineBreak_pos level
  have blank : ∀ chars, skipBlanks (' ' :: chars) = skipBlanks chars := fun _ => rfl
  induction members generalizing member fuel with
  | nil =>
    obtain ⟨name, value⟩ := member
    obtain ⟨here, -⟩ := List.forall_mem_cons.mp each
    simp only [prettyMembers, String.length_append] at enough
    cases fuel with
    | zero => omega
    | succ fuel =>
      have small : (prettyFrom level value).length ≤ fuel := by omega
      have read := here level fuel closing small ends
      rw [toList_prettyMembers_singleton]
      simp only [members?, memberName?_quotedText, value?_congr fuel (blank _), read, closes]
      rfl
  | cons next members ih =>
    obtain ⟨name, value⟩ := member
    obtain ⟨here, later⟩ := List.forall_mem_cons.mp each
    simp only [prettyMembers, String.length_append] at enough
    cases fuel with
    | zero => omega
    | succ fuel =>
      have small : (prettyFrom level value).length ≤ fuel := by omega
      have read := here level fuel _ small
        (endsNumber_comma ((prettyMembers level (next :: members)).toList ++ closing))
      have remaining : (prettyMembers level (next :: members)).length ≤ fuel := by omega
      have following := ih later remaining
      rw [toList_prettyMembers_cons]
      simp only [members?, memberName?_quotedText, value?_congr fuel (blank _), read, skipBlanks_comma,
        following, Option.map_some]
      rfl

namespace IsReadBack

/-- A text that is not empty leaves at least one call. -/
theorem of_succ {document : Json} (text : ∀ level, 0 < (prettyFrom level document).length)
    (read : ∀ level fuel rest, (prettyFrom level document).length ≤ fuel + 1 → EndsNumber rest →
      value? (fuel + 1) ((prettyFrom level document).toList ++ rest) = some (document, rest)) :
    document.IsReadBack := by
  intro level fuel rest enough ends
  cases fuel with
  | zero => exact absurd (text level) (Nat.not_lt.mpr enough)
  | succ fuel => exact read level fuel rest enough ends

theorem null : IsReadBack .null := by
  have text : ∀ level, prettyFrom level .null = "null" := fun _ => by rw [prettyFrom]
  apply of_succ
  · intro level
    rw [text]
    decide
  · intro level fuel rest _ _
    rw [text]
    rfl

theorem bool (value : Bool) : IsReadBack (.bool value) := by
  have text : ∀ level, prettyFrom level (.bool value) = if value then "true" else "false" :=
    fun _ => by rw [prettyFrom]
  apply of_succ
  · intro level
    rw [text]
    cases value <;> decide
  · intro level fuel rest _ _
    rw [text]
    cases value with
    | true => rfl
    | false => rfl

/-- An integer starts with its sign or with a digit. -/
theorem exists_head (value : Int) : ∃ first tail, (toString value).toList = first :: tail ∧
    (first = '-' ∨ isAsciiDigit first = true) := by
  rw [toString_int, String.toList_append]
  cases decide (value < 0) with
  | true => exact ⟨'-', (toString value.natAbs).toList, rfl, .inl rfl⟩
  | false =>
    obtain ⟨first, tail, written⟩ := List.exists_cons_of_ne_nil (Text.toList_toString_ne_nil value.natAbs)
    have member : first ∈ (toString value.natAbs).toList := by
      rw [written]
      exact List.mem_cons_self
    exact ⟨first, tail, written, .inr (Text.isAsciiDigit_of_mem member)⟩

theorem number (value : Int) : IsReadBack (.number (toString value)) := by
  obtain ⟨first, tail, written, starts⟩ := exists_head value
  have text : ∀ level, prettyFrom level (.number (toString value)) = toString value :=
    fun _ => by rw [prettyFrom]
  apply of_succ
  · intro level
    rw [text, ← String.length_toList, written]
    exact Nat.succ_pos _
  · intro level fuel rest _ ends
    have read := number?_toString value ends
    rw [written, List.cons_append] at read
    rw [text, written, List.cons_append, value?_number starts, read]

theorem string (text : String) : IsReadBack (.string text) := by
  have quoted : ∀ level, prettyFrom level (.string text) = quotedText text := fun _ => by rw [prettyFrom]
  have value : ∀ fuel rest, value? (fuel + 1) (doubleQuote :: rest) =
      (stringRest? rest).map (fun parts => (ofText? parts.1, parts.2)) := fun _ _ => rfl
  apply of_succ
  · intro level
    rw [quoted, quotedText, String.length_ofList]
    exact Nat.succ_pos _
  · intro level fuel rest _ _
    rw [quoted, toList_quotedText, value, stringRest?_escape]
    rfl

theorem array {items : List Json} (each : ∀ item ∈ items, IsReadBack item) :
    IsReadBack (.array items) := by
  cases items with
  | nil =>
    have text : ∀ level, prettyFrom level (.array []) = "[]" := fun _ => by rw [prettyFrom]
    apply of_succ
    · intro level
      rw [text]
      decide
    · intro level fuel rest _ _
      rw [text]
      rfl
  | cons item items =>
    apply of_succ
    · intro level
      exact Nat.zero_lt_of_lt (length_prettyItems_lt level item items)
    · intro level fuel rest enough _
      have remaining := Nat.le_of_lt_succ (Nat.lt_of_lt_of_le (length_prettyItems_lt level item items) enough)
      have closes : skipBlanks ((lineBreak level).toList ++ ']' :: rest) = ']' :: rest := by
        rw [skipBlanks_lineBreak, skipBlanks_of_black (by decide)]
      have read := items?_prettyItems each (level + 1) remaining closes (endsNumber_lineBreak level _)
      have other : ∀ after, skipBlanks ((prettyItems (level + 1) (item :: items)).toList ++
          ((lineBreak level).toList ++ ']' :: rest)) ≠ ']' :: after := by
        intro after starts
        rw [items?_closeBracket fuel starts] at read
        cases read
      rw [toList_prettyFrom_array, value?_array other, read]
      rfl

theorem object {members : List (String × Json)} (each : ∀ member ∈ members, IsReadBack member.2) :
    IsReadBack (.object members) := by
  cases members with
  | nil =>
    have text : ∀ level, prettyFrom level (.object []) = "\x7b\x7d" := fun _ => by rw [prettyFrom]
    apply of_succ
    · intro level
      rw [text]
      decide
    · intro level fuel rest _ _
      rw [text]
      rfl
  | cons member members =>
    apply of_succ
    · intro level
      exact Nat.zero_lt_of_lt (length_prettyMembers_lt level member members)
    · intro level fuel rest enough _
      have remaining :=
        Nat.le_of_lt_succ (Nat.lt_of_lt_of_le (length_prettyMembers_lt level member members) enough)
      have closes : skipBlanks ((lineBreak level).toList ++ closeBrace :: rest) = closeBrace :: rest := by
        rw [skipBlanks_lineBreak, skipBlanks_of_black (by decide)]
      have read := members?_prettyMembers each (level + 1) remaining closes (endsNumber_lineBreak level _)
      obtain ⟨tail, starts⟩ := skipBlanks_prettyMembers (level + 1) member members
        ((lineBreak level).toList ++ closeBrace :: rest)
      rw [toList_prettyFrom_object, value?_object starts (by decide), read]
      rfl

end IsReadBack

/-- Every document that the writer makes up in full is read back. -/
theorem IsIntegral.isReadBack {document : Json} (integral : document.IsIntegral) :
    document.IsReadBack := by
  induction integral with
  | null => exact .null
  | bool value => exact .bool value
  | number value => exact .number value
  | string text => exact .string text
  | array each ih => exact .array ih
  | object each ih => exact .object ih

theorem read?_pretty {document : Json} (integral : document.IsIntegral) :
    read? document.pretty = some document := by
  have read := integral.isReadBack 0 (2 * document.pretty.length + 2) [] (by
    rw [pretty]
    omega) endsNumber_nil
  rw [List.append_nil] at read
  rw [read?, pretty]
  rw [pretty] at read
  simp only [read]
  rfl

end ChartPortrayal.Json
