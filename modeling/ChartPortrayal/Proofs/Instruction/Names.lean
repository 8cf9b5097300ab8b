import ChartPortrayal.Proofs.Conditional.Sound
import ChartPortrayal.Proofs.Number.Canonical
import ChartPortrayal.Proofs.Text.Fields

namespace ChartPortrayal

open Text (quote isWord)

namespace Text

/-- Whether a character neither separates nor quotes anything. -/
def isNameChar (char : Char) : Bool :=
  char != ',' && char != quote && char != '(' && char != ')' && char != ';'

/-- A name as it may stand in a directive: not empty, no blanks around it, and none of the characters that
separate or quote anything. -/
structure IsName (text : String) : Prop where
  filled : text ≠ ""
  trimmed : trim text = text
  free : text.toList.all isNameChar = true

theorem isName_iff {text : String} :
    IsName text ↔ text ≠ "" ∧ trim text = text ∧ text.toList.all isNameChar = true :=
  ⟨fun name => ⟨name.filled, name.trimmed, name.free⟩, fun ⟨filled, trimmed, free⟩ => ⟨filled, trimmed, free⟩⟩

instance (text : String) : Decidable (IsName text) := decidable_of_iff' _ isName_iff

theorem isNameChar_iff {char : Char} : isNameChar char = true ↔
    char ≠ ',' ∧ char ≠ quote ∧ char ≠ '(' ∧ char ≠ ')' ∧ char ≠ ';' := by
  simp [isNameChar, and_assoc]

namespace IsName

variable {text : String}

theorem isNameChar_of_mem (name : IsName text) {char : Char} (member : char ∈ text.toList) :
    isNameChar char = true :=
  List.all_eq_true.mp name.free char member

theorem not_mem_comma (name : IsName text) : ',' ∉ text.toList :=
  fun member => (isNameChar_iff.mp (name.isNameChar_of_mem member)).1 rfl

theorem not_mem_quote (name : IsName text) : quote ∉ text.toList :=
  fun member => (isNameChar_iff.mp (name.isNameChar_of_mem member)).2.1 rfl

theorem isField (name : IsName text) : Directive.IsField text where
  trimmed := by
    have same := congrArg String.toList name.trimmed
    rwa [trim, String.toList_ofList] at same
  shielded := Directive.shielded_of_free (fun char member => by
    obtain ⟨comma, other, -, closing, -⟩ := isNameChar_iff.mp (name.isNameChar_of_mem member)
    exact ⟨other, by simp [Directive.isComma, Directive.isClosing, comma, closing]⟩)

/-- No name starts with a quote. -/
theorem head?_ne (name : IsName text) : text.toList.head? ≠ some quote :=
  fun first => name.not_mem_quote (List.mem_of_mem_head? first)

end IsName

/-- Fields without commas are read from the list that they were written as. -/
theorem commaFields_join {field : String} {rest : List String}
    (each : ∀ other ∈ field :: rest, trimChars other.toList = other.toList ∧ ',' ∉ other.toList) :
    commaFields (join "," (field :: rest)) = field :: rest := by
  rw [commaFields]
  induction rest generalizing field with
  | nil =>
    obtain ⟨trimmed, free⟩ := each field List.mem_cons_self
    rw [join, splitChars_field free, List.map_singleton, trimmed, String.ofList_toList]
  | cons next others ih =>
    obtain ⟨⟨trimmed, free⟩, later⟩ := List.forall_mem_cons.mp each
    have comma : ",".toList = [','] := rfl
    rw [toList_join_cons, comma, List.singleton_append, splitChars_append free, List.map_cons, ih later,
      trimmed, String.ofList_toList]

/-- A list of names is read as it was written, the empty list like any other. -/
theorem commaFields_names {names : List String} (each : ∀ name ∈ names, IsName name) :
    (commaFields (join "," names)).filter (· != "") = names := by
  cases names with
  | nil => rfl
  | cons name rest =>
    rw [commaFields_join (fun other member =>
      ⟨(each other member).isField.trimmed, (each other member).not_mem_comma⟩)]
    exact List.filter_eq_self.mpr (fun other member => bne_iff_ne.mpr (each other member).filled)

theorem not_mem_join {bar : Char} {fields : List String} (comma : bar ≠ ',')
    (each : ∀ field ∈ fields, bar ∉ field.toList) : bar ∉ (join "," fields).toList := by
  induction fields with
  | nil => exact List.not_mem_nil
  | cons field rest ih =>
    obtain ⟨here, later⟩ := List.forall_mem_cons.mp each
    cases rest with
    | nil => exact here
    | cons next others =>
      have separator : bar ∉ ",".toList := by simpa using comma
      rw [toList_join_cons, List.mem_append, List.mem_append, not_or, not_or]
      exact ⟨here, separator, ih later⟩

/-- A word that is read as a value. -/
structure Writes {β : Type} (read? : String → Option β) (text : String) (value : β) : Prop where
  word : isWord text = true
  filled : text ≠ ""
  read : read? text = some value

theorem Writes.of_read {β : Type} {read? : String → Option β} {text : String} {value : β}
    (word : isWord text = true) (empty : read? "" = none) (read : read? text = some value) :
    Writes read? text value where
  word := word
  filled := by
    rintro rfl
    rw [empty] at read
    cases read
  read := read

theorem writes_uint8 (number : UInt8) : Writes uint8? (toString number.toNat) number :=
  .of_read (isWord_natural _) rfl (uint8?_toString number)

theorem writes_uint32 (number : UInt32) : Writes uint32? (toString number.toNat) number :=
  .of_read (isWord_natural _) rfl (uint32?_toString number)

theorem writes_int32 (number : Int32) : Writes int32? (toString number.toInt) number :=
  .of_read (isWord_integer _) rfl (int32?_toString number)

theorem writes_number (number : Float) : Writes Quantity.read? (Quantity.plain number) (reread number) :=
  .of_read (PlainWords.isWord_plain number) rfl (read?_reread number)

end Text

open Text (IsName Writes)

theorem Directive.quoted_ne_empty (text : String) : quoted text ≠ "" := by
  intro empty
  have chars := congrArg String.toList empty
  rw [toList_quoted] at chars
  cases chars

theorem Directive.unquote_of_head? {text : String} (unquoted : text.toList.head? ≠ some quote) :
    unquote text = text := by
  unfold unquote
  split
  · rfl
  · next first rest chars =>
    rw [chars, List.head?_cons, ne_eq, Option.some.injEq] at unquoted
    exact if_neg (fun both => unquoted both.1)

namespace Parameters

variable {parameters : List String} {index : Nat} {text : String}

theorem nonempty?_eq_some (present : parameters[index]? = some text) (filled : text ≠ "") :
    nonempty? parameters index = some text := by
  rw [nonempty?, present, Option.filter_some, if_pos (bne_iff_ne.mpr filled)]

theorem textOr_eq (present : parameters[index]? = some text) (filled : text ≠ "") (default : String) :
    textOr parameters index default = text := by
  rw [textOr, nonempty?_eq_some present filled, Option.getD_some]

/-- A quoted parameter is read without its quotes. -/
theorem unquote_textOr (present : parameters[index]? = some (Directive.quoted text)) (default : String) :
    Directive.unquote (textOr parameters index default) = text := by
  rw [textOr_eq present (Directive.quoted_ne_empty text), Directive.unquote_quoted]

theorem readOr_eq {β : Type} {read? : String → Option β} {value : β} (written : Writes read? text value)
    (present : parameters[index]? = some text) (default : β) :
    readOr read? parameters index default = value := by
  have unquoted : text.toList.head? ≠ some quote := by
    intro first
    have char := Text.isWord_iff.mp written.word quote (List.mem_of_mem_head? first)
    revert char
    decide
  rw [readOr, nonempty?_eq_some present written.filled, Option.map_some,
    Directive.unquote_of_head? unquoted, Option.bind_some, written.read, Option.getD_some]

end Parameters

end ChartPortrayal
