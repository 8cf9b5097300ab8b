import ChartPortrayal.Instruction.Directive
import ChartPortrayal.Proofs.Text.Trimming

/-! Directives are read as they were written. Quotes are what shields a payload: as long as they are paired,
and parentheses and commas stand between them only, writing and reading are inverse. -/

namespace ChartPortrayal

namespace Text

theorem toList_join_cons (separator text next : String) (rest : List String) :
    (join separator (text :: next :: rest)).toList =
      text.toList ++ (separator.toList ++ (join separator (next :: rest)).toList) := by
  rw [join, String.toList_append, String.toList_append, List.append_assoc]

end Text

namespace Directive

open Text (quote)

/-- Whether quotes are paired among characters, the first of which may stand between quotes already, and bars
stand between quotes only. -/
def shielded (isBar : Char → Bool) (quoted : Bool) : List Char → Bool
  | [] => !quoted
  | char :: rest =>
    if char = quote then shielded isBar (!quoted) rest
    else (quoted || !isBar char) && shielded isBar quoted rest

section Shielded

variable {isBar : Char → Bool} {quoted : Bool} {chars : List Char}

theorem shielded_cons_quote (rest : List Char) :
    shielded isBar quoted (quote :: rest) = shielded isBar (!quoted) rest := by
  rw [shielded, if_pos rfl]

theorem shielded_cons {char : Char} (other : char ≠ quote) (rest : List Char) :
    shielded isBar quoted (char :: rest) = ((quoted || !isBar char) && shielded isBar quoted rest) := by
  rw [shielded, if_neg other]

/-- A character that is no quote is no bar, unless it stands between quotes. -/
theorem shielded_of_cons {char : Char} {rest : List Char} (other : char ≠ quote)
    (closed : shielded isBar quoted (char :: rest) = true) :
    (isBar char && !quoted) = false ∧ shielded isBar quoted rest = true := by
  rw [shielded_cons other] at closed
  obtain ⟨passes, later⟩ := Bool.and_eq_true_iff.mp closed
  refine ⟨?_, later⟩
  cases quoted with
  | true => exact Bool.and_false _
  | false => simpa using passes

theorem shielded_append (closed : shielded isBar quoted chars = true) (rest : List Char) :
    shielded isBar quoted (chars ++ rest) = shielded isBar false rest := by
  induction chars generalizing quoted with
  | nil =>
    rw [shielded, Bool.not_eq_true'] at closed
    rw [closed, List.nil_append]
  | cons char following ih =>
    rw [List.cons_append]
    by_cases same : char = quote
    · subst same
      rw [shielded_cons_quote] at closed ⊢
      exact ih closed
    · rw [shielded_cons same] at closed ⊢
      obtain ⟨passes, later⟩ := Bool.and_eq_true_iff.mp closed
      rw [passes, Bool.true_and, ih later]

theorem shielded_of_free (free : ∀ char ∈ chars, char ≠ quote ∧ isBar char = false) :
    shielded isBar false chars = true := by
  induction chars with
  | nil => rfl
  | cons char rest ih =>
    obtain ⟨⟨other, passes⟩, later⟩ := List.forall_mem_cons.mp free
    rw [shielded_cons other, passes, ih later]
    rfl

/-- Between quotes anything may stand but a quote. -/
theorem shielded_quote (unquoted : quote ∉ chars) :
    shielded isBar false (quote :: (chars ++ [quote])) = true := by
  have inner : shielded isBar true (chars ++ [quote]) = true := by
    induction chars with
    | nil => exact shielded_cons_quote []
    | cons char rest ih =>
      rw [List.mem_cons, not_or] at unquoted
      rw [List.cons_append, shielded_cons (Ne.symm unquoted.1), ih unquoted.2]
      rfl
  rw [shielded_cons_quote]
  exact inner

theorem shielded_of_imp {weaker : Char → Bool} (imp : ∀ char, weaker char = true → isBar char = true)
    (closed : shielded isBar quoted chars = true) : shielded weaker quoted chars = true := by
  induction chars generalizing quoted with
  | nil => exact closed
  | cons char rest ih =>
    by_cases same : char = quote
    · subst same
      rw [shielded_cons_quote] at closed ⊢
      exact ih closed
    · rw [shielded_cons same] at closed ⊢
      obtain ⟨passes, later⟩ := Bool.and_eq_true_iff.mp closed
      rw [ih later, Bool.and_true]
      cases stops : weaker char with
      | false => simp
      | true => simpa [imp char stops] using passes

theorem shielded_join {fields : List String} (passes : isBar ',' = false)
    (each : ∀ field ∈ fields, shielded isBar false field.toList = true) :
    shielded isBar false (Text.join "," fields).toList = true := by
  induction fields with
  | nil => rfl
  | cons field rest ih =>
    obtain ⟨here, later⟩ := List.forall_mem_cons.mp each
    cases rest with
    | nil => exact here
    | cons next others =>
      have comma : shielded isBar false ",".toList = true :=
        shielded_of_free (by simpa using ⟨by decide, passes⟩)
      rw [Text.toList_join_cons, shielded_append here, shielded_append comma, ih later]

end Shielded

def isClosing (char : Char) : Bool := char = ')'

def isComma (char : Char) : Bool := char = ','

/-- A directive that is read as it was written: a tag of two capitals and a shielded payload. -/
structure Legible (directive : Directive) : Prop where
  tag : ∃ first second, directive.tag = String.ofList [first, second] ∧ isCapital first = true ∧
    isCapital second = true
  payload : shielded isClosing false directive.payload.toList = true

/-- No capital ends or separates anything. -/
theorem between_of_isCapital {char : Char} (capital : isCapital char = true) :
    char ≠ ';' ∧ isAsciiBlank char = false := by
  constructor
  · rintro rfl
    revert capital
    decide
  · cases blank : isAsciiBlank char with
    | false => rfl
    | true =>
      simp only [isAsciiBlank, Bool.or_eq_true, decide_eq_true_eq] at blank
      rcases blank with (((rfl | rfl) | rfl) | rfl) | feed
      iterate 4 exact absurd capital (by decide)
      have low : 65 ≤ char.toNat := (Bool.and_eq_true_iff.mp capital).1 |> of_decide_eq_true
      omega

namespace Scanner

theorem scan_tag {first second : Char} (capital : isCapital first = true)
    (other : isCapital second = true) (rest : List Char) :
    between.scan (first :: second :: '(' :: rest) =
      (inside (String.ofList [first, second]) false []).scan rest := by
  obtain ⟨apart, solid⟩ := between_of_isCapital capital
  simp [scan, completed?, next, apart, solid, capital, other]

theorem scan_inside {quoted : Bool} {chars : List Char} (closed : shielded isClosing quoted chars = true)
    (tag : String) (seen rest : List Char) :
    (inside tag quoted seen).scan (chars ++ ')' :: rest) =
      ⟨tag, String.ofList (seen.reverse ++ chars)⟩ :: between.scan rest := by
  induction chars generalizing quoted seen with
  | nil =>
    rw [shielded, Bool.not_eq_true'] at closed
    subst closed
    have apart : ')' ≠ quote := by decide
    simp [scan, completed?, next, final?, apart]
  | cons char following ih =>
    rw [List.cons_append, scan]
    by_cases same : char = quote
    · subst same
      rw [shielded_cons_quote] at closed
      have apart : quote ≠ ')' := by decide
      simp [completed?, next, apart, ih closed]
    · obtain ⟨goes, later⟩ := shielded_of_cons same closed
      rw [isClosing] at goes
      simp [completed?, next, same, goes, ih later]

end Scanner

theorem Legible.scan {directive : Directive} (legible : directive.Legible) (rest : List Char) :
    Scanner.between.scan (directive.text.toList ++ rest) = directive :: Scanner.between.scan rest := by
  obtain ⟨first, second, tag, capital, other⟩ := legible.tag
  have whole : directive.text.toList ++ rest =
      first :: second :: '(' :: (directive.payload.toList ++ ')' :: rest) := by
    simp [text, tag]
  rw [whole, Scanner.scan_tag capital other, ← tag, Scanner.scan_inside legible.payload]
  simp

/-- What is written of legible directives is read as they are, none more and none less. -/
theorem tokenize_textOf {directives : List Directive}
    (legible : ∀ directive ∈ directives, directive.Legible) :
    tokenize (textOf directives) = directives := by
  rw [tokenize, textOf]
  induction directives with
  | nil => rfl
  | cons directive rest ih =>
    obtain ⟨here, later⟩ := List.forall_mem_cons.mp legible
    have following := ih later
    cases rest with
    | nil =>
      have alone := here.scan []
      rwa [List.append_nil] at alone
    | cons next others =>
      rw [List.map_cons, List.map_cons, Text.toList_join_cons, here.scan]
      exact congrArg (directive :: ·) following

/-- Legible directives are told by their texts. -/
theorem Legible.eq_of_text {directive other : Directive} (legible : directive.Legible) (readable : other.Legible)
    (same : directive.text = other.text) : directive = other := by
  have first := tokenize_textOf (List.forall_mem_singleton.mpr legible)
  have second := tokenize_textOf (List.forall_mem_singleton.mpr readable)
  have texts : textOf [directive] = textOf [other] := same
  rw [← texts, first] at second
  exact List.singleton_inj.mp second

theorem splitOutsideQuotes_comma {quoted : Bool} {chars : List Char}
    (closed : shielded isComma quoted chars = true) (seen rest : List Char) :
    splitOutsideQuotes quoted seen (chars ++ ',' :: rest) =
      (seen.reverse ++ chars) :: splitOutsideQuotes false [] rest := by
  induction chars generalizing quoted seen with
  | nil =>
    rw [shielded, Bool.not_eq_true'] at closed
    subst closed
    have apart : ',' ≠ quote := by decide
    simp [splitOutsideQuotes, apart]
  | cons char following ih =>
    rw [List.cons_append, splitOutsideQuotes]
    by_cases same : char = quote
    · subst same
      rw [shielded_cons_quote] at closed
      simp [ih closed]
    · obtain ⟨goes, later⟩ := shielded_of_cons same closed
      rw [isComma] at goes
      simp [same, goes, ih later]

theorem splitOutsideQuotes_end {quoted : Bool} {chars : List Char}
    (closed : shielded isComma quoted chars = true) (seen : List Char) :
    splitOutsideQuotes quoted seen chars = [seen.reverse ++ chars] := by
  induction chars generalizing quoted seen with
  | nil => simp [splitOutsideQuotes]
  | cons char following ih =>
    rw [splitOutsideQuotes]
    by_cases same : char = quote
    · subst same
      rw [shielded_cons_quote] at closed
      simp [ih closed]
    · obtain ⟨goes, later⟩ := shielded_of_cons same closed
      rw [isComma] at goes
      simp [same, goes, ih later]

/-- A parameter that is read as it was written: no blanks around it, and parentheses and commas only between
quotes. -/
structure IsField (field : String) : Prop where
  trimmed : Text.trimChars field.toList = field.toList
  shielded : shielded (fun char => isComma char || isClosing char) false field.toList = true

theorem IsField.comma {field : String} (whole : IsField field) :
    Directive.shielded isComma false field.toList = true :=
  shielded_of_imp (fun char comma => by simp [comma]) whole.shielded

theorem IsField.closing {field : String} (whole : IsField field) :
    Directive.shielded isClosing false field.toList = true :=
  shielded_of_imp (fun char closing => by simp [closing]) whole.shielded

/-- Parameters without commas of their own are read from the list that they were written as. -/
theorem splitParameters_join {field : String} {rest : List String}
    (each : ∀ other ∈ field :: rest, Text.trimChars other.toList = other.toList ∧
      Directive.shielded isComma false other.toList = true) :
    splitParameters (Text.join "," (field :: rest)) = field :: rest := by
  rw [splitParameters]
  induction rest generalizing field with
  | nil =>
    obtain ⟨trimmed, whole⟩ := each field List.mem_cons_self
    rw [Text.join, splitOutsideQuotes_end whole]
    simp [trimmed]
  | cons next others ih =>
    obtain ⟨⟨trimmed, whole⟩, later⟩ := List.forall_mem_cons.mp each
    have comma : ",".toList = [','] := rfl
    rw [Text.toList_join_cons, comma, List.singleton_append, splitOutsideQuotes_comma whole, List.map_cons,
      ih later]
    simp [trimmed]

theorem parameters_ofParameters (tag : String) {field : String} {rest : List String}
    (each : ∀ other ∈ field :: rest, IsField other) :
    (ofParameters tag (field :: rest)).parameters = field :: rest :=
  splitParameters_join (fun other member => ⟨(each other member).trimmed, (each other member).comma⟩)

theorem legible_ofParameters {tag : String} {fields : List String}
    (capitals : ∃ first second, tag = String.ofList [first, second] ∧ isCapital first = true ∧
      isCapital second = true)
    (each : ∀ field ∈ fields, IsField field) : (ofParameters tag fields).Legible :=
  ⟨capitals, shielded_join rfl (fun field member => (each field member).closing)⟩

theorem toList_quoted (text : String) : (quoted text).toList = quote :: (text.toList ++ [quote]) := by
  simp [quoted, Text.quoteText]

theorem unquote_quoted (text : String) : unquote (quoted text) = text := by
  rw [unquote, toList_quoted]
  simp

/-- A text without quotes is a field once it is quoted, whatever else it holds. -/
theorem isField_quoted {text : String} (unquoted : quote ∉ text.toList) : IsField (quoted text) := by
  have solid : Text.isBlank quote = false := by decide
  constructor
  · rw [toList_quoted]
    refine Text.trimChars_self (by simp [solid]) ?_
    rw [← List.cons_append, List.getLast?_append]
    simp [solid]
  · rw [toList_quoted]
    exact shielded_quote unquoted

end Directive

end ChartPortrayal
