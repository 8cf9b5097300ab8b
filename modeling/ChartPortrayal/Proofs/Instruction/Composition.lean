import Mathlib.Algebra.Ring.Parity
import ChartPortrayal.Proofs.Instruction.Reading

/-! Instruction text put together and taken apart. Texts may be joined with a semicolon wherever the first one
leaves no parenthesis open, and what was put between parentheses or joined with commas is found there again. -/

namespace ChartPortrayal.Directive

open Text (quote)

/-- A character stands between quotes only: an odd number of them comes before it wherever it stands. -/
def OnlyQuoted (bar : Char) (chars : List Char) : Prop :=
  ∀ before after, chars = before ++ bar :: after → Odd (before.count quote)

/-- A text in which every quote has its partner, and a character stands between quotes only. -/
structure Enclosed (bar : Char) (chars : List Char) : Prop where
  paired : Even (chars.count quote)
  only : OnlyQuoted bar chars

theorem enclosed_iff {bar : Char} {chars : List Char} :
    Enclosed bar chars ↔ Even (chars.count quote) ∧ OnlyQuoted bar chars :=
  ⟨fun enclosed => ⟨enclosed.paired, enclosed.only⟩, fun ⟨paired, only⟩ => ⟨paired, only⟩⟩

theorem onlyQuoted_iff {bar : Char} {chars : List Char} : OnlyQuoted bar chars ↔
    ∀ place < chars.length, chars[place]? = some bar → Odd ((chars.take place).count quote) := by
  constructor
  · intro only place inside listed
    refine only (chars.take place) (chars.drop (place + 1)) ?_
    obtain ⟨_, rfl⟩ := List.getElem?_eq_some_iff.mp listed
    rw [← List.drop_eq_getElem_cons inside, List.take_append_drop]
  · rintro each before after rfl
    have odd := each before.length (by simp) (by simp)
    rwa [List.take_left] at odd

instance (bar : Char) (chars : List Char) : Decidable (OnlyQuoted bar chars) :=
  decidable_of_iff' _ onlyQuoted_iff

instance (bar : Char) (chars : List Char) : Decidable (Enclosed bar chars) :=
  decidable_of_iff' _ enclosed_iff

theorem onlyQuoted_nil (bar : Char) : OnlyQuoted bar [] := by
  intro before after none
  cases before <;> cases none

theorem OnlyQuoted.concat {bar char : Char} {chars : List Char} (only : OnlyQuoted bar chars)
    (last : char = bar → Odd (chars.count quote)) : OnlyQuoted bar (chars ++ [char]) := by
  intro before after same
  rcases List.eq_nil_or_concat after with rfl | ⟨others, final, rfl⟩
  · obtain ⟨rfl, single⟩ := List.append_inj' same rfl
    exact last (List.singleton_inj.mp single)
  · rw [List.concat_eq_append, ← List.cons_append, ← List.append_assoc] at same
    obtain ⟨rfl, -⟩ := List.append_inj' same rfl
    exact only before others rfl

/-- A further quote turns the parity around. -/
theorem add_toNat_not_mod_two (count : Nat) (quoted : Bool) :
    (count + (!quoted).toNat) % 2 = (count + 1 + quoted.toNat) % 2 := by
  cases quoted with
  | false => rfl
  | true => exact (Nat.add_mod_right count 2).symm

/-- What is enclosed is shielded. The quotes before the characters count along with those among them. -/
theorem shielded_of_onlyQuoted {isBar : Char → Bool} {bar : Char} {quoted : Bool} {chars : List Char}
    (same : ∀ char, isBar char = true → char = bar) (paired : Even (chars.count quote + quoted.toNat))
    (only : ∀ before after, chars = before ++ bar :: after → Odd (before.count quote + quoted.toNat)) :
    shielded isBar quoted chars = true := by
  induction chars generalizing quoted with
  | nil =>
    cases quoted with
    | false => rfl
    | true => exact absurd paired (by decide)
  | cons char rest ih =>
    have later : ∀ before after, rest = before ++ bar :: after →
        Odd ((char :: before).count quote + quoted.toNat) :=
      fun before after whole => only (char :: before) after (by rw [whole, List.cons_append])
    by_cases other : char = quote
    · subst other
      rw [shielded_cons_quote]
      simp only [List.count_cons_self, Nat.odd_iff, Nat.even_iff, ← add_toNat_not_mod_two] at later paired
      exact ih (Nat.even_iff.mpr paired) (fun before after whole => Nat.odd_iff.mpr (later before after whole))
    · rw [shielded_cons other]
      simp only [List.count_cons_of_ne other] at later paired
      rw [ih paired later, Bool.and_true]
      cases stops : isBar char with
      | false => simp
      | true =>
        have odd := only [] rest (by rw [← same char stops, List.nil_append])
        cases quoted with
        | true => rfl
        | false => exact absurd odd (by decide)

theorem Enclosed.shielded {isBar : Char → Bool} {bar : Char} {chars : List Char} (enclosed : Enclosed bar chars)
    (same : ∀ char, isBar char = true → char = bar) : shielded isBar false chars = true :=
  shielded_of_onlyQuoted same enclosed.paired enclosed.only

/-- How a directive opens: a tag of two capitals, and blanks behind it. -/
structure Opening where
  first : Char
  second : Char
  blanks : Nat
  capitals : isCapital first = true ∧ isCapital second = true

namespace Opening

def tag (opening : Opening) : String := String.ofList [opening.first, opening.second]

def chars (opening : Opening) : List Char :=
  opening.first :: opening.second :: List.replicate opening.blanks ' '

/-- The same opening with one more blank. -/
def widened (opening : Opening) : Opening := { opening with blanks := opening.blanks + 1 }

theorem chars_widened (opening : Opening) : opening.widened.chars = opening.chars ++ [' '] := by
  simp [widened, chars, List.replicate_succ']

end Opening

/-- A stretch of text that is passed over: it starts with neither a separator nor a tag. -/
structure IsMalformed (stretch : List Char) : Prop where
  starts : ∃ first rest, stretch = first :: rest ∧ first ≠ ';' ∧ isAsciiBlank first = false ∧
    (isCapital first = true → ∀ second ∈ rest.head?, isCapital second = false)
  unended : ';' ∉ stretch

theorem isMalformed_of_capital {first : Char} {rest : List Char} (starts : isCapital first = true)
    (untagged : ∀ second ∈ rest.head?, isCapital second = false) (unended : ';' ∉ rest) :
    IsMalformed (first :: rest) := by
  obtain ⟨apart, solid⟩ := between_of_isCapital starts
  exact ⟨⟨first, rest, rfl, apart, solid, fun _ => untagged⟩, by simp [Ne.symm apart, unended]⟩

/-- What is passed over goes on up to a semicolon, unless it is a lone capital and may become a tag. -/
theorem IsMalformed.concat {stretch : List Char} {char : Char} (skipped : IsMalformed stretch)
    (settled : ∀ first, stretch = [first] → isCapital first = false) (stays : char ≠ ';') :
    IsMalformed (stretch ++ [char]) := by
  obtain ⟨⟨first, rest, rfl, apart, solid, other⟩, unended⟩ := skipped
  refine ⟨⟨first, rest ++ [char], rfl, apart, solid, fun capital => ?_⟩, ?_⟩
  · cases rest with
    | nil => exact absurd (settled first rfl) (by simp [capital])
    | cons second others => exact other capital
  · simpa [Ne.symm stays] using unended

/-- Texts after which a directive may begin: nothing but separators, stretches that are passed over and
directives that are complete. -/
inductive Complete : List Char → Prop where
  | empty : Complete []
  | separator {before : List Char} {char : Char} (complete : Complete before)
      (separates : char = ';' ∨ isAsciiBlank char = true) : Complete (before ++ [char])
  | malformed {before stretch : List Char} (complete : Complete before) (skipped : IsMalformed stretch) :
      Complete (before ++ stretch ++ [';'])
  | bare {before payload : List Char} (complete : Complete before) (opening : Opening)
      (starts : ∀ char ∈ payload.head?, char ≠ ' ' ∧ char ≠ '(') (unended : ';' ∉ payload) :
      Complete (before ++ (opening.chars ++ payload) ++ [';'])
  | enclosed {before payload : List Char} (complete : Complete before) (opening : Opening)
      (enclosed : Enclosed ')' payload) : Complete (before ++ (opening.chars ++ '(' :: payload) ++ [')'])

/-- Texts in which a directive opens a parenthesis that is never closed: every closing one after it stands
between quotes. -/
def IsOpen (chars : List Char) : Prop :=
  ∃ (before payload : List Char) (opening : Opening), Complete before ∧ OnlyQuoted ')' payload ∧
    chars = before ++ (opening.chars ++ '(' :: payload)

namespace Scanner

/-- What a scanner has come to after characters. -/
def run (scanner : Scanner) (chars : List Char) : Scanner := chars.foldl next scanner

/-- The directives that characters complete. -/
def emitted (scanner : Scanner) : List Char → List Directive
  | [] => []
  | char :: rest => (scanner.completed? char).toList ++ (scanner.next char).emitted rest

theorem run_append (scanner : Scanner) (first rest : List Char) :
    scanner.run (first ++ rest) = (scanner.run first).run rest := List.foldl_append

theorem run_concat (scanner : Scanner) (chars : List Char) (char : Char) :
    scanner.run (chars ++ [char]) = (scanner.run chars).next char := run_append scanner chars [char]

theorem scan_append (scanner : Scanner) (first rest : List Char) :
    scanner.scan (first ++ rest) = scanner.emitted first ++ (scanner.run first).scan rest := by
  induction first generalizing scanner with
  | nil => rfl
  | cons char others ih =>
    rw [List.cons_append, scan, ih, emitted, List.append_assoc]
    rfl

theorem scan_eq (scanner : Scanner) (chars : List Char) :
    scanner.scan chars = scanner.emitted chars ++ (scanner.run chars).final?.toList := by
  have whole := scan_append scanner chars []
  rwa [List.append_nil] at whole

/-- What a scanner is in the midst of, told by the text that it has read. -/
inductive Reached : Scanner → List Char → Prop where
  | between {chars : List Char} (complete : Complete chars) : Reached between chars
  | capital {before : List Char} {first : Char} (complete : Complete before)
      (starts : isCapital first = true) : Reached (capital first) (before ++ [first])
  | malformed {before stretch : List Char} (complete : Complete before) (skipped : IsMalformed stretch)
      (settled : ∀ first, stretch = [first] → isCapital first = false) :
      Reached malformed (before ++ stretch)
  | tagged {before : List Char} (complete : Complete before) (opening : Opening) :
      Reached (tagged opening.tag) (before ++ opening.chars)
  | bare {before payload : List Char} {solid : Char} (complete : Complete before) (opening : Opening)
      (starts : solid ≠ ' ' ∧ solid ≠ '(') (unended : ';' ∉ solid :: payload) :
      Reached (bare opening.tag (solid :: payload).reverse) (before ++ (opening.chars ++ solid :: payload))
  | inside {before payload : List Char} (complete : Complete before) (opening : Opening)
      (only : OnlyQuoted ')' payload) :
      Reached (inside opening.tag (decide (Odd (payload.count quote))) payload.reverse)
        (before ++ (opening.chars ++ '(' :: payload))

/-- One more character of a payload that stays open. -/
theorem next_inside {payload : List Char} {char : Char} (tag : String)
    (stays : char = ')' → Odd (payload.count quote)) :
    (inside tag (decide (Odd (payload.count quote))) payload.reverse).next char =
      inside tag (decide (Odd ((payload ++ [char]).count quote))) (payload ++ [char]).reverse := by
  rw [List.count_append, List.reverse_append]
  by_cases same : char = quote
  · subst same
    have flips : (!decide (Odd (payload.count quote))) = decide (Odd (payload.count quote + 1)) := by
      rw [Bool.eq_iff_iff]
      simp [Nat.odd_add_one]
    rw [next, if_pos rfl, List.count_singleton_self, flips]
    rfl
  · have closes : (char = ')' && !decide (Odd (payload.count quote))) = false := by
      by_cases closing : char = ')'
      · simp [stays closing]
      · simp [closing]
    simp [next, same, closes]

/-- A character of a payload that closes its parenthesis. -/
theorem next_inside_closing {payload : List Char} (tag : String) (paired : Even (payload.count quote)) :
    (inside tag (decide (Odd (payload.count quote))) payload.reverse).next ')' = between := by
  have apart : ')' ≠ quote := by decide
  have closes : decide (Odd (payload.count quote)) = false := by simpa using paired
  simp [next, apart, closes]

section Steps

variable {before stretch payload : List Char} {first : Char}

theorem reached_next_between (complete : Complete before) (char : Char) :
    Reached (between.next char) (before ++ [char]) := by
  rw [next]
  split
  · next separates => exact .between (.separator complete (by simpa using separates))
  · next solid =>
    simp only [Bool.or_eq_true, decide_eq_true_eq, not_or, Bool.not_eq_true] at solid
    split
    · next starts => exact .capital complete starts
    · next other =>
      have skipped : IsMalformed [char] :=
        ⟨⟨char, [], rfl, solid.1, solid.2, by simp⟩, by simpa using Ne.symm solid.1⟩
      refine .malformed complete skipped ?_
      rintro first same
      obtain rfl := List.singleton_inj.mp same
      simpa using other

theorem reached_next_capital (complete : Complete before) (starts : isCapital first = true) (char : Char) :
    Reached ((capital first).next char) (before ++ [first] ++ [char]) := by
  rw [next]
  split
  · next ends =>
    rw [List.append_assoc]
    exact .tagged complete ⟨first, char, 0, starts, ends⟩
  · next other =>
    split
    · next ends =>
      subst ends
      exact .between (.malformed complete (isMalformed_of_capital starts (by simp) (by simp)))
    · next stays =>
      have skipped : IsMalformed [first, char] :=
        isMalformed_of_capital starts (by simpa using other) (by simpa using Ne.symm stays)
      rw [List.append_assoc]
      exact .malformed complete skipped (by simp)

theorem reached_next_malformed (complete : Complete before) (skipped : IsMalformed stretch)
    (settled : ∀ first, stretch = [first] → isCapital first = false) (char : Char) :
    Reached (malformed.next char) (before ++ stretch ++ [char]) := by
  rw [next]
  split
  · next ends =>
    subst ends
    exact .between (.malformed complete skipped)
  · next stays =>
    have filled : stretch ≠ [] := by
      obtain ⟨first, rest, rfl, -⟩ := skipped.starts
      exact List.cons_ne_nil first rest
    have longer : ∀ other, stretch ++ [char] = [other] → isCapital other = false := by
      intro other same
      exact absurd (List.append_inj' (same.trans (List.nil_append [other]).symm) rfl).1 filled
    rw [List.append_assoc]
    exact .malformed complete (skipped.concat settled stays) longer

theorem reached_next_tagged (complete : Complete before) (opening : Opening) (char : Char) :
    Reached ((tagged opening.tag).next char) (before ++ opening.chars ++ [char]) := by
  rw [next]
  split
  · next blank =>
    subst blank
    rw [List.append_assoc, ← opening.chars_widened]
    exact .tagged complete opening.widened
  · next solid =>
    split
    · next opens =>
      subst opens
      rw [List.append_assoc]
      exact .inside complete opening (onlyQuoted_nil ')')
    · next unopened =>
      split
      · next ends =>
        subst ends
        have bare : Complete (before ++ (opening.chars ++ []) ++ [';']) :=
          .bare complete opening (by simp) (by simp)
        rw [List.append_nil] at bare
        exact .between bare
      · next stays =>
        have unended : ';' ∉ [char] := by simpa using Ne.symm stays
        rw [List.append_assoc]
        exact Reached.bare complete opening ⟨solid, unopened⟩ unended

theorem reached_next_bare (complete : Complete before) (opening : Opening)
    (starts : first ≠ ' ' ∧ first ≠ '(') (unended : ';' ∉ first :: payload) (char : Char) :
    Reached ((bare opening.tag (first :: payload).reverse).next char)
      (before ++ (opening.chars ++ first :: payload) ++ [char]) := by
  rw [next]
  split
  · next ends =>
    subst ends
    exact .between (.bare complete opening (by simpa using starts) unended)
  · next stays =>
    have longer : char :: (first :: payload).reverse = (first :: (payload ++ [char])).reverse := by simp
    rw [List.append_assoc, List.append_assoc, List.cons_append, longer]
    exact .bare complete opening starts (by simpa [Ne.symm stays] using unended)

theorem reached_next_inside (complete : Complete before) (opening : Opening)
    (only : OnlyQuoted ')' payload) (char : Char) :
    Reached ((inside opening.tag (decide (Odd (payload.count quote))) payload.reverse).next char)
      (before ++ (opening.chars ++ '(' :: payload) ++ [char]) := by
  by_cases closes : char = ')' ∧ Even (payload.count quote)
  · obtain ⟨rfl, paired⟩ := closes
    rw [next_inside_closing _ paired]
    exact .between (.enclosed complete opening ⟨paired, only⟩)
  · have stays : char = ')' → Odd (payload.count quote) := by simpa using closes
    rw [next_inside _ stays, List.append_assoc, List.append_assoc, List.cons_append]
    exact .inside complete opening (only.concat stays)

end Steps

theorem Reached.next {scanner : Scanner} {chars : List Char} (reached : Reached scanner chars) (char : Char) :
    Reached (scanner.next char) (chars ++ [char]) := by
  cases reached with
  | between complete => exact reached_next_between complete char
  | capital complete starts => exact reached_next_capital complete starts char
  | malformed complete skipped settled => exact reached_next_malformed complete skipped settled char
  | tagged complete opening => exact reached_next_tagged complete opening char
  | bare complete opening starts unended => exact reached_next_bare complete opening starts unended char
  | inside complete opening only => exact reached_next_inside complete opening only char

theorem reached_run (chars : List Char) : Reached (between.run chars) chars := by
  induction chars using List.reverseRecOn with
  | nil => exact .between .empty
  | append_singleton chars char ih =>
    rw [run_concat]
    exact ih.next char

theorem run_opening (opening : Opening) (rest : List Char) :
    between.run (opening.chars ++ rest) = (tagged opening.tag).run rest := by
  obtain ⟨starts, ends⟩ := opening.capitals
  obtain ⟨apart, solid⟩ := between_of_isCapital starts
  have tag : between.run [opening.first, opening.second] = tagged opening.tag := by
    simp [run, next, apart, solid, starts, ends, Opening.tag]
  have blanks : ∀ count, (tagged opening.tag).run (List.replicate count ' ') = tagged opening.tag := by
    intro count
    induction count with
    | zero => rfl
    | succ count ih => rw [List.replicate_succ', run_concat, ih, next, if_pos rfl]
  have whole : opening.chars = [opening.first, opening.second] ++ List.replicate opening.blanks ' ' := rfl
  rw [whole, run_append, run_append, tag, blanks]

theorem run_malformed {chars : List Char} (unended : ';' ∉ chars) : malformed.run chars = malformed := by
  induction chars with
  | nil => rfl
  | cons char rest ih =>
    obtain ⟨stays, later⟩ := not_or.mp (List.mem_cons.not.mp unended)
    rw [run, List.foldl_cons, next, if_neg (Ne.symm stays)]
    exact ih later

/-- A lone capital is still taken for the beginning of a tag. -/
theorem run_skipped {stretch : List Char} (skipped : IsMalformed stretch) :
    between.run stretch = malformed ∨ ∃ first, between.run stretch = capital first := by
  obtain ⟨first, rest, rfl, apart, solid, other⟩ := skipped.starts
  have unended := (not_or.mp (List.mem_cons.not.mp skipped.unended)).2
  rw [run, List.foldl_cons, next, if_neg (by simp [apart, solid])]
  split
  · next capital =>
    cases rest with
    | nil => exact .inr ⟨first, rfl⟩
    | cons second others =>
      obtain ⟨stays, later⟩ := not_or.mp (List.mem_cons.not.mp unended)
      have lower := other capital second rfl
      rw [List.foldl_cons, next, if_neg (by simp [lower]), if_neg (Ne.symm stays)]
      exact .inl (run_malformed later)
  · exact .inl (run_malformed unended)

theorem run_bare {chars : List Char} (tag : String) (seen : List Char) (unended : ';' ∉ chars) :
    (bare tag seen).run chars = bare tag (chars.reverse ++ seen) := by
  induction chars generalizing seen with
  | nil => rfl
  | cons char rest ih =>
    obtain ⟨stays, later⟩ := not_or.mp (List.mem_cons.not.mp unended)
    rw [run, List.foldl_cons, next, if_neg (Ne.symm stays), List.reverse_cons, List.append_assoc]
    exact ih (char :: seen) later

theorem run_payload {payload : List Char} (tag : String) (only : OnlyQuoted ')' payload) :
    (inside tag false []).run payload =
      inside tag (decide (Odd (payload.count quote))) payload.reverse := by
  induction payload using List.reverseRecOn with
  | nil => rfl
  | append_singleton chars char ih =>
    have before : OnlyQuoted ')' chars := fun first after whole =>
      only first (after ++ [char]) (by rw [whole, List.append_assoc, List.cons_append])
    rw [run_concat, ih before]
    exact next_inside tag (fun closing => only chars [] (by rw [closing]))

theorem run_opened {payload : List Char} (opening : Opening) (only : OnlyQuoted ')' payload) :
    between.run (opening.chars ++ '(' :: payload) =
      inside opening.tag (decide (Odd (payload.count quote))) payload.reverse := by
  have opens : (tagged opening.tag).next '(' = inside opening.tag false [] := rfl
  rw [run_opening, run, List.foldl_cons, opens, ← run, run_payload _ only]

/-- Where a directive may begin, the scanner is between directives. -/
theorem run_of_complete {before : List Char} (complete : Complete before) : between.run before = between := by
  induction complete with
  | empty => rfl
  | separator _ separates ih => rw [run_concat, ih, next, if_pos (by simpa using separates)]
  | malformed _ skipped ih =>
    rw [run_concat, run_append, ih]
    rcases run_skipped skipped with same | ⟨first, same⟩ <;> rw [same] <;> rfl
  | @bare before payload _ opening starts unended ih =>
    rw [run_concat, run_append, ih, run_opening]
    cases payload with
    | nil => rfl
    | cons first rest =>
      obtain ⟨solid, unopened⟩ := starts first rfl
      obtain ⟨stays, later⟩ := not_or.mp (List.mem_cons.not.mp unended)
      rw [run, List.foldl_cons, next, if_neg solid, if_neg unopened, if_neg (Ne.symm stays), ← run,
        run_bare _ _ later]
      rfl
  | enclosed _ opening enclosed ih =>
    rw [run_concat, run_append, ih, run_opened opening enclosed.only, next_inside_closing _ enclosed.paired]

/-- A parenthesis is open exactly when the scanner ends up inside of it. -/
theorem isOpen_iff {chars : List Char} :
    IsOpen chars ↔ ∃ tag quoted seen, between.run chars = inside tag quoted seen := by
  constructor
  · rintro ⟨before, payload, opening, complete, only, rfl⟩
    rw [run_append, run_of_complete complete, run_opened opening only]
    exact ⟨_, _, _, rfl⟩
  · rintro ⟨tag, quoted, seen, ends⟩
    have reached := reached_run chars
    rw [ends] at reached
    cases reached with
    | inside complete opening only => exact ⟨_, _, opening, complete, only, rfl⟩

/-- A semicolon completes whatever is under way, unless it stands in parentheses. -/
theorem scan_semicolon {scanner : Scanner} (closed : ∀ tag quoted seen, scanner ≠ inside tag quoted seen)
    (rest : List Char) : scanner.scan (';' :: rest) = scanner.final?.toList ++ between.scan rest := by
  cases scanner with
  | inside tag quoted seen => exact absurd rfl (closed tag quoted seen)
  | capital first =>
    have lower : isCapital ';' = false := by decide
    simp [scan, completed?, next, final?, lower]
  | _ => simp [scan, completed?, next, final?]

/-- Within parentheses the next directive is the one that is under way, with whatever else is read of it. -/
theorem scan_inside_eq (tag : String) (quoted : Bool) (seen rest : List Char) :
    ∃ more later, (inside tag quoted seen).scan rest = ⟨tag, String.ofList (seen.reverse ++ more)⟩ :: later := by
  induction rest generalizing quoted seen with
  | nil => exact ⟨[], [], by simp [scan, final?]⟩
  | cons char others ih =>
    by_cases same : char = quote
    · subst same
      obtain ⟨more, later, found⟩ := ih (!quoted) (quote :: seen)
      have apart : quote ≠ ')' := by decide
      exact ⟨quote :: more, later, by simp [scan, completed?, next, apart, found]⟩
    · by_cases closes : (char = ')' && !quoted) = true
      · exact ⟨[], between.scan others, by simp [scan, completed?, next, final?, same, closes]⟩
      · obtain ⟨more, later, found⟩ := ih quoted (char :: seen)
        exact ⟨char :: more, later, by simp [scan, completed?, next, same, closes, found]⟩

end Scanner

/-- A text and what follows it after a semicolon are read one after the other exactly when the text leaves no
parenthesis open. -/
theorem tokenize_semicolon_iff {first second : String} :
    tokenize (first ++ ";" ++ second) = tokenize first ++ tokenize second ↔ ¬ IsOpen first.toList := by
  have semicolon : ";".toList = [';'] := rfl
  rw [tokenize, tokenize, tokenize, String.toList_append, String.toList_append, semicolon, List.append_assoc,
    List.singleton_append, Scanner.scan_append, Scanner.scan_eq .between first.toList, List.append_assoc,
    List.append_cancel_left_eq, Scanner.isOpen_iff]
  constructor
  · rintro same ⟨tag, quoted, seen, ends⟩
    have apart : ';' ≠ quote := by decide
    have kept : (Scanner.inside tag quoted seen).scan (';' :: second.toList) =
        (Scanner.inside tag quoted (';' :: seen)).scan second.toList := by
      simp [Scanner.scan, Scanner.completed?, Scanner.next, apart]
    obtain ⟨more, later, found⟩ := Scanner.scan_inside_eq tag quoted (';' :: seen) second.toList
    rw [ends, kept, found] at same
    -- the semicolon has gone into the payload
    simp [Scanner.final?] at same
  · intro closed
    exact Scanner.scan_semicolon (fun tag quoted seen ends => closed ⟨tag, quoted, seen, ends⟩) second.toList

/-- Texts are read piece by piece. Those on the two sides of a semicolon are read one after the other, exactly
when the first one leaves no parenthesis open; a tag with an enclosed payload in parentheses is read as this one
directive; and parameters that were joined with commas are read as they were, if they are trimmed and hold commas
between quotes only. -/
theorem read_in_pieces :
    (∀ first second : String,
      tokenize (first ++ ";" ++ second) = tokenize first ++ tokenize second ↔ ¬ IsOpen first.toList) ∧
      (∀ (first second : Char) (payload : String), isCapital first = true → isCapital second = true →
        Enclosed ')' payload.toList →
          tokenize (String.ofList [first, second] ++ "(" ++ payload ++ ")") =
            [⟨String.ofList [first, second], payload⟩]) ∧
      ∀ parameters : List String, parameters ≠ [] →
        (∀ parameter ∈ parameters, Text.trim parameter = parameter ∧ Enclosed ',' parameter.toList) →
          splitParameters (Text.join "," parameters) = parameters := by
  refine ⟨fun first second => tokenize_semicolon_iff, fun first second payload starts ends enclosed => ?_,
    fun parameters filled each => ?_⟩
  · have closed : shielded isClosing false payload.toList = true :=
      enclosed.shielded (fun char closing => of_decide_eq_true closing)
    have legible : (⟨String.ofList [first, second], payload⟩ : Directive).Legible :=
      ⟨⟨first, second, rfl, starts, ends⟩, closed⟩
    have read := tokenize_textOf (List.forall_mem_singleton.mpr legible)
    rwa [textOf, List.map_singleton, Text.join, text] at read
  · obtain ⟨field, rest, rfl⟩ := List.exists_cons_of_ne_nil filled
    refine splitParameters_join (fun other member => ?_)
    obtain ⟨trimmed, enclosed⟩ := each other member
    have same := congrArg String.toList trimmed
    rw [Text.trim, String.toList_ofList] at same
    exact ⟨same, enclosed.shielded (fun char comma => of_decide_eq_true comma)⟩

/-- A text that ends in the midst of a tag without parentheses, a payload with a quoted parenthesis, and a list of
parameters with a quoted comma and an empty one. -/
theorem read_in_pieces_quoted :
    tokenize "AC(DEPVS)?; LS DASH;SY(X" = [⟨"AC", "DEPVS"⟩, ⟨"LS", "DASH"⟩, ⟨"SY", "X"⟩] ∧
      tokenize "TX('a;b)c',1)" = [⟨"TX", "'a;b)c',1"⟩] ∧
      splitParameters "'x,y',,2" = ["'x,y'", "", "2"] := by
  obtain ⟨joined, enclosed, listed⟩ := read_in_pieces
  have closed : ¬ IsOpen "AC(DEPVS)?; LS DASH".toList := by
    intro unclosed
    obtain ⟨tag, quoted, seen, ends⟩ := Scanner.isOpen_iff.mp unclosed
    have bare : Scanner.between.run "AC(DEPVS)?; LS DASH".toList = .bare "LS" ['H', 'S', 'A', 'D'] := by
      decide +kernel
    rw [bare] at ends
    cases ends
  have whole := (joined "AC(DEPVS)?; LS DASH" "SY(X").mpr closed
  refine ⟨whole.trans (by decide +kernel), ?_, ?_⟩
  · exact enclosed 'T' 'X' "'a;b)c',1" rfl rfl (by decide +kernel)
  · exact listed ["'x,y'", "", "2"] (by simp) (by decide +kernel)

end ChartPortrayal.Directive
