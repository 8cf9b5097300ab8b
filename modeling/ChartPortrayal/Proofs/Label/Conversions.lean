import Mathlib.Data.List.TakeWhile
import ChartPortrayal.Label.Format

namespace ChartPortrayal.LabelFormat

open Text (isDecimalDigit)

/-- What a conversion can end in, with the kind of value that it then takes; a percent sign takes none. -/
def endings : List (List Char × Option ConversionKind) :=
  [(['%'], none), (['d'], some .integer), (['f'], some .fraction), (['s'], some .text),
   (['i'], some .integer), (['l', 'd'], some .integer), (['l', 'f'], some .fraction),
   (['l', 's'], some .text), (['l', 'i'], some .integer)]

/-- A conversion as it is spelled: a percent sign, perhaps a hyphen, digits or none for the width, perhaps a
point with digits for the precision, and one of the endings. -/
structure Spelling where
  hyphen : Bool
  width : List Char
  precision : Option (List Char)
  ending : List Char
  kind? : Option ConversionKind
  width_digits : ∀ char ∈ width, isDecimalDigit char = true
  precision_digits : ∀ digits, precision = some digits →
    digits ≠ [] ∧ ∀ char ∈ digits, isDecimalDigit char = true
  listed : (ending, kind?) ∈ endings

namespace Spelling

/-- The characters of a precision with its point. -/
def pointed : Option (List Char) → List Char
  | none => []
  | some digits => '.' :: digits

/-- The characters after the percent sign. -/
def body (spelling : Spelling) : List Char :=
  (if spelling.hyphen then ['-'] else []) ++
    (spelling.width ++ (pointed spelling.precision ++ spelling.ending))

def chars (spelling : Spelling) : List Char := '%' :: spelling.body

/-- The part of a format that a conversion makes. -/
def part (spelling : Spelling) : FormatPart :=
  match spelling.kind? with
  | none => .percent
  | some kind =>
    .value
      { left := spelling.hyphen, kind
        width := (size? spelling.width).getD 0
        precision := spelling.precision.bind size? }

end Spelling

theorem splitHyphen_of_head? {chars : List Char} (other : chars.head? ≠ some '-') :
    splitHyphen chars = (false, chars) := by
  unfold splitHyphen
  split
  · exact absurd rfl other
  · rfl

/-- Digits are taken up to the first character that is none. -/
theorem span_digits {digits tail : List Char} (all : ∀ char ∈ digits, isDecimalDigit char = true)
    (stop : ∀ char, tail.head? = some char → isDecimalDigit char = false) :
    (digits ++ tail).takeWhile isDecimalDigit = digits ∧
      (digits ++ tail).dropWhile isDecimalDigit = tail := by
  rw [List.takeWhile_append_of_pos all, List.dropWhile_append_of_pos all]
  cases tail with
  | nil => simp
  | cons char rest => simp [stop char rfl]

/-- What may follow the digits of a conversion is no digit. -/
theorem isDecimalDigit_of_listed {char : Char} (listed : char ∈ ['.', '%', 'd', 'f', 's', 'i', 'l']) :
    isDecimalDigit char = false := by
  have apart : ['.', '%', 'd', 'f', 's', 'i', 'l'].all (fun char => !isDecimalDigit char) = true := by decide
  exact Bool.not_eq_true' _ ▸ List.all_eq_true.mp apart char listed

theorem splitPrecision_of_head? {chars : List Char} (other : chars.head? ≠ some '.') :
    splitPrecision chars = (none, chars) := by
  unfold splitPrecision
  split
  · exact absurd rfl other
  · rfl

theorem splitPrecision_digits {digits tail : List Char} (filled : digits ≠ [])
    (all : ∀ char ∈ digits, isDecimalDigit char = true)
    (stop : ∀ char, tail.head? = some char → isDecimalDigit char = false) :
    splitPrecision ('.' :: (digits ++ tail)) = (some digits, tail) := by
  obtain ⟨taken, dropped⟩ := span_digits all stop
  simp only [splitPrecision, taken, dropped, if_neg filled]

namespace Spelling

variable (spelling : Spelling) (rest : List Char)

theorem splitLetter?_ending : splitLetter? (spelling.ending ++ rest) = some (spelling.kind?, rest) := by
  have listed := spelling.listed
  generalize spelling.ending = ending at listed ⊢
  generalize spelling.kind? = kind? at listed ⊢
  simp only [endings, List.mem_cons, List.not_mem_nil, or_false, Prod.mk.injEq] at listed
  rcases listed with ⟨rfl, rfl⟩ | ⟨rfl, rfl⟩ | ⟨rfl, rfl⟩ | ⟨rfl, rfl⟩ | ⟨rfl, rfl⟩ | ⟨rfl, rfl⟩ |
    ⟨rfl, rfl⟩ | ⟨rfl, rfl⟩ | ⟨rfl, rfl⟩
  all_goals rfl

/-- An ending starts with a letter or a percent sign. -/
theorem head?_ending : ∃ first ∈ ['%', 'd', 'f', 's', 'i', 'l'],
    (spelling.ending ++ rest).head? = some first := by
  have listed := spelling.listed
  generalize spelling.ending = ending at listed ⊢
  simp only [endings, List.mem_cons, List.not_mem_nil, or_false, Prod.mk.injEq] at listed
  rcases listed with ⟨rfl, -⟩ | ⟨rfl, -⟩ | ⟨rfl, -⟩ | ⟨rfl, -⟩ | ⟨rfl, -⟩ | ⟨rfl, -⟩ | ⟨rfl, -⟩ |
    ⟨rfl, -⟩ | ⟨rfl, -⟩
  all_goals exact ⟨_, by decide, rfl⟩

theorem stop_ending : ∀ char, (spelling.ending ++ rest).head? = some char → isDecimalDigit char = false := by
  intro char head
  obtain ⟨first, listed, starts⟩ := spelling.head?_ending rest
  obtain rfl : first = char := Option.some.inj (starts.symm.trans head)
  exact isDecimalDigit_of_listed (List.mem_cons_of_mem _ listed)

theorem splitPrecision_pointed :
    splitPrecision (pointed spelling.precision ++ (spelling.ending ++ rest)) =
      (spelling.precision, spelling.ending ++ rest) := by
  cases given : spelling.precision with
  | none =>
    refine splitPrecision_of_head? (fun point => ?_)
    obtain ⟨first, listed, starts⟩ := spelling.head?_ending rest
    obtain rfl : first = '.' := Option.some.inj (starts.symm.trans point)
    revert listed
    decide
  | some digits =>
    obtain ⟨filled, all⟩ := spelling.precision_digits digits given
    exact splitPrecision_digits filled all (spelling.stop_ending rest)

/-- After the width stands a point, a letter or a percent sign. -/
theorem head?_pointed : ∃ first ∈ ['.', '%', 'd', 'f', 's', 'i', 'l'],
    (pointed spelling.precision ++ (spelling.ending ++ rest)).head? = some first := by
  cases spelling.precision with
  | none =>
    obtain ⟨first, listed, starts⟩ := spelling.head?_ending rest
    exact ⟨first, List.mem_cons_of_mem _ listed, starts⟩
  | some digits => exact ⟨'.', List.mem_cons_self, rfl⟩

theorem span_width :
    let tail := pointed spelling.precision ++ (spelling.ending ++ rest)
    (spelling.width ++ tail).takeWhile isDecimalDigit = spelling.width ∧
      (spelling.width ++ tail).dropWhile isDecimalDigit = tail := by
  refine span_digits spelling.width_digits (fun char head => ?_)
  obtain ⟨first, listed, starts⟩ := spelling.head?_pointed rest
  obtain rfl : first = char := Option.some.inj (starts.symm.trans head)
  exact isDecimalDigit_of_listed listed

theorem splitHyphen_body :
    splitHyphen (spelling.body ++ rest) = (spelling.hyphen,
      spelling.width ++ (pointed spelling.precision ++ (spelling.ending ++ rest))) := by
  have reassociated : spelling.body ++ rest = (if spelling.hyphen then ['-'] else []) ++
      (spelling.width ++ (pointed spelling.precision ++ (spelling.ending ++ rest))) := by
    simp only [body, List.append_assoc]
  rw [reassociated]
  cases spelling.hyphen with
  | true => rfl
  | false =>
    refine splitHyphen_of_head? ?_
    obtain ⟨first, listed, starts⟩ := spelling.head?_pointed rest
    have digits := spelling.width_digits
    generalize spelling.width = width at digits
    intro hyphen
    cases width with
    | nil =>
      obtain rfl : first = '-' := Option.some.inj (starts.symm.trans hyphen)
      revert listed
      decide
    | cons char others =>
      obtain rfl : char = '-' := Option.some.inj hyphen
      have digit := digits '-' List.mem_cons_self
      revert digit
      decide

/-- What is spelled is read, whatever follows it. -/
theorem conversion?_body :
    conversion? (spelling.body ++ rest) = some (spelling.part, spelling.body.length) := by
  obtain ⟨taken, dropped⟩ := spelling.span_width rest
  simp only [conversion?, spelling.splitHyphen_body, taken, dropped, spelling.splitPrecision_pointed,
    spelling.splitLetter?_ending, Option.map_some, List.length_append, Nat.add_sub_cancel]
  rfl

end Spelling

theorem splitHyphen_eq {chars rest : List Char} {hyphen : Bool}
    (split : splitHyphen chars = (hyphen, rest)) :
    chars = (if hyphen then ['-'] else []) ++ rest := by
  unfold splitHyphen at split
  split at split <;> cases split <;> rfl

theorem splitPrecision_eq {chars rest : List Char} {precision : Option (List Char)}
    (split : splitPrecision chars = (precision, rest)) :
    chars = Spelling.pointed precision ++ rest ∧ ∀ digits, precision = some digits →
      digits ≠ [] ∧ ∀ char ∈ digits, isDecimalDigit char = true := by
  unfold splitPrecision at split
  split at split
  case h_1 after =>
    split at split
    case isTrue => cases split; exact ⟨rfl, nofun⟩
    case isFalse filled =>
      cases split
      refine ⟨?_, ?_⟩
      · exact congrArg ('.' :: ·) List.takeWhile_append_dropWhile.symm
      · rintro digits ⟨rfl⟩
        exact ⟨filled, fun _ => List.mem_takeWhile_imp⟩
  case h_2 => cases split; exact ⟨rfl, nofun⟩

/-- The letters that stand alone may stand after an `l` too. -/
theorem mem_endings_of_letter {letter : Char} {kind : ConversionKind}
    (read : ConversionKind.ofLetter? letter = some kind) :
    ([letter], some kind) ∈ endings ∧ (['l', letter], some kind) ∈ endings := by
  unfold ConversionKind.ofLetter? at read
  split at read <;> cases read <;> decide

theorem splitLetter?_eq {chars rest : List Char} {kind? : Option ConversionKind}
    (split : splitLetter? chars = some (kind?, rest)) :
    ∃ ending, (ending, kind?) ∈ endings ∧ chars = ending ++ rest := by
  unfold splitLetter? at split
  split at split
  case h_1 => cases split; exact ⟨['%'], by decide, rfl⟩
  case h_2 letter _ =>
    obtain ⟨kind, read, same⟩ := Option.map_eq_some_iff.mp split
    cases same
    exact ⟨['l', letter], (mem_endings_of_letter read).2, rfl⟩
  case h_3 letter others _ _ =>
    obtain ⟨kind, read, same⟩ := Option.map_eq_some_iff.mp split
    cases same
    exact ⟨[letter], (mem_endings_of_letter read).1, rfl⟩
  case h_4 => cases split

/-- What is read is spelled. -/
theorem exists_spelling {chars : List Char} {read : FormatPart × Nat} (found : conversion? chars = some read) :
    ∃ (spelling : Spelling) (rest : List Char), chars = spelling.body ++ rest := by
  simp only [conversion?, Option.map_eq_some_iff] at found
  obtain ⟨⟨kind?, rest⟩, letter, -⟩ := found
  generalize hyphened : splitHyphen chars = split at letter
  obtain ⟨hyphen, afterHyphen⟩ := split
  generalize pointed : splitPrecision (afterHyphen.dropWhile isDecimalDigit) = split at letter
  obtain ⟨precision, afterPrecision⟩ := split
  obtain ⟨ending, listed, ended⟩ := splitLetter?_eq letter
  obtain ⟨tail, digits⟩ := splitPrecision_eq pointed
  refine ⟨⟨hyphen, afterHyphen.takeWhile isDecimalDigit, precision, ending, kind?,
    fun _ => List.mem_takeWhile_imp, digits, listed⟩, rest, ?_⟩
  calc chars
    _ = (if hyphen then ['-'] else []) ++ afterHyphen := splitHyphen_eq hyphened
    _ = (if hyphen then ['-'] else []) ++
        (afterHyphen.takeWhile isDecimalDigit ++ (Spelling.pointed precision ++ (ending ++ rest))) := by
      rw [← ended, ← tail, List.takeWhile_append_dropWhile]
    _ = _ := by simp only [Spelling.body, List.append_assoc]

end ChartPortrayal.LabelFormat
