import ChartPortrayal.Feature.CodeList
import ChartPortrayal.Proofs.Number.Numerals
import ChartPortrayal.Proofs.Text.Fields

namespace ChartPortrayal

open Text (isAsciiDigit digitValue digitsValue splitChars)

namespace CodeList

section Cells

variable {list longer first second : CodeList} {code : UInt8}

@[simp] theorem length_codes (list : CodeList) : list.codes.length = list.size := by
  simp [codes, Nat.min_eq_left list.size_le]

theorem codes_push? (pushed : list.push? code = some longer) :
    longer.codes = list.codes ++ [code.toNat] := by
  unfold push? at pushed
  split at pushed
  · next room =>
    cases pushed
    have filled : list.size < list.cells.toList.length := by simpa using room
    rw [codes, Vector.toList_set, List.take_add_one, List.take_set_of_le (Nat.le_refl _),
      List.getElem?_set_self filled, List.map_append]
    rfl
  · cases pushed

theorem size_of_push?_eq_none (full : list.push? code = none) : list.size = capacity := by
  unfold push? at full
  split at full
  · cases full
  · next filled => exact Nat.le_antisymm list.size_le (Nat.not_lt.mp filled)

theorem getElem?_codes {place : Nat} (inside : place < capacity) (filled : place < list.size) :
    list.codes[place]? = some list.cells[place].toNat := by
  simp [codes, filled, inside]

/-- Lists with the same codes are the same, down to their last cells. -/
theorem eq_of_codes (same : first.codes = second.codes) : first = second := by
  have size : first.size = second.size := by
    rw [← length_codes first, same, length_codes]
  have cells : first.cells = second.cells := by
    refine Vector.ext (fun place inside => ?_)
    rcases Nat.lt_or_ge place first.size with filled | behind
    · have here := getElem?_codes inside filled
      rw [same, getElem?_codes inside (size ▸ filled)] at here
      exact UInt8.toNat_inj.mp (Option.some.inj here).symm
    · rw [first.vacant place inside behind, second.vacant place inside (size ▸ behind)]
  cases first
  cases second
  cases size
  cases cells
  rfl

end Cells

/-- A field without its blanks and tabs. -/
def compact (field : List Char) : List Char := field.filter (fun char => char != ' ' && char != '\t')

/-- The code that a field spells, if it spells one: ASCII digits and nothing else, blanks and tabs aside, and
a value from 1 to 255. -/
def spelled? (field : List Char) : Option Nat :=
  if compact field ≠ [] ∧ (compact field).all isAsciiDigit ∧
      1 ≤ digitsValue (compact field) ∧ digitsValue (compact field) ≤ 255 then
    some (digitsValue (compact field))
  else none

/-- What is known of a field that has been read up to some place. -/
structure Field.Covers (field : Field) (seen : List Char) : Prop where
  value : field.value = min ceiling (digitsValue (seen.filter isAsciiDigit))
  digits : field.digits = (seen.filter isAsciiDigit).length
  plain : field.plain = (compact seen).all isAsciiDigit

namespace Field.Covers

variable {field : Field} {seen : List Char}

theorem start : Field.start.Covers [] := ⟨rfl, rfl, rfl⟩

theorem read (covers : field.Covers seen) (char : Char) : (field.read char).Covers (seen ++ [char]) := by
  unfold Field.read
  split
  · next digit =>
    have solid : char ≠ ' ' ∧ char ≠ '\t' := by
      constructor <;>
      · rintro rfl
        exact absurd digit (by decide)
    have digits : (seen ++ [char]).filter isAsciiDigit = seen.filter isAsciiDigit ++ [char] := by
      simp [digit]
    refine ⟨?_, ?_, ?_⟩
    · have limit : ceiling = 4294967295 := rfl
      rw [digits, Text.digitsValue_concat]
      change min _ (min _ (field.value * 10) + _) = _
      rw [covers.value]
      omega
    · rw [digits, List.length_append, ← covers.digits]
      rfl
    · simp [covers.plain, compact, solid, digit]
  · next other =>
    have digits : (seen ++ [char]).filter isAsciiDigit = seen.filter isAsciiDigit := by
      simp [other]
    split
    · next spacing =>
      have skipped : compact (seen ++ [char]) = compact seen := by
        rcases spacing with rfl | rfl <;> simp [compact]
      exact ⟨digits ▸ covers.value, digits ▸ covers.digits, skipped ▸ covers.plain⟩
    · next solid =>
      rw [not_or] at solid
      refine ⟨digits ▸ covers.value, digits ▸ covers.digits, ?_⟩
      simp [compact, solid, other]

/-- Where nothing but digits, blanks and tabs came up, the digits are what is left without blanks and tabs. -/
theorem filter_isAsciiDigit_of_plain (plain : (compact seen).all isAsciiDigit = true) :
    seen.filter isAsciiDigit = compact seen := by
  refine List.filter_congr (fun char member => ?_)
  cases solid : char != ' ' && char != '\t' with
  | true => exact List.all_eq_true.mp plain char (List.mem_filter.mpr ⟨member, solid⟩)
  | false =>
    obtain rfl | rfl : char = ' ' ∨ char = '\t' := by
      simpa [Decidable.or_iff_not_imp_left] using solid
    all_goals rfl

/-- A field holds the code that it spells. The ceiling is far above the codes, so that a run of digits does not
come out as one because it is long. -/
theorem code?_eq (covers : field.Covers seen) : field.code?.map UInt8.toNat = spelled? seen := by
  unfold Field.code? spelled?
  rw [covers.plain]
  cases plain : (compact seen).all isAsciiDigit with
  | false => simp
  | true =>
    rw [covers.digits, covers.value, filter_isAsciiDigit_of_plain plain]
    generalize digitsValue (compact seen) = value
    have capped : 1 ≤ min ceiling value ∧ min ceiling value ≤ 255 ↔ 1 ≤ value ∧ value ≤ 255 := by
      have limit : ceiling = 4294967295 := rfl
      omega
    simp only [List.length_pos_iff, capped, true_and]
    split
    · next code =>
      have small : min ceiling value = value := by
        have limit : ceiling = 4294967295 := rfl
        omega
      rw [small, Option.map_some, UInt8.toNat_ofNat_of_lt' (Nat.lt_succ_of_le code.2.2)]
    · rfl

end Field.Covers

variable {field : Field} {seen : List Char}

/-- A comma ends a field, and its code takes a cell if there is one. -/
theorem codes_scan_comma (covers : field.Covers seen) {rest : List Char} {others : List Nat}
    (later : ∀ list : CodeList, (list.scan .start rest).codes = (list.codes ++ others).take capacity)
    (list : CodeList) : (list.scan field (',' :: rest)).codes =
      (list.codes ++ ((spelled? seen).toList ++ others)).take capacity := by
  rw [scan, if_pos rfl, ← covers.code?_eq]
  cases field.code? with
  | none => exact later list
  | some code =>
    cases pushed : list.push? code with
    | some longer =>
      simpa [pushed, codes_push? pushed] using later longer
    | none =>
      have full : capacity = list.codes.length := by rw [length_codes, size_of_push?_eq_none pushed]
      simp [pushed, full]

theorem codes_scan (covers : field.Covers seen) (free : ',' ∉ seen) (list : CodeList) (chars : List Char) :
    (list.scan field (chars ++ [','])).codes =
      (list.codes ++ (splitChars ',' (seen ++ chars)).filterMap spelled?).take capacity := by
  induction chars generalizing list field seen with
  | nil =>
    have ended : ∀ list : CodeList, (list.scan .start []).codes = (list.codes ++ []).take capacity := by
      intro list
      rw [List.append_nil, List.take_of_length_le (by rw [length_codes]; exact list.size_le)]
      rfl
    rw [List.nil_append, codes_scan_comma covers ended, List.append_nil, List.append_nil,
      Text.splitChars_field free]
    cases spelled : spelled? seen <;> simp [spelled]
  | cons char rest ih =>
    by_cases comma : char = ','
    · subst comma
      rw [List.cons_append, codes_scan_comma covers (ih .start List.not_mem_nil), List.nil_append,
        Text.splitChars_append free]
      cases spelled : spelled? seen <;> simp [spelled]
    · have longer := ih (covers.read char) (by simp [free, Ne.symm comma]) list
      rw [List.append_assoc, List.singleton_append] at longer
      rwa [List.cons_append, scan, if_neg comma]

/-- The codes of a text are those that its fields spell, up to as many as a list keeps; all other fields are
skipped, and the cells behind the codes hold zeros. So a list is made up by its codes. -/
theorem parse_keeps_first_codes :
    (∀ raw : String,
      (parse raw).codes = ((splitChars ',' raw.toList).filterMap spelled?).take capacity ∧
        ∀ (place : Nat) (inside : place < capacity), (parse raw).codes.length ≤ place →
          (parse raw).cells[place] = 0) ∧
      ∀ first second : CodeList, first = second ↔ first.codes = second.codes := by
  refine ⟨fun raw => ⟨?_, fun place inside behind => ?_⟩, fun first second => ⟨congrArg codes, eq_of_codes⟩⟩
  · exact codes_scan .start List.not_mem_nil empty raw.toList
  · rw [length_codes] at behind
    exact (parse raw).vacant place inside behind

/-- Blanks within a code, leading zeros, a value that would wrap around to 1, and a field that is no number. -/
theorem parse_keeps_first_codes_blanks :
    (parse "1 7,00000000000000000004294967297,x4,0,\t0012").codes = [17, 12] ∧
      (parse "1 7,00000000000000000004294967297,x4,0,\t0012").cells[2] = 0 ∧
      parse "1 7,00000000000000000004294967297,x4,0,\t0012" = parse "17,12" := by
  obtain ⟨texts, lists⟩ := parse_keeps_first_codes
  obtain ⟨codes, vacant⟩ := texts "1 7,00000000000000000004294967297,x4,0,\t0012"
  have spelled : (parse "1 7,00000000000000000004294967297,x4,0,\t0012").codes = [17, 12] := by
    rw [codes]
    decide +kernel
  refine ⟨spelled, vacant 2 (by decide) (by rw [spelled]; decide), (lists _ _).mpr ?_⟩
  rw [spelled, (texts "17,12").1]
  decide +kernel

end CodeList

end ChartPortrayal
