import ChartPortrayal.Proofs.Number.Exact

/-! Decimals without idle zeros. Zeros behind the last digit that counts are left out with their places, and
with the last place the point is left out too. What remains denotes the same number. -/

namespace ChartPortrayal

open Text (isAsciiDigit digitsValue digitValue places)
open Numeral (pointed)

/-- A text that ends neither in a point nor in a zero that stands behind a point. -/
structure EndsPlainly (text : String) : Prop where
  point : text.toList.getLast? ≠ some '.'
  zero : '.' ∈ text.toList → text.toList.getLast? ≠ some '0'

theorem Numeral.pointed_concat (fraction : List Char) (digit : Char) :
    pointed (fraction ++ [digit]) = '.' :: (fraction ++ [digit]) := by
  cases fraction <;> rfl

namespace Text

/-- The digits at so many places, as they are written. -/
def digitsAt (count number : Nat) : List Char := (places count number).map Nat.digitChar

theorem length_digitsAt (count number : Nat) : (digitsAt count number).length = count := by
  rw [digitsAt, List.length_map, length_places]

theorem digitsAt_succ (count number : Nat) :
    digitsAt (count + 1) number = digitsAt count (number / 10) ++ [Nat.digitChar (number % 10)] := by
  rw [digitsAt, places, List.map_append]
  rfl

theorem isAsciiDigit_digitChar {digit : Nat} (single : digit < 10) :
    isAsciiDigit digit.digitChar = true ∧ digitValue digit.digitChar = digit := by
  decide +revert

theorem isAsciiDigit_of_mem_digitsAt {count number : Nat} {char : Char}
    (member : char ∈ digitsAt count number) : isAsciiDigit char = true := by
  obtain ⟨digit, listed, rfl⟩ := List.mem_map.mp member
  exact (isAsciiDigit_digitChar (lt_ten_of_mem_places listed)).1

/-- A number is what its digits before the point and those behind it stand for. -/
theorem digitsValue_digitsAt (count number : Nat) :
    digitsValue ((toString (number / 10 ^ count)).toList ++ digitsAt count number) = number := by
  induction count generalizing number with
  | zero =>
    change digitsValue ((toString (number / 10 ^ 0)).toList ++ []) = number
    rw [pow_zero, Nat.div_one, List.append_nil, digitsValue_toString]
  | succ count ih =>
    rw [digitsAt_succ, pow_succ', ← Nat.div_div_eq_div_mul, ← List.append_assoc, digitsValue_concat, ih,
      (isAsciiDigit_digitChar (Nat.mod_lt _ (by decide))).2]
    omega

end Text

open Text (digitsAt)

section Stripping

theorem stripZeros_eq (text : String) :
    stripZeros text = String.ofList ((text.toList.rdropWhile (· = '0')).rdropWhile (· = '.')) := by
  rw [stripZeros, List.rdropWhile, List.rdropWhile, List.reverse_reverse]

theorem rdropWhile_char {chars : List Char} {bar : Char} (apart : chars.getLast? ≠ some bar) :
    chars.rdropWhile (· = bar) = chars := by
  rw [List.rdropWhile_eq_self_iff]
  intro filled same
  rw [List.getLast?_eq_getLast_of_ne_nil filled, of_decide_eq_true same] at apart
  exact apart rfl

variable {text : String}

/-- A text that ends in another character is kept. -/
theorem stripZeros_self (zero : text.toList.getLast? ≠ some '0') (point : text.toList.getLast? ≠ some '.') :
    stripZeros text = text := by
  rw [stripZeros_eq, rdropWhile_char zero, rdropWhile_char point, String.ofList_toList]

theorem stripZeros_zero (text : String) : stripZeros (text ++ "0") = stripZeros text := by
  have zero : "0".toList = ['0'] := rfl
  rw [stripZeros_eq, stripZeros_eq, String.toList_append, zero, List.rdropWhile_concat_pos _ _ _ rfl]

/-- A point that nothing but a zero follows goes with the zero. -/
theorem stripZeros_point (point : text.toList.getLast? ≠ some '.') : stripZeros (text ++ ".0") = text := by
  have ending : ".0".toList = ['.'] ++ ['0'] := rfl
  rw [stripZeros_eq, String.toList_append, ending, ← List.append_assoc,
    List.rdropWhile_concat_pos _ _ _ rfl, List.rdropWhile_concat_neg _ _ _ (by decide),
    List.rdropWhile_concat_pos _ _ _ rfl, rdropWhile_char point, String.ofList_toList]

end Stripping

namespace FloatValue

theorem toList_withPoint (count units : Nat) :
    (withPoint count units).toList =
      (toString (units / 10 ^ count)).toList ++ pointed (digitsAt count units) := by
  rw [withPoint, String.toList_append]
  congr 1
  cases count with
  | zero => rfl
  | succ count =>
    rw [Text.digitsAt_succ, Numeral.pointed_concat, ← Text.digitsAt_succ, if_neg (Nat.succ_ne_zero count),
      String.toList_append, ← String.toList_ofList (l := digitsAt (count + 1) units)]
    rfl

theorem getLast?_withPoint (count units : Nat) :
    ∃ char, (withPoint count units).toList.getLast? = some char ∧ isAsciiDigit char = true ∧
      (0 < count → char = Nat.digitChar (units % 10)) := by
  rw [toList_withPoint]
  cases count with
  | zero =>
    have last := List.getLast?_eq_getLast_of_ne_nil (Text.toList_toString_ne_nil (units / 10 ^ 0))
    refine ⟨_, ?_, Text.isAsciiDigit_of_mem (List.mem_of_getLast? last), fun none => absurd none (by decide)⟩
    exact (congrArg List.getLast? (List.append_nil _)).trans last
  | succ count =>
    refine ⟨_, ?_, (Text.isAsciiDigit_digitChar (Nat.mod_lt units (by decide))).1, fun _ => rfl⟩
    rw [Text.digitsAt_succ, Numeral.pointed_concat, ← List.cons_append, ← List.append_assoc,
      List.getLast?_concat]

/-- The last place shows a digit of its own, behind the point if it is the first place. -/
theorem withPoint_succ (count units : Nat) :
    withPoint (count + 1) units = withPoint count (units / 10) ++
      String.ofList ((if count = 0 then ['.'] else []) ++ [Nat.digitChar (units % 10)]) := by
  have whole : units / 10 ^ (count + 1) = units / 10 / 10 ^ count := by
    rw [pow_succ', Nat.div_div_eq_div_mul]
  rw [← String.toList_inj, String.toList_append, String.toList_ofList, toList_withPoint, toList_withPoint,
    whole, Text.digitsAt_succ, Numeral.pointed_concat, List.append_assoc]
  cases count with
  | zero => rfl
  | succ count =>
    rw [Text.digitsAt_succ, Numeral.pointed_concat, if_neg (Nat.succ_ne_zero count)]
    rfl

/-- Units of the last of so many places, in no more places than it takes to show them. -/
structure IsFewest (count units places kept : Nat) : Prop where
  places_le : places ≤ count
  units_eq : units = kept * 10 ^ (count - places)
  last : places = 0 ∨ kept % 10 ≠ 0

theorem IsFewest.self {count units : Nat} (counts : units % 10 ≠ 0) : IsFewest count units count units where
  places_le := Nat.le_refl _
  units_eq := by rw [Nat.sub_self, pow_zero, Nat.mul_one]
  last := .inr counts

theorem IsFewest.next {count units places kept : Nat} (idle : units % 10 = 0)
    (fewest : IsFewest count (units / 10) places kept) : IsFewest (count + 1) units places kept where
  places_le := Nat.le_succ_of_le fewest.places_le
  units_eq := by
    have shown := fewest.units_eq
    rw [Nat.succ_sub fewest.places_le, pow_succ, ← Nat.mul_assoc, ← shown]
    omega
  last := fewest.last

theorem getLast?_withPoint_ne_point (count units : Nat) :
    (withPoint count units).toList.getLast? ≠ some '.' := by
  obtain ⟨char, last, digit, -⟩ := getLast?_withPoint count units
  rw [last, ne_eq, Option.some_inj]
  rintro rfl
  cases digit

theorem getLast?_withPoint_ne_zero {count units : Nat} (filled : 0 < count) (counts : units % 10 ≠ 0) :
    (withPoint count units).toList.getLast? ≠ some '0' := by
  obtain ⟨char, last, -, ending⟩ := getLast?_withPoint count units
  have apart : ∀ digit < 10, digit ≠ 0 → Nat.digitChar digit ≠ '0' := by decide
  rw [last, ending filled, ne_eq, Option.some_inj]
  exact apart _ (Nat.mod_lt _ (by decide)) counts

/-- Stripping goes on while the last place holds a zero, and takes the point when no place is left. -/
theorem stripZeros_withPoint_of_idle (count : Nat) {units : Nat} (idle : units % 10 = 0) :
    stripZeros (withPoint (count + 1) units) =
      if count = 0 then withPoint 0 (units / 10) else stripZeros (withPoint count (units / 10)) := by
  have zero : Nat.digitChar (units % 10) = '0' := by
    rw [idle]
    rfl
  rw [withPoint_succ, zero]
  cases count with
  | zero => exact stripZeros_point (getLast?_withPoint_ne_point 0 (units / 10))
  | succ count => exact stripZeros_zero _

theorem exists_fewest (count units : Nat) :
    ∃ places kept, IsFewest (count + 1) units places kept ∧
      stripZeros (withPoint (count + 1) units) = withPoint places kept := by
  induction count generalizing units with
  | zero =>
    by_cases idle : units % 10 = 0
    · refine ⟨0, units / 10, .next idle ⟨Nat.le_refl _, (Nat.mul_one _).symm, .inl rfl⟩, ?_⟩
      rw [stripZeros_withPoint_of_idle 0 idle, if_pos rfl]
    · exact ⟨1, units, .self idle, stripZeros_self (getLast?_withPoint_ne_zero (by decide) idle)
        (getLast?_withPoint_ne_point 1 units)⟩
  | succ count ih =>
    by_cases idle : units % 10 = 0
    · obtain ⟨places, kept, fewest, shown⟩ := ih (units / 10)
      refine ⟨places, kept, fewest.next idle, ?_⟩
      rw [stripZeros_withPoint_of_idle (count + 1) idle, if_neg (Nat.succ_ne_zero count), shown]
    · exact ⟨count + 2, units, .self idle,
        stripZeros_self (getLast?_withPoint_ne_zero (Nat.succ_pos _) idle)
          (getLast?_withPoint_ne_point (count + 2) units)⟩

theorem not_mem_point_natural (number : Nat) : '.' ∉ (toString number).toList := by
  intro member
  have digit := Text.isAsciiDigit_of_mem member
  revert digit
  decide

/-- The fewest places leave no idle character at the end. -/
theorem endsPlainly_withPoint {places kept : Nat} (last : places = 0 ∨ kept % 10 ≠ 0) :
    EndsPlainly (withPoint places kept) where
  point := getLast?_withPoint_ne_point places kept
  zero listed := by
    rcases Nat.eq_zero_or_pos places with rfl | filled
    · rw [toList_withPoint] at listed
      exact absurd ((List.append_nil _).subst listed) (not_mem_point_natural _)
    · exact getLast?_withPoint_ne_zero filled (last.resolve_left (Nat.ne_of_gt filled))

/-- A decimal with a point denotes its units, in steps of its last place. -/
theorem read?_withPoint (negative : Bool) (places kept : Nat) :
    Numeral.read? (signText negative ++ withPoint places kept) = some (.finite negative kept (-places)) := by
  have digits : ∀ char ∈ (toString (kept / 10 ^ places)).toList, isAsciiDigit char = true :=
    fun char member => Text.isAsciiDigit_of_mem member
  have further : ∀ char ∈ digitsAt places kept, isAsciiDigit char = true :=
    fun char member => Text.isAsciiDigit_of_mem_digitsAt member
  have read := Numeral.read?_digits negative (Text.toList_toString_ne_nil _) digits further
    (toList_withPoint places kept)
  rwa [Text.digitsValue_digitsAt, Text.length_digitsAt] at read

end FloatValue

end ChartPortrayal
