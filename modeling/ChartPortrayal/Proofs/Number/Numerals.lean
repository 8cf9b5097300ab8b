import Mathlib.Data.List.TakeWhile
import ChartPortrayal.Number.Numeral
import ChartPortrayal.Number.Places

namespace ChartPortrayal

open Text (isAsciiDigit digitValue digitsValue)

theorem Text.isAsciiDigit_of_isDigit {char : Char} (digit : char.isDigit = true) :
    isAsciiDigit char = true := by
  simpa [isAsciiDigit, Char.isDigit, Char.le_def] using digit

/-- The digits that a number is written with. -/
theorem Text.toList_toString (number : Nat) : (toString number).toList = Nat.toDigits 10 number :=
  Nat.toList_repr

theorem Text.isAsciiDigit_of_mem {number : Nat} {char : Char} (member : char ∈ (toString number).toList) :
    isAsciiDigit char = true := by
  rw [toList_toString] at member
  exact isAsciiDigit_of_isDigit (Nat.isDigit_of_mem_toDigits (by decide) (by decide) member)

theorem Text.digitsValue_toString (number : Nat) : digitsValue (toString number).toList = number := by
  have value : ∀ chars, digitsValue chars = Nat.ofDigitChars 10 chars 0 := by
    intro chars
    rw [digitsValue, Nat.ofDigitChars_eq_foldl]
    congr 1
    funext sofar char
    rw [Nat.mul_comm]
    rfl
  rw [toList_toString, value, Nat.ofDigitChars_ten_toDigits]

theorem Text.digitsValue_concat (digits : List Char) (digit : Char) :
    digitsValue (digits ++ [digit]) = digitsValue digits * 10 + digitValue digit := by
  rw [digitsValue, List.foldl_append]
  rfl

theorem Text.toList_toString_ne_nil (number : Nat) : (toString number).toList ≠ [] := by
  rw [toList_toString]
  exact Nat.toDigits_ne_nil

namespace Numeral

theorem natural?_toString (number : Nat) : natural? (toString number).toList = some number := by
  have digits : (toString number).toList.all isAsciiDigit = true :=
    List.all_eq_true.mpr (fun char member => Text.isAsciiDigit_of_mem member)
  rw [natural?, if_pos ⟨Text.toList_toString_ne_nil number, digits⟩, Text.digitsValue_toString]

/-- Digits show no sign of their own, so that the one in front of them is found. -/
theorem splitSign_signText (negative : Bool) {chars : List Char}
    (first : ∀ char ∈ chars.head?, isAsciiDigit char = true) :
    splitSign ((signText negative).toList ++ chars) = (negative, chars) := by
  cases negative with
  | true => rfl
  | false =>
    change splitSign chars = (false, chars)
    unfold splitSign
    split
    · exact absurd (first _ rfl) (by decide)
    · exact absurd (first _ rfl) (by decide)
    · rfl

/-- Decimals whose first character is a digit are none of the words. -/
theorem unsigned?_of_digit (negative : Bool) {char : Char} {rest : List Char}
    (digit : isAsciiDigit char = true)
    (each : ∀ other ∈ rest, isAsciiDigit other = true ∨ other = '.') :
    unsigned? negative (char :: rest) = decimal? negative (char :: rest) := by
  have kept : ∀ other : Char, isAsciiDigit other = true ∨ other = '.' → other.toLower = other := by
    rintro other (digit | rfl)
    · have upper : ¬ (other.val ≥ 'A'.val ∧ other.val ≤ 'Z'.val) := by
        simp only [isAsciiDigit, Bool.and_eq_true, decide_eq_true_eq, Char.le_def] at digit
        rintro ⟨above, -⟩
        exact absurd (UInt32.le_trans above digit.2) (by decide)
      exact dif_neg upper
    · rfl
  have lower : (char :: rest).map Char.toLower = char :: rest := by
    refine (List.map_congr_left (fun other member => kept other ?_)).trans (List.map_id _)
    rcases List.mem_cons.mp member with rfl | later
    · exact .inl digit
    · exact each other later
  have apart : ∀ (word : String) (letter : Char), word.toList.head? = some letter →
      isAsciiDigit letter = false → String.ofList (char :: rest) ≠ word := by
    rintro word letter first other rfl
    rw [String.toList_ofList, List.head?_cons, Option.some_inj] at first
    rw [← first, digit] at other
    cases other
  unfold unsigned?
  rw [lower]
  split
  · next same => exact absurd same (apart "inf" 'i' rfl rfl)
  · next same => exact absurd same (apart "infinity" 'i' rfl rfl)
  · next same => exact absurd same (apart "nan" 'n' rfl rfl)
  · rfl

/-- A fraction behind its point, where there is one. -/
def pointed : List Char → List Char
  | [] => []
  | fraction => '.' :: fraction

theorem mem_pointed {char : Char} {fraction : List Char} (member : char ∈ pointed fraction) :
    char = '.' ∨ char ∈ fraction := by
  cases fraction with
  | nil => exact .inr member
  | cons digit rest => exact List.mem_cons.mp member

section Digits

variable {whole fraction : List Char}

/-- Digits with a point among them are a decimal without an exponent. -/
theorem decimal?_digits (negative : Bool) (filled : whole ≠ [])
    (digits : ∀ char ∈ whole, isAsciiDigit char = true)
    (further : ∀ char ∈ fraction, isAsciiDigit char = true) :
    decimal? negative (whole ++ pointed fraction) =
      some (.finite negative (digitsValue (whole ++ fraction)) (-fraction.length)) := by
  have stops : (pointed fraction).takeWhile isAsciiDigit = [] ∧
      (pointed fraction).dropWhile isAsciiDigit = pointed fraction := by
    cases fraction <;> exact ⟨rfl, rfl⟩
  have first : (whole ++ pointed fraction).takeWhile isAsciiDigit = whole := by
    rw [List.takeWhile_append_of_pos digits, stops.1, List.append_nil]
  have rest : (whole ++ pointed fraction).dropWhile isAsciiDigit = pointed fraction := by
    rw [List.dropWhile_append_of_pos digits, stops.2]
  have none : exponent? [] = some 0 := rfl
  unfold decimal?
  rw [first, rest]
  cases fraction with
  | nil => simp [pointed, filled, none]
  | cons digit others =>
    have all := List.takeWhile_eq_self_iff.mpr further
    have ended := List.dropWhile_eq_nil_iff.mpr further
    simp [pointed, filled, none, all, ended]

/-- What digits with a point among them and a sign in front of them denote. -/
theorem read?_digits (negative : Bool) (filled : whole ≠ [])
    (digits : ∀ char ∈ whole, isAsciiDigit char = true)
    (further : ∀ char ∈ fraction, isAsciiDigit char = true) {text : String}
    (written : text.toList = whole ++ pointed fraction) :
    read? (signText negative ++ text) =
      some (.finite negative (digitsValue (whole ++ fraction)) (-fraction.length)) := by
  obtain ⟨char, rest, rfl⟩ := List.exists_cons_of_ne_nil filled
  obtain ⟨digit, others⟩ := List.forall_mem_cons.mp digits
  have each : ∀ other ∈ rest ++ pointed fraction, isAsciiDigit other = true ∨ other = '.' := by
    intro other member
    rcases List.mem_append.mp member with before | behind
    · exact .inl (others other before)
    · exact (mem_pointed behind).symm.imp_left (further other)
  have signed : splitSign ((signText negative).toList ++ char :: (rest ++ pointed fraction)) =
      (negative, char :: (rest ++ pointed fraction)) :=
    splitSign_signText negative (fun first member => by rwa [← Option.some.inj member])
  rw [read?, String.toList_append, written, List.cons_append, signed]
  exact (unsigned?_of_digit negative digit each).trans (decimal?_digits negative filled digits further)

end Digits

theorem read?_signed (negative : Bool) (number : Nat) :
    read? (signText negative ++ toString number) = some (.finite negative number 0) := by
  have digits : ∀ char ∈ (toString number).toList, isAsciiDigit char = true :=
    fun char member => Text.isAsciiDigit_of_mem member
  have read := read?_digits negative (Text.toList_toString_ne_nil number) digits (List.forall_mem_nil _)
    (List.append_nil _).symm
  rwa [List.append_nil, Text.digitsValue_toString] at read

end Numeral

open Numeral

theorem toString_int (number : Int) :
    toString number = signText (decide (number < 0)) ++ toString number.natAbs := by
  cases number with
  | ofNat size => exact (String.empty_append).symm
  | negSucc size =>
    rw [decide_eq_true (Int.negSucc_lt_zero size)]
    rfl

theorem signedInteger?_toString (number : Int) : signedInteger? (toString number) = some number := by
  have digits : ∀ char ∈ (toString number.natAbs).toList.head?, isAsciiDigit char = true :=
    fun char first => Text.isAsciiDigit_of_mem (List.mem_of_mem_head? first)
  rw [signedInteger?, toString_int, String.toList_append, splitSign_signText _ digits]
  simp only [natural?_toString, decide_eq_true_eq]
  change some (if number < 0 then -(number.natAbs : Int) else number.natAbs) = some number
  congr 1
  split <;> omega

theorem unsignedInteger?_toString (number : Nat) : unsignedInteger? (toString number) = some number := by
  have natural := natural?_toString number
  have digits : ∀ char ∈ (toString number).toList, isAsciiDigit char = true :=
    fun char member => Text.isAsciiDigit_of_mem member
  rw [unsignedInteger?]
  generalize (toString number).toList = chars at natural digits ⊢
  split
  · exact absurd (digits _ List.mem_cons_self) (by decide)
  · exact natural

theorem uint8?_toString (number : UInt8) : uint8? (toString number.toNat) = some number := by
  have small : decide (number.toNat < Nat.pow 2 8) = true := decide_eq_true number.toNat_lt
  rw [uint8?, unsignedInteger?_toString, Option.filter_some, if_pos small, Option.map_some,
    UInt8.ofNat_toNat]

theorem uint32?_toString (number : UInt32) : uint32? (toString number.toNat) = some number := by
  have small : decide (number.toNat < Nat.pow 2 32) = true := decide_eq_true number.toNat_lt
  rw [uint32?, unsignedInteger?_toString, Option.filter_some, if_pos small, Option.map_some,
    UInt32.ofNat_toNat]

theorem fitsSigned_toInt (number : Int32) : fitsSigned 32 number.toInt = true := by
  have below := number.toInt_lt
  have above := number.le_toInt
  rw [fitsSigned, Bool.and_eq_true, decide_eq_true_iff, decide_eq_true_iff]
  exact ⟨below, above⟩

theorem int32?_toString (number : Int32) : int32? (toString number.toInt) = some number := by
  rw [int32?, signedInteger?_toString, Option.filter_some, if_pos (fitsSigned_toInt number), Option.map_some,
    Int32.ofInt_toInt]

end ChartPortrayal
