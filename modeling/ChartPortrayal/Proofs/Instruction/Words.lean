import ChartPortrayal.Number.Quantity
import ChartPortrayal.Proofs.Instruction.Reading

namespace ChartPortrayal

namespace Text

def isWordChar (char : Char) : Bool :=
  !isBlank char && char != quote && char != ',' && char != ')'

def isWord (text : String) : Bool := text.toList.all isWordChar

theorem isWord_iff {text : String} :
    isWord text = true ↔ ∀ char ∈ text.toList, isWordChar char = true := by
  rw [isWord, List.all_eq_true]

@[simp] theorem isWord_append (first last : String) :
    isWord (first ++ last) = (isWord first && isWord last) := by
  rw [isWord, String.toList_append, List.all_append, isWord, isWord]

theorem isWord_ite {condition : Prop} [Decidable condition] {first other : String}
    (word : isWord first = true) (otherwise : isWord other = true) :
    isWord (if condition then first else other) = true := by
  split
  · exact word
  · exact otherwise

/-- A text that is made of characters of a word is a word. -/
theorem isWord_of_subset {part whole : String} (word : isWord whole = true)
    (subset : ∀ char ∈ part.toList, char ∈ whole.toList) : isWord part = true :=
  isWord_iff.mpr (fun char member => isWord_iff.mp word char (subset char member))

theorem isWordChar_of_isDigit {char : Char} (digit : char.isDigit = true) : isWordChar char = true := by
  have bounds : 48 ≤ char.toNat ∧ char.toNat ≤ 57 := by
    simpa [Char.isDigit, Char.le_def, UInt32.le_iff_toNat_le] using digit
  have apart : ∀ other : Char, other.toNat < 48 → char ≠ other := by
    rintro other below rfl
    omega
  have solid : isBlank char = false := by
    simp only [isBlank, blankRanges, List.any_cons, List.any_nil, Bool.or_false, Bool.or_eq_false_iff,
      Bool.and_eq_false_iff, decide_eq_false_iff_not]
    omega
  simp [isWordChar, solid, apart quote (by decide), apart ',' (by decide), apart ')' (by decide)]

theorem isWord_natural (number : Nat) : isWord (toString number) = true := by
  refine isWord_iff.mpr (fun char member => isWordChar_of_isDigit ?_)
  have digits : char ∈ Nat.toDigits 10 number := by rwa [← Nat.toList_repr]
  exact Nat.isDigit_of_mem_toDigits (by decide) (by decide) digits

theorem isWord_integer (number : Int) : isWord (toString number) = true := by
  cases number with
  | ofNat size => exact isWord_natural size
  | negSucc size =>
    change isWord ("-" ++ toString (size + 1)) = true
    rw [isWord_append, isWord_natural]
    rfl

theorem isWord_padLeft {fill : Char} {text : String} (filling : isWordChar fill = true)
    (word : isWord text = true) (width : Nat) : isWord (padLeft width fill text) = true := by
  rw [padLeft, isWord_append, word, Bool.and_true]
  refine isWord_iff.mpr (fun char member => ?_)
  rw [String.toList_ofList] at member
  rw [List.eq_of_mem_replicate member, filling]

end Text

open Text (isWord)

theorem isWord_signText (negative : Bool) : isWord (signText negative) = true := by
  cases negative <;> rfl

theorem isWord_fixedPlaces (places numerator denominator : Nat) :
    isWord (fixedPlaces places numerator denominator) = true := by
  unfold fixedPlaces
  dsimp only
  split
  · exact Text.isWord_natural _
  · rw [Text.isWord_append, Text.isWord_append, Text.isWord_natural,
      Text.isWord_padLeft rfl (Text.isWord_natural _)]
    rfl

theorem isWord_stripZeros {text : String} (word : isWord text = true) :
    isWord (stripZeros text) = true := by
  refine Text.isWord_of_subset word (fun char member => ?_)
  rw [stripZeros, String.toList_ofList, List.mem_reverse] at member
  have kept := (List.dropWhile_sublist _).subset ((List.dropWhile_sublist _).subset member)
  rwa [List.mem_reverse] at kept

theorem isWord_plainQuotient (negative : Bool) (numerator denominator : Nat) :
    isWord (plainQuotient negative numerator denominator) = true := by
  unfold plainQuotient
  dsimp only
  split
  · rw [Text.isWord_append, isWord_signText, Text.isWord_natural]
    rfl
  · rw [Text.isWord_append, isWord_signText, isWord_stripZeros (isWord_fixedPlaces ..)]
    rfl

/-- Numbers whose plain form is a word. -/
class PlainWords (α : Type) [Quantity α] : Prop where
  isWord_plain : ∀ number : α, isWord (Quantity.plain number) = true

instance : PlainWords Float where
  isWord_plain number := by
    change isWord (FloatValue.ofFloat number).plain = true
    cases FloatValue.ofFloat number with
    | finite negative significand exponent => exact isWord_plainQuotient ..
    | infinite negative =>
      change isWord (signText negative ++ "inf") = true
      rw [Text.isWord_append, isWord_signText]
      rfl
    | undefined => rfl

instance : PlainWords Rat where
  isWord_plain _ := isWord_plainQuotient ..

namespace Directive

/-- A word is a field as it stands. -/
theorem isField_of_isWord {text : String} (word : isWord text = true) : IsField text := by
  have each : ∀ char ∈ text.toList,
      Text.isBlank char = false ∧ char ≠ Text.quote ∧ char ≠ ',' ∧ char ≠ ')' := by
    intro char member
    have plain := Text.isWord_iff.mp word char member
    simpa [Text.isWordChar, and_assoc] using plain
  constructor
  · exact Text.trimChars_self (fun char first => (each char (List.mem_of_mem_head? first)).1)
      (fun char last => (each char (List.mem_of_mem_getLast? last)).1)
  · refine shielded_of_free (fun char member => ?_)
    obtain ⟨-, other, comma, closing⟩ := each char member
    exact ⟨other, by simp [isComma, isClosing, comma, closing]⟩

end Directive

end ChartPortrayal
