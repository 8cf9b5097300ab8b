import Mathlib
import ChartPortrayal.Proofs.Number.Numerals

namespace ChartPortrayal.Text

/-- So many digits of a number, counted from its ones. -/
def places : Nat → Nat → List Nat
  | 0, _ => []
  | count + 1, number => places count (number / 10) ++ [number % 10]

theorem lt_ten_of_mem_places {count number digit : Nat} (member : digit ∈ places count number) :
    digit < 10 := by
  induction count generalizing number with
  | zero => cases member
  | succ count ih =>
    rcases List.mem_append.mp member with before | last
    · exact ih before
    · rw [List.mem_singleton.mp last]
      exact Nat.mod_lt _ (by decide)

theorem length_places (count number : Nat) : (places count number).length = count := by
  induction count generalizing number with
  | zero => rfl
  | succ count ih => rw [places, List.length_append, ih, List.length_singleton]

theorem toDigits_eq_places (number : Nat) :
    Nat.toDigits 10 number = (places (Nat.toDigits 10 number).length number).map Nat.digitChar := by
  induction number using Nat.strongRecOn with
  | ind number ih =>
    by_cases short : number < 10
    · rw [Nat.toDigits_of_lt_base short]
      simp [places, Nat.mod_eq_of_lt short]
    · have long : 10 ≤ number := Nat.le_of_not_lt short
      rw [Nat.toDigits_of_base_le (by decide) long, List.length_append, List.length_singleton, places,
        List.map_append, ← ih (number / 10) (by omega)]
      rfl

theorem length_toDigits {number count : Nat} (low : count = 0 ∨ 10 ^ count ≤ number)
    (high : number < 10 ^ (count + 1)) : (Nat.toDigits 10 number).length = count + 1 := by
  refine Nat.le_antisymm ((Nat.length_toDigits_le_iff (by decide) (Nat.succ_pos _)).mpr high) ?_
  rcases Nat.eq_zero_or_pos count with rfl | positive
  · exact Nat.length_toDigits_pos
  · have least := low.resolve_left (Nat.ne_of_gt positive)
    by_contra fewer
    have short := (Nat.length_toDigits_le_iff (by decide) positive).mp (Nat.le_of_lt_succ (not_le.mp fewer))
    exact absurd short (not_lt.mpr least)

theorem places_zero (count : Nat) : places count 0 = List.replicate count 0 := by
  induction count with
  | zero => rfl
  | succ count ih => rw [places, Nat.zero_div, ih, Nat.zero_mod, List.replicate_succ']

/-- Further places hold zeros. -/
theorem places_add (extra : Nat) {count number : Nat} (short : number < 10 ^ count) :
    places (extra + count) number = List.replicate extra 0 ++ places count number := by
  induction count generalizing number with
  | zero =>
    obtain rfl : number = 0 := Nat.lt_one_iff.mp short
    rw [Nat.add_zero, places_zero, places, List.append_nil]
  | succ count ih =>
    have shorter : number / 10 < 10 ^ count := by
      rw [Nat.pow_succ] at short
      omega
    rw [← Nat.add_assoc, places, places, ih shorter, List.append_assoc]

/-- The places show nothing of what is left of them. -/
theorem places_mod (count number : Nat) : places count (number % 10 ^ count) = places count number := by
  induction count generalizing number with
  | zero => rfl
  | succ count ih =>
    have ones : number % 10 ^ (count + 1) % 10 = number % 10 :=
      Nat.mod_mod_of_dvd _ (Dvd.intro_left _ (Nat.pow_succ ..).symm)
    have others : number % 10 ^ (count + 1) / 10 = number / 10 % 10 ^ count := by
      rw [Nat.pow_succ', Nat.mod_mul_right_div_self]
    rw [places, ones, others, ih, places]

/-- A number that is filled up with zeros shows a digit at every place. -/
theorem toList_padLeft_zero {count number : Nat} (filled : 0 < count) (short : number < 10 ^ count) :
    (padLeft count '0' (toString number)).toList = (places count number).map Nat.digitChar := by
  have positive : 0 < (Nat.toDigits 10 number).length := Nat.length_toDigits_pos
  have least : number < 10 ^ (Nat.toDigits 10 number).length :=
    (Nat.length_toDigits_le_iff (by decide) positive).mp (Nat.le_refl _)
  obtain ⟨extra, rfl⟩ := Nat.exists_eq_add_of_le'
    ((Nat.length_toDigits_le_iff (by decide) filled).mpr short)
  rw [padLeft, String.toList_append, String.toList_ofList, ← String.length_toList, toList_toString,
    Nat.add_sub_cancel, places_add extra least, List.map_append, ← toDigits_eq_places, List.map_replicate]
  rfl

theorem toString_digit {digit : Nat} (single : digit < 10) :
    (toString digit).toList = [digit.digitChar] := by
  rw [toList_toString, Nat.toDigits_of_lt_base single]

end ChartPortrayal.Text
