import Mathlib.Data.List.DropRight
import ChartPortrayal.Text.Blank

namespace ChartPortrayal.Text

theorem dropWhile_isBlank {chars : List Char} (solid : ∀ char ∈ chars.head?, isBlank char = false) :
    chars.dropWhile isBlank = chars := by
  cases chars with
  | nil => rfl
  | cons char rest =>
    have first := solid char rfl
    exact List.dropWhile_cons_of_neg (by simp [first])

/-- Nothing is trimmed from characters that neither begin nor end with a blank. -/
theorem trimChars_self {chars : List Char} (first : ∀ char ∈ chars.head?, isBlank char = false)
    (last : ∀ char ∈ chars.getLast?, isBlank char = false) : trimChars chars = chars := by
  have back : ∀ char ∈ chars.reverse.head?, isBlank char = false := by
    rwa [List.head?_reverse]
  rw [trimChars, dropWhile_isBlank first, dropWhile_isBlank back, List.reverse_reverse]

theorem trimChars_eq_rdropWhile (chars : List Char) :
    trimChars chars = (chars.dropWhile isBlank).rdropWhile isBlank := rfl

/-- What is left starts like the characters without their leading blanks. -/
theorem dropWhile_trimChars (chars : List Char) :
    (trimChars chars).dropWhile isBlank = trimChars chars := by
  rw [trimChars_eq_rdropWhile, List.dropWhile_eq_self_iff]
  intro filled
  have starts := (List.rdropWhile_prefix isBlank (chars.dropWhile isBlank)).getElem filled
  rw [starts]
  exact List.dropWhile_get_zero_not isBlank chars _

theorem trimChars_trimChars (chars : List Char) : trimChars (trimChars chars) = trimChars chars := by
  rw [trimChars_eq_rdropWhile (trimChars chars), dropWhile_trimChars, trimChars_eq_rdropWhile,
    List.rdropWhile_idempotent]

theorem trim_trim (text : String) : trim (trim text) = trim text := by
  rw [trim, trim, String.toList_ofList, trimChars_trimChars]

end ChartPortrayal.Text
