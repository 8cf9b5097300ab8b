import Mathlib.Data.List.TakeWhile
import ChartPortrayal.Text.Fields

namespace ChartPortrayal.Text

variable {separator : Char} {field rest : List Char}

theorem splitChars_field (free : separator ∉ field) : splitChars separator field = [field] := by
  induction field with
  | nil => rfl
  | cons char later ih =>
    obtain ⟨other, later⟩ := not_or.mp (List.mem_cons.not.mp free)
    rw [splitChars, if_neg (Ne.symm other), ih later]

theorem splitChars_append (free : separator ∉ field) (rest : List Char) :
    splitChars separator (field ++ separator :: rest) = field :: splitChars separator rest := by
  induction field with
  | nil => rw [List.nil_append, splitChars, if_pos rfl]
  | cons char later ih =>
    obtain ⟨other, later⟩ := not_or.mp (List.mem_cons.not.mp free)
    rw [List.cons_append, splitChars, if_neg (Ne.symm other), ih later]

/-- A field that follows a separator and runs up to the next one, or to the end. -/
structure FollowsIn (separator : Char) (field chars : List Char) : Prop where
  free : separator ∉ field
  placed : ∃ before after, chars = before ++ separator :: (field ++ after) ∧
    (after = [] ∨ after.head? = some separator)

/-- What runs up to the next separator from the start is the first field. -/
theorem eq_takeWhile_iff : field = rest.takeWhile (· != separator) ↔
    separator ∉ field ∧ ∃ after, rest = field ++ after ∧ (after = [] ∨ after.head? = some separator) := by
  constructor
  · rintro rfl
    refine ⟨fun member => ?_, rest.dropWhile (· != separator), ?_, ?_⟩
    · simpa using List.mem_takeWhile_imp member
    · exact (List.takeWhile_append_dropWhile).symm
    · cases dropped : rest.dropWhile (· != separator) with
      | nil => exact .inl rfl
      | cons char others =>
        have stopped := List.head?_dropWhile_not (· != separator) rest
        rw [dropped] at stopped
        right
        simpa using stopped
  · rintro ⟨free, after, rfl, stop⟩
    have whole : ∀ char ∈ field, (char != separator) = true := by
      intro char member
      rw [bne_iff_ne]
      rintro rfl
      exact free member
    have stopped : after.takeWhile (· != separator) = [] := by
      rcases stop with rfl | first
      · rfl
      · obtain ⟨others, rfl⟩ := List.head?_eq_some_iff.mp first
        simp
    rw [List.takeWhile_append_of_pos whole, stopped, List.append_nil]

theorem not_followsIn_nil : ¬ FollowsIn separator field [] := by
  rintro ⟨-, before, after, none, -⟩
  cases before <;> cases none

/-- After a separator comes the first field of the rest, or a later one. -/
theorem followsIn_separator : FollowsIn separator field (separator :: rest) ↔
    field = rest.takeWhile (· != separator) ∨ FollowsIn separator field rest := by
  constructor
  · rintro ⟨free, before, after, same, stop⟩
    cases before with
    | nil =>
      obtain ⟨-, rfl⟩ := List.cons.inj same
      exact .inl (eq_takeWhile_iff.mpr ⟨free, after, rfl, stop⟩)
    | cons first others =>
      obtain ⟨-, rfl⟩ := List.cons.inj same
      exact .inr ⟨free, others, after, rfl, stop⟩
  · rintro (first | ⟨free, before, after, rfl, stop⟩)
    · obtain ⟨free, after, rfl, stop⟩ := eq_takeWhile_iff.mp first
      exact ⟨free, [], after, rfl, stop⟩
    · exact ⟨free, separator :: before, after, rfl, stop⟩

theorem followsIn_cons {char : Char} (other : char ≠ separator) :
    FollowsIn separator field (char :: rest) ↔ FollowsIn separator field rest := by
  constructor
  · rintro ⟨free, before, after, same, stop⟩
    cases before with
    | nil => exact absurd (List.cons.inj same).1 other
    | cons first others =>
      obtain ⟨-, rfl⟩ := List.cons.inj same
      exact ⟨free, others, after, rfl, stop⟩
  · rintro ⟨free, before, after, rfl, stop⟩
    exact ⟨free, char :: before, after, rfl, stop⟩

/-- The fields of a text: the first one, and those that follow a separator. -/
theorem exists_splitChars (separator : Char) (chars : List Char) :
    ∃ later, splitChars separator chars = chars.takeWhile (· != separator) :: later ∧
      ∀ field, field ∈ later ↔ FollowsIn separator field chars := by
  induction chars with
  | nil => exact ⟨[], rfl, fun field => by simp [not_followsIn_nil]⟩
  | cons char rest ih =>
    obtain ⟨later, split, members⟩ := ih
    by_cases same : char = separator
    · subst same
      refine ⟨splitChars char rest, by simp [splitChars], fun field => ?_⟩
      rw [split, List.mem_cons, members, followsIn_separator]
    · refine ⟨later, ?_, fun field => (members field).trans (followsIn_cons same).symm⟩
      simp [splitChars, same, split]

end ChartPortrayal.Text
