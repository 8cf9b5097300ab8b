import Mathlib.Algebra.Group.Nat.Defs
import ChartPortrayal.Instruction.Override

/-! Digits of view groups. A pattern writes the digits that it gives, and keeps the other ones and all above the
fifth. What is added on the way only grows, so that there is room for every sum when there is for the last. -/

namespace ChartPortrayal

/-- The least view group at which digits below could carry the group past its type. -/
def Priority.viewGroupLimit : Nat := 4294900000

namespace ViewGroupPattern

/-- The digit that a pattern gives at a place, from the units on. -/
def digit? (pattern : ViewGroupPattern) : Fin 5 → Option (Fin 10)
  | 0 => pattern.units
  | 1 => pattern.tens
  | 2 => pattern.hundreds
  | 3 => pattern.thousands
  | 4 => pattern.tenThousands

theorem writtenDigit_lt (digit : Option (Fin 10)) (place current : Nat) :
    writtenDigit digit place current < 10 := by
  cases digit with
  | none => exact Nat.mod_lt _ (by decide)
  | some units => exact units.isLt

/-- The group with the given digits in its last five places, whatever its size. -/
def merged (pattern : ViewGroupPattern) (current : Nat) : Nat :=
  current / 100000 * 100000 + 10000 * writtenDigit pattern.tenThousands 10000 current +
    1000 * writtenDigit pattern.thousands 1000 current + 100 * writtenDigit pattern.hundreds 100 current +
    10 * writtenDigit pattern.tens 10 current + 1 * writtenDigit pattern.units 1 current

section Merged

variable (pattern : ViewGroupPattern) (current : Nat)

theorem merged_div : pattern.merged current / 100000 = current / 100000 := by
  have tenThousands := writtenDigit_lt pattern.tenThousands 10000 current
  have thousands := writtenDigit_lt pattern.thousands 1000 current
  have hundreds := writtenDigit_lt pattern.hundreds 100 current
  have tens := writtenDigit_lt pattern.tens 10 current
  have units := writtenDigit_lt pattern.units 1 current
  unfold merged
  omega

theorem merged_digit (place : Fin 5) :
    pattern.merged current / 10 ^ place.val % 10 =
      writtenDigit (pattern.digit? place) (10 ^ place.val) current := by
  have tenThousands := writtenDigit_lt pattern.tenThousands 10000 current
  have thousands := writtenDigit_lt pattern.thousands 1000 current
  have hundreds := writtenDigit_lt pattern.hundreds 100 current
  have tens := writtenDigit_lt pattern.tens 10 current
  have units := writtenDigit_lt pattern.units 1 current
  unfold merged
  match place with
  | 0 =>
    change _ / 1 % 10 = writtenDigit pattern.units 1 current
    omega
  | 1 =>
    change _ / 10 % 10 = writtenDigit pattern.tens 10 current
    omega
  | 2 =>
    change _ / 100 % 10 = writtenDigit pattern.hundreds 100 current
    omega
  | 3 =>
    change _ / 1000 % 10 = writtenDigit pattern.thousands 1000 current
    omega
  | 4 =>
    change _ / 10000 % 10 = writtenDigit pattern.tenThousands 10000 current
    omega

end Merged

theorem fitted_eq_ok_iff {number : Nat} {group : UInt32} : fitted number = .ok group ↔ group.toNat = number := by
  unfold fitted
  split
  · next room =>
    rw [Except.ok.injEq, ← UInt32.toNat_inj, UInt32.toNat_ofNat_of_lt' room, eq_comm]
  · next exceeds =>
    have bound := group.toNat_lt
    refine iff_of_false nofun (fun same => exceeds ?_)
    rwa [← same]

theorem fitted_eq_error_iff {number : Nat} {error : PortrayalError} :
    fitted number = .error error ↔ error = .overflow ∧ UInt32.size ≤ number := by
  unfold fitted
  split
  · next room => simp [Nat.not_le_of_lt room]
  · next exceeds => simp [Nat.le_of_not_lt exceeds, eq_comm]

theorem fitted_toNat (group : UInt32) : fitted group.toNat = .ok group := fitted_eq_ok_iff.mpr rfl

/-- The product at a place of five digits has room, so that the sum alone decides. -/
theorem addDigit_eq {current merged : UInt32} {place : Nat × Option (Fin 10)} (five : place.1 ≤ 10000) :
    addDigit current merged place =
      fitted (merged.toNat + place.1 * writtenDigit place.2 place.1 current.toNat) := by
  have digit := writtenDigit_lt place.2 place.1 current.toNat
  have room : place.1 * writtenDigit place.2 place.1 current.toNat < UInt32.size :=
    Nat.lt_of_le_of_lt (Nat.mul_le_mul five (Nat.le_of_lt digit)) (by decide)
  simp only [addDigit]
  cases product : fitted (place.1 * writtenDigit place.2 place.1 current.toNat) with
  | error error => exact absurd (fitted_eq_error_iff.mp product).2 (Nat.not_le_of_lt room)
  | ok group =>
    rw [← fitted_eq_ok_iff.mp product]
    rfl

/-- Adding digits one by one ends within the type exactly when the whole sum is within it. -/
theorem foldlM_addDigit {current merged : UInt32} {places : List (Nat × Option (Fin 10))}
    (five : ∀ place ∈ places, place.1 ≤ 10000) :
    places.foldlM (addDigit current) merged = fitted (merged.toNat +
      places.foldr (fun place total => place.1 * writtenDigit place.2 place.1 current.toNat + total) 0) := by
  induction places generalizing merged with
  | nil => exact (fitted_toNat merged).symm
  | cons place rest ih =>
    obtain ⟨here, later⟩ := List.forall_mem_cons.mp five
    rw [List.foldlM_cons, addDigit_eq here, List.foldr_cons, ← Nat.add_assoc]
    cases added : fitted (merged.toNat + place.1 * writtenDigit place.2 place.1 current.toNat) with
    | error error =>
      -- a sum that exceeds the type on the way exceeds it in the end
      obtain ⟨rfl, exceeds⟩ := fitted_eq_error_iff.mp added
      exact (fitted_eq_error_iff.mpr ⟨rfl, Nat.le_trans exceeds (Nat.le_add_right ..)⟩).symm
    | ok sum => exact (ih later).trans (by rw [fitted_eq_ok_iff.mp added])

theorem merge_eq (pattern : ViewGroupPattern) (current : UInt32) :
    pattern.merge current = fitted (pattern.merged current.toNat) := by
  have five : ∀ place ∈ pattern.places, place.1 ≤ 10000 := by
    simp [places, digits]
  have sum : pattern.places.foldr (fun place total =>
      place.1 * writtenDigit place.2 place.1 current.toNat + total) 0 + current.toNat / 100000 * 100000 =
        pattern.merged current.toNat := by
    simp only [places, digits, List.zip_cons_cons, List.zip_nil_right, List.foldr_cons, List.foldr_nil, merged]
    omega
  simp only [merge]
  cases above : fitted (current.toNat / 100000 * 100000) with
  | error error =>
    have least := current.toNat_lt
    have exceeds := (fitted_eq_error_iff.mp above).2
    have size : UInt32.size = 4294967296 := rfl
    omega
  | ok group =>
    rw [← sum, Nat.add_comm, ← fitted_eq_ok_iff.mp above]
    exact foldlM_addDigit five

/-- Without new digits a group comes out as it was. -/
theorem merged_of_blank {pattern : ViewGroupPattern} (blank : pattern.digits.any Option.isSome = false)
    (current : Nat) : pattern.merged current = current := by
  obtain ⟨tenThousands, thousands, hundreds, tens, units⟩ := pattern
  simp only [digits, List.any_cons, List.any_nil, Bool.or_false, Bool.or_eq_false_iff,
    Option.isSome_eq_false_iff, Option.isNone_iff_eq_none] at blank
  obtain ⟨rfl, rfl, rfl, rfl, rfl⟩ := blank
  simp only [merged, writtenDigit, Option.map_none, Option.getD_none]
  omega

/-- With all digits given nothing is left of the last five. -/
theorem merged_of_fixed? {pattern : ViewGroupPattern} {number : Nat} (fixed : pattern.fixed? = some number)
    (current : Nat) : pattern.merged current = current / 100000 * 100000 + number := by
  obtain ⟨tenThousands, thousands, hundreds, tens, units⟩ := pattern
  simp only [fixed?, digits, List.foldl_cons, List.foldl_nil, Option.bind_some, Option.bind_eq_some_iff,
    Option.map_eq_some_iff] at fixed
  obtain ⟨_, ⟨_, ⟨_, ⟨_, ⟨first, rfl, rfl⟩, second, rfl, rfl⟩, third, rfl, rfl⟩, fourth, rfl, rfl⟩, fifth, rfl,
    rfl⟩ := fixed
  simp only [merged, writtenDigit, Option.map_some, Option.getD_some]
  omega

theorem overwrite_eq (pattern : ViewGroupPattern) (current : UInt32) :
    pattern.overwrite current = fitted (pattern.merged current.toNat) := by
  unfold overwrite
  split
  · exact pattern.merge_eq current
  · next blank => rw [merged_of_blank (Bool.eq_false_iff.mpr blank), fitted_toNat]

end ViewGroupPattern

namespace PriorityOverride

variable {override : PriorityOverride} {priority effective : Priority}

theorem apply_eq_ok_iff : override.apply priority = .ok effective ↔
    effective.viewGroup.toNat = override.viewGroup.merged priority.viewGroup.toNat ∧
      effective.draw = (override.draw.map (fun digit => UInt8.ofNat digit.val)).getD priority.draw ∧
      effective.radar = override.radar.getD priority.radar ∧
      effective.category = override.category.getD priority.category ∧
      effective.ignoreScaleMinimum = (priority.ignoreScaleMinimum || override.ignoreScaleMinimum) := by
  rw [← ViewGroupPattern.fitted_eq_ok_iff, ← ViewGroupPattern.overwrite_eq]
  unfold apply
  obtain ⟨draw, radar, category, viewGroup, ignores⟩ := effective
  cases override.viewGroup.overwrite priority.viewGroup with
  | error error => exact iff_of_false nofun (fun written => nomatch written.1)
  | ok written =>
    constructor
    · intro applied
      cases applied
      exact ⟨rfl, rfl, rfl, rfl, rfl⟩
    · rintro ⟨same, rfl, rfl, rfl, rfl⟩
      cases same
      rfl

theorem apply_eq_error_iff {error : PortrayalError} : override.apply priority = .error error ↔
    error = .overflow ∧ UInt32.size ≤ override.viewGroup.merged priority.viewGroup.toNat := by
  rw [← ViewGroupPattern.fitted_eq_error_iff, ← ViewGroupPattern.overwrite_eq]
  unfold apply
  cases override.viewGroup.overwrite priority.viewGroup with
  | error other =>
    constructor
    all_goals
      intro failed
      cases failed
      rfl
  | ok written => exact iff_of_false nofun nofun

end PriorityOverride

end ChartPortrayal
