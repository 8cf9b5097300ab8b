import Mathlib.Algebra.BigOperators.Fin
import Mathlib.Tactic.Ring
import ChartPortrayal.Proofs.Instruction.ViewGroup

/-! View groups and the room in their type. The sum of the digits can exceed the type only on top of the greatest
number that stands above five digits. -/

namespace ChartPortrayal

namespace ViewGroupPattern

/-- A view group over which a pattern was written: the digits that the pattern gives, and all else as it was. -/
structure Writes (pattern : ViewGroupPattern) (current written : Nat) : Prop where
  above : written / 100000 = current / 100000
  digit : ∀ place : Fin 5,
    written / 10 ^ place.val % 10 = writtenDigit (pattern.digit? place) (10 ^ place.val) current

theorem writes_merged (pattern : ViewGroupPattern) (current : Nat) :
    pattern.Writes current (pattern.merged current) :=
  ⟨pattern.merged_div current, pattern.merged_digit current⟩

/-- The number that the last five digits make up once a pattern is written over them. -/
def lastFive (pattern : ViewGroupPattern) (current : Nat) : Nat :=
  ∑ place : Fin 5, 10 ^ place.val * writtenDigit (pattern.digit? place) (10 ^ place.val) current

theorem merged_eq (pattern : ViewGroupPattern) (current : Nat) :
    pattern.merged current = current / 100000 * 100000 + pattern.lastFive current := by
  simp only [merged, lastFive, Fin.sum_univ_five]
  change _ = _ + (1 * writtenDigit pattern.units 1 current + 10 * writtenDigit pattern.tens 10 current +
    100 * writtenDigit pattern.hundreds 100 current + 1000 * writtenDigit pattern.thousands 1000 current +
    10000 * writtenDigit pattern.tenThousands 10000 current)
  ring

theorem lastFive_lt (pattern : ViewGroupPattern) (current : Nat) : pattern.lastFive current < 100000 := by
  have above := pattern.merged_div current
  rw [merged_eq] at above
  omega

/-- There is no room only at the limit or above, where the last five digits come after those of the greatest view
group. -/
theorem size_le_merged_iff {pattern : ViewGroupPattern} {current : UInt32} :
    UInt32.size ≤ pattern.merged current.toNat ↔
      Priority.viewGroupLimit ≤ current.toNat ∧ 67295 < pattern.lastFive current.toNat := by
  have limit : Priority.viewGroupLimit = 4294900000 := rfl
  have size : UInt32.size = 4294967296 := rfl
  have greatest := current.toNat_lt
  have five := pattern.lastFive_lt current.toNat
  rw [merged_eq]
  omega

end ViewGroupPattern

namespace PriorityOverride

/-- Writing an override over a priority replaces the digits of the view group that the override gives, and keeps
all else of it, unless the view group stands at the limit or above and the last five digits come after 67295. In
that case a sum exceeds the type, and there is no result. -/
theorem viewGroup_within_type (override : PriorityOverride) (priority : Priority) :
    let pattern := override.viewGroup
    let current := priority.viewGroup.toNat
    let exceeds := Priority.viewGroupLimit ≤ current ∧ 67295 < pattern.lastFive current
    (¬ exceeds → ∃ effective, override.apply priority = .ok effective) ∧
      (exceeds → override.apply priority = .error .overflow) ∧
      ∀ effective, override.apply priority = .ok effective →
        pattern.Writes current effective.viewGroup.toNat := by
  intro pattern current exceeds
  refine ⟨fun room => ?_, fun late => ?_, fun effective applied => ?_⟩
  · cases applied : override.apply priority with
    | ok effective => exact ⟨effective, rfl⟩
    | error error =>
      obtain ⟨-, large⟩ := apply_eq_error_iff.mp applied
      exact absurd (ViewGroupPattern.size_le_merged_iff.mp large) room
  · exact apply_eq_error_iff.mpr ⟨rfl, ViewGroupPattern.size_le_merged_iff.mpr late⟩
  · rw [(apply_eq_ok_iff.mp applied).1]
    exact pattern.writes_merged current

/-- The last digit of a view group just below the greatest one is replaced by 5, which gives the greatest one. -/
theorem viewGroup_within_type_greatest :
    let override : PriorityOverride :=
      ⟨"-------5", none, none, none, ⟨none, none, none, none, some 5⟩, false⟩
    let priority : Priority := { Priority.standard with viewGroup := 4294967290 }
    let effective : Priority := { Priority.standard with viewGroup := 4294967295 }
    parse "-------5" = .ok override ∧
      ¬ (Priority.viewGroupLimit ≤ 4294967290 ∧ 67295 < override.viewGroup.lastFive 4294967290) ∧
      (∃ effective, override.apply priority = .ok effective) ∧
      override.apply priority = .ok effective ∧ override.viewGroup.Writes 4294967290 4294967295 := by
  intro override priority effective
  have room : ¬ (Priority.viewGroupLimit ≤ priority.viewGroup.toNat ∧
      67295 < override.viewGroup.lastFive priority.viewGroup.toNat) := by decide +kernel
  have applied : override.apply priority = .ok effective := by decide +kernel
  obtain ⟨answers, -, replaced⟩ := viewGroup_within_type override priority
  exact ⟨by decide +kernel, room, answers room, applied, replaced effective applied⟩

/-- With 9 in place of its last digit the same view group exceeds the type. -/
theorem not_viewGroup_within_type :
    ¬ ∀ (payload : String) (override : PriorityOverride) (priority : Priority),
      parse payload = .ok override →
        ∃ effective, override.apply priority = .ok effective ∧
          override.viewGroup.Writes priority.viewGroup.toNat effective.viewGroup.toNat := by
  intro claimed
  let override : PriorityOverride :=
    ⟨"-------9", none, none, none, ⟨none, none, none, none, some 9⟩, false⟩
  let priority : Priority := { Priority.standard with viewGroup := 4294967290 }
  obtain ⟨effective, applied, -⟩ := claimed "-------9" override priority (by decide +kernel)
  have exceeds : override.apply priority = .error .overflow := by decide +kernel
  rw [exceeds] at applied
  cases applied

end PriorityOverride

end ChartPortrayal
