import ChartPortrayal.Error

namespace ChartPortrayal

variable {β γ δ : Type} {error : PortrayalError}

theorem bind_eq_error_iff {ask : Except PortrayalError β} {next : β → Except PortrayalError γ} :
    ask >>= next = .error error ↔
      ask = .error error ∨ ∃ value, ask = .ok value ∧ next value = .error error := by
  cases ask <;> simp [bind, Except.bind]

/-- A failure among several is that of one of them. -/
theorem exists_of_mapM_eq_error {ask : β → Except PortrayalError γ} {items : List β}
    (failed : items.mapM ask = .error error) : ∃ item ∈ items, ask item = .error error := by
  induction items with
  | nil => cases failed
  | cons item rest ih =>
    rw [List.mapM_cons] at failed
    rcases bind_eq_error_iff.mp failed with own | ⟨value, -, failed⟩
    · exact ⟨item, List.mem_cons_self, own⟩
    · rcases bind_eq_error_iff.mp failed with others | ⟨values, -, failed⟩
      · obtain ⟨other, listed, failed⟩ := ih others
        exact ⟨other, List.mem_cons_of_mem _ listed, failed⟩
      · cases failed

theorem map_eq_error_iff {outcome : Except PortrayalError β} {write : β → γ} :
    outcome.map write = .error error ↔ outcome = .error error := by
  cases outcome <;> simp [Except.map]

section Option

variable {outcome : Except PortrayalError (Option β)} {write : β → γ}

theorem map_eq_ok_none_iff : outcome.map (Option.map write) = .ok none ↔ outcome = .ok none := by
  cases outcome <;> simp [Except.map]

theorem map_eq_ok_some_iff {written : γ} :
    outcome.map (Option.map write) = .ok (some written) ↔
      ∃ value, outcome = .ok (some value) ∧ write value = written := by
  cases outcome <;> simp [Except.map]

theorem map_map_option (next : γ → δ) :
    (outcome.map (Option.map write)).map (Option.map next) = outcome.map (Option.map (next ∘ write)) := by
  cases outcome with
  | error error => rfl
  | ok value? => exact congrArg Except.ok (Option.map_map next write value?)

end Option

end ChartPortrayal
