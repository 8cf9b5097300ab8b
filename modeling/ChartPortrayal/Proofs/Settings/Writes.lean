import ChartPortrayal.Proofs.Display.Request
import ChartPortrayal.Proofs.Number.Order

namespace ChartPortrayal

namespace Settings

variable {α : Type} [Quantity α] {parameter other : Parameter}

theorem get_put_of_ne (apart : other ≠ parameter) (settings : Settings α) (value : α) :
    (settings.put parameter value).get other = settings.get other := by
  cases parameter <;> cases other <;> first | rfl | exact absurd rfl apart

theorem get_put_numeric (numeric : parameter.isNumeric = true) (settings : Settings α) (value : α) :
    (settings.put parameter value).get parameter = value := by
  cases parameter <;> first | rfl | cases numeric

theorem get_put_flag (flag : parameter.isNumeric = false) (settings : Settings α) (value : α) :
    (settings.put parameter value).get parameter = flagValue (valueFlag value) := by
  cases parameter <;> first | rfl | cases flag

/-- A flag reads as one of two numbers. -/
theorem exists_flagValue (flag : parameter.isNumeric = false) (settings : Settings α) :
    ∃ on, settings.get parameter = flagValue on := by
  cases parameter <;> first | exact ⟨_, rfl⟩ | cases flag

end Settings

namespace SettingsStore

/-- The generation that a setting belongs to. -/
def generationOf {α : Type} (store : SettingsStore α) (parameter : Parameter) : Nat :=
  if parameter.affectsText then store.textGeneration else store.symbologyGeneration

variable {α : Type} [Quantity α]

/-- The store after writes, one after another. -/
def writeAll (store : SettingsStore α) (writes : List (StoreWrite α)) : SettingsStore α :=
  writes.foldl (fun current write => write.apply current) store

variable {store : SettingsStore α} {parameter : Parameter} {value : α}

theorem set_of_unchanged (unchanged : store.changes parameter value = false) :
    store.set parameter value = store := by
  rw [set, if_neg (by simp [unchanged])]

theorem get_set_of_ne {other : Parameter} (apart : other ≠ parameter) (store : SettingsStore α) (value : α) :
    (store.set parameter value).get other = store.get other := by
  have frame := Settings.get_put_of_ne apart store.settings value
  unfold set
  split
  · split <;> exact frame
  · rfl

theorem get_set_of_changes (changes : store.changes parameter value = true) :
    (store.set parameter value).get parameter = (store.settings.put parameter value).get parameter := by
  rw [set, if_pos changes]
  split <;> rfl

/-- A reported change raises the one generation, and a write raises no other. -/
theorem generationOf_set (store : SettingsStore α) (parameter : Parameter) (value : α) (other : Parameter) :
    (store.set parameter value).generationOf other =
      if store.changes parameter value = true ∧ other.affectsText = parameter.affectsText
      then store.generationOf other + 1 else store.generationOf other := by
  unfold set
  cases store.changes parameter value with
  | false => simp
  | true =>
    unfold generationOf
    cases parameter.affectsText <;> cases other.affectsText <;> simp

/-- One store comes after another: no generation falls, and one that stands still vouches for every setting
that belongs to it. -/
structure Succeeds (after before : SettingsStore α) : Prop where
  generation : ∀ parameter, before.generationOf parameter ≤ after.generationOf parameter
  setting : ∀ parameter, before.generationOf parameter = after.generationOf parameter →
    after.get parameter = before.get parameter

namespace Succeeds

theorem refl (store : SettingsStore α) : store.Succeeds store :=
  ⟨fun _ => Nat.le_refl _, fun _ _ => rfl⟩

theorem trans {first second third : SettingsStore α} (later : third.Succeeds second)
    (earlier : second.Succeeds first) : third.Succeeds first where
  generation parameter := Nat.le_trans (earlier.generation parameter) (later.generation parameter)
  setting parameter same := by
    -- a generation that is the same at both ends was the same in between
    have rise := earlier.generation parameter
    have further := later.generation parameter
    rw [later.setting parameter (by omega), earlier.setting parameter (by omega)]

end Succeeds

theorem succeeds_set (store : SettingsStore α) (parameter : Parameter) (value : α) :
    (store.set parameter value).Succeeds store := by
  constructor
  · intro other
    rw [generationOf_set]
    split <;> omega
  · intro other still
    by_cases same : other = parameter
    · subst same
      have unchanged : store.changes other value = false := by
        rw [generationOf_set] at still
        cases changes : store.changes other value with
        | false => rfl
        | true => simp [changes] at still
      rw [set_of_unchanged unchanged]
    · exact get_set_of_ne same store value

theorem succeeds_replace (store : SettingsStore α) (settings : Settings α) :
    (store.replace settings).Succeeds store := by
  unfold replace
  generalize Parameter.all = parameters
  induction parameters generalizing store with
  | nil => exact .refl store
  | cons parameter rest ih => exact (ih _).trans (succeeds_set store parameter _)

theorem succeeds_apply (store : SettingsStore α) (write : StoreWrite α) :
    (write.apply store).Succeeds store := by
  cases write with
  | set parameter value => exact succeeds_set store parameter value
  | setFlag parameter flag => exact succeeds_set store parameter _
  | replace settings => exact succeeds_replace store settings
  | showCategory category => exact ⟨fun _ => Nat.le_refl _, fun _ _ => rfl⟩
  | suppress className =>
    change (store.suppress className).Succeeds store
    unfold suppress
    split
    · exact .refl store
    · exact ⟨fun _ => Nat.le_refl _, fun _ _ => rfl⟩
  | unsuppress className => exact ⟨fun _ => Nat.le_refl _, fun _ _ => rfl⟩

theorem succeeds_writeAll (store : SettingsStore α) (writes : List (StoreWrite α)) :
    (store.writeAll writes).Succeeds store := by
  induction writes generalizing store with
  | nil => exact .refl store
  | cons write rest ih => exact (ih (write.apply store)).trans (succeeds_apply store write)

/-- Two moments of a run under the same generation read the settings that belong to it alike. -/
theorem get_writeAll_take (store : SettingsStore α) (writes : List (StoreWrite α)) {first second : Nat}
    (same : (store.writeAll (writes.take first)).generationOf parameter =
      (store.writeAll (writes.take second)).generationOf parameter) :
    (store.writeAll (writes.take first)).get parameter =
      (store.writeAll (writes.take second)).get parameter := by
  have later : ∀ start steps, (store.writeAll (writes.take (start + steps))).Succeeds
      (store.writeAll (writes.take start)) := by
    intro start steps
    rw [List.take_add, writeAll, List.foldl_append]
    exact succeeds_writeAll _ _
  rcases Nat.le_total first second with before | after
  · obtain ⟨steps, rfl⟩ := Nat.exists_eq_add_of_le before
    exact ((later first steps).setting parameter same).symm
  · obtain ⟨steps, rfl⟩ := Nat.exists_eq_add_of_le after
    exact (later second steps).setting parameter same.symm

/-- A setting reads differently in two stores. -/
def Differs (first second : SettingsStore α) (parameter : Parameter) : Prop :=
  (first.get parameter == second.get parameter) = false

/-- A flag that is on is written with a number that stands for on but is not one. -/
structure Restates (store : SettingsStore α) (parameter : Parameter) (value : α) : Prop where
  flag : parameter.isNumeric = false
  on : (store.get parameter == 1.0) = true
  nonzero : (value == 0.0) = false
  other : (value == 1.0) = false

/-- How a write to one setting comes out. -/
structure WriteOutcome (store : SettingsStore α) (parameter : Parameter) (value : α) : Prop where
  /-- A change is reported where the setting reads differently or is restated, and nowhere else. -/
  reported : store.changes parameter value = true ↔
    (store.set parameter value).Differs store parameter ∨ store.Restates parameter value
  /-- A setting that is restated reads as before. -/
  restated : store.Restates parameter value → ¬ (store.set parameter value).Differs store parameter
  /-- A reported change raises the generations that the setting belongs to by one, and no others. -/
  raised : store.changes parameter value = true → ∀ other,
    (store.set parameter value).generationOf other =
      if other.affectsText = parameter.affectsText then store.generationOf other + 1
      else store.generationOf other
  still : store.changes parameter value = false → store.set parameter value = store
  others : ∀ other ≠ parameter, (store.set parameter value).get other = store.get other

end SettingsStore

namespace SettingsStore

variable {store : SettingsStore Float} {parameter : Parameter} {value : Float}

theorem changes_eq_false_iff :
    store.changes parameter value = false ↔ (store.get parameter == value) = true := by
  rw [changes, Bool.not_eq_false']

/-- A write that reports no change leaves every setting as it reads. -/
theorem not_differs_of_unchanged (unchanged : store.changes parameter value = false) :
    ¬ (store.set parameter value).Differs store parameter := by
  have same := changes_eq_false_iff.mp unchanged
  rw [set_of_unchanged unchanged, Differs, PartialEquivBEq.trans same (PartialEquivBEq.symm same)]
  exact Bool.noConfusion

theorem differs_of_numeric (numeric : parameter.isNumeric = true)
    (changes : store.changes parameter value = true) :
    (store.set parameter value).Differs store parameter := by
  rw [Differs, get_set_of_changes changes, Settings.get_put_numeric numeric, BEq.comm]
  simpa [SettingsStore.changes] using changes

/-- A flag that is off is switched by every number that is reported as a change. -/
theorem differs_of_off (flag : parameter.isNumeric = false) (off : store.get parameter = 0.0)
    (changes : store.changes parameter value = true) :
    (store.set parameter value).Differs store parameter := by
  have on : (value == 0.0) = false := by
    rw [BEq.comm, ← off]
    simpa [SettingsStore.changes] using changes
  rw [Differs, get_set_of_changes changes, Settings.get_put_flag flag, off, Settings.valueFlag, on]
  decide

/-- A flag that is on is switched by zero alone. -/
theorem differs_iff_of_on (flag : parameter.isNumeric = false) (on : store.get parameter = 1.0)
    (changes : store.changes parameter value = true) :
    (store.set parameter value).Differs store parameter ↔ (value == 0.0) = true := by
  rw [Differs, get_set_of_changes changes, Settings.get_put_flag flag, on, Settings.valueFlag]
  cases value == 0.0 <;> decide

/-- What is restated is reported as a change. -/
theorem restates_iff_of_on (flag : parameter.isNumeric = false) (on : store.get parameter = 1.0) :
    store.Restates parameter value ↔ store.changes parameter value = true ∧ (value == 0.0) = false := by
  have one : ((1.0 : Float) == 1.0) = true := by decide
  rw [changes, on, Bool.not_eq_true', BEq.comm (a := 1.0)]
  constructor
  · rintro ⟨-, -, nonzero, other⟩
    exact ⟨other, nonzero⟩
  · rintro ⟨other, nonzero⟩
    exact ⟨flag, by rw [on]; exact one, nonzero, other⟩

/-- Nothing but a flag that is on can be restated. -/
theorem Restates.get_eq (restates : store.Restates parameter value) : store.get parameter = 1.0 := by
  obtain ⟨flagged, read⟩ := Settings.exists_flagValue restates.flag store.settings
  have on := restates.on
  rw [get, read] at on ⊢
  cases flagged with
  | true => rfl
  | false => exact absurd on (by decide)

theorem not_differs_of_restates (restates : store.Restates parameter value) :
    ¬ (store.set parameter value).Differs store parameter := by
  have on := restates.get_eq
  have changes := ((restates_iff_of_on restates.flag on).mp restates).1
  rw [differs_iff_of_on restates.flag on changes, restates.nonzero]
  exact Bool.noConfusion

theorem changes_iff : store.changes parameter value = true ↔
    (store.set parameter value).Differs store parameter ∨ store.Restates parameter value := by
  constructor
  · intro changes
    cases kind : parameter.isNumeric with
    | true => exact .inl (differs_of_numeric kind changes)
    | false =>
      obtain ⟨flagged, read⟩ := Settings.exists_flagValue kind store.settings
      cases flagged with
      | false => exact .inl (differs_of_off kind read changes)
      | true =>
        cases zeroed : value == 0.0 with
        | true => exact .inl ((differs_iff_of_on kind read changes).mpr zeroed)
        | false => exact .inr ((restates_iff_of_on kind read).mpr ⟨changes, zeroed⟩)
  · rintro (differs | restates)
    · by_contra unchanged
      exact not_differs_of_unchanged (Bool.not_eq_true _ ▸ unchanged) differs
    · exact ((restates_iff_of_on restates.flag restates.get_eq).mp restates).1

/-- Every write to a setting comes out so, and two moments of a run of writes read a setting alike when the
generation that it belongs to is the same. A reported change reads differently afterwards, except where a flag
is restated. -/
theorem writes_reported (store : SettingsStore Float) :
    (∀ parameter value, store.WriteOutcome parameter value) ∧
      ∀ (writes : List (StoreWrite Float)) (first second : Nat) (parameter : Parameter),
        (store.writeAll (writes.take first)).generationOf parameter =
            (store.writeAll (writes.take second)).generationOf parameter →
          (store.writeAll (writes.take first)).get parameter =
            (store.writeAll (writes.take second)).get parameter := by
  refine ⟨fun parameter value => ?_, fun writes first second parameter same =>
    get_writeAll_take store writes same⟩
  exact
    { reported := changes_iff
      restated := not_differs_of_restates
      raised := fun changes other => by rw [generationOf_set]; simp [changes]
      still := set_of_unchanged
      others := fun other apart => get_set_of_ne apart store value }

/-- The safety contour is written, and then its depth is written again. -/
theorem writes_reported_contour :
    let store : SettingsStore Float := .standard
    let writes : List (StoreWrite Float) := [.set .safetyContour 10.0, .setFlag .showText false,
      .set .safetyContour 10.0]
    (store.set .safetyContour 10.0).Differs store .safetyContour ∧
      (store.writeAll (writes.take 3)).generationOf .deepContour = 2 ∧
      (store.writeAll (writes.take 1)).get .deepContour = (store.writeAll (writes.take 3)).get .deepContour := by
  intro store writes
  obtain ⟨outcomes, moments⟩ := writes_reported store
  have changes : store.changes .safetyContour 10.0 = true := by decide
  have numeric : ¬ store.Restates .safetyContour 10.0 := fun restates => Bool.noConfusion restates.flag
  have generation : (store.writeAll (writes.take 3)).generationOf .deepContour = 2 := by decide
  exact ⟨((outcomes .safetyContour 10.0).reported.mp changes).resolve_right numeric, generation,
    moments writes 1 3 .deepContour (by decide)⟩

/-- Symbolized boundaries are on, and stay on when two is written to them, which is reported as a change. -/
theorem not_reported_by_difference :
    ¬ ∀ (store : SettingsStore Float) (parameter : Parameter) (value : Float), value.isNaN = false →
      (store.changes parameter value = true ↔ (store.set parameter value).Differs store parameter) := by
  intro reported
  have differs := (reported .standard .symbolizedBoundaries 2.0 (by decide)).mp (by decide)
  exact absurd differs (by unfold Differs; decide)

end SettingsStore

end ChartPortrayal
