import ChartPortrayal.Proofs.Display.Request
import ChartPortrayal.Proofs.Locality

namespace ChartPortrayal

variable {α : Type} [Quantity α]

/-- Only the settings for texts are changed by a write to one of them. -/
theorem Settings.unlabelled_put {parameter : Parameter} (texts : parameter.affectsText = true)
    (settings : Settings α) (value : α) :
    (settings.put parameter value).unlabelled = settings.unlabelled := by
  cases parameter <;> first | rfl | cases texts

namespace SettingsStore

/-- One store comes after another by writes: no generation falls, and one that stands still vouches for the
settings that depend on it. -/
structure Follows (after before : SettingsStore α) : Prop where
  symbology : before.symbologyGeneration ≤ after.symbologyGeneration
  texts : before.textGeneration ≤ after.textGeneration
  unlabelled : before.symbologyGeneration = after.symbologyGeneration →
    after.settings.unlabelled = before.settings.unlabelled
  settings : before.symbologyGeneration = after.symbologyGeneration →
    before.textGeneration = after.textGeneration → before.settings = after.settings

namespace Follows

omit [Quantity α] in
theorem refl (store : SettingsStore α) : store.Follows store :=
  ⟨Nat.le_refl _, Nat.le_refl _, fun _ => rfl, fun _ _ => rfl⟩

omit [Quantity α] in
theorem trans {first second third : SettingsStore α} (later : third.Follows second)
    (earlier : second.Follows first) : third.Follows first := by
  -- generations that are the same at both ends were the same in between
  have between : ∀ {one two three : Nat}, one ≤ two → two ≤ three → one = three →
      one = two ∧ two = three := by omega
  refine ⟨Nat.le_trans earlier.symbology later.symbology, Nat.le_trans earlier.texts later.texts, ?_, ?_⟩
  · intro symbology
    obtain ⟨before, after⟩ := between earlier.symbology later.symbology symbology
    rw [later.unlabelled after, earlier.unlabelled before]
  · intro symbology texts
    obtain ⟨before, after⟩ := between earlier.symbology later.symbology symbology
    obtain ⟨beforeTexts, afterTexts⟩ := between earlier.texts later.texts texts
    rw [earlier.settings before beforeTexts, later.settings after afterTexts]

end Follows

theorem follows_set (store : SettingsStore α) (parameter : Parameter) (value : α) :
    (store.set parameter value).Follows store := by
  unfold set
  by_cases changes : store.changes parameter value = true
  · rw [if_pos changes]
    by_cases texts : parameter.affectsText = true
    · rw [if_pos texts]
      refine ⟨Nat.le_refl _, Nat.le_succ _, ?_, ?_⟩
      · intro _
        exact Settings.unlabelled_put texts store.settings value
      · intro _ raised
        exact absurd raised (Nat.ne_of_lt (Nat.lt_succ_self _))
    · rw [if_neg texts]
      refine ⟨Nat.le_succ _, Nat.le_refl _, ?_, ?_⟩
      · intro raised
        exact absurd raised (Nat.ne_of_lt (Nat.lt_succ_self _))
      · intro raised
        exact absurd raised (Nat.ne_of_lt (Nat.lt_succ_self _))
  · rw [if_neg changes]
    exact .refl store

theorem follows_replace (store : SettingsStore α) (settings : Settings α) :
    (store.replace settings).Follows store := by
  unfold replace
  generalize Parameter.all = parameters
  induction parameters generalizing store with
  | nil => exact .refl store
  | cons parameter rest ih => exact (ih _).trans (follows_set store parameter _)

/-- Every write leads to a store that follows. -/
theorem follows_apply (store : SettingsStore α) (write : StoreWrite α) :
    (write.apply store).Follows store := by
  cases write with
  | set parameter value => exact follows_set store parameter value
  | setFlag parameter flag => exact follows_set store parameter _
  | replace settings => exact follows_replace store settings
  | showCategory category =>
    exact ⟨Nat.le_refl _, Nat.le_refl _, fun _ => rfl, fun _ _ => rfl⟩
  | suppress className =>
    change (store.suppress className).Follows store
    unfold suppress
    split
    · exact .refl store
    · exact ⟨Nat.le_refl _, Nat.le_refl _, fun _ => rfl, fun _ _ => rfl⟩
  | unsuppress className =>
    exact ⟨Nat.le_refl _, Nat.le_refl _, fun _ => rfl, fun _ _ => rfl⟩

/-- Symbology takes no notice of a write to a setting for texts, nor of one of the value that is there. -/
def Ignores (store : SettingsStore α) (parameter : Parameter) (value : α) : Prop :=
  parameter.affectsText = true ∨ store.changes parameter value = false

/-- What is ignored stays so as long as the generation of symbology stands still. -/
theorem Ignores.follow {before after : SettingsStore α} {parameter : Parameter} {value : α}
    (ignores : before.Ignores parameter value) (follows : after.Follows before)
    (same : before.symbologyGeneration = after.symbologyGeneration) : after.Ignores parameter value := by
  by_cases texts : parameter.affectsText = true
  · exact .inl texts
  · have read : ∀ settings : Settings α, settings.unlabelled.get parameter = settings.get parameter := by
      intro settings
      cases parameter <;> first | rfl | exact absurd rfl texts
    have unchanged := ignores.resolve_left texts
    refine .inr ?_
    rwa [changes, get, ← read, follows.unlabelled same, read]

theorem symbologyGeneration_set {store : SettingsStore α} {parameter : Parameter} {value : α}
    (ignores : store.Ignores parameter value) :
    (store.set parameter value).symbologyGeneration = store.symbologyGeneration := by
  unfold set
  split
  · next changes =>
    rw [if_pos (ignores.resolve_right (by simp [changes]))]
  · rfl

theorem symbologyGeneration_replace {store : SettingsStore α} {settings : Settings α}
    (ignores : ∀ parameter, store.Ignores parameter (settings.get parameter)) :
    (store.replace settings).symbologyGeneration = store.symbologyGeneration := by
  unfold replace
  generalize Parameter.all = parameters
  induction parameters generalizing store with
  | nil => rfl
  | cons parameter rest ih =>
    have here := symbologyGeneration_set (ignores parameter)
    have later := ih (fun other =>
      (ignores other).follow (follows_set store parameter (settings.get parameter)) here.symm)
    exact later.trans here

end SettingsStore

/-- Symbology takes no notice of a write: every setting it writes is one for texts or has that value, or it is
one to the filters. -/
def StoreWrite.IsIgnored (store : SettingsStore α) : StoreWrite α → Prop
  | set parameter value => store.Ignores parameter value
  | setFlag parameter flag => store.Ignores parameter (Settings.flagValue flag)
  | replace settings => ∀ parameter, store.Ignores parameter (settings.get parameter)
  | showCategory _ => True
  | suppress _ => True
  | unsuppress _ => True

theorem SettingsStore.symbologyGeneration_apply {store : SettingsStore α} {write : StoreWrite α}
    (ignored : write.IsIgnored store) :
    (write.apply store).symbologyGeneration = store.symbologyGeneration := by
  cases write with
  | set parameter value => exact symbologyGeneration_set ignored
  | setFlag parameter flag => exact symbologyGeneration_set ignored
  | replace settings => exact symbologyGeneration_replace ignored
  | showCategory category => rfl
  | suppress className =>
    change (store.suppress className).symbologyGeneration = _
    unfold suppress
    split <;> rfl
  | unsuppress className => rfl

end ChartPortrayal
