import ChartPortrayal.Proofs.Display.Coherence

namespace ChartPortrayal.Display

variable {α : Type} [Quantity α]

/-- The same library, chart and settings, with portrayals in which nothing was built. -/
def renewed (display : Display α) : Display α :=
  { display with portrayals := .ofList (display.chart.ids.map (fun id => (id, .fresh id))) }

/-- What is read off the slot that would be built now for a feature. -/
def reading {β : Type} (display : Display α) (id : Nat) (variant : Variant)
    (read : Feature α → Slot α → Except PortrayalError β) : Except PortrayalError β :=
  match display.feature? id with
  | none => .error (.unknownFeature id)
  | some feature => display.scene.build feature variant >>= read feature

/-- The labels that commands have under the settings of a display. -/
def labelling (display : Display α) (feature : Feature α) (slot : Slot α) :
    Except PortrayalError (List String) :=
  Label.ofCommands display.store.settings feature slot.commands

namespace Coherent

variable {display : Display α}

theorem renewed (coherent : display.Coherent) : display.renewed.Coherent := by
  have stored : ∀ id, display.renewed.portrayals.find? id =
      if id ∈ display.chart.ids then some (.fresh id) else none := by
    intro id
    exact SortedMap.find?_ofList_map display.chart.ids Portrayal.fresh id
  refine ⟨coherent.plain, coherent.identified, coherent.given, ?_, ?_, ?_⟩
  · intro id
    rw [stored, Bool.eq_iff_iff, Option.isSome_ite]
    exact display.chart.features.mem_keys_iff id
  · intro id portrayal found
    rw [stored] at found
    split at found <;> cases found
    rfl
  · intro id portrayal found
    rw [stored] at found
    split at found <;> cases found
    exact Portrayal.faithful_fresh id _

/-- A feature of the chart has a faithful portrayal, and any other identifier has none. -/
theorem portrayal (coherent : display.Coherent) (id : Nat) :
    (display.feature? id = none ∧ display.portrayals.find? id = none) ∨
    ∃ feature portrayal, display.feature? id = some feature ∧
      display.portrayals.find? id = some portrayal ∧ portrayal.Faithful display.scene ∧
      display.scene.chart.find? portrayal.id = some feature := by
  have portrayed := coherent.portrayed id
  cases found : display.portrayals.find? id with
  | none =>
    rw [found] at portrayed
    exact .inl ⟨Option.not_isSome_iff_eq_none.mp (by simp [feature?, ← portrayed]), rfl⟩
  | some portrayal =>
    rw [found] at portrayed
    obtain ⟨feature, present⟩ := Option.isSome_iff_exists.mp portrayed.symm
    refine .inr ⟨feature, portrayal, present, rfl, coherent.faithful id portrayal found, ?_⟩
    rw [coherent.own id portrayal found]
    exact present

theorem readSlot {β : Type} (coherent : display.Coherent) (id : Nat) (variant : Variant)
    {read : Slot α → β} (blind : ∀ slot : Slot α, read slot.unlabelled = read slot) :
    (display.request id (fun portrayal => portrayal.readSlot display.scene variant read)).2 =
      display.reading id variant (fun _ slot => .ok (read slot)) := by
  unfold Display.request reading
  rcases coherent.portrayal id with ⟨absent, missing⟩ | ⟨feature, portrayal, present, found, kept, there⟩
  · rw [absent, missing]
  · rw [present, found]
    exact kept.readSlot there variant blind

theorem commands_snd (coherent : display.Coherent) (id : Nat) (variant : Variant) :
    (display.commands id variant).2 = display.reading id variant (fun _ slot => .ok slot.commands) :=
  coherent.readSlot id variant (fun _ => rfl)

theorem priority_snd (coherent : display.Coherent) (id : Nat) (variant : Variant) :
    (display.priority id variant).2 = display.reading id variant (fun _ slot => .ok slot.priority) :=
  coherent.readSlot id variant (fun _ => rfl)

theorem labels_snd (coherent : display.Coherent) (id : Nat) (variant : Variant) :
    (display.labels id variant).2 = display.reading id variant display.labelling := by
  unfold Display.labels Display.request reading
  rcases coherent.portrayal id with ⟨absent, missing⟩ | ⟨feature, portrayal, present, found, kept, there⟩
  · rw [absent, missing]
  · rw [present, found]
    cases built : display.scene.build feature variant with
    | error error =>
      simp only [kept.labels_error there built, built]
      rfl
    | ok slot =>
      obtain ⟨current, answered, -⟩ := kept.labels_ok there built
      simp only [answered, built]
      rfl

theorem describe_snd (coherent : display.Coherent) (id : Nat) (variant : Variant) :
    (display.describe id variant).2 = display.reading id variant (fun feature slot =>
      (display.labelling feature slot).map (Report.ofSlot feature variant slot)) := by
  unfold Display.describe Display.labels Display.request reading
  rcases coherent.portrayal id with ⟨absent, missing⟩ | ⟨feature, portrayal, present, found, kept, there⟩
  · rw [absent, missing]
  · rw [present, found]
    cases built : display.scene.build feature variant with
    | error error =>
      simp only [kept.labels_error there built, built]
      rfl
    | ok slot =>
      obtain ⟨current, answered, -, -, bare⟩ := kept.labels_ok there built
      have stored : (display.portrayals.insert id current).find? id = some current := by
        rw [SortedMap.find?_insert, if_pos (SortKey.order_self id)]
      have present : display.chart.find? id = some feature := present
      have resolved : display.labelling feature slot =
        Label.ofCommands display.scene.store.settings feature slot.commands := rfl
      simp only [answered, built]
      change _ = (display.labelling feature slot).map _
      rw [resolved]
      cases Label.ofCommands display.scene.store.settings feature slot.commands with
      | error error => rfl
      | ok labels =>
        simp only [feature?, present, stored, ← bare]
        rfl

end Coherent

/-- After any run of admissible requests from a new display, commands, priority, labels and report of every
feature are answered as if nothing had been built before. -/
theorem run_answers_renewed {library : Library α} (plain : library.IsPlain) (store : SettingsStore α)
    (eagerFinalize : Bool) {requests : List (Request α)}
    (admissible : ∀ request ∈ requests, Admissible request) (id : Nat) (variant : Variant) :
    let display := (start library store eagerFinalize).run requests
    (display.commands id variant).2 = (display.renewed.commands id variant).2 ∧
      (display.priority id variant).2 = (display.renewed.priority id variant).2 ∧
      (display.labels id variant).2 = (display.renewed.labels id variant).2 ∧
      (display.describe id variant).2 = (display.renewed.describe id variant).2 := by
  intro display
  have coherent : display.Coherent := coherent_run plain store eagerFinalize admissible
  have anew := coherent.renewed
  refine ⟨?_, ?_, ?_, ?_⟩
  · rw [coherent.commands_snd, anew.commands_snd]
    rfl
  · rw [coherent.priority_snd, anew.priority_snd]
    rfl
  · rw [coherent.labels_snd, anew.labels_snd]
    rfl
  · rw [coherent.describe_snd, anew.describe_snd]
    rfl

/-- A topmark was built on its buoy; when the buoy is gone the slot still holds the symbol for floating
structures, but the answer is the one for rigid structures. -/
theorem run_answers_renewed_topmark :
    let library : Library Rat :=
      (Library.standard.addDefinitions [.blank .symbol "TOPMAR02", .blank .symbol "TOPMAR22"]).addRule
        (.plain "TOPMAR" .simplifiedPoints "CS(TOPMAR01)" .standard)
    let topmark : Feature Rat := (Feature.plain "TOPMAR" .point).setAttribute "TOPSHP" "1"
    let requests : List (Request Rat) :=
      [.loadCell 3 [.plain "BOYLAT" .point, topmark], .commands 2 .primary, .erase 1]
    let display := (start library .standard false).run requests
    library.IsPlain ∧ (∀ request ∈ requests, Admissible request) ∧
      (display.portrayals.find? 2).map (fun portrayal =>
        (portrayal.slot .primary).commands.map Command.text) = some ["SY(TOPMAR02)"] ∧
      (display.commands 2 .primary).2.toOption.map (·.map Command.text) = some ["SY(TOPMAR22)"] ∧
      (display.commands 2 .primary).2 = (display.renewed.commands 2 .primary).2 := by
  intro library topmark requests display
  have plain : library.IsPlain := Library.isPlain_of_standard rfl
  have admissible : ∀ request ∈ requests, Admissible request := by
    simp [requests, Admissible, topmark, Feature.plain, Feature.setAttribute]
  exact ⟨plain, admissible, by decide +kernel, by decide +kernel,
    (run_answers_renewed plain .standard false admissible 2 .primary).1⟩

end ChartPortrayal.Display
