import ChartPortrayal.Portrayal.Report
import ChartPortrayal.Proofs.Agreement
import ChartPortrayal.Proofs.Chart.Assignment
import ChartPortrayal.Proofs.Refresh

/-! Link generations may be counted otherwise. They only tell stale slots from current ones, so a portrayal whose
generations were renumbered is brought up to date when the other is, and answers alike. -/

namespace ChartPortrayal

/-- Another count of link generations, which keeps them apart. From some generation on it goes up by one
whenever the old count does. -/
structure Renumbering where
  change : Nat → Nat
  injective : ∀ first second, change first = change second → first = second
  onset : Nat
  counts : ∀ generation, onset ≤ generation → change (generation + 1) = change generation + 1

variable {α : Type} {numbering : Renumbering}

namespace SortedMap

variable {κ ν : Type} [SortKey κ]

theorem mapValues_insert (map : SortedMap κ ν) (change : ν → ν) (key : κ) (value : ν) :
    (map.insert key value).mapValues (fun _ => change) =
      (map.mapValues (fun _ => change)).insert key (change value) := by
  apply ext_find?
  intro other
  simp only [find?_mapValues, find?_insert]
  split
  · rfl
  · rfl

theorem mapValues_erase (map : SortedMap κ ν) (change : ν → ν) (key : κ) :
    (map.erase key).mapValues (fun _ => change) = (map.mapValues (fun _ => change)).erase key := by
  apply ext_find?
  intro other
  simp only [find?_mapValues, find?_erase]
  split
  · rfl
  · rfl

theorem mapValues_comm (map : SortedMap κ ν) (first second : κ → ν → ν)
    (commute : ∀ key value, first key (second key value) = second key (first key value)) :
    (map.mapValues second).mapValues first = (map.mapValues first).mapValues second := by
  apply ext_find?
  intro key
  simp only [find?_mapValues, Option.map_map, Function.comp_def, commute]

theorem keys_mapValues (map : SortedMap κ ν) (change : κ → ν → ν) :
    (map.mapValues change).keys = map.keys := by
  simp [keys, mapValues, Function.comp_def]

end SortedMap

namespace Chart

/-- The same features under another count of generations. -/
def renumber (numbering : Renumbering) (chart : Chart α) : Chart α :=
  { chart with linkGeneration := numbering.change chart.linkGeneration }

variable {chart : Chart α}

theorem erase_renumber (late : numbering.onset ≤ chart.linkGeneration) (id : Nat) :
    (chart.renumber numbering).erase id = (chart.erase id).renumber numbering := by
  by_cases present : chart.contains id = true
  · have there : (chart.renumber numbering).contains id = true := present
    unfold erase
    rw [if_pos there, if_pos present]
    simp only [renumber, numbering.counts _ late]
  · have missing : ¬ (chart.renumber numbering).contains id = true := present
    unfold erase
    rw [if_neg missing, if_neg present]

theorem eraseCell_renumber (late : numbering.onset ≤ chart.linkGeneration) (cell : Nat) :
    (chart.renumber numbering).eraseCell cell = (chart.eraseCell cell).renumber numbering := by
  have listed : (chart.renumber numbering).cellFeatures cell = chart.cellFeatures cell := rfl
  unfold eraseCell
  rw [listed]
  dsimp only
  split
  · rfl
  · simp only [renumber, numbering.counts _ late]

theorem setLink_renumber (late : numbering.onset ≤ chart.linkGeneration) (id : Nat) (role : LinkRole)
    (target : Option Nat) :
    (chart.renumber numbering).setLink id role target =
      (chart.setLink id role target).renumber numbering := by
  have same : (chart.renumber numbering).find? id = chart.find? id := rfl
  unfold setLink
  rw [same]
  cases chart.find? id with
  | none => rfl
  | some feature =>
    by_cases unchanged : feature.link? role = target
    · simp only [unchanged, ↓reduceIte]
      rfl
    · simp only [unchanged, ↓reduceIte, renumber, numbering.counts _ late]
      rfl

theorem assign_renumber (late : numbering.onset ≤ chart.linkGeneration)
    (assignments : List Linking.Assignment) :
    (chart.renumber numbering).assign assignments = (chart.assign assignments).renumber numbering := by
  induction assignments generalizing chart with
  | nil => rfl
  | cons assignment rest ih =>
    have grown := (chart.tracks_setLink assignment.consumer assignment.role assignment.target).generation_le
    rw [assign_cons, assign_cons, setLink_renumber late, ih (Nat.le_trans late grown)]

variable [Quantity α]

theorem resolveCell_renumber (late : numbering.onset ≤ chart.linkGeneration) (cell : Nat) :
    (chart.renumber numbering).resolveCell cell =
      ((chart.resolveCell cell).1.renumber numbering, (chart.resolveCell cell).2) :=
  congrArg (·, (chart.resolveCell cell).2) (assign_renumber late _)

theorem resolveCells_renumber (late : numbering.onset ≤ chart.linkGeneration) (cells : List Nat) :
    (chart.renumber numbering).resolveCells cells =
      ((chart.resolveCells cells).1.renumber numbering, (chart.resolveCells cells).2) := by
  induction cells generalizing chart with
  | nil => rfl
  | cons cell rest ih =>
    have grown := (chart.tracks_resolveCell cell).generation_le
    simp only [resolveCells, resolveCell_renumber late, ih (Nat.le_trans late grown)]

end Chart

/-- A procedure that does not look at the count of link generations. -/
def Procedure.IgnoresGeneration (procedure : Procedure α) : Prop :=
  ∀ (situation : Situation α) (generation : Nat),
    procedure.compute (situation.onChart { situation.chart with linkGeneration := generation }) =
      procedure.compute situation

theorem Procedure.IsLocal.ignoresGeneration {procedure : Procedure α} (isLocal : procedure.IsLocal) :
    procedure.IgnoresGeneration :=
  fun _ _ => isLocal _ _ ⟨rfl, rfl, rfl, fun _ => rfl⟩

/-- No procedure of the library looks at the count of link generations. -/
def Library.IgnoresGeneration (library : Library α) : Prop :=
  ∀ name procedure, library.procedures.find? name = some procedure → procedure.IgnoresGeneration

theorem Library.IsPlain.ignoresGeneration [Quantity α] {library : Library α} (plain : library.IsPlain) :
    library.IgnoresGeneration :=
  fun name procedure found => (plain name procedure found).isLocal.ignoresGeneration

def Stamp.renumber (numbering : Renumbering) (stamp : Stamp) : Stamp :=
  { stamp with links := numbering.change stamp.links }

theorem Stamp.renumber_injective {first second : Stamp}
    (same : first.renumber numbering = second.renumber numbering) : first = second := by
  obtain ⟨symbology, links, rule⟩ := first
  obtain ⟨otherSymbology, otherLinks, otherRule⟩ := second
  simp only [renumber, Stamp.mk.injEq] at same ⊢
  exact ⟨same.1, numbering.injective _ _ same.2.1, same.2.2⟩

def Slot.renumber (numbering : Renumbering) (slot : Slot α) : Slot α :=
  { slot with stamp := slot.stamp.map (Stamp.renumber numbering) }

def Scene.renumber (numbering : Renumbering) (scene : Scene α) : Scene α :=
  { scene with chart := scene.chart.renumber numbering }

def Portrayal.renumber (numbering : Renumbering) (portrayal : Portrayal α) : Portrayal α :=
  { portrayal with
    primary := portrayal.primary.renumber numbering
    alternate := portrayal.alternate.renumber numbering }

namespace Portrayal

theorem slot_renumber (portrayal : Portrayal α) (variant : Variant) :
    (portrayal.renumber numbering).slot variant = (portrayal.slot variant).renumber numbering := by
  cases variant with
  | primary => rfl
  | alternate => rfl

theorem setSlot_renumber (portrayal : Portrayal α) (variant : Variant) (slot : Slot α) :
    (portrayal.renumber numbering).setSlot variant (slot.renumber numbering) =
      (portrayal.setSlot variant slot).renumber numbering := by
  cases variant with
  | primary => rfl
  | alternate => rfl

end Portrayal

variable [Quantity α]

theorem Scene.stamp_renumber (scene : Scene α) (feature : Feature α) (variant : Variant) :
    (scene.renumber numbering).stamp feature variant =
      (scene.stamp feature variant).renumber numbering := rfl

/-- Building a slot under another count gives the same slot, stamped with that count. -/
theorem Scene.build_renumber {scene : Scene α} (ignores : scene.library.IgnoresGeneration)
    (feature : Feature α) (variant : Variant) :
    (scene.renumber numbering).build feature variant =
      (scene.build feature variant).map (Slot.renumber numbering) := by
  have choice : (scene.renumber numbering).choose feature variant = scene.choose feature variant := rfl
  have library : (scene.renumber numbering).library = scene.library := rfl
  unfold Scene.build
  simp only [choice, library, stamp_renumber]
  cases compiled : scene.library.compileRule (scene.choose feature variant).rule
      ((scene.choose feature variant).index.getD 0) with
  | error error => rfl
  | ok commands =>
    have answers : ∀ name procedure, Command.callConditional name procedure ∈ commands →
        procedure.compute ((scene.renumber numbering).situation feature variant) =
          procedure.compute (scene.situation feature variant) := by
      intro name procedure member
      have called := Library.find?_of_compile (Library.compileRule_ok.mp compiled).1 member
      exact ignores name procedure called (scene.situation feature variant)
        (numbering.change scene.chart.linkGeneration)
    have className : ((scene.renumber numbering).situation feature variant).feature.className =
        (scene.situation feature variant).feature.className := rfl
    have expanded := expand_congr library className answers
    simp only [expanded]
    cases scene.expand (scene.situation feature variant)
        ⟨[], (scene.choose feature variant).rule.priority, none, none⟩ commands with
    | error error => rfl
    | ok expansion => rfl

namespace Portrayal

variable {scene : Scene α}

/-- A slot is current under one count exactly if it is current under the other. -/
theorem isCurrent_renumber (portrayal : Portrayal α) (scene : Scene α) (variant : Variant)
    (feature : Feature α) :
    (portrayal.renumber numbering).IsCurrent (scene.renumber numbering) variant feature ↔
      portrayal.IsCurrent scene variant feature := by
  unfold IsCurrent
  rw [slot_renumber, Scene.stamp_renumber]
  unfold Slot.renumber
  cases (portrayal.slot variant).stamp with
  | none => simp
  | some stamp =>
    simp only [Option.map_some, Option.some.injEq]
    exact ⟨Stamp.renumber_injective, fun same => by rw [same]⟩

theorem refresh_renumber (portrayal : Portrayal α) (ignores : scene.library.IgnoresGeneration)
    (variant : Variant) :
    (portrayal.renumber numbering).refresh (scene.renumber numbering) variant =
      ((portrayal.refresh scene variant).1.renumber numbering, (portrayal.refresh scene variant).2) := by
  have same : (scene.renumber numbering).chart.require (portrayal.renumber numbering).id =
      scene.chart.require portrayal.id := rfl
  unfold refresh
  rw [same]
  cases scene.chart.require portrayal.id with
  | error error => rfl
  | ok feature =>
    have current : ((portrayal.renumber numbering).slot variant).stamp =
        some ((scene.renumber numbering).stamp feature variant) ↔
          (portrayal.slot variant).stamp = some (scene.stamp feature variant) :=
      isCurrent_renumber portrayal scene variant feature
    simp only [current, Scene.build_renumber ignores]
    split
    · rfl
    · cases scene.build feature variant with
      | error error => rfl
      | ok slot => simp only [Except.map, setSlot_renumber]

theorem readSlot_renumber {β : Type} (portrayal : Portrayal α)
    (ignores : scene.library.IgnoresGeneration) (variant : Variant) {read : Slot α → β}
    (blind : ∀ slot : Slot α, read (slot.renumber numbering) = read slot) :
    (portrayal.renumber numbering).readSlot (scene.renumber numbering) variant read =
      ((portrayal.readSlot scene variant read).1.renumber numbering,
        (portrayal.readSlot scene variant read).2) := by
  unfold readSlot
  rw [refresh_renumber portrayal ignores]
  obtain ⟨current, error | ⟨⟩⟩ := portrayal.refresh scene variant
  · rfl
  · simp only [slot_renumber, blind]

theorem slotLabels_renumber (portrayal : Portrayal α) (scene : Scene α) (variant : Variant)
    (feature : Feature α) :
    (portrayal.renumber numbering).slotLabels (scene.renumber numbering) variant feature =
      ((portrayal.slotLabels scene variant feature).1.renumber numbering,
        (portrayal.slotLabels scene variant feature).2) := by
  have relabelled : ∀ labels : Option LabelCache,
      (portrayal.renumber numbering).setSlot variant
          { (portrayal.slot variant).renumber numbering with labels := labels } =
        (portrayal.setSlot variant { portrayal.slot variant with labels := labels }).renumber numbering :=
    fun labels => setSlot_renumber portrayal variant { portrayal.slot variant with labels := labels }
  have held : ((portrayal.slot variant).renumber numbering).labels = (portrayal.slot variant).labels := rfl
  have drawn : ((portrayal.slot variant).renumber numbering).commands = (portrayal.slot variant).commands := rfl
  have store : (scene.renumber numbering).store = scene.store := rfl
  simp only [slotLabels, slot_renumber, held, drawn, store]
  cases (portrayal.slot variant).labels.filter (fun cache => cache.generation = scene.store.textGeneration) with
  | some cache => rfl
  | none =>
    cases Label.ofCommands scene.store.settings feature (portrayal.slot variant).commands with
    | error error => rfl
    | ok texts => exact Prod.ext (relabelled (some ⟨_, texts⟩)) rfl

theorem labels_renumber (portrayal : Portrayal α) (ignores : scene.library.IgnoresGeneration)
    (variant : Variant) :
    (portrayal.renumber numbering).labels (scene.renumber numbering) variant =
      ((portrayal.labels scene variant).1.renumber numbering, (portrayal.labels scene variant).2) := by
  unfold labels
  rw [refresh_renumber portrayal ignores]
  obtain ⟨current, error | ⟨⟩⟩ := portrayal.refresh scene variant
  · rfl
  · have same : (scene.renumber numbering).chart.require (current.renumber numbering).id =
        scene.chart.require current.id := rfl
    simp only [same]
    cases scene.chart.require current.id with
    | error error => rfl
    | ok feature => exact slotLabels_renumber current scene variant feature

end Portrayal

end ChartPortrayal
