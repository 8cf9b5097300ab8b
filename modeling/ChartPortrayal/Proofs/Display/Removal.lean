import ChartPortrayal.Proofs.Display.Ledger
import ChartPortrayal.Proofs.Display.Renumbering

/-! Removing the features of a cell at one stroke and removing them one by one come to the same. The count of
link generations tells how it was done, but whatever was built before is stale both ways. -/

namespace ChartPortrayal

variable {α : Type}

/-- So much more is counted after some generation. -/
def Renumbering.delay (last extra : Nat) : Renumbering where
  change generation := if generation ≤ last then generation else generation + extra
  injective first second same := by
    split at same <;> split at same <;> omega
  onset := last + 1
  counts generation late := by
    rw [if_neg (by omega), if_neg (by omega)]
    omega

namespace Renumbering

theorem change_of_le {last generation : Nat} (extra : Nat) (early : generation ≤ last) :
    (delay last extra).change generation = generation := if_pos early

theorem change_of_lt {last extra generation : Nat} (late : last < generation) :
    (delay last extra).change generation = generation + extra := if_neg (Nat.not_le.mpr late)

/-- What was built up to some generation is not touched when later ones are delayed. -/
theorem renumber_delay_slot {slot : Slot α} {last : Nat} (extra : Nat)
    (bounded : ∀ stamp, slot.stamp = some stamp → stamp.links ≤ last) :
    slot.renumber (delay last extra) = slot := by
  obtain ⟨stamp, commands, priority, binding, labels⟩ := slot
  unfold Slot.renumber
  cases stamp with
  | none => rfl
  | some stamp =>
    have early := change_of_le extra (bounded stamp rfl)
    simp only [Option.map_some, Stamp.renumber, early]

end Renumbering

theorem Portrayal.Dated.renumber_delay {portrayal : Portrayal α} {id generation : Nat}
    (dated : portrayal.Dated id generation) (extra : Nat) :
    portrayal.renumber (.delay generation extra) = portrayal := by
  have primary := Renumbering.renumber_delay_slot extra (dated.bounded .primary)
  have alternate := Renumbering.renumber_delay_slot extra (dated.bounded .alternate)
  unfold Portrayal.renumber
  rw [show portrayal.primary = portrayal.slot .primary from rfl, primary,
    show portrayal.alternate = portrayal.slot .alternate from rfl, alternate]
  rfl

/-- Entries may be erased in any order. -/
theorem SortedMap.foldl_erase_perm {ν : Type} {ids others : List Nat} (permuted : ids.Perm others)
    (map : SortedMap Nat ν) :
    ids.foldl (fun map id => map.erase id) map = others.foldl (fun map id => map.erase id) map := by
  apply ext_find?
  intro key
  simp only [find?_foldl_erase, permuted.mem_iff]

theorem SortedMap.nodup_keys {κ ν : Type} [SortKey κ] (map : SortedMap κ ν) : map.keys.Nodup := by
  rw [keys, List.Nodup, List.pairwise_map]
  refine map.ascending.imp (fun less same => ?_)
  rw [same, SortKey.order_self] at less
  cases less

namespace Chart

variable {chart : Chart α}

/-- The features of a chart are listed under their identifiers. -/
theorem Identified.map_id_list (identified : chart.Identified) : chart.list.map (·.id) = chart.ids := by
  rw [list, SortedMap.values, ids, SortedMap.keys, List.map_map]
  apply List.map_congr_left
  intro entry member
  exact identified.own entry.1 entry.2 ((chart.features.mem_entries_iff _ _).mp member)

theorem Identified.nodup_cellFeatures (identified : chart.Identified) (cell : Nat) :
    ((chart.cellFeatures cell).map (·.id)).Nodup := by
  have nodup : (chart.list.map (·.id)).Nodup := by
    rw [identified.map_id_list]
    exact chart.features.nodup_keys
  exact nodup.sublist (List.filter_sublist.map _)

end Chart

namespace Display

variable {display : Display α}

/-- A display without these features, which has counted so many generations more. -/
def lacking (display : Display α) (ids : List Nat) (extra : Nat) : Display α :=
  { display with
    chart := { display.chart with
      features := ids.foldl (fun features id => features.erase id) display.chart.features
      linkGeneration := display.chart.linkGeneration + extra }
    portrayals := ids.foldl (fun portrayals id => portrayals.erase id) display.portrayals }

/-- A cell is removed at one stroke, which is counted unless the cell is empty. -/
theorem eraseCell_eq_lacking (display : Display α) (cell : Nat) :
    display.eraseCell cell = display.lacking ((display.chart.cellFeatures cell).map (·.id))
      (min 1 ((display.chart.cellFeatures cell).map (·.id)).length) := by
  have portrayals : (display.eraseCell cell).portrayals =
      ((display.chart.cellFeatures cell).map (·.id)).foldl (fun portrayals id => portrayals.erase id)
        display.portrayals := List.foldl_map.symm
  have chart : (display.eraseCell cell).chart =
      (display.lacking ((display.chart.cellFeatures cell).map (·.id))
        (min 1 ((display.chart.cellFeatures cell).map (·.id)).length)).chart := by
    unfold Display.eraseCell Chart.eraseCell lacking
    dsimp only
    generalize (display.chart.cellFeatures cell).map (·.id) = ids
    cases ids with
    | nil => rfl
    | cons id rest =>
      have one : min 1 (rest.length + 1) = 1 := Nat.min_eq_left (Nat.succ_le_succ (Nat.zero_le _))
      simp only [List.isEmpty_cons, Bool.false_eq_true, ↓reduceIte, List.length_cons, one]
  rw [show display.eraseCell cell = { display with
    chart := (display.eraseCell cell).chart
    portrayals := (display.eraseCell cell).portrayals } from rfl, chart, portrayals]
  rfl

theorem lacking_perm (display : Display α) {ids others : List Nat} (permuted : ids.Perm others)
    (extra : Nat) : display.lacking ids extra = display.lacking others extra := by
  unfold lacking
  simp only [SortedMap.foldl_erase_perm permuted]

/-- More generations are counted, and the portrayals that are left were built before that. -/
theorem Aligned.renumber_lacking (aligned : display.Aligned) (ids : List Nat) (extra : Nat) :
    (display.lacking ids 1).renumber (.delay display.chart.linkGeneration extra) =
      display.lacking ids (1 + extra) := by
  have generation : (Renumbering.delay display.chart.linkGeneration extra).change
      (display.chart.linkGeneration + 1) = display.chart.linkGeneration + (1 + extra) := by
    rw [Renumbering.change_of_lt (Nat.lt_succ_self _)]
    omega
  have portrayals : (ids.foldl (fun portrayals id => portrayals.erase id)
      display.portrayals).mapValues (fun _ => Portrayal.renumber
        (.delay display.chart.linkGeneration extra)) =
        ids.foldl (fun portrayals id => portrayals.erase id) display.portrayals := by
    apply SortedMap.ext_find?
    intro id
    rw [SortedMap.find?_mapValues, SortedMap.find?_foldl_erase]
    split
    · rfl
    · cases found : display.portrayals.find? id with
      | none => rfl
      | some portrayal => rw [Option.map_some, (aligned.dated id portrayal found).renumber_delay]
  unfold lacking renumber Chart.renumber
  simp only [generation, portrayals]

theorem Aligned.mem_cell_iff (aligned : display.Aligned) (cell : Nat) {id : Nat} {feature : Feature α}
    (found : display.feature? id = some feature) :
    id ∈ (display.chart.cellFeatures cell).map (·.id) ↔ feature.cell = cell := by
  rw [List.mem_map]
  constructor
  · rintro ⟨other, listed, rfl⟩
    obtain ⟨present, here⟩ := (aligned.identified.mem_cellFeatures cell other).mp listed
    rw [feature?, present] at found
    cases found
    exact here
  · intro here
    have own := aligned.identified.own id feature found
    exact ⟨feature, (aligned.identified.mem_cellFeatures cell feature).mpr ⟨own ▸ found, here⟩, own⟩

variable [Quantity α]

/-- Every removal of a feature that is there is counted. -/
theorem run_erase {ids : List Nat} (nodup : ids.Nodup)
    (present : ∀ id ∈ ids, display.chart.contains id = true) :
    display.run (ids.map Request.erase) = display.lacking ids ids.length := by
  induction ids generalizing display with
  | nil => rfl
  | cons id rest ih =>
    obtain ⟨here, later⟩ := List.forall_mem_cons.mp present
    obtain ⟨fresh, distinct⟩ := List.nodup_cons.mp nodup
    have remaining : ∀ other ∈ rest, (display.erase id).chart.contains other = true := by
      intro other member
      have apart : other ≠ id := fun same => fresh (same ▸ member)
      have kept : (display.erase id).chart.find? other = display.chart.find? other := by
        rw [Display.erase, Chart.find?_erase, if_neg apart]
      exact (congrArg Option.isSome kept).trans (later other member)
    have erased : (display.erase id).lacking rest rest.length =
        display.lacking (id :: rest) (id :: rest).length := by
      unfold lacking Display.erase Chart.erase
      simp only [here, ↓reduceIte, List.foldl_cons, List.length_cons, Nat.add_assoc, Nat.add_comm 1]
    rw [← erased, ← ih distinct remaining]
    rfl

theorem Aligned.run_erase_cell (aligned : display.Aligned) {cell : Nat} {ids : List Nat}
    (permuted : ids.Perm ((display.chart.cellFeatures cell).map (·.id))) :
    display.run (ids.map Request.erase) =
      display.lacking ((display.chart.cellFeatures cell).map (·.id)) ids.length := by
  rw [← display.lacking_perm permuted]
  apply run_erase
  · exact permuted.nodup_iff.mpr (aligned.identified.nodup_cellFeatures cell)
  · intro id member
    obtain ⟨feature, listed, rfl⟩ := List.mem_map.mp (permuted.mem_iff.mp member)
    have found := ((aligned.identified.mem_cellFeatures cell feature).mp listed).1
    exact congrArg Option.isSome found

theorem AnswersAlike.refl (display : Display α) : display.AnswersAlike display := by
  constructor <;> intros <;> rfl

/-- Whether removals are counted once or each, no further question tells. -/
theorem Aligned.answersAlike_lacking (aligned : display.Aligned) (ids : List Nat) (count : Nat)
    (ignores : display.library.IgnoresGeneration) {further : List (Request α)}
    (ignore : ∀ request ∈ further, request.IgnoresGeneration) :
    ((display.lacking ids (min 1 count)).run further).AnswersAlike
      ((display.lacking ids count).run further) := by
  cases count with
  | zero => exact .refl _
  | succ extra =>
    have one : min 1 (extra + 1) = 1 := Nat.min_eq_left (Nat.succ_le_succ (Nat.zero_le _))
    rw [one, Nat.add_comm extra 1, ← aligned.renumber_lacking]
    have suits : (display.lacking ids 1).Suits (.delay display.chart.linkGeneration extra) :=
      ⟨Nat.le_refl _, ignores⟩
    obtain ⟨copied, suited⟩ := run_renumber suits ignore
    rw [copied]
    exact answersAlike_renumber suited

/-- Removing a cell at one stroke and removing its features one by one, in this order, come to the same. The
features of the cell are gone, and all others are as they were. If no procedure looks at the count of link
generations, neither of the library nor of one that is set later, then no further question tells the difference:
procedures are pure functions of the feature, its links and the settings. -/
structure RemovesAlike (display : Display α) (cell : Nat) (ids : List Nat) : Prop where
  features : (display.eraseCell cell).chart.features =
    (display.run (ids.map Request.erase)).chart.features
  portrayals : (display.eraseCell cell).portrayals = (display.run (ids.map Request.erase)).portrayals
  gone : ∀ id feature, display.feature? id = some feature → feature.cell = cell →
    (display.eraseCell cell).feature? id = none
  spared : ∀ id feature, display.feature? id = some feature → feature.cell ≠ cell →
    (display.eraseCell cell).feature? id = some feature ∧
      (display.eraseCell cell).portrayals.find? id = display.portrayals.find? id
  answers : display.library.IgnoresGeneration → ∀ further : List (Request α),
    (∀ request ∈ further, request.IgnoresGeneration) →
      ((display.eraseCell cell).run further).AnswersAlike
        ((display.run (ids.map Request.erase)).run further)

theorem Aligned.removesAlike (aligned : display.Aligned) {cell : Nat} {ids : List Nat}
    (permuted : ids.Perm ((display.chart.cellFeatures cell).map (·.id))) :
    display.RemovesAlike cell ids := by
  have gone : ∀ id feature, display.feature? id = some feature → feature.cell = cell →
      (display.eraseCell cell).feature? id = none := by
    intro id feature found here
    exact (display.chart.find?_eraseCell cell id).trans
      (if_pos ((aligned.mem_cell_iff cell found).mpr here))
  have spared : ∀ id feature, display.feature? id = some feature → feature.cell ≠ cell →
      (display.eraseCell cell).feature? id = some feature ∧
        (display.eraseCell cell).portrayals.find? id = display.portrayals.find? id := by
    intro id feature found elsewhere
    have unlisted := mt (aligned.mem_cell_iff cell found).mp elsewhere
    exact ⟨((display.chart.find?_eraseCell cell id).trans (if_neg unlisted)).trans found,
      (display.find?_portrayals_eraseCell cell id).trans (if_neg unlisted)⟩
  have single := aligned.run_erase_cell permuted
  have batch := display.eraseCell_eq_lacking cell
  refine ⟨?_, ?_, gone, spared, fun ignores further ignore => ?_⟩
  · rw [single, batch]
    rfl
  · rw [single, batch]
    rfl
  · rw [single, batch, ← permuted.length_eq]
    exact aligned.answersAlike_lacking _ _ ignores ignore

/-- Plain libraries do not look at the count, so that no further question tells how a cell was removed. -/
theorem Aligned.answersAlike_removed (aligned : display.Aligned) (plain : display.library.IsPlain) {cell : Nat}
    {ids : List Nat} (permuted : ids.Perm ((display.chart.cellFeatures cell).map (·.id)))
    {further : List (Request α)} (plainLater : ∀ library, .setLibrary library ∈ further → library.IsPlain) :
    ((display.eraseCell cell).run further).AnswersAlike
      ((display.run (ids.map Request.erase)).run further) := by
  refine (aligned.removesAlike permuted).answers plain.ignoresGeneration further (fun request listed => ?_)
  cases request with
  | setLibrary library => exact (plainLater library listed).ignoresGeneration
  | _ => trivial

/-- After any run of requests from a new display, the portrayed identifiers are those of the chart, and every
feature stands under its own. No identifier was given twice, and one is unknown exactly if it was never given
or was removed. And the features of any cell may be removed at one stroke, or one by one in any order: it comes to the same, and
further questions do not tell the difference as long as no procedure looks at the count of link generations. -/
theorem run_keeps_identities (library : Library α) (store : SettingsStore α) (eagerFinalize : Bool)
    (requests : List (Request α)) :
    let initial := start library store eagerFinalize
    let display := initial.run requests
    display.portrayals.keys = display.chart.ids ∧
      (∀ id feature, display.feature? id = some feature → feature.id = id) ∧
      (initial.idsGiven requests).Nodup ∧
      (∀ id variant other, (display.commands id variant).2 = .error (.unknownFeature other) ↔
        other = id ∧ (id ∉ initial.idsGiven requests ∨ id ∈ initial.idsRemoved requests)) ∧
      ∀ cell ids, ids.Perm ((display.chart.cellFeatures cell).map (·.id)) →
        display.RemovesAlike cell ids := by
  intro initial display
  have begun : initial.Aligned := .start library store eagerFinalize
  have aligned : display.Aligned := begun.run requests
  have accounted : Accounted initial display _ _ := .run begun requests
  refine ⟨aligned.keys_eq_ids, aligned.identified.own, accounted.nodup_given, ?_,
    fun _ _ permuted => aligned.removesAlike permuted⟩
  intro id variant other
  have present := accounted.present id
  have bare : (initial.chart.find? id).isSome = false := rfl
  rw [bare] at present
  rw [aligned.commands_unknown_iff, feature?, ← Option.not_isSome_iff_eq_none, present]
  simp only [Bool.false_eq_true, false_or, Classical.not_and_iff_not_or_not, Classical.not_not]

/-- A buoy and its topmark are loaded twice, and the first buoy is removed twice: its identifier is not given
again, and what is left of the cell may be removed from the last feature to the first. -/
theorem run_keeps_identities_reload :
    let load : Request Rat := .loadCell 3 [.plain "BOYLAT" .point, .plain "TOPMAR" .point]
    let requests := [load, .erase 9, .insert (.plain "OBSTRN" .point), .erase 1, .erase 1, load]
    let initial := start Library.standard SettingsStore.standard false
    let display := initial.run requests
    let further : List (Request Rat) := [.commands 3 .primary, .insert (.plain "LIGHTS" .point)]
    initial.idsGiven requests = [1, 2, 3, 4, 5] ∧ initial.idsRemoved requests = [1] ∧
      display.portrayals.keys = [2, 3, 4, 5] ∧
      (display.commands 1 .primary).2 = .error (.unknownFeature 1) ∧
      [5, 4, 2].Perm ((display.chart.cellFeatures 3).map (·.id)) ∧
      display.library.IgnoresGeneration ∧ (∀ request ∈ further, request.IgnoresGeneration) ∧
      ((display.eraseCell 3).run further).AnswersAlike
        ((display.run ([5, 4, 2].map Request.erase)).run further) := by
  intro load requests initial display further
  obtain ⟨-, -, -, unknown, removes⟩ :=
    run_keeps_identities (Library.standard : Library Rat) .standard false requests
  have plain : display.library.IsPlain := Library.isPlain_of_standard rfl
  have ignores := plain.ignoresGeneration
  have ignore : ∀ request ∈ further, request.IgnoresGeneration := by
    simp [further, Request.IgnoresGeneration]
  have permuted : [5, 4, 2].Perm ((display.chart.cellFeatures 3).map (·.id)) := by decide +kernel
  have removed : initial.idsRemoved requests = [1] := by decide +kernel
  have gone : 1 ∈ initial.idsRemoved requests := by
    rw [removed]
    exact List.mem_singleton_self 1
  exact ⟨by decide +kernel, removed, by decide +kernel, (unknown 1 .primary 1).mpr ⟨rfl, .inr gone⟩,
    permuted, ignores, ignore, (removes 3 [5, 4, 2] permuted).answers ignores further ignore⟩

end Display

end ChartPortrayal
