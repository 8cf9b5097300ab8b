import ChartPortrayal.Conditional.Depth

/-! Symbols of restrictions and the ranks of their codes. The procedures that draw restrictions draw one
symbol, and the strongest rank in the list gives it its family. What the symbol of a named rank ends in tells
whether restrictions of a weaker rank, or mere information, stand beside it; beside a restriction on anchoring
those outside the named ranks are overlooked. -/

namespace ChartPortrayal

/-- The directives of a fragment that have a tag. -/
def Fragment.tagged (tag : String) : Fragment → List Directive
  | directives list => list.filter (fun directive => directive.tag = tag)
  | verbatim text => (Directive.tokenize text).filter (fun directive => directive.tag = tag)

theorem CodeList.containsAny_iff {list : CodeList} {codes : List Nat} :
    list.containsAny codes = true ↔ ∃ code ∈ list.codes, code ∈ codes := by
  simp only [containsAny, contains, List.any_eq_true, List.contains_iff_mem]
  constructor
  · rintro ⟨code, listed, held⟩
    exact ⟨code, held, listed⟩
  · rintro ⟨code, held, listed⟩
    exact ⟨code, listed, held⟩

namespace Restriction

variable {list : CodeList}

namespace Rank

/-- The codes of restrictions of a rank. -/
def codes : Rank → List Nat
  | entry => entryCodes
  | anchoring => anchoringCodes
  | fishing => fishingCodes
  | other => otherCodes

def strength : Rank → Nat
  | entry => 3
  | anchoring => 2
  | fishing => 1
  | other => 0

/-- The families of symbols of a rank. -/
def families : Rank → List String
  | entry => ["ENTRES"]
  | anchoring => ["ACHRES"]
  | fishing => ["FSHRES"]
  | other => ["INFARE", "RSRDEF"]

/-- A list holds a code of a rank. -/
def Present (rank : Rank) (list : CodeList) : Prop := ∃ code ∈ list.codes, code ∈ rank.codes

/-- The strongest rank that a list holds a code of. Lists without restrictions of a rank count as other. -/
structure Leads (rank : Rank) (list : CodeList) : Prop where
  present : rank = other ∨ rank.Present list
  strongest : ∀ stronger : Rank, rank.strength < stronger.strength → ¬ stronger.Present list

/-- A list holds a code of a weaker rank. -/
def Accompanied (rank : Rank) (list : CodeList) : Prop :=
  ∃ weaker : Rank, weaker.strength < rank.strength ∧ weaker.Present list

variable {rank : Rank}

theorem present_iff : rank.Present list ↔ list.containsAny rank.codes = true :=
  CodeList.containsAny_iff.symm

theorem leads_ofCodes (list : CodeList) : (ofCodes list).Leads list := by
  unfold ofCodes
  split
  · next entries =>
    refine ⟨.inr (present_iff.mpr entries), fun stronger above => ?_⟩
    cases stronger <;> simp [strength] at above
  · next noEntry =>
    split
    · next anchorings =>
      refine ⟨.inr (present_iff.mpr anchorings), fun stronger above => ?_⟩
      cases stronger <;> simp [strength] at above
      exact fun present => noEntry (present_iff.mp present)
    · next noAnchoring =>
      split
      · next fisheries =>
        refine ⟨.inr (present_iff.mpr fisheries), fun stronger above => ?_⟩
        cases stronger <;> simp [strength] at above
        · exact fun present => noEntry (present_iff.mp present)
        · exact fun present => noAnchoring (present_iff.mp present)
      · next noFishing =>
        refine ⟨.inl rfl, fun stronger above => ?_⟩
        cases stronger <;> simp [strength] at above
        · exact fun present => noEntry (present_iff.mp present)
        · exact fun present => noAnchoring (present_iff.mp present)
        · exact fun present => noFishing (present_iff.mp present)

theorem Leads.strength_le {first second : Rank} (leads : first.Leads list) (also : second.Leads list) :
    second.strength ≤ first.strength := by
  refine Nat.not_lt.mp (fun above => ?_)
  rcases also.present with rfl | present
  · exact absurd above (Nat.not_lt_zero _)
  · exact leads.strongest second above present

/-- One rank leads a list, whatever the order and the repetitions of its codes. -/
theorem leads_iff : rank.Leads list ↔ ofCodes list = rank := by
  constructor
  · intro leads
    have same : (ofCodes list).strength = rank.strength :=
      Nat.le_antisymm (leads.strength_le (leads_ofCodes list)) ((leads_ofCodes list).strength_le leads)
    revert same
    cases ofCodes list <;> cases rank <;> simp [strength]
  · rintro rfl
    exact leads_ofCodes list

/-- What counts as a further restriction is of a weaker rank. -/
theorem exists_weaker_of_mem_further :
    ∀ code ∈ rank.further, ∃ weaker : Rank, weaker.strength < rank.strength ∧ code ∈ weaker.codes := by
  have listed : ∀ code ∈ rank.further, code ∈ [anchoring, fishing, other].flatMap (fun weaker =>
      if weaker.strength < rank.strength then weaker.codes else []) := by
    cases rank <;> decide
  intro code member
  obtain ⟨weaker, -, held⟩ := List.mem_flatMap.mp (listed code member)
  split at held
  · next below => exact ⟨weaker, below, held⟩
  · cases held

/-- Beside a restriction on anchoring only those on fishing count as further ones. -/
theorem mem_further_of_weaker {weaker : Rank} (below : weaker.strength < rank.strength)
    (counted : ¬ (rank = anchoring ∧ weaker = other)) :
    ∀ code ∈ weaker.codes, code ∈ rank.further := by
  cases rank <;> cases weaker <;>
    first
    | decide
    | exact absurd below (by decide)
    | exact absurd ⟨rfl, rfl⟩ counted

/-- A list that is led by a rank holds further restrictions of no rank but the one that is not counted. -/
def Overlooked (rank : Rank) (list : CodeList) : Prop :=
  rank = anchoring ∧ other.Present list ∧ ¬ fishing.Present list

theorem further_iff (rank : Rank) (list : CodeList) :
    list.containsAny rank.further = true ↔ rank.Accompanied list ∧ ¬ rank.Overlooked list := by
  rw [CodeList.containsAny_iff]
  constructor
  · rintro ⟨code, held, counted⟩
    obtain ⟨weaker, below, member⟩ := exists_weaker_of_mem_further code counted
    refine ⟨⟨weaker, below, code, held, member⟩, ?_⟩
    rintro ⟨rfl, -, noFishing⟩
    exact noFishing ⟨code, held, counted⟩
  · rintro ⟨⟨weaker, below, code, held, member⟩, seen⟩
    by_cases counted : rank = anchoring ∧ weaker = other
    · obtain ⟨rfl, rfl⟩ := counted
      by_cases fisheries : fishing.Present list
      · exact fisheries
      · exact absurd ⟨rfl, ⟨code, held, member⟩, fisheries⟩ seen
    · exact ⟨code, held, mem_further_of_weaker below counted code member⟩

theorem Overlooked.accompanied (overlooked : rank.Overlooked list) : rank.Accompanied list := by
  obtain ⟨rfl, present, -⟩ := overlooked
  exact ⟨other, by decide, present⟩

end Rank

/-- A list holds a code that merely informs. -/
def Informed (list : CodeList) : Prop := ∃ code ∈ list.codes, code ∈ informationCodes

/-- The digits that tell of further restrictions, or else of information, or else of neither. -/
structure Ending (digits : String) (further information : Prop) : Prop where
  restricts : digits = "61" ↔ further
  informs : digits = "71" ↔ ¬ further ∧ information
  bare : digits = "51" ↔ ¬ further ∧ ¬ information

theorem Ending.further_iff {digits : String} {further weaker information : Prop}
    (ending : Ending digits further information) :
    Ending digits weaker information ↔ (further ↔ weaker) := by
  constructor
  · intro also
    rw [← ending.restricts, also.restricts]
  · intro same
    rwa [← same]

theorem ending_emphasis (rank : Rank) (list : CodeList) :
    Ending (emphasis rank list).digits (list.containsAny rank.further = true) (Informed list) := by
  rw [Informed, ← CodeList.containsAny_iff]
  unfold emphasis
  cases list.containsAny rank.further <;> cases list.containsAny informationCodes <;>
    exact ⟨by decide, by decide, by decide⟩

/-- A list of restrictions has a symbol. -/
theorem exists_symbol (restricted : list.isEmpty = false) :
    ∃ symbol, symbol? list = some symbol ∧ symbol.family ∈ (Rank.ofCodes list).families ∧
      (Rank.ofCodes list ≠ .other → symbol.emphasis = emphasis (Rank.ofCodes list) list) := by
  unfold symbol?
  rw [restricted]
  cases Rank.ofCodes list with
  | other =>
    refine ⟨_, rfl, ?_, fun named => absurd rfl named⟩
    cases list.containsAny informationCodes <;> simp [Rank.families]
  | _ => exact ⟨_, rfl, List.mem_cons_self, fun _ => rfl⟩

variable {α : Type}

/-- The symbol that the procedures for restrictions draw of a feature, where the last one is the procedure for
depth areas and draws it of dredged areas. The one for restricted areas raises the draw order where the symbol
has something to add. -/
structure Drawn [Quantity α] (feature : Feature α) (family digits : String) : Prop where
  restriction : ∀ situation : Situation α, situation.feature = feature →
    (restriction.compute situation).map (Fragment.tagged "SY") = some [.symbol (family ++ digits)]
  area : ∀ situation : Situation α, situation.feature = feature →
    (restrictedArea.compute situation).map (Fragment.tagged "SY") = some [.symbol (family ++ digits)]
  raised : ∀ situation : Situation α, situation.feature = feature →
    (restrictedArea.compute situation).map (Fragment.tagged "OP") =
      some (if digits = "61" ∨ digits = "71" then [.overridePriority ["6-------"]] else [])
  dredged : feature.className = "DRGARE" → feature.geometry = .area →
    ∀ situation : Situation α, situation.feature = feature →
      (Depth.depthArea.compute situation).map (Fragment.tagged "SY") = some [.symbol (family ++ digits)]

/-- The line around a restricted area aside, what is drawn of it is its symbol. -/
theorem tagged_restrictedArea (situation : Situation α) {symbol : Symbol}
    (found : ofFeature? situation.feature = some symbol) {tag : String} (complex : "LC" ≠ tag)
    (simple : "LS" ≠ tag) :
    (restrictedArea.compute situation).map (Fragment.tagged tag) =
      some (symbol.directives.filter (fun directive => directive.tag = tag)) := by
  have boundary : ∀ name, ¬ (Directive.complexLine name).tag = tag := fun _ => complex
  have dashes : ¬ (Directive.simpleLine "DASH" 2 "CHMGD").tag = tag := simple
  simp only [restrictedArea, Procedure.ofDirectives, area, found, Option.map_some, Fragment.tagged,
    List.filter_append]
  cases situation.variant <;> simp [boundary, dashes]

theorem symbols_seabed [Quantity α] (settings : Settings α) (upper lower : α) :
    (Depth.seabed settings upper lower).filter (fun directive => directive.tag = "SY") = [] := by
  unfold Depth.seabed
  dsimp only
  split <;> rfl

theorem drawn_of_symbol [Quantity α] {feature : Feature α} {symbol : Symbol}
    (found : ofFeature? feature = some symbol) : Drawn feature symbol.family symbol.emphasis.digits := by
  refine ⟨?_, ?_, ?_, ?_⟩
  · rintro situation rfl
    simp only [restriction, found, Option.map_some]
    rfl
  · rintro situation rfl
    rw [tagged_restrictedArea situation found (by decide) (by decide)]
    unfold Symbol.directives
    split <;> rfl
  · rintro situation rfl
    rw [tagged_restrictedArea situation found (by decide) (by decide)]
    unfold Symbol.directives
    cases symbol.emphasis <;> rfl
  · rintro dredged extended situation rfl
    simp only [Depth.depthArea, Procedure.ofDirectives, extended, dredged, ↓reduceIte, Depth.dredged, found,
      Option.map_some, Fragment.tagged, List.filter_append, symbols_seabed]
    rfl

/-- A feature with restrictions has one symbol, whatever procedure draws it. Its family is that of the strongest
rank in the list. Its ending tells of restrictions of a weaker rank beside those of a named one, except that
beside a restriction on anchoring, and none on fishing, it tells of information at most. -/
theorem drawn_by_rank [Quantity α] {feature : Feature α}
    (restricted : (feature.codes "RESTRN").isEmpty = false) :
    let list := feature.codes "RESTRN"
    ∃ (rank : Rank) (family digits : String),
      rank.Leads list ∧ family ∈ rank.families ∧ Drawn feature family digits ∧
      (rank ≠ .other →
        (Ending digits (rank.Accompanied list) (Informed list) ↔ ¬ rank.Overlooked list) ∧
        (rank.Overlooked list → Ending digits False (Informed list))) := by
  intro list
  obtain ⟨symbol, found, family, ends⟩ := exists_symbol restricted
  refine ⟨Rank.ofCodes list, symbol.family, symbol.emphasis.digits, Rank.leads_ofCodes list, family,
    drawn_of_symbol found, fun named => ?_⟩
  have ending := ending_emphasis (Rank.ofCodes list) list
  rw [← ends named, Rank.further_iff] at ending
  constructor
  · rw [ending.further_iff]
    constructor
    · intro counted overlooked
      exact (counted.mpr overlooked.accompanied).2 overlooked
    · intro seen
      exact and_iff_left seen
  · intro overlooked
    exact ending.further_iff.mpr (iff_false_intro (fun counted => counted.2 overlooked))

/-- Entry is the strongest rank in the list of a dredged area, wherever it stands, and fishing a weaker one. -/
theorem drawn_by_rank_entry :
    let feature : Feature Float := (Feature.plain "DRGARE" .area).setAttribute "RESTRN" "3,9,14"
    (feature.codes "RESTRN").isEmpty = false ∧ Drawn feature "ENTRES" "61" := by
  intro feature
  have restricted : (feature.codes "RESTRN").isEmpty = false := by decide +kernel
  have codes : feature.codes "RESTRN" = .ofCodes [3, 9, 14] := by decide +kernel
  obtain ⟨rank, family, digits, leads, known, drawn, ending⟩ := drawn_by_rank restricted
  rw [codes] at leads ending
  have entry : rank = .entry := (Rank.leads_iff.mp leads).symm
  subst entry
  obtain rfl := List.mem_singleton.mp known
  have seen : ¬ Rank.entry.Overlooked (.ofCodes [3, 9, 14]) := fun overlooked => by cases overlooked.1
  have further : Rank.entry.Accompanied (.ofCodes [3, 9, 14]) :=
    ⟨.fishing, by decide, 3, by decide, by decide⟩
  obtain rfl := ((ending (by decide)).1.mpr seen).restricts.mpr further
  exact ⟨restricted, drawn⟩

/-- Anchoring is restricted, and so is something outside the named ranks, but the symbol does not tell. -/
theorem not_ending_by_rank_anchoring :
    ¬ ∀ feature : Feature Float, (feature.codes "RESTRN").isEmpty = false →
      let list := feature.codes "RESTRN"
      ∃ (rank : Rank) (family digits : String),
        rank.Leads list ∧ family ∈ rank.families ∧ Drawn feature family digits ∧
        (rank ≠ .other → Ending digits (rank.Accompanied list) (Informed list)) := by
  intro always
  let feature : Feature Float := (Feature.plain "RESARE" .area).setAttribute "RESTRN" "1,13"
  have codes : feature.codes "RESTRN" = .ofCodes [1, 13] := by decide +kernel
  obtain ⟨rank, family, digits, leads, known, drawn, ending⟩ := always feature (by decide +kernel)
  rw [codes] at leads ending
  have anchoring : rank = .anchoring := (Rank.leads_iff.mp leads).symm
  subst anchoring
  obtain rfl := List.mem_singleton.mp known
  have further : Rank.anchoring.Accompanied (.ofCodes [1, 13]) :=
    ⟨.other, by decide, 13, by decide, by decide⟩
  obtain rfl := (ending (by decide)).restricts.mpr further
  have symbols := drawn.restriction ⟨feature, .empty, .standard, .primary⟩ rfl
  revert symbols
  decide +kernel

end Restriction

end ChartPortrayal
