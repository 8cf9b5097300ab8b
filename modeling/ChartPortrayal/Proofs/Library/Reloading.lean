import ChartPortrayal.Proofs.Chart.Lookup
import ChartPortrayal.Proofs.Library.Decoding

/-! A library is read back from its document as it was. The document lists rules and definitions without the keys
that they stand under: all rules in a row, and of repeated definitions the last. What stands under a key says
itself which key that is, so the lists are enough to file everything again. -/

namespace ChartPortrayal

open SortKey (order)

namespace SortedMap

variable {κ ν : Type} [SortKey κ]

theorem lookup_eq_none_of_below {key : κ} {entries : List (κ × ν)}
    (below : ∀ entry ∈ entries, order key entry.1 = .lt) : lookup key entries = none := by
  cases found : lookup key entries with
  | none => rfl
  | some value =>
    have less := below _ (mem_of_lookup found)
    rw [SortKey.order_self] at less
    cases less

/-- Inserted in turn, ascending entries hide what a map had under their keys. -/
theorem find?_foldl_insert {entries : List (κ × ν)}
    (ascending : entries.Pairwise (fun first second => order first.1 second.1 = .lt))
    (map : SortedMap κ ν) (key : κ) :
    (entries.foldl (fun map entry => map.insert entry.1 entry.2) map).find? key =
      (lookup key entries).or (map.find? key) := by
  induction entries generalizing map with
  | nil => rfl
  | cons first rest ih =>
    obtain ⟨below, tail⟩ := List.pairwise_cons.mp ascending
    rw [List.foldl_cons, ih tail, find?_insert, lookup]
    by_cases here : order key first.1 = .eq
    · obtain rfl := SortKey.eq_of_order here
      rw [lookup_eq_none_of_below below, if_pos here, if_pos here]
      rfl
    · rw [if_neg here, if_neg here]

/-- A map is made again from its entries. -/
theorem ofList_entries (map : SortedMap κ ν) : ofList map.entries = map := by
  apply ext_find?
  intro key
  rw [ofList, find?_foldl_insert map.ascending, find?_empty, Option.or_none]
  rfl

/-- Of all lists in a map, those under one key are the one list that is found there. -/
theorem flatMap_lookup {μ : Type} [DecidableEq κ] {entries : List (κ × List μ)}
    (ascending : entries.Pairwise (fun first second => order first.1 second.1 = .lt)) (key : κ) :
    entries.flatMap (fun entry => if entry.1 = key then entry.2 else []) =
      (lookup key entries).getD [] := by
  induction entries with
  | nil => rfl
  | cons first rest ih =>
    obtain ⟨below, tail⟩ := List.pairwise_cons.mp ascending
    rw [List.flatMap_cons, ih tail, lookup]
    by_cases here : first.1 = key
    · subst here
      rw [lookup_eq_none_of_below below, if_pos rfl, if_pos (SortKey.order_self _)]
      exact List.append_nil _
    · have apart : order key first.1 ≠ .eq := fun same => here (SortKey.eq_of_order same).symm
      rw [if_neg here, if_neg apart, List.nil_append]

end SortedMap

/-- What is added to a library. -/
inductive Addition where
  | rule (rule : Rule)
  | definition (definition : Definition)

namespace Library

variable {α : Type}

def add (library : Library α) : Addition → Library α
  | .rule rule => library.addRule rule
  | .definition definition => library.addDefinition definition

def addAll (library : Library α) (additions : List Addition) : Library α := additions.foldl add library

section Addition

variable (library : Library α)

theorem candidates_addRule (rule : Rule) (table : Table) (className : String) :
    (library.addRule rule).candidates table className =
      library.candidates table className ++
        if (rule.table, rule.className) = (table, className) then [rule] else [] := by
  rw [candidates, addRule, SortedMap.find?_insert]
  by_cases same : (rule.table, rule.className) = (table, className)
  · rw [if_pos (SortKey.order_eq_iff.mpr same.symm), if_pos same]
    cases same
    rfl
  · rw [if_neg (fun equal => same (SortKey.order_eq_iff.mp equal).symm), if_neg same, List.append_nil]
    rfl

/-- Rules come after those that stand under their table and class, in the order in which they are added. -/
theorem candidates_addRules (rules : List Rule) (table : Table) (className : String) :
    (library.addRules rules).candidates table className =
      library.candidates table className ++
        rules.filter (fun rule => (rule.table, rule.className) = (table, className)) := by
  induction rules generalizing library with
  | nil => exact (List.append_nil _).symm
  | cons rule rest ih =>
    have added : library.addRules (rule :: rest) = (library.addRule rule).addRules rest := rfl
    rw [added, ih, candidates_addRule, List.append_assoc, List.filter_cons]
    by_cases same : (rule.table, rule.className) = (table, className)
    · rw [if_pos same, if_pos (decide_eq_true same)]
      rfl
    · rw [if_neg same, if_neg (by simpa using same)]
      rfl

theorem definitions_addRules (rules : List Rule) :
    (library.addRules rules).definitions = library.definitions := by
  induction rules generalizing library with
  | nil => rfl
  | cons rule rest ih => exact ih (library.addRule rule)

theorem procedures_addRules (rules : List Rule) :
    (library.addRules rules).procedures = library.procedures := by
  induction rules generalizing library with
  | nil => rfl
  | cons rule rest ih => exact ih (library.addRule rule)

theorem addDefinitions_eq (definitions : List Definition) :
    library.addDefinitions definitions =
      { library with
        definitions := definitions.foldl (fun map definition =>
          map.insert (definition.kind, definition.name) definition) library.definitions } := by
  induction definitions generalizing library with
  | nil => rfl
  | cons definition rest ih => exact ih (library.addDefinition definition)

end Addition

theorem procedures_addAll (library : Library α) (additions : List Addition) :
    (library.addAll additions).procedures = library.procedures := by
  induction additions generalizing library with
  | nil => rfl
  | cons addition rest ih =>
    cases addition with
    | rule rule => exact ih (library.addRule rule)
    | definition definition => exact ih (library.addDefinition definition)

/-- Everything stands under the key that it names, and no list of rules is empty. -/
structure Filed (library : Library α) : Prop where
  rules : ∀ key rules, library.rules.find? key = some rules →
    rules ≠ [] ∧ ∀ rule ∈ rules, (rule.table, rule.className) = key
  definitions : ∀ key definition, library.definitions.find? key = some definition →
    (definition.kind, definition.name) = key

namespace Filed

variable {library : Library α}

theorem candidates (filed : library.Filed) {table : Table} {className : String} {rule : Rule}
    (member : rule ∈ library.candidates table className) :
    (rule.table, rule.className) = (table, className) := by
  rw [Library.candidates] at member
  cases found : library.rules.find? (table, className) with
  | none => simp [found] at member
  | some rules =>
    rw [found] at member
    exact (filed.rules _ _ found).2 rule member

theorem addRule (filed : library.Filed) (rule : Rule) : (library.addRule rule).Filed := by
  refine ⟨fun key rules found => ?_, filed.definitions⟩
  rw [Library.addRule, SortedMap.find?_insert] at found
  split at found
  · next same =>
    obtain rfl := SortKey.eq_of_order same
    cases found
    refine ⟨List.concat_ne_nil _ _, fun other member => ?_⟩
    rcases List.mem_append.mp member with old | new
    · exact filed.candidates old
    · rw [List.mem_singleton.mp new]
  · exact filed.rules key rules found

theorem addDefinition (filed : library.Filed) (definition : Definition) :
    (library.addDefinition definition).Filed := by
  refine ⟨filed.rules, fun key other found => ?_⟩
  rw [Library.addDefinition, SortedMap.find?_insert] at found
  split at found
  · next same =>
    obtain rfl := SortKey.eq_of_order same
    cases found
    rfl
  · exact filed.definitions key other found

theorem addRules (filed : library.Filed) (rules : List Rule) : (library.addRules rules).Filed := by
  induction rules generalizing library with
  | nil => exact filed
  | cons rule rest ih => exact ih (filed.addRule rule)

theorem addAll (filed : library.Filed) (additions : List Addition) : (library.addAll additions).Filed := by
  induction additions generalizing library with
  | nil => exact filed
  | cons addition rest ih =>
    cases addition with
    | rule rule => exact ih (filed.addRule rule)
    | definition definition => exact ih (filed.addDefinition definition)

/-- The list under a key is found exactly where there are rules of the table and the class. -/
theorem find?_rules (filed : library.Filed) (key : Table × String) :
    library.rules.find? key =
      if library.candidates key.1 key.2 = [] then none else some (library.candidates key.1 key.2) := by
  rw [Library.candidates]
  cases found : library.rules.find? key with
  | none => rfl
  | some rules => exact (if_neg (filed.rules key rules found).1).symm

/-- Candidates in their order make up the rules of a library. -/
theorem rules_eq {other : Library α} (filed : library.Filed) (otherFiled : other.Filed)
    (same : ∀ table className, library.candidates table className = other.candidates table className) :
    library.rules = other.rules := by
  apply SortedMap.ext_find?
  intro key
  rw [filed.find?_rules, otherFiled.find?_rules, same]

/-- The candidates of a class stand in the list of all rules, in their order. -/
theorem filter_ruleList (filed : library.Filed) (table : Table) (className : String) :
    library.ruleList.filter (fun rule => (rule.table, rule.className) = (table, className)) =
      library.candidates table className := by
  have bucket : ∀ entry ∈ library.rules.entries,
      entry.2.filter (fun rule => (rule.table, rule.className) = (table, className)) =
        if entry.1 = (table, className) then entry.2 else [] := by
    intro entry listed
    have named := (filed.rules _ _ ((library.rules.mem_entries_iff _ _).mp listed)).2
    split
    · next same =>
      apply List.filter_eq_self.mpr
      intro rule member
      exact decide_eq_true ((named rule member).trans same)
    · next apart =>
      apply List.filter_eq_nil_iff.mpr
      intro rule member same
      exact apart ((named rule member).symm.trans (of_decide_eq_true same))
  rw [ruleList, SortedMap.values, ← List.flatMap_def, List.filter_flatMap, List.flatMap_congr bucket,
    SortedMap.flatMap_lookup library.rules.ascending]
  rfl

/-- The definitions of a library, added to none, are its definitions again. -/
theorem foldl_definitionList (filed : library.Filed) :
    library.definitionList.foldl (fun map definition =>
      map.insert (definition.kind, definition.name) definition) .empty = library.definitions := by
  rw [definitionList, SortedMap.values, List.foldl_map]
  refine Eq.trans ?_ (SortedMap.ofList_entries library.definitions)
  apply List.foldl_ext
  intro map entry listed
  rw [filed.definitions _ _ ((library.definitions.mem_entries_iff _ _).mp listed)]

end Filed

variable [Quantity α] {library : Library α}

theorem Filed.standard : (standard : Library α).Filed := by
  constructor
  · intro key rules found
    cases found
  · intro key definition found
    cases found

theorem procedures_standard : (standard : Library α).procedures = .standard := rfl

/-- A library with the standard procedures is made again from its snapshot. -/
theorem ofSnapshot_snapshot (filed : library.Filed) (procedures : library.procedures = .standard) :
    ofSnapshot library.snapshot = library := by
  have rules : ((standard : Library α).addRules library.ruleList).rules = library.rules := by
    apply (Filed.standard.addRules library.ruleList).rules_eq filed
    intro table className
    rw [candidates_addRules, filed.filter_ruleList]
    rfl
  have definitions : library.definitionList.foldl (fun map definition =>
      map.insert (definition.kind, definition.name) definition)
        ((standard : Library α).addRules library.ruleList).definitions = library.definitions := by
    rw [definitions_addRules]
    exact filed.foldl_definitionList
  have same : ((standard : Library α).addRules library.ruleList).procedures = library.procedures := by
    rw [procedures_addRules, procedures]
    exact procedures_standard
  rw [ofSnapshot, snapshot, addDefinitions_eq]
  dsimp only
  rw [rules, definitions, same]

/-- A library that was put together is read back from its document. -/
theorem read_document {additions : List Addition}
    (valid : ((standard : Library α).addAll additions).validate = .ok ()) :
    read ((standard : Library α).addAll additions).document = .ok ((standard : Library α).addAll additions) := by
  have again := ofSnapshot_snapshot ((Filed.standard (α := α)).addAll additions) (procedures_addAll _ additions)
  rw [read, document, Snapshot.read_pretty]
  dsimp only
  rw [again, validated, valid]

/-- Whatever rules and definitions are put together with the standard procedures, a library that passes
validation is read back from its document with an equal snapshot, with the same candidates in the same order,
and with the same definitions and placeholders. -/
theorem reload_written (additions : List Addition)
    (valid : ((standard : Library α).addAll additions).validate = .ok ()) :
    let library : Library α := standard.addAll additions
    ∃ reloaded : Library α, read library.document = .ok reloaded ∧
      reloaded.snapshot = library.snapshot ∧
      (∀ table className, reloaded.candidates table className = library.candidates table className) ∧
      (∀ kind name, reloaded.definition? kind name = library.definition? kind name) ∧
      ∀ kind, reloaded.placeholder kind = library.placeholder kind := by
  intro library
  exact ⟨library, read_document valid, rfl, fun _ _ => rfl, fun _ _ => rfl, fun _ => rfl⟩

/-- Two rules of one class with any characters and the greatest numbers, added around a rule of an earlier table,
and two definitions that stand in for unknown symbols, of which the later counts. -/
theorem reload_written_escapes :
    let priority : Priority := ⟨255, .above, .mariner, 4294967295, true⟩
    let first : Rule :=
      ⟨"tab\t \"quoted\" \\ \x01 é 海 🌊", .lines, [⟨"CATLIT", .equals "6\n\x00"⟩, ⟨"DRVAL1", .unknown⟩],
        "SY(QUESMRK1);CS(DEPCNT02)", priority, 4294967295⟩
    let between : Rule := .plain "" .simplifiedPoints "" .standard
    let second : Rule := { first with constraints := [⟨"", .anyValue⟩] }
    let shadowed : Definition := .blank .symbol placeholderName
    let later : Definition :=
      { shadowed with colours := ["", "CHBLK"], box := ⟨-2147483648, 0, 2147483647, 1⟩, pivot := (-1, 0) }
    let library : Library Rat :=
      standard.addAll [.rule first, .definition shadowed, .rule between, .definition later, .rule second]
    ∃ reloaded : Library Rat, read library.document = .ok reloaded ∧
      reloaded.snapshot = ⟨[between, first, second], [later]⟩ ∧
      reloaded.candidates .lines first.className = [first, second] ∧
      reloaded.definition? .symbol placeholderName = some later ∧
      reloaded.placeholder .symbol = later := by
  intro priority first between second shadowed later library
  have valid : library.validate = .ok () := by decide +kernel
  obtain ⟨reloaded, loaded, snapshot, candidates, definition?, placeholder⟩ := reload_written _ valid
  refine ⟨reloaded, loaded, ?_, ?_, ?_, ?_⟩
  · rw [snapshot]
    decide +kernel
  · rw [candidates]
    decide +kernel
  · rw [definition?]
    decide +kernel
  · rw [placeholder]
    decide +kernel

end Library

end ChartPortrayal
