import ChartPortrayal.Proofs.Locality

namespace ChartPortrayal.Registry

variable {α : Type}

/-- Every alias leads to a registered procedure. -/
def Closed (registry : Registry α) : Prop :=
  ∀ name target, registry.aliases.find? name = some target → registry.procedures.contains target = true

theorem contains_insert_iff {ν : Type} (map : SortedMap String ν) (key other : String) (value : ν) :
    (map.insert key value).contains other = true ↔ other = key ∨ map.contains other = true := by
  rw [SortedMap.contains, SortedMap.find?_insert]
  split
  · next same => simp [SortKey.eq_of_order same]
  · next apart =>
    have different : other ≠ key := fun same => apart (same ▸ SortKey.order_self other)
    simp [different, SortedMap.contains]

/-- The names that stand for something are the names in use. -/
theorem contains_eq_isTaken (registry : Registry α) (name : String) :
    registry.contains name = registry.isTaken name := by
  rw [contains, canonicalName?, isTaken]
  cases registry.procedures.contains name <;> rfl

theorem closed_empty : (empty : Registry α).Closed := by
  intro name target found
  cases found

namespace Closed

variable {registry : Registry α}

theorem insertProcedure (closed : registry.Closed) (name : String) (procedure : Procedure α) :
    Closed { registry with procedures := registry.procedures.insert name procedure } :=
  fun other target found => (contains_insert_iff ..).mpr (.inr (closed other target found))

theorem insertAlias (closed : registry.Closed) {target : String}
    (known : registry.procedures.contains target = true) (name : String) :
    Closed { registry with aliases := registry.aliases.insert name target } := by
  intro other canonical found
  rw [SortedMap.find?_insert] at found
  split at found
  · cases found
    exact known
  · exact closed other canonical found

theorem insertAliases (closed : registry.Closed) {target : String}
    (known : registry.procedures.contains target = true) (names : List String) :
    Closed { registry with
      aliases := names.foldl (fun aliases name => aliases.insert name target) registry.aliases } := by
  induction names generalizing registry with
  | nil => exact closed
  | cons name rest ih => exact ih (closed.insertAlias known name) known

theorem install (closed : registry.Closed) (entry : Procedure α × List String) :
    (registry.install entry).Closed :=
  (closed.insertProcedure entry.1.name entry.1).insertAliases ((contains_insert_iff ..).mpr (.inl rfl)) entry.2

theorem contains_canonicalName? (closed : registry.Closed) {name canonical : String}
    (resolved : registry.canonicalName? name = some canonical) :
    registry.procedures.contains canonical = true := by
  rw [canonicalName?] at resolved
  split at resolved
  · next registered =>
    cases resolved
    exact registered
  · exact closed name canonical resolved

/-- The names that stand for a procedure are the names in use. -/
theorem isSome_find? (closed : registry.Closed) (name : String) :
    (registry.find? name).isSome = registry.isTaken name := by
  rw [← contains_eq_isTaken, contains, find?]
  cases resolved : registry.canonicalName? name with
  | none => rfl
  | some target => exact closed.contains_canonicalName? resolved

end Closed

theorem find?_foldl_install_of_notMem {name : String} {entries : List (Procedure α × List String)}
    (apart : name ∉ entries.map (·.1.name)) (registry : Registry α) :
    (entries.foldl install registry).procedures.find? name = registry.procedures.find? name := by
  induction entries generalizing registry with
  | nil => rfl
  | cons entry rest ih =>
    rw [List.map_cons, List.mem_cons, not_or] at apart
    have other : SortKey.order name entry.1.name ≠ .eq := fun same => apart.1 (SortKey.eq_of_order same)
    rw [List.foldl_cons, ih apart.2, install, SortedMap.find?_insert, if_neg other]

/-- Procedures of different names stand under their own names. -/
theorem find?_foldl_install {entry : Procedure α × List String} {entries : List (Procedure α × List String)}
    (member : entry ∈ entries) (distinct : (entries.map (·.1.name)).Nodup) (registry : Registry α) :
    (entries.foldl install registry).find? entry.1.name = some entry.1 := by
  have registered : (entries.foldl install registry).procedures.find? entry.1.name = some entry.1 := by
    induction entries generalizing registry with
    | nil => cases member
    | cons first rest ih =>
      rw [List.map_cons, List.nodup_cons] at distinct
      rcases List.mem_cons.mp member with rfl | later
      · rw [List.foldl_cons, find?_foldl_install_of_notMem distinct.1, install, SortedMap.find?_insert,
          if_pos (SortKey.order_self _)]
      · exact ih later distinct.2 _
  rw [find?, canonicalName?, SortedMap.contains, registered]
  exact registered

variable [Quantity α]

/-- Every standard procedure stands under its own name. -/
theorem find?_standard {entry : Procedure α × List String} (member : entry ∈ standardProcedures) :
    (standard : Registry α).find? entry.1.name = some entry.1 := by
  have names : (standardProcedures (α := α)).map (·.1.name) =
      ["DEPARE02", "DEPCNT02", "LIGHTS05", "OBSTRN04", "WRECKS02", "RESARE02", "RESTRN01", "SOUNDG02",
       "TOPMAR01", "QUAPOS01", "SLCONS03", "DATCVR01", "LEGLIN02", "SYMINS01", "CLRLIN01", "PASTRK01"] := rfl
  exact find?_foldl_install member (names ▸ by decide) empty

/-- A registry that was put together from an empty or the standard one. -/
inductive Reached : Registry α → Prop where
  | empty : Reached empty
  | standard : Reached standard
  | register {registry extended : Registry α} {procedure : Procedure α} (reached : Reached registry)
      (registered : registry.register procedure = .ok extended) : Reached extended
  | addAlias {registry extended : Registry α} {name target : String} (reached : Reached registry)
      (added : registry.addAlias name target = .ok extended) : Reached extended

theorem Reached.closed {registry : Registry α} (reached : registry.Reached) : registry.Closed := by
  induction reached with
  | empty => exact closed_empty
  | standard => exact standard_induction closed_empty (fun _ closed entry _ => closed.install entry)
  | register _ registered closed =>
    unfold Registry.register at registered
    split at registered <;> cases registered
    exact closed.insertProcedure _ _
  | addAlias _ added closed =>
    unfold Registry.addAlias at added
    split at added
    · cases added
    · split at added <;> cases added
      next resolved => exact closed.insertAlias (closed.contains_canonicalName? resolved) _

end ChartPortrayal.Registry
