import ChartPortrayal.Proofs.Conditional.Registration

/-! Names in a registry. A name is given away once, to a procedure or to an alias, and an alias leads to a
procedure; both hold in the standard registry and after every call that registers something. So a name that
stands for a procedure stands for it for good. -/

namespace ChartPortrayal

/-- A call that gives away a name. -/
inductive RegistryCall (α : Type) where
  | register (procedure : Procedure α)
  | addAlias (name target : String)

variable {α : Type}

/-- The name that a call asks for. -/
def RegistryCall.name : RegistryCall α → String
  | register procedure => procedure.name
  | addAlias name _ => name

namespace Registry

/-- The registry that a call makes, or the error that it fails with. -/
def enter (registry : Registry α) : RegistryCall α → Except PortrayalError (Registry α)
  | .register procedure => registry.register procedure
  | .addAlias name target => registry.addAlias name target

/-- The registry after a call, beside the answer. -/
def perform (registry : Registry α) (call : RegistryCall α) : Registry α × Except PortrayalError Unit :=
  match registry.enter call with
  | .ok extended => (extended, .ok ())
  | .error error => (registry, .error error)

/-- The registry after a run of calls, whether they succeed or fail. -/
def run (registry : Registry α) (calls : List (RegistryCall α)) : Registry α :=
  calls.foldl (fun current call => (current.perform call).1) registry

/-- No name is both a procedure and an alias, and every alias leads to a procedure. -/
structure Sound (registry : Registry α) : Prop where
  closed : registry.Closed
  apart : ∀ name, registry.procedures.contains name = true → registry.aliases.contains name = false

theorem isTaken_eq_false_iff {registry : Registry α} {name : String} :
    registry.isTaken name = false ↔
      registry.procedures.contains name = false ∧ registry.aliases.contains name = false :=
  Bool.or_eq_false_iff

/-- What a call that succeeds does: the name was free, and is given to the procedure, or to an alias of the
procedure that the target stands for. -/
theorem enter_cases {registry extended : Registry α} {call : RegistryCall α}
    (entered : registry.enter call = .ok extended) :
    registry.isTaken call.name = false ∧
      ((∃ procedure, call = .register procedure ∧
          extended = { registry with
            procedures := registry.procedures.insert procedure.name procedure }) ∨
        ∃ name target canonical, call = .addAlias name target ∧
          registry.canonicalName? target = some canonical ∧
          extended = { registry with aliases := registry.aliases.insert name canonical }) := by
  cases call with
  | register procedure =>
    simp only [enter, Registry.register] at entered
    split at entered
    · cases entered
    · next free =>
      cases entered
      exact ⟨Bool.not_eq_true _ ▸ free, .inl ⟨procedure, rfl, rfl⟩⟩
  | addAlias name target =>
    simp only [enter, Registry.addAlias] at entered
    split at entered
    · cases entered
    · next free =>
      refine ⟨Bool.not_eq_true _ ▸ free, .inr ⟨name, target, ?_⟩⟩
      split at entered
      · next canonical resolved =>
        cases entered
        exact ⟨canonical, rfl, resolved, rfl⟩
      · cases entered

/-- A call fails for a name that is taken, and for a target that stands for nothing. -/
theorem enter_eq_error_iff {registry : Registry α} {call : RegistryCall α} {error : PortrayalError} :
    registry.enter call = .error error ↔
      (registry.isTaken call.name = true ∧ error = .duplicateProcedure call.name) ∨
        ∃ name target, call = .addAlias name target ∧ registry.isTaken name = false ∧
          registry.contains target = false ∧ error = .danglingAlias name target := by
  cases call with
  | register procedure =>
    cases taken : registry.isTaken procedure.name <;>
      simp [enter, Registry.register, RegistryCall.name, taken, @eq_comm _ error]
  | addAlias name target =>
    simp only [enter, Registry.addAlias, RegistryCall.name, contains, RegistryCall.addAlias.injEq]
    cases taken : registry.isTaken name with
    | true =>
      constructor
      · rintro ⟨⟩
        exact .inl ⟨rfl, rfl⟩
      · rintro (⟨-, rfl⟩ | ⟨_, _, ⟨rfl, rfl⟩, free, -⟩)
        · rfl
        · cases taken.symm.trans free
    | false =>
      cases resolved : registry.canonicalName? target with
      | none =>
        constructor
        · rintro ⟨⟩
          exact .inr ⟨name, target, ⟨rfl, rfl⟩, taken, by rw [resolved]; rfl, rfl⟩
        · rintro (⟨⟨⟩, -⟩ | ⟨_, _, ⟨rfl, rfl⟩, -, -, rfl⟩)
          rfl
      | some canonical =>
        constructor
        · rintro ⟨⟩
        · rintro (⟨⟨⟩, -⟩ | ⟨_, _, ⟨rfl, rfl⟩, -, unknown, -⟩)
          rw [resolved] at unknown
          cases unknown

namespace Sound

variable {registry : Registry α}

theorem isTaken (sound : registry.Sound) {name : String} {procedure : Procedure α}
    (found : registry.find? name = some procedure) : registry.isTaken name = true := by
  rw [← sound.closed.isSome_find?, found]
  rfl

/-- An alias never leads to an alias. -/
theorem target (sound : registry.Sound) {name target : String}
    (leads : registry.aliases.find? name = some target) :
    registry.procedures.contains target = true ∧ registry.aliases.find? target = none := by
  have registered := sound.closed name target leads
  exact ⟨registered, Option.not_isSome_iff_eq_none.mp (Bool.eq_false_iff.mp (sound.apart target registered))⟩

theorem insertProcedure (sound : registry.Sound) {procedure : Procedure α}
    (free : registry.isTaken procedure.name = false) :
    Sound { registry with
      procedures := registry.procedures.insert procedure.name procedure } := by
  refine ⟨sound.closed.insertProcedure procedure.name procedure, fun name registered => ?_⟩
  rcases (contains_insert_iff ..).mp registered with rfl | before
  · exact (isTaken_eq_false_iff.mp free).2
  · exact sound.apart name before

theorem insertAlias (sound : registry.Sound) {name target : String}
    (free : registry.isTaken name = false) (known : registry.procedures.contains target = true) :
    Sound { registry with aliases := registry.aliases.insert name target } := by
  refine ⟨sound.closed.insertAlias known name, fun other registered => ?_⟩
  rw [Bool.eq_false_iff]
  intro aliased
  rcases (contains_insert_iff ..).mp aliased with rfl | before
  · rw [(isTaken_eq_false_iff.mp free).1] at registered
    cases registered
  · rw [sound.apart other registered] at before
    cases before

theorem perform (sound : registry.Sound) (call : RegistryCall α) : (registry.perform call).1.Sound := by
  rw [Registry.perform]
  cases entered : registry.enter call with
  | error error => exact sound
  | ok extended =>
    obtain ⟨free, ⟨procedure, rfl, rfl⟩ | ⟨name, target, canonical, rfl, resolved, rfl⟩⟩ :=
      enter_cases entered
    · exact sound.insertProcedure free
    · exact sound.insertAlias free (sound.closed.contains_canonicalName? resolved)

theorem run (sound : registry.Sound) (calls : List (RegistryCall α)) : (registry.run calls).Sound := by
  induction calls generalizing registry with
  | nil => exact sound
  | cons call rest ih => exact ih (sound.perform call)

/-- A name that is in use is none that a call can give away. -/
theorem find?_insert_of_taken {ν : Type} {name given : String} (taken : registry.isTaken name = true)
    (free : registry.isTaken given = false) (map : SortedMap String ν) (value : ν) :
    (map.insert given value).find? name = map.find? name := by
  have apart : SortKey.order name given ≠ .eq := by
    intro same
    rw [SortKey.eq_of_order same, free] at taken
    cases taken
  rw [SortedMap.find?_insert, if_neg apart]

theorem find?_insertProcedure (sound : registry.Sound) {name : String} {procedure added : Procedure α}
    (found : registry.find? name = some procedure) (free : registry.isTaken added.name = false) :
    Registry.find? { registry with procedures := registry.procedures.insert added.name added } name =
      some procedure := by
  have taken := sound.isTaken found
  obtain ⟨canonical, resolved, registered⟩ := Option.bind_eq_some_iff.mp found
  have behind : registry.isTaken canonical = true := by
    rw [Registry.isTaken, sound.closed.contains_canonicalName? resolved]
    rfl
  refine Option.bind_eq_some_iff.mpr ⟨canonical, ?_, ?_⟩
  · rwa [canonicalName?, SortedMap.contains, find?_insert_of_taken taken free]
  · rwa [find?_insert_of_taken behind free]

theorem find?_insertAlias (sound : registry.Sound) {name added target : String} {procedure : Procedure α}
    (found : registry.find? name = some procedure) (free : registry.isTaken added = false) :
    Registry.find? { registry with aliases := registry.aliases.insert added target } name =
      some procedure := by
  obtain ⟨canonical, resolved, registered⟩ := Option.bind_eq_some_iff.mp found
  refine Option.bind_eq_some_iff.mpr ⟨canonical, ?_, registered⟩
  rwa [canonicalName?, find?_insert_of_taken (sound.isTaken found) free]

/-- A name that stands for a procedure stands for it after any call. -/
theorem find?_perform (sound : registry.Sound) {name : String} {procedure : Procedure α}
    (found : registry.find? name = some procedure) (call : RegistryCall α) :
    (registry.perform call).1.find? name = some procedure := by
  rw [Registry.perform]
  cases entered : registry.enter call with
  | error error => exact found
  | ok extended =>
    obtain ⟨free, ⟨added, rfl, rfl⟩ | ⟨added, target, canonical, rfl, -, rfl⟩⟩ := enter_cases entered
    · exact sound.find?_insertProcedure found free
    · exact sound.find?_insertAlias found free

theorem find?_run (sound : registry.Sound) {name : String} {procedure : Procedure α}
    (found : registry.find? name = some procedure) (calls : List (RegistryCall α)) :
    (registry.run calls).find? name = some procedure := by
  induction calls generalizing registry with
  | nil => exact found
  | cons call rest ih => exact ih (sound.perform call) (sound.find?_perform found call)

end Sound

theorem sound_empty : (empty : Registry α).Sound := ⟨closed_empty, fun _ _ => rfl⟩

/-- The names that an entry of the standard registry takes up. -/
def entryNames (entry : Procedure α × List String) : List String := entry.1.name :: entry.2

theorem contains_foldl_insert_iff {ν : Type} (map : SortedMap String ν) (names : List String) (value : ν)
    (other : String) :
    (names.foldl (fun map name => map.insert name value) map).contains other = true ↔
      other ∈ names ∨ map.contains other = true := by
  induction names generalizing map with
  | nil => simp
  | cons name rest ih => rw [List.foldl_cons, ih, contains_insert_iff, List.mem_cons, or_left_comm, or_assoc]

/-- An entry takes up its names and no others. -/
theorem isTaken_install_iff (registry : Registry α) (entry : Procedure α × List String) (name : String) :
    (registry.install entry).isTaken name = true ↔
      name ∈ entryNames entry ∨ registry.isTaken name = true := by
  simp only [isTaken, install, Bool.or_eq_true, contains_insert_iff, contains_foldl_insert_iff, entryNames,
    List.mem_cons]
  exact or_or_or_comm

namespace Sound

variable {registry : Registry α}

/-- Nothing checks the names when an entry is installed: they have to be free, and the aliases have to be
others than the procedure. -/
theorem install (sound : registry.Sound) {entry : Procedure α × List String}
    (free : ∀ name ∈ entryNames entry, registry.isTaken name = false) (own : entry.1.name ∉ entry.2) :
    (registry.install entry).Sound := by
  obtain ⟨freeName, freeAliases⟩ := List.forall_mem_cons.mp free
  refine ⟨sound.closed.install entry, fun name registered => ?_⟩
  rw [Bool.eq_false_iff]
  intro aliased
  rcases (contains_insert_iff ..).mp registered with rfl | before
  · rcases (contains_foldl_insert_iff ..).mp aliased with again | earlier
    · exact own again
    · rw [(isTaken_eq_false_iff.mp freeName).2] at earlier
      cases earlier
  · rcases (contains_foldl_insert_iff ..).mp aliased with new | earlier
    · rw [(isTaken_eq_false_iff.mp (freeAliases name new)).1] at before
      cases before
    · rw [sound.apart name before] at earlier
      cases earlier

/-- Entries that have no name in common may be installed one after another. -/
theorem installAll (sound : registry.Sound) {entries : List (Procedure α × List String)}
    (distinct : (entries.flatMap entryNames).Nodup)
    (free : ∀ name ∈ entries.flatMap entryNames, registry.isTaken name = false) :
    (entries.foldl Registry.install registry).Sound := by
  induction entries generalizing registry with
  | nil => exact sound
  | cons entry rest ih =>
    rw [List.flatMap_cons, List.nodup_append] at distinct
    obtain ⟨here, later, apart⟩ := distinct
    rw [List.flatMap_cons, List.forall_mem_append] at free
    refine ih (sound.install free.1 (List.nodup_cons.mp here).1) later (fun name member => ?_)
    rw [Bool.eq_false_iff]
    intro taken
    rcases (isTaken_install_iff ..).mp taken with new | before
    · exact apart name new name member rfl
    · rw [free.2 name member] at before
      cases before

end Sound

variable [Quantity α]

theorem sound_standard : (standard : Registry α).Sound := by
  -- the names are the same for all kinds of numbers
  have names : (standardProcedures : List (Procedure α × List String)).flatMap entryNames =
      (standardProcedures : List (Procedure Rat × List String)).flatMap entryNames := rfl
  have distinct : ((standardProcedures : List (Procedure Rat × List String)).flatMap entryNames).Nodup := by
    decide +kernel
  exact sound_empty.installAll (names ▸ distinct) (fun _ _ => rfl)

/-- After any run of calls on an empty or a standard registry, no name is both a procedure and an alias, every
alias leads to a procedure and to no other alias, and what is known can be found. A call that fails leaves
the registry as it is, and a name that stands for a procedure stands for it after all further calls. -/
theorem run_keeps_names {origin : Registry α} (known : origin = empty ∨ origin = standard)
    (calls : List (RegistryCall α)) :
    let registry := origin.run calls
    (∀ name, ¬ (registry.procedures.contains name = true ∧ registry.aliases.contains name = true)) ∧
    (∀ name target, registry.aliases.find? name = some target →
      registry.procedures.contains target = true ∧ registry.aliases.find? target = none) ∧
    (∀ name, (registry.find? name).isSome = registry.contains name) ∧
    (∀ call error, (registry.perform call).2 = .error error → (registry.perform call).1 = registry) ∧
    ∀ name procedure, registry.find? name = some procedure →
      ∀ further, (registry.run further).find? name = some procedure := by
  intro registry
  have sound : registry.Sound := by
    rcases known with rfl | rfl
    · exact sound_empty.run calls
    · exact sound_standard.run calls
  refine ⟨?_, fun _ _ => sound.target, ?_, ?_, fun _ _ found => sound.find?_run found⟩
  · rintro name ⟨registered, aliased⟩
    rw [sound.apart name registered] at aliased
    cases aliased
  · intro name
    rw [sound.closed.isSome_find?, contains_eq_isTaken]
  · intro call error failed
    rw [perform] at failed ⊢
    cases entered : registry.enter call with
    | error other => rfl
    | ok extended =>
      rw [entered] at failed
      cases failed

/-- A chain of aliases is flattened; an alias of itself, a procedure under the name of an alias and an alias
under the name of a standard procedure are refused. -/
theorem run_keeps_names_chain :
    let buoyage : Procedure Rat := .constant "BUOYAG01" true (some "SY(BOYGEN03)")
    let calls : List (RegistryCall Rat) :=
      [.addAlias "BUOYAG02" "BUOYAG02", .register buoyage, .addAlias "BUOYAG02" "BUOYAG01",
        .addAlias "BUOYAG03" "BUOYAG02", .register { buoyage with name := "BUOYAG03" },
        .addAlias "DEPARE02" "BUOYAG01"]
    let registry := standard.run calls
    registry.aliases.find? "BUOYAG03" = some "BUOYAG01" ∧ registry.aliases.find? "BUOYAG01" = none ∧
      (registry.perform (.addAlias "DEPARE01" "BUOYAG03")).1 = registry ∧
      ∃ procedure, procedure.name = "BUOYAG01" ∧ registry.find? "BUOYAG03" = some procedure ∧
        (registry.run [.register buoyage, .addAlias "BUOYAG04" "BUOYAG03"]).find? "BUOYAG03" =
          some procedure := by
  intro buoyage calls registry
  obtain ⟨-, targets, -, unchanged, stable⟩ := run_keeps_names (.inr rfl) calls
  have leads : registry.aliases.find? "BUOYAG03" = some "BUOYAG01" := by decide +kernel
  have taken : registry.isTaken "DEPARE01" = true := by decide +kernel
  have entered : registry.enter (.addAlias "DEPARE01" "BUOYAG03") =
      .error (.duplicateProcedure "DEPARE01") := enter_eq_error_iff.mpr (.inl ⟨taken, rfl⟩)
  have refused : (registry.perform (.addAlias "DEPARE01" "BUOYAG03")).2 =
      .error (.duplicateProcedure "DEPARE01") := by
    rw [perform, entered]
  have named : (registry.find? "BUOYAG03").map (·.name) = some "BUOYAG01" := by decide +kernel
  obtain ⟨procedure, found, name⟩ := Option.map_eq_some_iff.mp named
  exact ⟨leads, (targets _ _ leads).2, unchanged _ _ refused, procedure, name, found, stable _ _ found _⟩

end Registry

end ChartPortrayal
