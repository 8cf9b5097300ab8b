import ChartPortrayal.Conditional.Procedure

/-!
The registry of conditional procedures. Aliases are resolved when they are registered, so that an alias
never leads to another one, and a name is given away only once.
-/

namespace ChartPortrayal

structure Registry (α : Type) where
  procedures : SortedMap String (Procedure α)
  /-- The registered name behind each alias. -/
  aliases : SortedMap String String

namespace Registry

variable {α : Type}

def empty : Registry α := ⟨.empty, .empty⟩

def canonicalName? (registry : Registry α) (name : String) : Option String :=
  if registry.procedures.contains name then some name else registry.aliases.find? name

def find? (registry : Registry α) (name : String) : Option (Procedure α) :=
  (registry.canonicalName? name).bind registry.procedures.find?

def contains (registry : Registry α) (name : String) : Bool := (registry.canonicalName? name).isSome

def isTaken (registry : Registry α) (name : String) : Bool :=
  registry.procedures.contains name || registry.aliases.contains name

def register (registry : Registry α) (procedure : Procedure α) :
    Except PortrayalError (Registry α) :=
  if registry.isTaken procedure.name then .error (.duplicateProcedure procedure.name)
  else .ok { registry with procedures := registry.procedures.insert procedure.name procedure }

/-- Registers an alias for a procedure, or for what another alias stands for. -/
def addAlias (registry : Registry α) (name target : String) : Except PortrayalError (Registry α) :=
  if registry.isTaken name then .error (.duplicateProcedure name)
  else
    match registry.canonicalName? target with
    | some canonical => .ok { registry with aliases := registry.aliases.insert name canonical }
    | none => .error (.danglingAlias name target)

def names (registry : Registry α) : List String := registry.procedures.keys

def size (registry : Registry α) : Nat := registry.procedures.size

def isEmpty (registry : Registry α) : Bool := registry.procedures.isEmpty

end Registry

end ChartPortrayal
