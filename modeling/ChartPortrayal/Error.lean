/-!
What can go wrong while a library is loaded or a feature is portrayed. Procedures fall back on documented
defaults where attribute values are bad, so that an error describes a library that does not fit together, or a
request about a feature that is not there.
-/

namespace ChartPortrayal

inductive PortrayalError where
  | multipleConditionalCalls (className : String) (rule count : Nat)
  | unknownProcedure (name : String)
  /-- A procedure that always returns a fragment returned none. -/
  | emptyProcedureOutput (procedure className : String)
  | nestedConditionalCall (procedure : String)
  | duplicateProcedure (name : String)
  /-- An alias is registered for a name that is not. -/
  | danglingAlias (name target : String)
  | unknownFeature (id : Nat)
  /-- The payload of a priority override does not have its eight characters. -/
  | invalidPriorityOverride (payload : String)
  | unreadableFile
  | malformedDocument
  /-- A number does not fit the type that it is computed in. This is not reported: the program stops there. -/
  | overflow
deriving DecidableEq

namespace PortrayalError

/-- What is said about an error. What a file system or a document format has to say of its own is not
part of the text. -/
def message : PortrayalError → String
  | multipleConditionalCalls className rule count =>
    s!"rule {rule} for class {className} calls conditional symbology {count} times"
  | unknownProcedure name => s!"unknown conditional symbology procedure: {name}"
  | emptyProcedureOutput procedure className =>
    s!"conditional procedure {procedure} returned no instructions for {className}"
  | nestedConditionalCall procedure => s!"conditional procedure {procedure} emitted a nested CS call"
  | duplicateProcedure name => s!"procedure name already registered: {name}"
  | danglingAlias name target => s!"alias {name} targets unregistered procedure {target}"
  | unknownFeature id => s!"unknown feature id: {id}"
  | invalidPriorityOverride payload => s!"invalid priority override payload: {payload}"
  | unreadableFile => "IO error"
  | malformedDocument => "JSON error"
  | overflow => "overflow"

/-- Whether an error spoils the whole library rather than one request. -/
def isFatal : PortrayalError → Bool
  | multipleConditionalCalls .. => true
  | unknownProcedure _ => true
  | emptyProcedureOutput .. => true
  | nestedConditionalCall _ => true
  | duplicateProcedure _ => true
  | danglingAlias .. => true
  | _ => false

end PortrayalError

end ChartPortrayal
