import ChartPortrayal.Rule.Table
import ChartPortrayal.Rule.Priority
import ChartPortrayal.Rule.Constraint

namespace ChartPortrayal

structure Rule where
  className : String
  table : Table
  constraints : List Constraint
  /-- What is drawn, as instruction text. -/
  instruction : String
  priority : Priority
  /-- The number of the row in the source of the library. -/
  recordId : UInt32
deriving DecidableEq

def Rule.plain (className : String) (table : Table) (instruction : String) (priority : Priority) :
    Rule where
  className := className
  table := table
  constraints := []
  instruction := instruction
  priority := priority
  recordId := 0

end ChartPortrayal
