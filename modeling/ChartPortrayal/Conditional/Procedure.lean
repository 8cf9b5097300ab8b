import ChartPortrayal.Chart.Basic
import ChartPortrayal.Conditional.Fragment
import ChartPortrayal.Rule.Table
import ChartPortrayal.Settings.Basic

namespace ChartPortrayal

/-- All that a procedure may look at. -/
structure Situation (α : Type) where
  feature : Feature α
  chart : Chart α
  settings : Settings α
  variant : Variant

def Situation.linked? {α : Type} (situation : Situation α) (role : LinkRole) : Option (Feature α) :=
  situation.chart.linked? situation.feature role

structure Procedure (α : Type) where
  name : String
  /-- Whether returning nothing is an error. -/
  alwaysReturns : Bool
  compute : Situation α → Option Fragment

namespace Procedure

variable {α : Type}

def ofDirectives (name : String) (compute : Situation α → List Directive) : Procedure α where
  name := name
  alwaysReturns := true
  compute situation := some (.directives (compute situation))

def constant (name : String) (alwaysReturns : Bool) (text : Option String) : Procedure α where
  name := name
  alwaysReturns := alwaysReturns
  compute _ := text.map .verbatim

end Procedure

end ChartPortrayal
