import ChartPortrayal.Conditional.Accuracy

namespace ChartPortrayal.MarinerObject

def formattedText (format attributeName hjust vjust x y colour : String) : Directive :=
  .ofParameters "TE"
    [Directive.quoted format, Directive.quoted attributeName, hjust, vjust, "2",
     Directive.quoted "15110", x, y, colour, "51"]

variable {α : Type} [Quantity α]

def routeLeg : Procedure α :=
  .ofDirectives "LEGLIN02" (fun situation =>
    (if situation.feature.hasInteger "select" [1] then .complexLine "PLNRTE03"
      else .simpleLine "DASH" 2 "APLRT") ::
      (if situation.feature.hasValue "plnspd" then
        [formattedText "%4.1lf kt" "plnspd" "3" "2" "0" "-1" "APLRT"]
      else []))

def clearingLine : Procedure α :=
  .ofDirectives "CLRLIN01" (fun situation =>
    [.simpleLine "SOLD" 1 "NINFO",
      if (situation.feature.number? "ORIENT" : Option α).isSome then .rotatedSymbol "CLRLIN01" "ORIENT"
      else .symbol "CLRLIN01"] ++
      (if situation.feature.hasValue "clrbrg" then
        [formattedText "clr %03.0lf deg" "clrbrg" "1" "1" "0" "-1" "NINFO"]
      else []))

def pastTrack : Procedure α :=
  .ofDirectives "PASTRK01" (fun situation =>
    [if situation.feature.hasInteger "cat_pst" [2] then .simpleLine "SOLD" 1 "SYTRK"
      else .simpleLine "SOLD" 2 "PSTRK"])

/-- What is drawn of a new object without instructions. -/
def newObjectSymbols : Geometry → List Directive
  | .point => [.symbol "NEWOBJ01"]
  | .line => [.simpleLine "DASH" 2 "CHMGD"]
  | .area => [.symbol "NEWOBJ01", .simpleLine "DASH" 2 "CHMGD"]

/-- The instructions of a new object, as its attribute gives them. -/
def newObject : Procedure α where
  name := "SYMINS01"
  alwaysReturns := true
  compute situation :=
    let feature := situation.feature
    if feature.hasValue "SYMINS" then
      (feature.attribute? "SYMINS").map (fun text => .verbatim (Text.trim text))
    else some (.directives (newObjectSymbols feature.geometry))

end ChartPortrayal.MarinerObject
