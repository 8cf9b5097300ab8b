import ChartPortrayal.Conditional.Hazard
import ChartPortrayal.Conditional.Light
import ChartPortrayal.Conditional.MarinerObject
import ChartPortrayal.Conditional.Registry
import ChartPortrayal.Conditional.Topmark

namespace ChartPortrayal

variable {α : Type} [Quantity α]

def standardProcedures : List (Procedure α × List String) :=
  [(Depth.depthArea, ["DEPARE01", "DEPARE03"]),
   (Depth.depthContour, ["DEPCNT03"]),
   (Light.light, ["LIGHTS06"]),
   (Hazard.obstruction, ["OBSTRN06", "OBSTRN07", "UWTROC03", "UWTROC04"]),
   (Hazard.wreck, ["WRECKS04", "WRECKS05"]),
   (Restriction.restrictedArea, ["RESARE04"]),
   (Restriction.restriction, []),
   (Sounding.sounding, ["SOUNDG03"]),
   (Topmark.topmark, []),
   (Accuracy.positionQuality, []),
   (Accuracy.shorelineConstruction, ["SLCONS04"]),
   (Accuracy.dataCoverage, ["DATCVR02"]),
   (MarinerObject.routeLeg, ["LEGLIN03", "LEGLIN04"]),
   (MarinerObject.newObject, ["SYMINS02"]),
   (MarinerObject.clearingLine, []),
   (MarinerObject.pastTrack, [])]

namespace Registry

/-- Puts a procedure and its aliases into a registry in which their names are free. -/
def install (registry : Registry α) (entry : Procedure α × List String) : Registry α where
  procedures := registry.procedures.insert entry.1.name entry.1
  aliases := entry.2.foldl (fun aliases name => aliases.insert name entry.1.name) registry.aliases

def standard : Registry α := standardProcedures.foldl install empty

end Registry

end ChartPortrayal
