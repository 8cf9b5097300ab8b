import ChartPortrayal.Feature.Basic
import ChartPortrayal.Json.Measure

namespace ChartPortrayal

namespace Extent

def toJson (extent : Extent Float) : Json :=
  .object
    [("min_x", .ofFloat extent.minX), ("min_y", .ofFloat extent.minY),
     ("max_x", .ofFloat extent.maxX), ("max_y", .ofFloat extent.maxY)]

def ofJson? (document : Json) : Option (Extent Float) :=
  match Json.fields? ["min_x", "min_y", "max_x", "max_y"] document with
  | some [some minX, some minY, some maxX, some maxY] => do
    let minX ← minX.float?
    let minY ← minY.float?
    let maxX ← maxX.float?
    let maxY ← maxY.float?
    return { minX, minY, maxX, maxY }
  | _ => none

end Extent

namespace LinkRole

def ofName? (name : String) : Option LinkRole := all.find? (fun role => role.name == name)

def linksJson (links : SortedMap LinkRole Nat) : Json :=
  .object (links.entries.map (fun link => (link.1.name, .ofNat link.2)))

end LinkRole

namespace Feature

def attributesJson (attributes : SortedMap String String) : Json :=
  .object (attributes.entries.map (fun entry => (entry.1, .string entry.2)))

def toJson (feature : Feature Float) : Json :=
  .object
    ([("id", .ofNat feature.id), ("cell", .ofNat feature.cell),
      ("geometry", .string feature.geometry.name), ("class", .string feature.className),
      ("attributes", attributesJson feature.attributes), ("extent", feature.extent.toJson)] ++
     (feature.sounding.map (fun depth => ("sounding", Json.ofFloat depth))).toList ++
     [("touch", LinkRole.linksJson feature.links), ("highlighted", .bool feature.highlighted)])

/-- Reads a feature; only the geometry and the class have to be there. -/
def ofJson? (document : Json) : Option (Feature Float) :=
  match Json.fields?
      ["id", "cell", "geometry", "class", "attributes", "extent", "sounding", "touch",
       "highlighted"] document with
  | some [id, cell, some geometry, some className, attributes, extent, sounding, links,
      highlighted] => do
    let id ← Json.optional? 0 (Json.natBelow? (Nat.pow 2 64)) id
    let cell ← Json.optional? 0 (Json.natBelow? (Nat.pow 2 32)) cell
    let geometry ← geometry.choice? Geometry.all Geometry.name
    let className ← className.string?
    let attributes ← Json.optional? [] (Json.entries? some Json.string?) attributes
    let extent ← Json.optional? .origin Extent.ofJson? extent
    let sounding ← Json.nullable? Json.float? sounding
    let links ← Json.optional? [] (Json.entries? LinkRole.ofName? (Json.natBelow? (Nat.pow 2 64))) links
    let highlighted ← Json.optional? false Json.bool? highlighted
    return { id, cell, geometry, className, extent, sounding, highlighted
             attributes := .ofList attributes
             links := .ofList links }
  | _ => none

end Feature

end ChartPortrayal
