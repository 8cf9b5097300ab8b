import ChartPortrayal.SortedMap
import ChartPortrayal.Feature.CodeList
import ChartPortrayal.Feature.Extent
import ChartPortrayal.Text.Blank

namespace ChartPortrayal

inductive Geometry where
  | point
  | line
  | area
deriving DecidableEq

def Geometry.all : List Geometry := [.point, .line, .area]

def Geometry.name : Geometry → String
  | .point => "point"
  | .line => "line"
  | .area => "area"

/-- What one feature is to another that it is linked from. -/
inductive LinkRole where
  /-- The floating structure that carries a light or a topmark. -/
  | platform
  | coLocatedLight
  /-- The depth area on the shallow side of a contour. -/
  | underlyingDepthArea
  | leastDepthArea
deriving DecidableEq

namespace LinkRole

def all : List LinkRole := [platform, coLocatedLight, underlyingDepthArea, leastDepthArea]

def rank : LinkRole → Nat
  | platform => 0
  | coLocatedLight => 1
  | underlyingDepthArea => 2
  | leastDepthArea => 3

instance : SortKey LinkRole := .ofRank rank (by intro a b; cases a <;> cases b <;> decide)

def name : LinkRole → String
  | platform => "platform"
  | coLocatedLight => "co-located-light"
  | underlyingDepthArea => "underlying-depth-area"
  | leastDepthArea => "least-depth-area"

def label : LinkRole → String
  | platform => "Platform"
  | coLocatedLight => "CoLocatedLight"
  | underlyingDepthArea => "UnderlyingDepthArea"
  | leastDepthArea => "LeastDepthArea"

end LinkRole

/-- A feature. Its identifier is zero until a chart has given it one. -/
structure Feature (α : Type) where
  id : Nat
  cell : Nat
  geometry : Geometry
  className : String
  attributes : SortedMap String String
  extent : Extent α
  /-- The depth that the geometry of a sounding carries. -/
  sounding : Option α
  links : SortedMap LinkRole Nat
  highlighted : Bool

namespace Feature

variable {α : Type}

/-- The text of an attribute, also where it says that the value is unknown. -/
def attribute? (feature : Feature α) (name : String) : Option String :=
  feature.attributes.find? name

/-- Whether an attribute is present and known: one whose text is blank is present but unknown. -/
def hasValue (feature : Feature α) (name : String) : Bool :=
  match feature.attribute? name with
  | some text => Text.trim text != ""
  | none => false

def setAttribute (feature : Feature α) (name value : String) : Feature α :=
  { feature with attributes := feature.attributes.insert name value }

def codes (feature : Feature α) (name : String) : CodeList :=
  ((feature.attribute? name).map CodeList.parse).getD .empty

def link? (feature : Feature α) (role : LinkRole) : Option Nat := feature.links.find? role

variable [Quantity α]

def plain (className : String) (geometry : Geometry) : Feature α where
  id := 0
  cell := 0
  geometry := geometry
  className := className
  attributes := .empty
  extent := .origin
  sounding := none
  links := .empty
  highlighted := false

def number? (feature : Feature α) (name : String) : Option α :=
  (feature.attribute? name).bind (fun text => Quantity.read? (Text.trim text))

/-- An attribute as an integer; one that is written as a fraction is cut to its integer part. -/
def integer? (feature : Feature α) (name : String) : Option Int :=
  (feature.attribute? name).bind (fun text =>
    match integer64? (Text.trim text) with
    | some value => some value
    | none => (Quantity.read? (Text.trim text) : Option α).map Quantity.truncate)

end Feature

end ChartPortrayal
