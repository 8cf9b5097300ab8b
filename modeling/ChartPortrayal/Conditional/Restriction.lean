import ChartPortrayal.Conditional.Procedure

/-!
Regulated areas. Restrictions rank from entry over anchoring and fishing to all others, and the strongest
rank in a list gives the symbol its family. Within the three named ranks the variant 61 tells of further
restrictions of a weaker rank, 71 of mere information, and 51 of neither.
-/

namespace ChartPortrayal.Restriction

inductive Rank where
  | entry
  | anchoring
  | fishing
  | other
deriving DecidableEq

def entryCodes : List Nat := [7, 8, 14]

def anchoringCodes : List Nat := [1, 2]

def fishingCodes : List Nat := [3, 4, 5, 6, 24]

def otherCodes : List Nat := [13, 16, 17, 23, 25, 26, 27]

def informationCodes : List Nat := [9, 10, 11, 12, 15, 18, 19, 20, 21, 22]

namespace Rank

/-- The strongest rank that a list holds a code of. -/
def ofCodes (list : CodeList) : Rank :=
  if list.containsAny entryCodes then entry
  else if list.containsAny anchoringCodes then anchoring
  else if list.containsAny fishingCodes then fishing
  else other

/-- The codes that count as further restrictions beside a rank. -/
def further : Rank → List Nat
  | entry => [1, 2, 3, 4, 5, 6, 13, 16, 17, 23, 24, 25, 26, 27]
  | anchoring => fishingCodes
  | fishing => otherCodes
  | other => []

def boundary : Rank → String
  | entry => "ENTRES51"
  | anchoring => "ACHRES51"
  | fishing => "FSHRES51"
  | other => "CTYARE51"

end Rank

/-- What a symbol says beside its family. -/
inductive Emphasis where
  | none
  | furtherRestrictions
  | information
deriving DecidableEq

def Emphasis.digits : Emphasis → String
  | none => "51"
  | furtherRestrictions => "61"
  | information => "71"

structure Symbol where
  family : String
  emphasis : Emphasis
deriving DecidableEq

namespace Symbol

def name (symbol : Symbol) : String := symbol.family ++ symbol.emphasis.digits

def directives (symbol : Symbol) : List Directive :=
  if symbol.emphasis = .none then [.symbol symbol.name]
  else [.symbol symbol.name, .overridePriority ["6-------"]]

end Symbol

def emphasis (rank : Rank) (list : CodeList) : Emphasis :=
  if list.containsAny rank.further then .furtherRestrictions
  else if list.containsAny informationCodes then .information
  else .none

def symbol? (list : CodeList) : Option Symbol :=
  if list.isEmpty then none
  else
    some (match Rank.ofCodes list with
      | .entry => ⟨"ENTRES", emphasis .entry list⟩
      | .anchoring => ⟨"ACHRES", emphasis .anchoring list⟩
      | .fishing => ⟨"FSHRES", emphasis .fishing list⟩
      | .other => ⟨if list.containsAny informationCodes then "INFARE" else "RSRDEF", .none⟩)

def cautionCategories : List Nat := [1, 8, 9, 12, 14, 18, 19, 21, 24, 25, 26]

def informationCategories : List Nat := [4, 5, 6, 7, 10, 20, 22, 23]

/-- The symbol of an area that is known by its category alone. -/
def categorySymbol (categories : CodeList) : Symbol :=
  if categories.containsAny cautionCategories then
    ⟨"CTYARE", if categories.containsAny informationCategories then .information else .none⟩
  else ⟨if categories.containsAny informationCategories then "INFARE" else "RSRDEF", .none⟩

variable {α : Type}

def ofFeature? (feature : Feature α) : Option Symbol := symbol? (feature.codes "RESTRN")

def area (feature : Feature α) : List Directive × String :=
  match ofFeature? feature with
  | some symbol => (symbol.directives, (Rank.ofCodes (feature.codes "RESTRN")).boundary)
  | none => ((categorySymbol (feature.codes "CATREA")).directives, "CTYARE51")

def restrictedArea : Procedure α :=
  .ofDirectives "RESARE02" (fun situation =>
    let (centre, boundary) := area situation.feature
    centre ++ (match situation.variant with
      | .primary => [.complexLine boundary]
      | .alternate => [.simpleLine "DASH" 2 "CHMGD"]))

def restriction : Procedure α where
  name := "RESTRN01"
  alwaysReturns := false
  compute situation :=
    (ofFeature? situation.feature).map (fun symbol => .directives [.symbol symbol.name])

end ChartPortrayal.Restriction
