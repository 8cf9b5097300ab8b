import ChartPortrayal.Feature.Basic
import ChartPortrayal.Error

/-!
Charts: the loaded features under identifiers that are given once and never again. Features are listed in
the order of their identifiers, which is the order of insertion.

A chart counts a link generation. Whatever removes a feature or changes a stored link raises it, so that a
result which followed links can be told stale.
-/

namespace ChartPortrayal

structure Chart (α : Type) where
  features : SortedMap Nat (Feature α)
  lastId : Nat
  linkGeneration : Nat

namespace Chart

variable {α : Type}

def empty : Chart α := ⟨.empty, 0, 0⟩

def find? (chart : Chart α) (id : Nat) : Option (Feature α) := chart.features.find? id

def require (chart : Chart α) (id : Nat) : Except PortrayalError (Feature α) :=
  match chart.find? id with
  | some feature => .ok feature
  | none => .error (.unknownFeature id)

def contains (chart : Chart α) (id : Nat) : Bool := chart.features.contains id

def size (chart : Chart α) : Nat := chart.features.size

def isEmpty (chart : Chart α) : Bool := chart.features.isEmpty

def list (chart : Chart α) : List (Feature α) := chart.features.values

def ids (chart : Chart α) : List Nat := chart.features.keys

def nextId (chart : Chart α) : Nat := chart.lastId + 1

def insert (chart : Chart α) (feature : Feature α) : Chart α :=
  { chart with
    features := chart.features.insert chart.nextId { feature with id := chart.nextId }
    lastId := chart.nextId }

def cellFeatures (chart : Chart α) (cell : Nat) : List (Feature α) :=
  chart.list.filter (fun feature => feature.cell == cell)

def cells (chart : Chart α) : List Nat :=
  (SortedMap.ofList (chart.list.map (fun feature => (feature.cell, ())))).keys

def adjust (chart : Chart α) (id : Nat) (change : Feature α → Feature α) : Chart α :=
  { chart with features := chart.features.adjust id change }

def erase (chart : Chart α) (id : Nat) : Chart α :=
  if chart.contains id then
    { chart with
      features := chart.features.erase id
      linkGeneration := chart.linkGeneration + 1 }
  else chart

def eraseCell (chart : Chart α) (cell : Nat) : Chart α :=
  let removed := (chart.cellFeatures cell).map (·.id)
  if removed.isEmpty then chart
  else
    { chart with
      features := removed.foldl (fun features id => features.erase id) chart.features
      linkGeneration := chart.linkGeneration + 1 }

/-- The feature that a link leads to, unless there is no link or the feature is gone. -/
def linked? (chart : Chart α) (feature : Feature α) (role : LinkRole) : Option (Feature α) :=
  (feature.link? role).bind chart.find?

def follow? (chart : Chart α) (id : Nat) (role : LinkRole) : Option (Feature α) :=
  (chart.find? id).bind (fun feature => chart.linked? feature role)

/-- Stores a link in a role, or clears the role. -/
def relink (role : LinkRole) (target : Option Nat) (feature : Feature α) : Feature α :=
  match target with
  | some id => { feature with links := feature.links.insert role id }
  | none => { feature with links := feature.links.erase role }

/-- Sets or clears a link of a feature; nothing happens to an unknown feature. -/
def setLink (chart : Chart α) (id : Nat) (role : LinkRole) (target : Option Nat) : Chart α :=
  match chart.find? id with
  | none => chart
  | some feature =>
    let changed := chart.adjust id (relink role target)
    if feature.link? role = target then changed
    else { changed with linkGeneration := chart.linkGeneration + 1 }

def clearLinks (chart : Chart α) (cell : Nat) : Chart α :=
  let cleared :=
    { chart with
      features := chart.features.mapValues (fun _ feature =>
        if feature.cell = cell then { feature with links := .empty } else feature) }
  if (chart.cellFeatures cell).any (fun feature => !feature.links.isEmpty) then
    { cleared with linkGeneration := chart.linkGeneration + 1 }
  else cleared

/-- The features that hold a link to a feature, in whatever role. -/
def dependents (chart : Chart α) (target : Nat) : List Nat :=
  (chart.list.filter (fun feature => feature.links.values.contains target)).map (·.id)

end Chart

end ChartPortrayal
