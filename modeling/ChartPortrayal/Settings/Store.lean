import ChartPortrayal.Settings.Basic
import ChartPortrayal.Rule.Priority

/-!
The settings in force, with the display filters and two generations. A write that changes a setting raises
the generation of what depends on it, symbology or labels; nothing else raises one. Whoever keeps results
compares generations instead of settings.
-/

namespace ChartPortrayal

structure SettingsStore (α : Type) where
  settings : Settings α
  /-- The most cluttered category that is shown. -/
  displayCategory : DisplayCategory
  suppressedClasses : List String
  symbologyGeneration : Nat
  textGeneration : Nat

namespace SettingsStore

variable {α : Type}

def ofSettings (settings : Settings α) : SettingsStore α where
  settings := settings
  displayCategory := .standard
  suppressedClasses := []
  symbologyGeneration := 1
  textGeneration := 1

def setDisplayCategory (store : SettingsStore α) (category : DisplayCategory) : SettingsStore α :=
  { store with displayCategory := category }

def isSuppressed (store : SettingsStore α) (className : String) : Bool :=
  store.suppressedClasses.contains className

def suppress (store : SettingsStore α) (className : String) : SettingsStore α :=
  if store.isSuppressed className then store
  else { store with suppressedClasses := className :: store.suppressedClasses }

def unsuppress (store : SettingsStore α) (className : String) : SettingsStore α :=
  { store with suppressedClasses := store.suppressedClasses.filter (· != className) }

/-- Whether features of a category are shown. The mariner's own objects have switches of their own. -/
def showsCategory (store : SettingsStore α) (category : DisplayCategory) : Bool :=
  category = .mariner || category.rank ≤ store.displayCategory.rank

variable [Quantity α]

def standard : SettingsStore α := ofSettings .standard

def get (store : SettingsStore α) (parameter : Parameter) : α := store.settings.get parameter

def changes (store : SettingsStore α) (parameter : Parameter) (value : α) : Bool :=
  !(store.get parameter == value)

/-- Writes a setting; writing the value that is there does nothing. -/
def set (store : SettingsStore α) (parameter : Parameter) (value : α) : SettingsStore α :=
  if store.changes parameter value then
    let written := { store with settings := store.settings.put parameter value }
    if parameter.affectsText then { written with textGeneration := store.textGeneration + 1 }
    else { written with symbologyGeneration := store.symbologyGeneration + 1 }
  else store

def replace (store : SettingsStore α) (settings : Settings α) : SettingsStore α :=
  Parameter.all.foldl (fun current parameter => current.set parameter (settings.get parameter)) store

end SettingsStore

end ChartPortrayal
