import ChartPortrayal.Portrayal.Slot

namespace ChartPortrayal

structure Portrayal (α : Type) where
  id : Nat
  primary : Slot α
  alternate : Slot α

namespace Portrayal

variable {α : Type}

def fresh (id : Nat) : Portrayal α := ⟨id, .fresh, .fresh⟩

def slot (portrayal : Portrayal α) : Variant → Slot α
  | .primary => portrayal.primary
  | .alternate => portrayal.alternate

def setSlot (portrayal : Portrayal α) (variant : Variant) (slot : Slot α) : Portrayal α :=
  match variant with
  | .primary => { portrayal with primary := slot }
  | .alternate => { portrayal with alternate := slot }

def staleSlot (slot : Slot α) : Slot α := { slot with stamp := none, labels := none }

def invalidate (portrayal : Portrayal α) : Portrayal α :=
  { portrayal with
    primary := staleSlot portrayal.primary
    alternate := staleSlot portrayal.alternate }

variable [Quantity α]

/-- Builds a slot anew unless it is current. Every request hands back the portrayal beside its answer, as it was
if the slot cannot be built. -/
def refresh (portrayal : Portrayal α) (scene : Scene α) (variant : Variant) :
    Portrayal α × Except PortrayalError Unit :=
  match scene.chart.require portrayal.id with
  | .error error => (portrayal, .error error)
  | .ok feature =>
    if (portrayal.slot variant).stamp = some (scene.stamp feature variant) then (portrayal, .ok ())
    else
      match scene.build feature variant with
      | .error error => (portrayal, .error error)
      | .ok slot => (portrayal.setSlot variant slot, .ok ())

def finalize (portrayal : Portrayal α) (scene : Scene α) (variant : Variant) :
    Portrayal α × Except PortrayalError (List (Command α)) :=
  match portrayal.refresh scene variant with
  | (current, .error error) => (current, .error error)
  | (current, .ok ()) => (current, .ok (current.slot variant).commands)

/-- The priority of a variant, with the overrides of its fragment. -/
def priority (portrayal : Portrayal α) (scene : Scene α) (variant : Variant) :
    Portrayal α × Except PortrayalError Priority :=
  match portrayal.refresh scene variant with
  | (current, .error error) => (current, .error error)
  | (current, .ok ()) => (current, .ok (current.slot variant).priority)

/-- The labels of a slot, which are resolved again when a setting that texts depend on has changed. -/
def slotLabels (portrayal : Portrayal α) (scene : Scene α) (variant : Variant) (feature : Feature α) :
    Portrayal α × Except PortrayalError (List String) :=
  let slot := portrayal.slot variant
  match slot.labels.filter (fun cache => cache.generation = scene.store.textGeneration) with
  | some cache => (portrayal, .ok cache.texts)
  | none =>
    match Label.ofCommands scene.store.settings feature slot.commands with
    | .error error => (portrayal, .error error)
    | .ok texts =>
      (portrayal.setSlot variant { slot with labels := some ⟨scene.store.textGeneration, texts⟩ }, .ok texts)

def labels (portrayal : Portrayal α) (scene : Scene α) (variant : Variant) :
    Portrayal α × Except PortrayalError (List String) :=
  match portrayal.refresh scene variant with
  | (current, .error error) => (current, .error error)
  | (current, .ok ()) =>
    match scene.chart.require current.id with
    | .error error => (current, .error error)
    | .ok feature => current.slotLabels scene variant feature

end Portrayal

end ChartPortrayal
