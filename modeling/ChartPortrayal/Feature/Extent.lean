import ChartPortrayal.Number.Quantity

namespace ChartPortrayal

structure Extent (α : Type) where
  minX : α
  minY : α
  maxX : α
  maxY : α

namespace Extent

variable {α : Type} [Quantity α]

def spanning (x y otherX otherY : α) : Extent α where
  minX := Quantity.lesser x otherX
  minY := Quantity.lesser y otherY
  maxX := Quantity.greater x otherX
  maxY := Quantity.greater y otherY

def point (x y : α) : Extent α := spanning x y x y

def origin : Extent α := ⟨0.0, 0.0, 0.0, 0.0⟩

/-- Whether two boxes share a point; edges that touch do. -/
def intersects (first second : Extent α) : Bool :=
  decide (first.minX ≤ second.maxX) && decide (second.minX ≤ first.maxX) &&
    decide (first.minY ≤ second.maxY) && decide (second.minY ≤ first.maxY)

end Extent

end ChartPortrayal
