import ChartPortrayal.Feature.Extent
import ChartPortrayal.Proofs.Number.Order

namespace ChartPortrayal

open FloatOrder

namespace Quantity

variable {first second bound : Float}

theorem lesser_le (one : first.isNaN = false) (other : second.isNaN = false) :
    lesser first second ≤ first ∧ lesser first second ≤ second := by
  rw [lesser, if_pos (beq_self one)]
  split
  · next less => exact ⟨le_of_less other one less, le_self other⟩
  · next notLess => exact ⟨le_self one, (not_lt_iff other one).mp notLess⟩

theorem le_greater (one : first.isNaN = false) (other : second.isNaN = false) :
    first ≤ greater first second ∧ second ≤ greater first second := by
  rw [greater, if_pos (beq_self one)]
  split
  · next less => exact ⟨le_of_less one other less, le_self other⟩
  · next notLess => exact ⟨le_self one, (not_lt_iff one other).mp notLess⟩

theorem greater_le (one : first ≤ bound) (other : second ≤ bound) : greater first second ≤ bound := by
  rw [greater, if_pos (beq_self (isNaN_of_le one).1)]
  split
  · exact other
  · exact one

end Quantity

namespace Extent

/-- A box covers the points between its edges, and those on them. -/
structure Covers (extent : Extent Float) (x y : Float) : Prop where
  left : extent.minX ≤ x
  right : x ≤ extent.maxX
  bottom : extent.minY ≤ y
  top : y ≤ extent.maxY

/-- Two boxes share a point. -/
def Meets (first second : Extent Float) : Prop := ∃ x y, first.Covers x y ∧ second.Covers x y

/-- A box that was spanned by two finite corners, in any order. -/
def IsSpanned (extent : Extent Float) : Prop :=
  ∃ x y otherX otherY : Float, (x.isFinite = true ∧ y.isFinite = true) ∧
    (otherX.isFinite = true ∧ otherY.isFinite = true) ∧ extent = spanning x y otherX otherY

/-- The edges of a box are in order. -/
structure IsProper (extent : Extent Float) : Prop where
  across : extent.minX ≤ extent.maxX
  along : extent.minY ≤ extent.maxY

theorem IsSpanned.isProper {extent : Extent Float} (spanned : extent.IsSpanned) : extent.IsProper := by
  obtain ⟨x, y, otherX, otherY, ⟨finiteX, finiteY⟩, ⟨otherFiniteX, otherFiniteY⟩, rfl⟩ := spanned
  have between : ∀ {first second : Float}, first.isFinite = true → second.isFinite = true →
      Quantity.lesser first second ≤ Quantity.greater first second := fun one other =>
    le_of_le_of_le (Quantity.lesser_le (isNaN_of_isFinite one) (isNaN_of_isFinite other)).1
      (Quantity.le_greater (isNaN_of_isFinite one) (isNaN_of_isFinite other)).1
  exact ⟨between finiteX otherFiniteX, between finiteY otherFiniteY⟩

/-- Boxes intersect exactly when they share a point. -/
theorem intersects_iff_meets {first second : Extent Float} (one : first.IsProper) (other : second.IsProper) :
    first.intersects second = true ↔ first.Meets second := by
  simp only [intersects, Bool.and_eq_true, decide_eq_true_iff]
  constructor
  · rintro ⟨⟨⟨across, back⟩, along⟩, down⟩
    -- the corner at the greater of the lower edges is shared
    refine ⟨Quantity.greater first.minX second.minX, Quantity.greater first.minY second.minY, ?_, ?_⟩
    · obtain ⟨left, -⟩ := Quantity.le_greater (isNaN_of_le across).1 (isNaN_of_le back).1
      obtain ⟨bottom, -⟩ := Quantity.le_greater (isNaN_of_le along).1 (isNaN_of_le down).1
      exact ⟨left, Quantity.greater_le one.across back, bottom, Quantity.greater_le one.along down⟩
    · obtain ⟨-, left⟩ := Quantity.le_greater (isNaN_of_le across).1 (isNaN_of_le back).1
      obtain ⟨-, bottom⟩ := Quantity.le_greater (isNaN_of_le along).1 (isNaN_of_le down).1
      exact ⟨left, Quantity.greater_le across other.across, bottom,
        Quantity.greater_le along other.along⟩
  · rintro ⟨x, y, here, there⟩
    exact ⟨⟨⟨le_of_le_of_le here.left there.right, le_of_le_of_le there.left here.right⟩,
      le_of_le_of_le here.bottom there.top⟩, le_of_le_of_le there.bottom here.top⟩

end Extent

end ChartPortrayal
