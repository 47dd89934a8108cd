import Mathlib.Algebra.Order.Ring.Int
import Mathlib.Data.Int.ConditionallyCompleteOrder
import Mathlib.Order.ConditionallyCompleteLattice.Basic

/-!
# Tilings of an order

A tiling cuts a linear order into intervals, one after the other: the tile `k` goes from `bound k` up
to `bound (k + 1)`.

* `Tiling.tileOf_eq_iff` : a point lies in one tile only.
* `Tiling.tileOf_bound` : a tile starts with its bound.
-/

namespace Infra

/-- Consecutive intervals, and the one that each point lies in. -/
structure Tiling (α : Type) [LinearOrder α] where
  bound : Int → α
  strictMono : StrictMono bound
  tileOf : α → Int
  bound_le : ∀ x, bound (tileOf x) ≤ x
  lt_bound : ∀ x, x < bound (tileOf x + 1)

namespace Tiling

variable {α : Type} [LinearOrder α] (t : Tiling α) {x : α} {j k : Int}

theorem tileOf_eq_iff : t.tileOf x = k ↔ t.bound k ≤ x ∧ x < t.bound (k + 1) := by
  constructor
  · rintro rfl
    exact ⟨t.bound_le x, t.lt_bound x⟩
  · rintro ⟨hle, hlt⟩
    have hup : t.tileOf x < k + 1 := t.strictMono.lt_iff_lt.mp ((t.bound_le x).trans_lt hlt)
    have hdown : k < t.tileOf x + 1 := t.strictMono.lt_iff_lt.mp (hle.trans_lt (t.lt_bound x))
    omega

@[simp] theorem tileOf_bound (k : Int) : t.tileOf (t.bound k) = k :=
  t.tileOf_eq_iff.mpr ⟨le_rfl, t.strictMono (Int.lt_succ k)⟩

theorem bound_inj : t.bound j = t.bound k ↔ j = k := t.strictMono.injective.eq_iff

/-- Tiles come in the order of their points. -/
theorem le_tileOf_iff : k ≤ t.tileOf x ↔ t.bound k ≤ x := by
  constructor
  · exact fun h => (t.strictMono.monotone h).trans (t.bound_le x)
  · intro h
    have hlt : k < t.tileOf x + 1 := t.strictMono.lt_iff_lt.mp (h.trans_lt (t.lt_bound x))
    omega

theorem tileOf_lt_iff : t.tileOf x < k ↔ x < t.bound k := by
  rw [← not_le, ← not_le, t.le_tileOf_iff]

end Tiling

end Infra
