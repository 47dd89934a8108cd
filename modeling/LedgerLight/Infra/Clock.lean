import LedgerLight.Infra.Machine

/-!
# Machines with a clock

Every action is taken at a time, and the state shows the time of the last one. That the clock does
not go back is a condition on a run like any other.

* `Machine.run_timed_fst` : a timed run is a run.
-/

namespace Infra

namespace Machine

variable {σ α : Type} (M : Machine σ α) (τ : Type)

/-- The machine with a clock. -/
def timed : Machine (σ × τ) (α × τ) where
  step s a := (M.step s.1 a.1, a.2)

variable {M τ}

@[simp] theorem step_timed (s : σ × τ) (a : α × τ) :
    (M.timed τ).step s a = (M.step s.1 a.1, a.2) := rfl

/-- A timed run is a run. -/
theorem run_timed_fst (s : σ × τ) (as : List (α × τ)) :
    ((M.timed τ).run s as).1 = M.run s.1 (as.map Prod.fst) := by
  induction as generalizing s with
  | nil => rfl
  | cons a as ih => exact ih _

end Machine

end Infra
