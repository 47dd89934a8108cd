import Mathlib.Algebra.BigOperators.Group.List.Basic
import Mathlib.Data.List.Nodup

/-!
# Lists with distinct keys

A list stands for the rows of a table when no two of its elements have one key. Deleting the rows of
one key then takes one element away, and every sum over the list becomes less by its share.

* `Keyed.perm_cons_without` : deleting by the key of an element takes that element away.
* `Keyed.sum_without` : what it takes from a sum.
-/

namespace Infra.Keyed

variable {α κ μ : Type} [DecidableEq κ] {key : α → κ} {l : List α} {a b : α}

/-- The elements with another key than `a`. -/
def without (key : α → κ) (a : α) (l : List α) : List α := l.filter fun b => key b != key a

theorem without_of_not_mem (h : key a ∉ l.map key) : without key a l = l := by
  refine List.filter_eq_self.mpr fun b hb => ?_
  have hne : key b ≠ key a := fun he => h (he ▸ List.mem_map_of_mem hb)
  simpa using hne

/-- **Deleting by the key of an element takes that element away.** -/
theorem perm_cons_without (hnodup : (l.map key).Nodup) (ha : a ∈ l) :
    (a :: without key a l).Perm l := by
  induction l with
  | nil => cases ha
  | cons b l ih =>
    rw [List.map_cons, List.nodup_cons] at hnodup
    by_cases he : key b = key a
    · -- it is the first one, and there is no other
      have hab : a = b := by
        rcases List.mem_cons.mp ha with hab | hmem
        · exact hab
        · exact absurd (he ▸ List.mem_map_of_mem hmem) hnodup.1
      subst hab
      have hskip : without key a (a :: l) = without key a l := by simp [without]
      rw [hskip, without_of_not_mem hnodup.1]
    · have hkeep : without key a (b :: l) = b :: without key a l := by simp [without, he]
      have hmem : a ∈ l := (List.mem_cons.mp ha).resolve_left fun hab => he (hab ▸ rfl)
      rw [hkeep]
      exact (List.Perm.swap b a _).trans ((ih hnodup.2 hmem).cons b)

theorem length_without (hnodup : (l.map key).Nodup) (ha : a ∈ l) :
    (without key a l).length + 1 = l.length :=
  (perm_cons_without hnodup ha).length_eq

theorem sum_without [AddCommMonoid μ] (f : α → μ) (hnodup : (l.map key).Nodup) (ha : a ∈ l) :
    f a + ((without key a l).map f).sum = (l.map f).sum := by
  rw [← List.sum_cons, ← List.map_cons]
  exact ((perm_cons_without hnodup ha).map f).sum_eq

theorem nodup_without (hnodup : (l.map key).Nodup) : ((without key a l).map key).Nodup :=
  hnodup.sublist (List.filter_sublist.map key)

theorem mem_of_mem_without (h : b ∈ without key a l) : b ∈ l := List.mem_of_mem_filter h

omit [DecidableEq κ] in
/-- One more element with a new key. -/
theorem nodup_append_singleton (hnodup : (l.map key).Nodup) (ha : ∀ b ∈ l, key b ≠ key a) :
    ((l ++ [a]).map key).Nodup := by
  rw [List.map_append, List.nodup_append]
  refine ⟨hnodup, List.nodup_singleton _, fun k hk k' hk' => ?_⟩
  obtain ⟨b, hb, rfl⟩ := List.mem_map.mp hk
  rw [List.map_singleton, List.mem_singleton] at hk'
  rw [hk']
  exact ha b hb

end Infra.Keyed
