import Mathlib.Algebra.BigOperators.Group.List.Basic
import Mathlib.Algebra.Ring.Int.Defs
import Mathlib.Data.List.Basic

/-!
# Amounts counted into buckets

Each item has the index of its bucket and an amount, which the bucket and a total grow by. An item
whose index is out of range is skipped.

* `foldl_countInto` : a bucket grows by the amounts at its index, the total by those in range.
* `sum_amountAt` : the amounts at all indices are all amounts.
* `consecutive_range` : intervals between successive bounds follow each other.
-/

namespace Infra

section

variable {S B : Type} (index amount : S → Int) (add : Int → B → B)

/-- Counts an item. -/
def countInto (counted : List B × Int) (s : S) : List B × Int :=
  if index s < 0 ∨ counted.1.length ≤ index s then counted
  else (counted.1.modify (index s).toNat (add (amount s)), counted.2 + amount s)

/-- The amounts of the items at an index. -/
def amountAt (items : List S) (i : Int) : Int :=
  ((items.filter fun s => index s = i).map amount).sum

variable {index amount add} {items : List S} {buckets : List B} {total : Int} {i n : Nat} {s : S}

theorem amountAt_cons :
    amountAt index amount (s :: items) i =
      (if index s = i then amount s else 0) + amountAt index amount items i := by
  unfold amountAt
  rw [List.filter_cons]
  by_cases h : index s = i
  · rw [if_pos h, if_pos (decide_eq_true h), List.map_cons, List.sum_cons]
  · rw [if_neg h, if_neg (by simpa using h), Int.zero_add]

/-- One item. -/
theorem countInto_of_range (h0 : 0 ≤ index s) (h1 : index s < buckets.length) :
    countInto index amount add (buckets, total) s =
      (buckets.modify (index s).toNat (add (amount s)), total + amount s) := by
  unfold countInto
  rw [if_neg (by dsimp only; omega)]

theorem length_countInto (counted : List B × Int) :
    (countInto index amount add counted s).1.length = counted.1.length := by
  unfold countInto
  split
  · rfl
  · exact List.length_modify ..

/-- The buckets stay as many. -/
theorem length_foldl_countInto (counted : List B × Int) :
    (items.foldl (countInto index amount add) counted).1.length = counted.1.length := by
  induction items generalizing counted with
  | nil => rfl
  | cons s items ih => rw [List.foldl_cons, ih, length_countInto]

/-- **All items**: if none is out of range, a bucket grows by the amounts at its index. -/
theorem foldl_countInto (amount : S → Int) (total : Int) (hzero : ∀ b, add 0 b = b)
    (hadd : ∀ x y b, add x (add y b) = add (y + x) b)
    (hrange : ∀ s ∈ items, 0 ≤ index s ∧ index s < buckets.length) :
    (items.foldl (countInto index amount add) (buckets, total)).2 =
        total + (items.map amount).sum ∧
      ∀ i : Nat, (items.foldl (countInto index amount add) (buckets, total)).1[i]? =
        buckets[i]?.map (add (amountAt index amount items i)) := by
  induction items generalizing buckets total with
  | nil =>
    refine ⟨by simp, fun i => ?_⟩
    have hnone : add (amountAt index amount [] i) = id := funext hzero
    rw [hnone, Option.map_id]
    rfl
  | cons s items ih =>
    obtain ⟨h0, h1⟩ := hrange s List.mem_cons_self
    rw [List.foldl_cons, countInto_of_range h0 h1]
    have hrest : ∀ s' ∈ items, 0 ≤ index s' ∧
        index s' < (buckets.modify (index s).toNat (add (amount s))).length := by
      rw [List.length_modify]
      exact fun s' hs' => hrange s' (List.mem_cons_of_mem s hs')
    obtain ⟨htotal, hbuckets⟩ := ih (total + amount s) hrest
    refine ⟨?_, fun i => ?_⟩
    · rw [htotal, List.map_cons, List.sum_cons, Int.add_assoc]
    · rw [hbuckets, List.getElem?_modify, amountAt_cons]
      by_cases hi : (index s).toNat = i
      · have hindex : index s = i := by omega
        simp only [if_pos hi, if_pos hindex, Option.map_eq_map, Option.map_map]
        congr 1
        funext b
        exact hadd _ _ b
      · have hindex : ¬ index s = i := by omega
        simp only [if_neg hi, if_neg hindex, Int.zero_add, id_map']

theorem sum_range_ite {x : Int} {j : Nat} (h : j < n) :
    ((List.range n).map fun i => if i = j then x else 0).sum = x := by
  induction n with
  | zero => omega
  | succ n ih =>
    rw [List.range_succ, List.map_append, List.sum_append, List.map_singleton, List.sum_singleton]
    by_cases hlast : n = j
    · -- the others are before it
      have hbefore : ((List.range n).map fun i => if i = j then x else 0) =
          (List.range n).map fun _ => 0 := by
        refine List.map_congr_left fun i hi => if_neg ?_
        have hless := List.mem_range.mp hi
        omega
      rw [if_pos hlast, hbefore, List.sum_map_zero, Int.zero_add]
    · rw [if_neg hlast, ih (by omega), Int.add_zero]

/-- Nothing is lost between the indices. -/
theorem sum_amountAt (hrange : ∀ s ∈ items, 0 ≤ index s ∧ index s < n) :
    ((List.range n).map fun i : Nat => amountAt index amount items i).sum =
      (items.map amount).sum := by
  induction items with
  | nil => simp [amountAt]
  | cons s items ih =>
    obtain ⟨h0, h1⟩ := hrange s List.mem_cons_self
    have hcons : (fun i : Nat => amountAt index amount (s :: items) i) = fun i : Nat =>
        (if i = (index s).toNat then amount s else 0) + amountAt index amount items i := by
      funext i
      rw [amountAt_cons]
      congr 2
      exact propext (by omega)
    rw [hcons, List.sum_map_add, ih fun s' hs' => hrange s' (List.mem_cons_of_mem s hs'),
      List.map_cons, List.sum_cons, sum_range_ite (by omega)]

end

/-- A list by the places of its elements. -/
theorem map_eq_range_map {A C : Type} {l : List A} {f : A → C} {g : Nat → C} {n : Nat}
    (hlength : l.length = n) (h : ∀ (i : Nat) (a : A), l[i]? = some a → f a = g i) :
    l.map f = (List.range n).map g := by
  refine List.ext_getElem (by simp [hlength]) fun i hi _ => ?_
  rw [List.length_map] at hi
  rw [List.getElem_map, List.getElem_map, List.getElem_range]
  exact h i l[i] (List.getElem?_eq_getElem hi)

/-! ## Consecutive intervals -/

/-- Each interval starts where the one before it ends. -/
def Consecutive {α : Type} : α → List (α × α) → α → Prop
  | start, [], stop => start = stop
  | start, span :: spans, stop => span.1 = start ∧ Consecutive span.2 spans stop

theorem consecutive_range {α : Type} (bound : Int → α) (n : Nat) (s : Int) :
    Consecutive (bound s) ((List.range n).map fun i : Nat => (bound (s + i), bound (s + i + 1)))
      (bound (s + n)) := by
  induction n generalizing s with
  | zero =>
    show bound s = bound (s + 0)
    rw [Int.add_zero]
  | succ n ih =>
    rw [List.range_succ_eq_map, List.map_cons, List.map_map]
    refine ⟨?_, ?_⟩
    · show bound (s + 0) = bound s
      rw [Int.add_zero]
    · have hrest := ih (s + 1)
      have hspans : ((fun i : Nat => (bound (s + i), bound (s + i + 1))) ∘ Nat.succ) =
          fun i : Nat => (bound (s + 1 + i), bound (s + 1 + i + 1)) := by
        funext i
        have hplace : s + ((i + 1 : Nat) : Int) = s + 1 + i := by omega
        show (bound (s + ((i + 1 : Nat) : Int)), bound (s + ((i + 1 : Nat) : Int) + 1)) = _
        rw [hplace]
      have hstop : s + ((n + 1 : Nat) : Int) = s + 1 + n := by omega
      rw [hspans, hstop]
      show Consecutive (bound (s + 0 + 1)) _ _
      rw [Int.add_zero]
      exact hrest

end Infra
