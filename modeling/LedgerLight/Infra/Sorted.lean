import Mathlib.Data.List.Sort

/-!
# Lists in the order of a comparison

* `InOrder.drop_eq_filter` : behind a row that compares alike with no other come the rows after it,
  whatever the order of the others.
* `InOrder.countP_le`, `InOrder.lt_countP` : the places that rows that compare alike have.
* `sortBy_eq_of_perm`, `sortBy_filter` : where no two rows compare alike, the order in which they are
  given does not matter, and sorting and filtering commute.
-/

namespace Infra

open Std

variable {R : Type} {cmp : R → R → Ordering} {l l' : List R} {r x : R} {i : Nat}

/-- No row comes after one that is behind it. -/
def InOrder (cmp : R → R → Ordering) (l : List R) : Prop :=
  l.Pairwise fun a b => (cmp a b).isLE = true

/-- Sorted, with rows that compare alike in the order in which they are given. -/
def sortBy (cmp : R → R → Ordering) (l : List R) : List R :=
  l.insertionSort fun a b => (cmp a b).isLE = true

/-- No other row compares alike. -/
def Alone (cmp : R → R → Ordering) (l : List R) (r : R) : Prop := ∀ x ∈ l, cmp x r = .eq → x = r

theorem perm_sortBy : (sortBy cmp l).Perm l := List.perm_insertionSort _ _

theorem Alone.of_perm (h : Alone cmp l r) (hl : l'.Perm l) : Alone cmp l' r :=
  fun x hx => h x (hl.subset hx)

/-- The same order by another name. -/
theorem insertionSort_eq_sortBy {le : R → R → Prop} [DecidableRel le]
    (h : ∀ a b, le a b ↔ (cmp a b).isLE = true) : l.insertionSort le = sortBy cmp l := by
  have hmap := List.map_insertionSort le (fun a b => (cmp a b).isLE = true) id l
    fun a _ b _ => h a b
  rw [List.map_id, List.map_id] at hmap
  exact hmap

theorem sortBy_map {S : Type} {cmp' : S → S → Ordering} (f : R → S)
    (h : ∀ a b, cmp' (f a) (f b) = cmp a b) : (sortBy cmp l).map f = sortBy cmp' (l.map f) :=
  List.map_insertionSort _ _ f l fun a _ b _ => by rw [h a b]

/-- Rows that compare alike stay in their order. -/
theorem pair_sublist_sortBy (hle : (cmp r x).isLE = true) (h : [r, x].Sublist l) :
    [r, x].Sublist (sortBy cmp l) :=
  List.pair_sublist_insertionSort hle h

section

variable [TransCmp cmp]

theorem inOrder_sortBy : InOrder cmp (sortBy cmp l) := by
  have : Std.Total fun a b => (cmp a b).isLE = true := ⟨fun a b => by
    cases hab : cmp a b with
    | lt => exact .inl rfl
    | eq => exact .inl rfl
    | gt => exact .inr (by rw [OrientedCmp.lt_of_gt hab]; rfl)⟩
  have : IsTrans R fun a b => (cmp a b).isLE = true := ⟨fun a b c => TransCmp.isLE_trans⟩
  exact List.pairwise_insertionSort _ l

theorem InOrder.le_of_mem_take (h : InOrder cmp l) (hr : l[i]? = some r) (hx : x ∈ l.take (i + 1)) :
    (cmp x r).isLE = true := by
  obtain ⟨hi, rfl⟩ := List.getElem?_eq_some_iff.mp hr
  rw [List.take_succ_eq_append_getElem hi, List.mem_append, List.mem_singleton] at hx
  rcases hx with hx | rfl
  · have hpair : InOrder cmp (l.take i ++ l.drop i) := by rwa [List.take_append_drop]
    have hmem : l[i] ∈ l.drop i := by
      rw [List.drop_eq_getElem_cons hi]
      exact List.mem_cons_self
    exact (List.pairwise_append.mp hpair).2.2 x hx _ hmem
  · exact ReflCmp.isLE_rfl

theorem InOrder.le_of_mem_drop (h : InOrder cmp l) (hr : l[i]? = some r) (hx : x ∈ l.drop i) :
    (cmp r x).isLE = true := by
  obtain ⟨hi, rfl⟩ := List.getElem?_eq_some_iff.mp hr
  rw [List.drop_eq_getElem_cons hi, List.mem_cons] at hx
  rcases hx with rfl | hx
  · exact ReflCmp.isLE_rfl
  · have hdrop : InOrder cmp (l.drop i) := List.Pairwise.sublist (List.drop_sublist i l) h
    rw [List.drop_eq_getElem_cons hi] at hdrop
    exact (List.pairwise_cons.mp hdrop).1 x hx

/-! ## The place of a row -/

theorem InOrder.countP_le (h : InOrder cmp l) (hr : l[i]? = some r) :
    l.countP (fun x => cmp x r == .lt) ≤ i := by
  have hi : i < l.length := (List.getElem?_eq_some_iff.mp hr).1
  have hlater : (l.drop i).countP (fun x => cmp x r == .lt) = 0 := by
    refine List.countP_eq_zero.mpr fun x hx hlt => ?_
    have hle := h.le_of_mem_drop hr hx
    exact OrientedCmp.not_lt_of_isLE hle (by simpa using hlt)
  calc l.countP (fun x => cmp x r == .lt)
      = (l.take i).countP (fun x => cmp x r == .lt)
          + (l.drop i).countP (fun x => cmp x r == .lt) := by
        rw [← List.countP_append, List.take_append_drop]
    _ ≤ (l.take i).length := by
        rw [hlater]
        exact List.countP_le_length
    _ ≤ i := by simp

theorem InOrder.lt_countP (h : InOrder cmp l) (hr : l[i]? = some r) :
    i < l.countP fun x => (cmp x r).isLE := by
  have hi : i < l.length := (List.getElem?_eq_some_iff.mp hr).1
  have hfirst : (l.take (i + 1)).countP (fun x => (cmp x r).isLE) = (l.take (i + 1)).length :=
    List.countP_eq_length.mpr fun x hx => h.le_of_mem_take hr hx
  have hsub : (l.take (i + 1)).countP (fun x => (cmp x r).isLE) ≤
      l.countP fun x => (cmp x r).isLE := (List.take_sublist (i + 1) l).countP_le
  rw [hfirst, List.length_take] at hsub
  omega

/-- Rows at places that a third one's count spans compare alike with it. -/
theorem InOrder.eq_of_place (h : InOrder cmp l) (hr : l[i]? = some r)
    (hlow : l.countP (fun y => cmp y x == .lt) ≤ i) (hhigh : i < l.countP fun y => (cmp y x).isLE) :
    cmp r x = .eq := by
  have hi : i < l.length := (List.getElem?_eq_some_iff.mp hr).1
  cases hrx : cmp r x with
  | eq => rfl
  | lt =>
    -- all up to the place of `r` come before `x`
    have hall : (l.take (i + 1)).countP (fun y => cmp y x == .lt) = (l.take (i + 1)).length :=
      List.countP_eq_length.mpr fun y hy => by
        have hle := h.le_of_mem_take hr hy
        simp [TransCmp.lt_of_isLE_of_lt hle hrx]
    have hsub : (l.take (i + 1)).countP (fun y => cmp y x == .lt) ≤
        l.countP fun y => cmp y x == .lt := (List.take_sublist (i + 1) l).countP_le
    rw [hall, List.length_take] at hsub
    omega
  | gt =>
    have hnone : (l.drop i).countP (fun y => (cmp y x).isLE) = 0 := by
      refine List.countP_eq_zero.mpr fun y hy hle => ?_
      have hlt : cmp x y = .lt :=
        TransCmp.lt_of_lt_of_isLE (OrientedCmp.lt_of_gt hrx) (h.le_of_mem_drop hr hy)
      exact OrientedCmp.not_isLE_of_lt hlt hle
    have hsplit : l.countP (fun y => (cmp y x).isLE) =
        (l.take i).countP (fun y => (cmp y x).isLE) +
          (l.drop i).countP fun y => (cmp y x).isLE := by
      rw [← List.countP_append, List.take_append_drop]
    have hlen : (l.take i).countP (fun y => (cmp y x).isLE) ≤ (l.take i).length :=
      List.countP_le_length
    rw [List.length_take] at hlen
    omega

/-- Behind a row that is alone come exactly the rows after it. -/
theorem InOrder.drop_eq_filter (h : InOrder cmp l) (hnodup : l.Nodup) (hr : l[i]? = some r)
    (halone : Alone cmp l r) : l.drop (i + 1) = l.filter fun x => cmp r x == .lt := by
  obtain ⟨hi, rfl⟩ := List.getElem?_eq_some_iff.mp hr
  have hsplit : l.take (i + 1) ++ l.drop (i + 1) = l := List.take_append_drop ..
  have hfirst : (l.take (i + 1)).filter (fun x => cmp l[i] x == .lt) = [] := by
    refine List.filter_eq_nil_iff.mpr fun x hx hlt => ?_
    have hle := h.le_of_mem_take hr hx
    exact OrientedCmp.not_lt_of_isLE hle (by simpa using hlt)
  have hlater : (l.drop (i + 1)).filter (fun x => cmp l[i] x == .lt) = l.drop (i + 1) := by
    refine List.filter_eq_self.mpr fun x hx => ?_
    have hmem : x ∈ l := List.mem_of_mem_drop hx
    have hle : (cmp l[i] x).isLE = true :=
      h.le_of_mem_drop hr (List.drop_subset_drop_left l (Nat.le_succ i) hx)
    have hne : cmp l[i] x ≠ .eq := by
      intro heq
      have hsame : x = l[i] := halone x hmem (OrientedCmp.eq_symm heq)
      rw [← hsplit, List.nodup_append] at hnodup
      have hin : l[i] ∈ l.take (i + 1) := by
        rw [List.take_succ_eq_append_getElem hi]
        exact List.mem_append_right _ (List.mem_singleton_self _)
      exact hnodup.2.2 _ hin x hx hsame.symm
    cases hc : cmp l[i] x with
    | lt => rfl
    | eq => exact absurd hc hne
    | gt => rw [hc] at hle; cases hle
  calc l.drop (i + 1)
      = (l.take (i + 1)).filter (fun x => cmp l[i] x == .lt)
          ++ (l.drop (i + 1)).filter (fun x => cmp l[i] x == .lt) := by rw [hfirst, hlater]; rfl
    _ = l.filter fun x => cmp l[i] x == .lt := by rw [← List.filter_append, hsplit]

/-- From its own place on come the rows that do not come before it. -/
theorem InOrder.drop_eq_filter_le (h : InOrder cmp l) (hnodup : l.Nodup) (hr : l[i]? = some r)
    (halone : Alone cmp l r) : l.drop i = l.filter fun x => (cmp r x).isLE := by
  obtain ⟨hi, rfl⟩ := List.getElem?_eq_some_iff.mp hr
  have hsplit : l.take i ++ l.drop i = l := List.take_append_drop ..
  have hfirst : (l.take i).filter (fun x => (cmp l[i] x).isLE) = [] := by
    refine List.filter_eq_nil_iff.mpr fun x hx hle => ?_
    have hx' : x ∈ l.take (i + 1) := List.take_subset_take_left l (Nat.le_succ i) hx
    have heq : cmp x l[i] = .eq := OrientedCmp.isLE_antisymm (h.le_of_mem_take hr hx') hle
    have hsame : x = l[i] := halone x (List.mem_of_mem_take hx) heq
    rw [← hsplit, List.nodup_append] at hnodup
    have hin : l[i] ∈ l.drop i := by
      rw [List.drop_eq_getElem_cons hi]
      exact List.mem_cons_self
    exact hnodup.2.2 x hx _ hin hsame
  have hlater : (l.drop i).filter (fun x => (cmp l[i] x).isLE) = l.drop i :=
    List.filter_eq_self.mpr fun x hx => h.le_of_mem_drop hr hx
  calc l.drop i
      = (l.take i).filter (fun x => (cmp l[i] x).isLE)
          ++ (l.drop i).filter (fun x => (cmp l[i] x).isLE) := by
        rw [hfirst, hlater, List.nil_append]
    _ = l.filter fun x => (cmp l[i] x).isLE := by rw [← List.filter_append, hsplit]

/-- Up to a row that is alone come the rows that are not after it. -/
theorem InOrder.take_eq_filter (h : InOrder cmp l) (hnodup : l.Nodup) (hr : l[i]? = some r)
    (halone : Alone cmp l r) : l.take (i + 1) = l.filter fun x => (cmp x r).isLE := by
  have hsplit : l.take (i + 1) ++ l.drop (i + 1) = l := List.take_append_drop ..
  have hfirst : (l.take (i + 1)).filter (fun x => (cmp x r).isLE) = l.take (i + 1) :=
    List.filter_eq_self.mpr fun x hx => h.le_of_mem_take hr hx
  have hlater : (l.drop (i + 1)).filter (fun x => (cmp x r).isLE) = [] := by
    refine List.filter_eq_nil_iff.mpr fun x hx hle => ?_
    rw [h.drop_eq_filter hnodup hr halone] at hx
    have hlt : cmp r x = .lt := by simpa using (List.mem_filter.mp hx).2
    exact OrientedCmp.not_isLE_of_lt hlt hle
  calc l.take (i + 1)
      = (l.take (i + 1)).filter (fun x => (cmp x r).isLE)
          ++ (l.drop (i + 1)).filter (fun x => (cmp x r).isLE) := by
        rw [hfirst, hlater, List.append_nil]
    _ = l.filter fun x => (cmp x r).isLE := by rw [← List.filter_append, hsplit]

/-- The place of a row that is alone. -/
theorem InOrder.place (h : InOrder cmp l) (hnodup : l.Nodup) (hr : l[i]? = some r)
    (halone : Alone cmp l r) : l.countP (fun x => (cmp x r).isLE) = i + 1 := by
  have hi : i < l.length := (List.getElem?_eq_some_iff.mp hr).1
  rw [List.countP_eq_length_filter, ← h.take_eq_filter hnodup hr halone, List.length_take]
  omega

/-- In every order of the same rows it has this place. -/
theorem InOrder.getElem?_of_perm (h : InOrder cmp l) (h' : InOrder cmp l') (hl : l'.Perm l)
    (hnodup : l.Nodup) (hr : l[i]? = some r) (halone : Alone cmp l r) : l'[i]? = some r := by
  have hmem : r ∈ l' := hl.mem_iff.mpr (List.mem_of_getElem? hr)
  obtain ⟨j, hj⟩ := List.getElem?_of_mem hmem
  have hplace : l.countP (fun x => (cmp x r).isLE) = i + 1 := h.place hnodup hr halone
  have hplace' : l'.countP (fun x => (cmp x r).isLE) = j + 1 :=
    h'.place (hl.nodup_iff.mpr hnodup) hj (halone.of_perm hl)
  rw [hl.countP_eq, hplace] at hplace'
  have hij : i = j := by omega
  rw [hij]
  exact hj

/-- Where no two rows compare alike, the order in which they are given does not matter. -/
theorem sortBy_eq_of_perm (hl : l'.Perm l) (halone : ∀ r ∈ l, Alone cmp l r) :
    sortBy cmp l' = sortBy cmp l := by
  have hperm : (sortBy cmp l').Perm (sortBy cmp l) := (perm_sortBy.trans hl).trans perm_sortBy.symm
  refine hperm.eq_of_pairwise (fun a b ha hb hab hba => ?_) inOrder_sortBy inOrder_sortBy
  have ha' : a ∈ l := hl.subset (perm_sortBy.subset ha)
  exact halone b (perm_sortBy.subset hb) a ha' (OrientedCmp.isLE_antisymm hab hba)

/-- **Sorting and filtering commute** where no two rows compare alike. -/
theorem sortBy_filter {test : R → Bool} (halone : ∀ r ∈ l, Alone cmp l r) :
    sortBy cmp (l.filter test) = (sortBy cmp l).filter test := by
  have hperm : (sortBy cmp (l.filter test)).Perm ((sortBy cmp l).filter test) :=
    perm_sortBy.trans (perm_sortBy.symm.filter _)
  refine hperm.eq_of_pairwise (fun a b ha hb hab hba => ?_) inOrder_sortBy
    (List.Pairwise.sublist List.filter_sublist inOrder_sortBy)
  have ha' : a ∈ l := List.mem_of_mem_filter (perm_sortBy.subset ha)
  have hb' : b ∈ l := perm_sortBy.subset (List.mem_of_mem_filter hb)
  exact halone b hb' a ha' (OrientedCmp.isLE_antisymm hab hba)

end

end Infra
