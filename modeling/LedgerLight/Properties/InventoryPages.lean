import LedgerLight.Infra.Paging
import LedgerLight.Infra.Sorted
import LedgerLight.Properties.LowStock

/-!
# The pages of the stock

Every request sorts the rows of the products again, and the cursor is the place of a product in the
array that this request has sorted. The sort keeps rows that compare alike in the order in which the
database returned them, so the place of such a row may change from one request to the next.

* `exists_sortedWalk` : where no page ends among rows that compare alike, the pages list all rows.
* `pageEndsAlone_of_walks` : where one does, rows in another order are missed or listed twice.
* `getInventory_lists_iff` : exactly when the pages of `getInventory` list every product once.
-/

namespace LedgerLight

open Infra Std

/-! ## Pages of freshly sorted rows -/

section

variable {R : Type} {cmp : R → R → Ordering} {key : R → Id} {limit : Nat} {S base : List R}
  {rows : Nat → List R} {r x : R} {i m n : Nat} {cursor : Option Cursor} {pages : List (List R)}

/-- The answers of requests that sort the rows again. -/
def sortedPages (cmp : R → R → Ordering) (key : R → Id) (limit : Nat) (rows : Nat → List R)
    (n : Nat) (cursor : Option Cursor) : Except BackendError (List R × Option Cursor) :=
  paginateRows (sortBy cmp (rows n)) limit cursor key

/-- No page but the last ends at the place of a row that compares alike with another one: as many
places as there are rows before it lie before the group, and the group ends with the rows that are
not after it. -/
def PageEndsAlone (cmp : R → R → Ordering) (limit : Nat) (rows : List R) : Prop :=
  ∀ r ∈ rows, ∀ k, rows.countP (fun x => cmp x r == .lt) < k * limit →
    k * limit ≤ rows.countP (fun x => (cmp x r).isLE) → k * limit < rows.length → Alone cmp rows r

theorem startIndex_of_getElem? (hkeys : (S.map key).Nodup) (hr : S[i]? = some r) :
    startIndex S key (some (.id (key r))) = i + 1 := by
  have htest : (fun x => (Cursor.id (key r)).isId (key x)) = fun x => key x == key r := by
    funext x
    rw [Cursor.isId, Bool.eq_iff_iff, beq_iff_eq, beq_iff_eq, Cursor.id.injEq]
    exact eq_comm
  show ((S.findIdx? fun x => (Cursor.id (key r)).isId (key x)).elim 0 (· + 1)) = i + 1
  rw [htest, findIdx?_key hkeys hr]
  rfl

theorem paginateRows_eq (S : List R) (limit : Nat) (cursor : Option Cursor) (key : R → Id) :
    paginateRows S limit cursor key =
      pageFrom (.typeError "Cannot read properties of undefined") (fun r => .id (key r)) limit S
        (startIndex S key cursor) :=
  rfl

theorem paginateRows_more (hlimit : 0 < limit) (hstart : startIndex S key cursor = m)
    (hmore : m + limit < S.length) :
    ∃ r, S[m + limit - 1]? = some r ∧
      paginateRows S limit cursor key = .ok ((S.drop m).take limit, some (.id (key r))) := by
  rw [paginateRows_eq, hstart]
  exact pageFrom_more _ _ hlimit hmore

theorem paginateRows_last (hstart : startIndex S key cursor = m) (hlast : S.length ≤ m + limit) :
    paginateRows S limit cursor key = .ok (S.drop m, none) := by
  rw [paginateRows_eq, hstart]
  exact pageFrom_last _ _ hlast

/-- What is left when so many of the same rows are taken away. -/
theorem perm_drop_of_take {l l' : List R} (h : l.Perm l') (htake : (l.take m).Perm (l'.take m)) :
    (l.drop m).Perm (l'.drop m) := by
  have hwhole : (l.take m ++ l.drop m).Perm (l.take m ++ l'.drop m) := by
    refine List.Perm.trans ?_ (htake.symm.append_right _)
    rw [List.take_append_drop, List.take_append_drop]
    exact h
  exact (List.perm_append_left_iff _).mp hwhole

variable [TransCmp cmp]

/-- The row that ends a page is alone. -/
theorem alone_of_pageEnd (halone : PageEndsAlone cmp limit base) (hS : S.Perm base)
    (hsorted : InOrder cmp S) {k : Nat} (hr : S[k * limit - 1]? = some r)
    (hpos : 0 < k * limit) (hmore : k * limit < base.length) : Alone cmp base r := by
  have hlow : S.countP (fun x => cmp x r == .lt) ≤ k * limit - 1 := hsorted.countP_le hr
  have hhigh : k * limit - 1 < S.countP fun x => (cmp x r).isLE := hsorted.lt_countP hr
  rw [hS.countP_eq] at hlow hhigh
  exact halone r (hS.subset (List.mem_of_getElem? hr)) k (by omega) (by omega) hmore

/-- A row that is alone has the same place whatever the order in which the rows come, and the same
rows up to it. -/
theorem sortBy_upTo_alone {j : Nat} (hnodup : base.Nodup) (hrAlone : Alone cmp base r)
    (hS : S.Perm base) (hr : (sortBy cmp S)[j]? = some r) {l : List R} (hl : l.Perm base) :
    (sortBy cmp l)[j]? = some r ∧
      (sortBy cmp l).take (j + 1) = (sortBy cmp l).filter fun x => (cmp x r).isLE := by
  have hsame : (sortBy cmp S).Perm base := perm_sortBy.trans hS
  have hperm : (sortBy cmp l).Perm base := perm_sortBy.trans hl
  have hplace : (sortBy cmp l)[j]? = some r :=
    inOrder_sortBy.getElem?_of_perm inOrder_sortBy (hperm.trans hsame.symm)
      (hsame.nodup_iff.mpr hnodup) hr (hrAlone.of_perm hsame)
  exact ⟨hplace, inOrder_sortBy.take_eq_filter (hperm.nodup_iff.mpr hnodup) hplace
    (hrAlone.of_perm hperm)⟩

/-- **Where no page ends among rows that compare alike**, the pages from one of them on list the
rest, in order. -/
theorem exists_sortedWalk (hlimit : 0 < limit) (hkeys : (base.map key).Nodup)
    (hrows : ∀ n, (rows n).Perm base) (halone : PageEndsAlone cmp limit base) (k n : Nat)
    (cursor : Option Cursor)
    (hstart : ∀ i, startIndex (sortBy cmp (rows i)) key cursor = k * limit)
    (htake : ∀ i, ((sortBy cmp (rows i)).take (k * limit)).Perm
      ((sortBy cmp base).take (k * limit))) :
    ∃ pages, Walk (sortedPages cmp key limit rows) n cursor pages ∧
      pages.flatten.Perm ((sortBy cmp base).drop (k * limit)) ∧ InOrder cmp pages.flatten := by
  have hsame : ∀ i, (sortBy cmp (rows i)).Perm base := fun i => perm_sortBy.trans (hrows i)
  have hnodup : base.Nodup := hkeys.of_map
  induction hleft : base.length - k * limit using Nat.strongRecOn generalizing k n cursor with
  | _ left ih =>
    subst hleft
    have hlen : (sortBy cmp (rows n)).length = base.length := (hsame n).length_eq
    have hdrop : ((sortBy cmp (rows n)).drop (k * limit)).Perm
        ((sortBy cmp base).drop (k * limit)) :=
      perm_drop_of_take ((hsame n).trans perm_sortBy.symm) (htake n)
    have hdropSorted : InOrder cmp ((sortBy cmp (rows n)).drop (k * limit)) :=
      List.Pairwise.sublist (List.drop_sublist _ _) inOrder_sortBy
    by_cases hmore : k * limit + limit < base.length
    · have hstep : (k + 1) * limit = k * limit + limit := by rw [Nat.add_mul, Nat.one_mul]
      obtain ⟨r, hr, hpage⟩ := paginateRows_more hlimit (hstart n) (by rw [hlen]; exact hmore)
      rw [← hstep] at hr
      have hrAlone : Alone cmp base r :=
        alone_of_pageEnd halone (hsame n) inOrder_sortBy hr (by omega) (by omega)
      -- the row has this place in every request
      have hplace {l : List R} (hl : l.Perm base) : (sortBy cmp l)[(k + 1) * limit - 1]? = some r :=
        (sortBy_upTo_alone hnodup hrAlone (hrows n) hr hl).1
      have hcut {l : List R} (hl : l.Perm base) :
          (sortBy cmp l).take ((k + 1) * limit) =
            (sortBy cmp l).filter fun x => (cmp x r).isLE := by
        have htaken := (sortBy_upTo_alone hnodup hrAlone (hrows n) hr hl).2
        rwa [Nat.sub_add_cancel (by omega)] at htaken
      have htake' : ∀ i, ((sortBy cmp (rows i)).take ((k + 1) * limit)).Perm
          ((sortBy cmp base).take ((k + 1) * limit)) := fun i => by
        rw [hcut (hrows i), hcut (.refl base)]
        exact ((hsame i).trans perm_sortBy.symm).filter _
      have hstart' : ∀ i, startIndex (sortBy cmp (rows i)) key (some (.id (key r))) =
          (k + 1) * limit := fun i => by
        have hkeys' : ((sortBy cmp (rows i)).map key).Nodup :=
          ((hsame i).map key).nodup_iff.mpr hkeys
        rw [startIndex_of_getElem? hkeys' (hplace (hrows i)), Nat.sub_add_cancel (by omega)]
      obtain ⟨pages, hwalk, hflat, hsorted⟩ :=
        ih _ (by omega) (k + 1) (n + 1) (some (.id (key r))) hstart' htake' rfl
      refine ⟨_, .more hpage hwalk, ?_, ?_⟩
      · rw [List.flatten_cons]
        refine List.Perm.trans ?_ hdrop
        have hrest : pages.flatten.Perm ((sortBy cmp (rows n)).drop ((k + 1) * limit)) :=
          hflat.trans (perm_drop_of_take ((hsame n).trans perm_sortBy.symm) (htake' n)).symm
        refine (hrest.append_left _).trans (List.Perm.of_eq ?_)
        rw [hstep, ← List.drop_drop, List.take_append_drop]
      · rw [List.flatten_cons]
        refine List.pairwise_append.mpr
          ⟨List.Pairwise.sublist (List.take_sublist _ _) hdropSorted, hsorted, fun a ha b hb => ?_⟩
        -- the page is up to `r`, the pages that follow are behind it
        have ha' : a ∈ (sortBy cmp (rows n)).take ((k + 1) * limit) := by
          rw [hstep, List.take_add]
          exact List.mem_append_right _ ha
        rw [hcut (hrows n)] at ha'
        have har : (cmp a r).isLE = true := (List.mem_filter.mp ha').2
        have hb' : b ∈ (sortBy cmp base).drop ((k + 1) * limit) := hflat.subset hb
        have hrb : (cmp r b).isLE = true := by
          refine inOrder_sortBy.le_of_mem_drop (hplace (.refl base)) ?_
          exact List.drop_subset_drop_left _ (Nat.sub_le _ 1) hb'
        exact TransCmp.isLE_trans har hrb
    · have hpage : sortedPages cmp key limit rows n cursor =
          .ok ((sortBy cmp (rows n)).drop (k * limit), none) :=
        paginateRows_last (hstart n) (by omega)
      refine ⟨_, .last hpage, ?_, ?_⟩
      · rw [List.flatten_singleton]
        exact hdrop
      · rw [List.flatten_singleton]
        exact hdropSorted

/-! ## Rows in another order -/

omit [TransCmp cmp] in
/-- Of two rows of a list, one is given before the other. -/
theorem pair_sublist_or (hr : r ∈ base) (hx : x ∈ base) (hne : x ≠ r) :
    [x, r].Sublist base ∨ [r, x].Sublist base := by
  obtain ⟨before, later, rfl⟩ := List.append_of_mem hr
  rcases List.mem_append.mp hx with hx | hx
  · refine .inl (List.Sublist.append (List.singleton_sublist.mpr hx) ?_)
    exact List.singleton_sublist.mpr List.mem_cons_self
  · have hlater : x ∈ later := (List.mem_cons.mp hx).resolve_left hne
    refine .inr (List.Sublist.trans ?_ (List.sublist_append_right before _))
    exact List.Sublist.cons_cons r (List.singleton_sublist.mpr hlater)

omit [TransCmp cmp] in
theorem mem_take_of_pair (hnodup : S.Nodup) (hr : S[i]? = some r) (h : [x, r].Sublist S) :
    x ∈ S.take i := by
  obtain ⟨hi, he⟩ := List.getElem?_eq_some_iff.mp hr
  have hsplit : S.take i ++ r :: S.drop (i + 1) = S := by
    rw [← he, ← List.drop_eq_getElem_cons hi, List.take_append_drop]
  have hother : r ∉ S.drop (i + 1) := by
    rw [← hsplit, List.nodup_append, List.nodup_cons] at hnodup
    exact hnodup.2.1.1
  rw [← hsplit, List.sublist_append_iff] at h
  obtain ⟨l₁, l₂, he, h₁, h₂⟩ := h
  cases l₁ with
  | nil =>
    -- both would be at the place of `r` or behind it
    rw [List.nil_append] at he
    subst he
    cases h₂ with
    | cons _ h₂ => exact absurd (h₂.subset (by simp)) hother
    | cons_cons _ h₂ => exact absurd (List.singleton_sublist.mp h₂) hother
  | cons y l₁ =>
    obtain ⟨rfl, -⟩ := List.cons.inj he
    exact h₁.subset List.mem_cons_self

omit [TransCmp cmp] in
theorem mem_drop_of_pair (hnodup : S.Nodup) (hr : S[i]? = some r) (h : [r, x].Sublist S) :
    x ∈ S.drop (i + 1) := by
  have hi : i < S.length := (List.getElem?_eq_some_iff.mp hr).1
  have hplace : S.length - 1 - i < S.length := by omega
  have hr' : S.reverse[S.length - 1 - i]? = some r := by
    rw [List.getElem?_reverse hplace, ← hr]
    congr 1
    omega
  have hpair : [x, r].Sublist S.reverse := h.reverse
  have hmem := mem_take_of_pair (List.nodup_reverse.mpr hnodup) hr' hpair
  rw [List.take_reverse, List.mem_reverse] at hmem
  have hlen : S.length - (S.length - 1 - i) = i + 1 := by omega
  rwa [hlen] at hmem

omit [TransCmp cmp] in
/-- While the rows come in one order, the pages go on in them. -/
theorem walk_onward {k j : Nat} (hlimit : 0 < limit) (hkeys : (S.map key).Nodup)
    (hmore : k * limit < S.length) (hrows : ∀ n < k, sortBy cmp (rows n) = S) (hj : j < k)
    (hstart : startIndex S key cursor = j * limit)
    (h : Walk (sortedPages cmp key limit rows) j cursor pages) :
    ∃ r rest, S[k * limit - 1]? = some r ∧
      Walk (sortedPages cmp key limit rows) k (some (.id (key r))) rest ∧
      S.take (j * limit) ++ pages.flatten = S.take (k * limit) ++ rest.flatten := by
  induction hleft : k - j generalizing j cursor pages with
  | zero => omega
  | succ left ih =>
    have hstep : (j + 1) * limit = j * limit + limit := by rw [Nat.add_mul, Nat.one_mul]
    have hle : (j + 1) * limit ≤ k * limit := Nat.mul_le_mul_right limit hj
    obtain ⟨r, hr, hpage⟩ := paginateRows_more hlimit hstart (by omega)
    rw [← hstep] at hr
    have hanswer : sortedPages cmp key limit rows j cursor =
        .ok ((S.drop (j * limit)).take limit, some (.id (key r))) := by
      rw [← hpage, sortedPages, hrows j hj]
    cases h with
    | last hlast =>
      rw [hanswer] at hlast
      cases hlast
    | more hnext rest =>
      rw [hanswer] at hnext
      cases hnext
      have hjoin : ∀ l, S.take (j * limit) ++ ((S.drop (j * limit)).take limit ++ l) =
          S.take ((j + 1) * limit) ++ l := fun l => by
        rw [hstep, List.take_add, List.append_assoc]
      rw [List.flatten_cons, hjoin]
      by_cases hlastStep : j + 1 = k
      · subst hlastStep
        exact ⟨r, _, hr, rest, rfl⟩
      · have hstart' : startIndex S key (some (.id (key r))) = (j + 1) * limit := by
          rw [startIndex_of_getElem? hkeys hr, Nat.sub_add_cancel (by omega)]
        exact ih (by omega) hstart' rest (by omega)

omit [TransCmp cmp] in
/-- From there on the pages list the rest of the rows in their order. -/
theorem walk_rest (hlimit : 0 < limit) (hkeys : (S.map key).Nodup)
    (hrows : ∀ i, n ≤ i → sortBy cmp (rows i) = S) (hstart : startIndex S key cursor = m)
    (h : Walk (sortedPages cmp key limit rows) n cursor pages) : pages.flatten = S.drop m := by
  induction h generalizing m with
  | @last n cursor data h =>
    rw [sortedPages, hrows n le_rfl] at h
    by_cases hmore : m + limit < S.length
    · obtain ⟨r, -, hpage⟩ := paginateRows_more hlimit hstart hmore
      rw [hpage] at h
      cases h
    · rw [paginateRows_last hstart (Nat.le_of_not_lt hmore)] at h
      cases h
      exact List.flatten_singleton
  | @more n cursor data cursor' pages h _ ih =>
    rw [sortedPages, hrows n le_rfl] at h
    by_cases hmore : m + limit < S.length
    · obtain ⟨r, hr, hpage⟩ := paginateRows_more hlimit hstart hmore
      rw [hpage] at h
      cases h
      have hstart' : startIndex S key (some (.id (key r))) = m + limit := by
        rw [startIndex_of_getElem? hkeys hr]
        omega
      rw [List.flatten_cons, ih (fun i hi => hrows i (Nat.le_of_succ_le hi)) hstart',
        ← List.drop_drop, List.take_append_drop]
    · rw [paginateRows_last hstart (Nat.le_of_not_lt hmore)] at h
      cases h

/-- The rows of the first calls, and then the same rows the other way round. -/
def turnedAfter (base : List R) (k n : Nat) : List R := if n < k then base else base.reverse

/-- A row is alone if the rows up to it, and those behind it when they come the other way round, are
all rows once each. -/
theorem alone_of_turned {j : Nat} (hr : (sortBy cmp base)[j]? = some r)
    (hi : (sortBy cmp base.reverse)[i]? = some r) (hnodup : base.Nodup)
    (hperm : ((sortBy cmp base).take (j + 1) ++ (sortBy cmp base.reverse).drop (i + 1)).Perm base) :
    Alone cmp base r := by
  have hnodupS : (sortBy cmp base).Nodup := perm_sortBy.nodup_iff.mpr hnodup
  have hnodupT : (sortBy cmp base.reverse).Nodup :=
    (perm_sortBy.trans (List.reverse_perm base)).nodup_iff.mpr hnodup
  have hmem : r ∈ base := perm_sortBy.subset (List.mem_of_getElem? hr)
  intro x hx hxr
  by_contra hne
  have hxle : (cmp x r).isLE = true := by rw [hxr]; rfl
  have hrle : (cmp r x).isLE = true := by rw [OrientedCmp.eq_symm hxr]; rfl
  rcases pair_sublist_or hmem hx hne with hpair | hpair
  · -- `x` was listed before the cursor, and is listed again
    have hbefore : x ∈ (sortBy cmp base).take j :=
      mem_take_of_pair hnodupS hr (pair_sublist_sortBy hxle hpair)
    have hagain : x ∈ (sortBy cmp base.reverse).drop (i + 1) :=
      mem_drop_of_pair hnodupT hi (pair_sublist_sortBy hrle hpair.reverse)
    have htaken : x ∈ (sortBy cmp base).take (j + 1) :=
      List.take_subset_take_left _ (Nat.le_succ j) hbefore
    have hboth := hperm.nodup_iff.mpr hnodup
    exact (List.nodup_append.mp hboth).2.2 x htaken x hagain rfl
  · -- `x` stood behind the cursor, and stands before it now
    have hbehind : x ∈ (sortBy cmp base).drop (j + 1) :=
      mem_drop_of_pair hnodupS hr (pair_sublist_sortBy hrle hpair)
    have hnow : x ∈ (sortBy cmp base.reverse).take i :=
      mem_take_of_pair hnodupT hi (pair_sublist_sortBy hxle hpair.reverse)
    rcases List.mem_append.mp (hperm.mem_iff.mpr hx) with hlisted | hlisted
    · rw [← List.take_append_drop (j + 1) (sortBy cmp base), List.nodup_append] at hnodupS
      exact hnodupS.2.2 x hlisted x hbehind rfl
    · rw [← List.take_append_drop (i + 1) (sortBy cmp base.reverse), List.nodup_append] at hnodupT
      exact hnodupT.2.2 x (List.take_subset_take_left _ (Nat.le_succ i) hnow) x hlisted rfl

/-- **Where a page ends among rows that compare alike**, the rows turned round after it are not
listed once each. -/
theorem pageEndsAlone_of_walks (hlimit : 0 < limit) (hkeys : (base.map key).Nodup)
    (h : ∀ k, ∃ pages, Walk (sortedPages cmp key limit (turnedAfter base k)) 0 none pages ∧
      pages.flatten.Perm base) : PageEndsAlone cmp limit base := by
  intro r₀ hr₀ k hlow hhigh hmore
  have hnodup : base.Nodup := hkeys.of_map
  obtain ⟨pages, hwalk, hperm⟩ := h k
  have hpermS : (sortBy cmp base).Perm base := perm_sortBy
  have hpermT : (sortBy cmp base.reverse).Perm base := perm_sortBy.trans (List.reverse_perm base)
  have hk : 0 < k := by
    by_contra hzero
    have hk0 : k = 0 := by omega
    rw [hk0, Nat.zero_mul] at hlow
    omega
  have hfirst : ∀ i < k, sortBy cmp (turnedAfter base k i) = sortBy cmp base := fun i hi => by
    rw [turnedAfter, if_pos hi]
  have hlater : ∀ i, k ≤ i → sortBy cmp (turnedAfter base k i) = sortBy cmp base.reverse :=
    fun i hi => by rw [turnedAfter, if_neg (by omega)]
  obtain ⟨r, rest, hr, hrest, hflat⟩ := walk_onward hlimit ((hpermS.map key).nodup_iff.mpr hkeys)
    (by rw [hpermS.length_eq]; exact hmore) hfirst hk (by rw [Nat.zero_mul]; rfl) hwalk
  rw [Nat.zero_mul, List.take_zero, List.nil_append] at hflat
  -- the place of the row among the rows turned round
  obtain ⟨i, hi⟩ := List.getElem?_of_mem (hpermT.mem_iff.mpr
    (hpermS.subset (List.mem_of_getElem? hr)))
  have hdrop : rest.flatten = (sortBy cmp base.reverse).drop (i + 1) :=
    walk_rest hlimit ((hpermT.map key).nodup_iff.mpr hkeys) hlater
      (startIndex_of_getElem? ((hpermT.map key).nodup_iff.mpr hkeys) hi) hrest
  rw [hflat, hdrop] at hperm
  have hpos : 0 < k * limit := Nat.mul_pos hk hlimit
  have halone : Alone cmp base r :=
    alone_of_turned hr hi hnodup (by rwa [Nat.sub_add_cancel hpos])
  -- the row of the group that ends the page
  have hlowS : (sortBy cmp base).countP (fun x => cmp x r₀ == .lt) ≤ k * limit - 1 := by
    rw [hpermS.countP_eq]
    omega
  have hhighS : k * limit - 1 < (sortBy cmp base).countP fun x => (cmp x r₀).isLE := by
    rw [hpermS.countP_eq]
    omega
  have heq : cmp r r₀ = .eq := inOrder_sortBy.eq_of_place hr hlowS hhighS
  have hsame : r₀ = r := halone r₀ hr₀ (OrientedCmp.eq_symm heq)
  rw [hsame]
  exact halone

end

/-! ## The order of the stock page -/

/-- A comparison that answers with a number, as an ordering. -/
def orderOf {R : Type} (compare : R → R → Int) (a b : R) : Ordering := Ord.compare (compare a b) 0

section

variable {R : Type} {f g : R → R → Int}

theorem orderOf_isLE {a b : R} : (orderOf f a b).isLE = true ↔ f a b ≤ 0 := by
  unfold orderOf
  rw [Int.isLE_compare]

theorem orderOf_orElseCompare :
    orderOf (fun a b => orElseCompare (f a b) (g a b)) = compareLex (orderOf f) (orderOf g) := by
  funext a b
  unfold orderOf orElseCompare compareLex
  dsimp only
  by_cases h : f a b = 0
  · rw [if_pos h, h]
    rfl
  · rw [if_neg h]
    cases hc : Ord.compare (f a b) 0 with
    | lt => rfl
    | eq => exact absurd (Int.compare_eq_eq.mp hc) h
    | gt => rfl

theorem compare_compareNumbers (left right : Int) :
    Ord.compare (compareNumbers left right 1) 0 = Ord.compare left right ∧
      Ord.compare (compareNumbers left right (-1)) 0 = Ord.compare right left := by
  unfold compareNumbers
  rcases Int.lt_trichotomy left right with h | h | h
  · rw [if_neg h.ne, if_neg h.ne, if_neg h.not_gt, if_neg h.not_gt, Int.compare_eq_lt.mpr h,
      Int.compare_eq_gt.mpr h]
    exact ⟨rfl, rfl⟩
  · have hsame : Ord.compare right right = .eq := Int.compare_eq_eq.mpr rfl
    rw [if_pos h, if_pos h, h, hsame]
    exact ⟨rfl, rfl⟩
  · rw [if_neg h.ne', if_neg h.ne', if_pos h, if_pos h, Int.compare_eq_gt.mpr h,
      Int.compare_eq_lt.mpr h]
    exact ⟨rfl, rfl⟩

/-- Numbers in ascending or descending order. -/
theorem transCmp_compareNumbers (f : R → Int) {direction : Int}
    (h : direction = 1 ∨ direction = -1) :
    TransCmp (orderOf fun a b => compareNumbers (f a) (f b) direction) := by
  rcases h with rfl | rfl
  · have hasc : (orderOf fun a b => compareNumbers (f a) (f b) 1) = compareOn f :=
      funext fun a => funext fun b => (compare_compareNumbers (f a) (f b)).1
    rw [hasc]
    infer_instance
  · have hdesc : (orderOf fun a b => compareNumbers (f a) (f b) (-1)) =
        fun a b => compareOn f b a :=
      funext fun a => funext fun b => (compare_compareNumbers (f a) (f b)).2
    rw [hdesc]
    infer_instance

theorem transCmp_orElseCompare (hf : TransCmp (orderOf f)) (hg : TransCmp (orderOf g)) :
    TransCmp (orderOf fun a b => orElseCompare (f a b) (g a b)) := by
  rw [orderOf_orElseCompare]
  infer_instance

theorem transCmp_directed (hf : TransCmp (orderOf f)) {direction : Int}
    (h : direction = 1 ∨ direction = -1) : TransCmp (orderOf fun a b => direction * f a b) := by
  rcases h with rfl | rfl
  · simp only [Int.one_mul]
    exact hf
  · have hswap : (orderOf fun a b => -1 * f a b) = fun a b => orderOf f b a := by
      funext a b
      have hback : orderOf f b a = (orderOf f a b).swap := OrientedCmp.eq_swap
      rw [hback]
      unfold orderOf
      dsimp only
      rcases Int.lt_trichotomy (f a b) 0 with h | h | h
      · have hneg : -1 * f a b > 0 := by omega
        rw [Int.compare_eq_gt.mpr hneg, Int.compare_eq_lt.mpr h]
        rfl
      · rw [h]
        rfl
      · have hneg : -1 * f a b < 0 := by omega
        rw [Int.compare_eq_lt.mpr hneg, Int.compare_eq_gt.mpr h]
        rfl
    rw [hswap]
    infer_instance

end

/-- How the rows of a query compare. -/
def stockOrder (p : Platform) (query : GetInventoryQueryDto) :
    AggregatedInventoryItemDto → AggregatedInventoryItemDto → Ordering :=
  orderOf (compareAggregated p query.sortBy (if query.sortOrder.getD .desc = .asc then 1 else -1))

/-- With a `localeCompare` that orders texts, this is an order. -/
theorem transCmp_stockOrder {p : Platform} (hlocale : TransCmp (orderOf p.localeCompare))
    (query : GetInventoryQueryDto) : TransCmp (stockOrder p query) := by
  have htext (f : AggregatedInventoryItemDto → String) :
      TransCmp (orderOf fun a b => p.localeCompare (f a) (f b)) :=
    { eq_swap := hlocale.eq_swap, isLE_trans := hlocale.isLE_trans }
  have hdirection : (if query.sortOrder.getD .desc = .asc then (1 : Int) else -1) = 1 ∨
      (if query.sortOrder.getD .desc = .asc then (1 : Int) else -1) = -1 := by
    split
    · exact .inl rfl
    · exact .inr rfl
  unfold stockOrder
  generalize (if query.sortOrder.getD .desc = .asc then (1 : Int) else -1) = direction at hdirection
  unfold compareAggregated
  split
  · exact transCmp_orElseCompare (transCmp_compareNumbers _ hdirection) (htext _)
  · exact transCmp_orElseCompare (transCmp_compareNumbers _ hdirection) (htext _)
  · exact transCmp_orElseCompare (transCmp_compareNumbers _ hdirection) (htext _)
  · exact transCmp_directed (htext _) hdirection
  · exact transCmp_directed (htext _) hdirection
  · exact htext _

/-! ## The rows of the stock page -/

def AggregatedInventoryItemDto.withoutLocations (r : AggregatedInventoryItemDto) :
    AggregatedInventoryItemDto := { r with locations := [] }

namespace Backend

/-- What a membership sees of a product, apart from its locations. -/
def stockRow (db : Backend) (org : CurrentOrg) (row : Id × ProductRecord) :
    AggregatedInventoryItemDto :=
  let totalQuantity := db.accessibleStock org row.1
  { productId := row.1, name := row.2.name, sku := row.2.sku, totalQuantity := totalQuantity
    reorderThreshold := row.2.reorderThreshold
    stockGap := max (row.2.reorderThreshold - totalQuantity) 0
    isLowStock := totalQuantity ≤ row.2.reorderThreshold
    locations := [] }

/-- The matching products, by their ids. -/
def stockRows (db : Backend) (org : CurrentOrg) (lowStockOnly : Bool) :
    List AggregatedInventoryItemDto :=
  ((db.products.select fun _ product => product.organizationId == org.organizationId).map
    (db.stockRow org)).filter fun r => !lowStockOnly || r.isLowStock

theorem nodup_stockRows (db : Backend) (org : CurrentOrg) (lowStockOnly : Bool) :
    ((db.stockRows org lowStockOnly).map (·.productId)).Nodup := by
  have hall : (((db.products.select fun _ product =>
      product.organizationId == org.organizationId).map (db.stockRow org)).map
        (·.productId)).Nodup := by
    rw [List.map_map]
    exact (Table.nodup_rows db.products).sublist (List.filter_sublist.map Prod.fst)
  exact hall.sublist (List.filter_sublist.map _)

end Backend

/-- The rows that a request sorts, apart from their locations. -/
def requestRows (p : Platform) (db : Backend) (org : CurrentOrg) (lowStockOnly : Bool) :
    List AggregatedInventoryItemDto :=
  ((getAggregatedInventorySnapshot p db org).filter fun r => !lowStockOnly || r.isLowStock).map
    (·.withoutLocations)

/-- The answers of the requests, with the rows of the database in another order at each. -/
def stockPages (p : Platform) (arrangements : Nat → Arrangement) (db : Backend) (org : CurrentOrg)
    (query : GetInventoryQueryDto) (n : Nat) (cursor : Option Cursor) :
    Except BackendError (List AggregatedInventoryItemDto × Option Cursor) :=
  (getInventory (p.arranged (arrangements n)) db org { query with cursor := cursor }).map
    fun answer => (answer.data, answer.nextCursor)

/-- Following the cursors from the first page ends, and the pages list every matching product once,
in the order of the query. -/
def ListsOnce (p : Platform) (arrangements : Nat → Arrangement) (db : Backend) (org : CurrentOrg)
    (query : GetInventoryQueryDto) : Prop :=
  ∃ pages, Walk (stockPages p arrangements db org query) 0 none pages ∧
    (pages.flatten.map (·.withoutLocations)).Perm (db.stockRows org query.lowStockOnly) ∧
    InOrder (stockOrder p query) pages.flatten

section

variable {p : Platform} {db : Backend} {org : CurrentOrg} {query : GetInventoryQueryDto}
  {lowStockOnly : Bool} {a : Arrangement} {arrangements : Nat → Arrangement}

theorem stockRow_of_product (id : Id) (product : ProductRecord) :
    (aggregatedItem p (db.productWithLevels p org id product)).withoutLocations =
      db.stockRow org (id, product) := by
  unfold Backend.stockRow
  dsimp only
  rw [← totalQuantity_productWithLevels p db org id product]
  rfl

/-- The products that a request reads, as they come. -/
theorem products_read (p : Platform) (db : Backend) (org : CurrentOrg) :
    ((db.productsWithLevels p org).filter fun r =>
        r.product.organizationId == org.organizationId).map
      (fun r => (aggregatedItem p r).withoutLocations) =
      (db.products.select fun _ product =>
        product.organizationId == org.organizationId).map (db.stockRow org) := by
  rw [Backend.productsWithLevels, Table.joined_filter, List.map_map]
  exact List.map_congr_left fun row _ => stockRow_of_product row.1 row.2

/-- The rows of a request are the matching products in the order of the database. -/
theorem requestRows_eq : ∃ products : List ProductWithLevels,
    requestRows (p.arranged a) db org lowStockOnly =
      ((a.order products).map fun r =>
        (aggregatedItem (p.arranged a) r).withoutLocations).filter
          (fun r => !lowStockOnly || r.isLowStock) ∧
    (products.map fun r => (aggregatedItem (p.arranged a) r).withoutLocations).filter
        (fun r => !lowStockOnly || r.isLowStock) = db.stockRows org lowStockOnly := by
  refine ⟨_, ?_, congrArg (List.filter _) (products_read (p.arranged a) db org)⟩
  unfold requestRows getAggregatedInventorySnapshot
  rw [List.filter_map, List.filter_map, List.map_map]
  rfl

theorem perm_requestRows :
    (requestRows (p.arranged a) db org lowStockOnly).Perm (db.stockRows org lowStockOnly) := by
  obtain ⟨products, hrows, hall⟩ := requestRows_eq (p := p) (a := a)
  rw [hrows, ← hall]
  exact ((a.perm products).map _).filter _

theorem requestRows_asGiven :
    requestRows (p.arranged .asGiven) db org lowStockOnly = db.stockRows org lowStockOnly := by
  obtain ⟨products, hrows, hall⟩ := requestRows_eq (p := p) (a := .asGiven)
  rw [hrows, ← hall]
  rfl

theorem requestRows_reversed :
    requestRows (p.arranged .reversed) db org lowStockOnly =
      (db.stockRows org lowStockOnly).reverse := by
  obtain ⟨products, hrows, hall⟩ := requestRows_eq (p := p) (a := .reversed)
  rw [hrows, ← hall, ← List.filter_reverse, ← List.map_reverse]
  rfl

/-! ## The pages -/

theorem paginateRows_map {R S : Type} (f : R → S) (key : S → Id) (rows : List R) (limit : Nat)
    (cursor : Option Cursor) :
    (paginateRows rows limit cursor fun r => key (f r)).map (mapPage f) =
      paginateRows (rows.map f) limit cursor key := by
  have hstart :
      startIndex rows (fun r => key (f r)) cursor = startIndex (rows.map f) key cursor := by
    unfold startIndex
    cases cursor with
    | none => rfl
    | some c =>
      show ((rows.findIdx? fun r => c.isId (key (f r))).elim 0 (· + 1)) =
        (((rows.map f).findIdx? fun r => c.isId (key r)).elim 0 (· + 1))
      rw [List.findIdx?_map]
      rfl
  unfold paginateRows
  dsimp only
  rw [hstart, List.length_map, ← List.map_drop, ← List.map_take, List.getLast?_map]
  split
  · cases ((rows.drop (startIndex (rows.map f) key cursor)).take limit).getLast? with
    | none => rfl
    | some r => rfl
  · rfl

/-- Apart from the locations, the answers are pages of freshly sorted rows. -/
theorem stockPages_map (n : Nat) (cursor : Option Cursor) :
    (stockPages p arrangements db org query n cursor).map (mapPage (·.withoutLocations)) =
      sortedPages (stockOrder p query) (·.productId) query.limit
        (fun n => requestRows (p.arranged (arrangements n)) db org query.lowStockOnly) n cursor := by
  have hrows : (if query.lowStockOnly = true then
      (getAggregatedInventorySnapshot (p.arranged (arrangements n)) db org).filter (·.isLowStock)
      else getAggregatedInventorySnapshot (p.arranged (arrangements n)) db org) =
      (getAggregatedInventorySnapshot (p.arranged (arrangements n)) db org).filter fun r =>
        !query.lowStockOnly || r.isLowStock := by
    cases query.lowStockOnly with
    | true => simp
    | false => simp
  have hsorted (rows : List AggregatedInventoryItemDto) :
      sortAggregatedInventoryRows (p.arranged (arrangements n)) rows query.sortBy query.sortOrder =
        sortBy (stockOrder p query) rows :=
    insertionSort_eq_sortBy fun left right => orderOf_isLE.symm
  -- the rows of this request, with their locations
  obtain ⟨rows, hsnapshot⟩ : ∃ rows, (getAggregatedInventorySnapshot
      (p.arranged (arrangements n)) db org).filter (fun r => !query.lowStockOnly || r.isLowStock) =
        rows := ⟨_, rfl⟩
  have hmap : (sortBy (stockOrder p query) rows).map (·.withoutLocations) =
      sortBy (stockOrder p query)
        (requestRows (p.arranged (arrangements n)) db org query.lowStockOnly) := by
    unfold requestRows
    rw [hsnapshot]
    exact sortBy_map _ fun _ _ => rfl
  have hpages : (paginateRows (sortBy (stockOrder p query) rows) query.limit cursor
      (·.productId)).map (mapPage (·.withoutLocations)) =
        paginateRows ((sortBy (stockOrder p query) rows).map (·.withoutLocations)) query.limit
          cursor (·.productId) :=
    paginateRows_map AggregatedInventoryItemDto.withoutLocations
      AggregatedInventoryItemDto.productId _ query.limit cursor
  rw [hmap] at hpages
  rw [sortedPages, ← hpages]
  unfold stockPages getInventory
  dsimp only
  rw [hrows, hsorted, hsnapshot]
  cases paginateRows (sortBy (stockOrder p query) rows) query.limit cursor (·.productId) with
  | error e => rfl
  | ok page => rfl

theorem listsOnce_iff :
    ListsOnce p arrangements db org query ↔
      ∃ pages, Walk (sortedPages (stockOrder p query) (·.productId) query.limit fun n =>
          requestRows (p.arranged (arrangements n)) db org query.lowStockOnly) 0 none pages ∧
        pages.flatten.Perm (db.stockRows org query.lowStockOnly) ∧
        InOrder (stockOrder p query) pages.flatten := by
  have hpage : (fun n cursor => (stockPages p arrangements db org query n cursor).map
      (mapPage (·.withoutLocations))) = sortedPages (stockOrder p query) (·.productId) query.limit
        fun n => requestRows (p.arranged (arrangements n)) db org query.lowStockOnly :=
    funext fun n => funext fun cursor => stockPages_map n cursor
  rw [← hpage, exists_walk_map_iff (P := fun rows =>
    rows.Perm (db.stockRows org query.lowStockOnly) ∧ InOrder (stockOrder p query) rows)]
  have hsame (rows : List AggregatedInventoryItemDto) :
      InOrder (stockOrder p query) (rows.map (·.withoutLocations)) ↔
        InOrder (stockOrder p query) rows := List.pairwise_map
  simp only [hsame]
  rfl

end

/-- **The pages of `getInventory` list every matching product once**, in whatever order the database
returns the products, if and only if no page but the last ends among rows that compare alike. -/
theorem getInventory_lists_iff {p : Platform} (hlocale : TransCmp (orderOf p.localeCompare))
    (db : Backend) (org : CurrentOrg) {query : GetInventoryQueryDto} (hlimit : 1 ≤ query.limit) :
    (∀ arrangements, ListsOnce p arrangements db org query) ↔
      PageEndsAlone (stockOrder p query) query.limit (db.stockRows org query.lowStockOnly) := by
  have hcmp : TransCmp (stockOrder p query) := transCmp_stockOrder hlocale query
  have hkeys := db.nodup_stockRows org query.lowStockOnly
  constructor
  · intro h
    refine pageEndsAlone_of_walks hlimit hkeys fun k => ?_
    obtain ⟨pages, hwalk, hperm, -⟩ :=
      listsOnce_iff.mp (h fun n => if n < k then .asGiven else .reversed)
    have hrows : (fun n => requestRows
        (p.arranged (if n < k then Arrangement.asGiven else .reversed)) db org
          query.lowStockOnly) = turnedAfter (db.stockRows org query.lowStockOnly) k := by
      funext n
      unfold turnedAfter
      by_cases hn : n < k
      · rw [if_pos hn, if_pos hn, requestRows_asGiven]
      · rw [if_neg hn, if_neg hn, requestRows_reversed]
    rw [hrows] at hwalk
    exact ⟨pages, hwalk, hperm⟩
  · intro halone arrangements
    rw [listsOnce_iff]
    have hstart : ∀ i, startIndex (sortBy (stockOrder p query)
        (requestRows (p.arranged (arrangements i)) db org query.lowStockOnly)) (·.productId) none =
          0 * query.limit := fun i => (Nat.zero_mul _).symm
    obtain ⟨pages, hwalk, hperm, hsorted⟩ := exists_sortedWalk hlimit hkeys
      (fun n => perm_requestRows) halone 0 0 none hstart fun i => by rw [Nat.zero_mul]; exact .refl _
    rw [Nat.zero_mul, List.drop_zero] at hperm
    exact ⟨pages, hwalk, hperm.trans perm_sortBy, hsorted⟩

/-- Texts in the order of their code points. -/
theorem transCmp_plain : TransCmp (orderOf Platform.plain.localeCompare) := by
  have hsame :
      orderOf Platform.plain.localeCompare = (Ord.compare : String → String → Ordering) := by
    funext s t
    unfold orderOf Platform.plain
    dsimp only
    cases Ord.compare s t with
    | lt => rfl
    | eq => rfl
    | gt => rfl
  rw [hsame]
  infer_instance

/-! Two teas of one name. -/

namespace Stockroom

def greenTea : Id := ⟨0, 21⟩

def twoTeas : Backend :=
  { empty with products := (AList.insert tea (product here) ∅).insert greenTea (product here) }

def scope : CurrentOrg := { organizationId := here }

/-- Only the first request gets the products as they come. -/
def turned (n : Nat) : Arrangement := if n < 1 then .asGiven else .reversed

end Stockroom

theorem getInventory_lists_iff_teas :
    (∀ arrangements, ListsOnce .plain arrangements Stockroom.twoTeas Stockroom.scope
        { limit := 2 }) ↔
      PageEndsAlone (stockOrder .plain { limit := 2 }) 2
        (Stockroom.twoTeas.stockRows Stockroom.scope false) :=
  getInventory_lists_iff transCmp_plain Stockroom.twoTeas Stockroom.scope (by decide)

/-- One tea a page: the second request finds the cursor at the end, and the other tea is missed. -/
theorem tea_missed :
    ¬ ∀ arrangements, ListsOnce .plain arrangements Stockroom.twoTeas Stockroom.scope
      { limit := 1 } := by
  intro h
  obtain ⟨pages, hwalk, hperm, -⟩ := h Stockroom.turned
  have hpages : ∃ shown, walkPages (stockPages .plain Stockroom.turned Stockroom.twoTeas
      Stockroom.scope { limit := 1 }) 3 0 none = some shown ∧ shown.flatten.length = 1 :=
    ⟨_, rfl, rfl⟩
  obtain ⟨shown, hshown, hlength⟩ := hpages
  rw [hwalk.unique (walk_of_walkPages hshown)] at hperm
  have hcount := hperm.length_eq
  rw [List.length_map, hlength] at hcount
  revert hcount
  decide

end LedgerLight
