import LedgerLight.Properties.PagesListed

/-!
# Pages of a column with nulls

The cursor of a row without a value is dropped, so the request after a page that ends with such a
row starts again. Only the first page can end with one: the filter of any other cursor lets no null
through.

* `value_at_iff` : which row the first page ends with, by the number of nulls.
* `SortsBy.exists_walk_after` : from a row with a value on, the pages end.
* `walk_ends_iff` : exactly when following the cursors ends and lists no row twice.
-/

namespace LedgerLight

open Infra Std

variable {R : Type}

/-- The last of the first `n` rows has a value: ascending, so many rows have one; descending, fewer
have none. -/
def ValueAt (column : Column R) (direction : SortDirection) (l : List R) (n : Nat) : Prop :=
  match direction with
  | .asc => n ≤ l.countP fun r => column.value r ≠ .null
  | .desc => l.countP (fun r => column.value r = .null) < n

/-- The first page is not full, or it ends with a row that has a value, of a type with `lt` and
`gt`. -/
def EndsWithValue (rows : List R) (test : R → Bool) (limit : Nat) (direction : SortDirection)
    (column : Column R) : Prop :=
  (rows.filter test).length < limit ∨
    column.kind.ordered = true ∧ ValueAt column direction (rows.filter test) limit

theorem ValueAt.perm_iff {column : Column R} {direction : SortDirection} {l l' : List R} {n : Nat}
    (h : l.Perm l') : ValueAt column direction l n ↔ ValueAt column direction l' n := by
  unfold ValueAt
  rw [h.countP_eq, h.countP_eq]

theorem ScalarValue.compare_null {c : Collation} {a : ScalarValue} (h : a ≠ null) :
    compare c a null = .lt := by
  cases a with
  | null => exact absurd rfl h
  | _ => rfl

section

variable {p : Platform} {model : Model R} {rows : List R} {test : R → Bool}
  {options : PaginationOptions R} {field : String} {direction : SortDirection}
  {column : Column R} {r x : R} {S : List R} {n : Nat}

/-- Ascending, a row without a value comes after those with one; descending, before them. -/
theorem lexBy_null (hx : column.value x = .null) (hr : column.value r ≠ .null) :
    (direction = .asc → lexBy p model column direction r x = .lt) ∧
      (direction = .desc → lexBy p model column direction x r = .lt) := by
  have hlt : ScalarValue.compare p.collation (column.value r) (column.value x) = .lt := by
    rw [hx]
    exact ScalarValue.compare_null hr
  constructor
  · rintro rfl
    show (ScalarValue.compare p.collation (column.value r) (column.value x)).then _ = .lt
    rw [hlt]
    rfl
  · rintro rfl
    show (ScalarValue.compare p.collation (column.value r) (column.value x)).then _ = .lt
    rw [hlt]
    rfl

/-- **The row at a place has a value** by the number of nulls. -/
theorem value_at_iff (hS : InOrder (lexBy p model column direction) S) (hr : S[n]? = some r) :
    column.value r ≠ .null ↔ ValueAt column direction S (n + 1) := by
  have hn : n < S.length := (List.getElem?_eq_some_iff.mp hr).1
  have htake : (S.take (n + 1)).length = n + 1 := by
    rw [List.length_take]
    omega
  have hsplit (test : R → Bool) :
      S.countP test = (S.take n).countP test + (S.drop n).countP test := by
    rw [← List.countP_append, List.take_append_drop]
  have hshort (test : R → Bool) : (S.take n).countP test ≤ n := by
    refine List.countP_le_length.trans ?_
    rw [List.length_take]
    omega
  have hsub (test : R → Bool) : (S.take (n + 1)).countP test ≤ S.countP test :=
    (List.take_sublist (n + 1) S).countP_le
  unfold ValueAt
  cases direction with
  | asc =>
    dsimp only
    constructor
    · intro hvalue
      have hall : (S.take (n + 1)).countP (fun x => column.value x ≠ .null) = n + 1 := by
        refine (List.countP_eq_length.mpr fun x hx => ?_).trans htake
        rw [decide_eq_true_iff]
        intro hnull
        have hle := hS.le_of_mem_take hr hx
        exact OrientedCmp.not_isLE_of_lt ((lexBy_null hnull hvalue).1 rfl) hle
      have hle := hsub fun x => column.value x ≠ .null
      omega
    · intro hcount hnull
      have hnone : (S.drop n).countP (fun x => column.value x ≠ .null) = 0 := by
        refine List.countP_eq_zero.mpr fun x hx hvalue => ?_
        have hle := hS.le_of_mem_drop hr hx
        exact OrientedCmp.not_isLE_of_lt ((lexBy_null hnull (of_decide_eq_true hvalue)).1 rfl) hle
      have hle := hshort fun x => column.value x ≠ .null
      rw [hsplit, hnone] at hcount
      omega
  | desc =>
    dsimp only
    constructor
    · intro hvalue
      have hnone : (S.drop n).countP (fun x => column.value x = .null) = 0 := by
        refine List.countP_eq_zero.mpr fun x hx hnull => ?_
        have hle := hS.le_of_mem_drop hr hx
        exact OrientedCmp.not_isLE_of_lt ((lexBy_null (of_decide_eq_true hnull) hvalue).2 rfl) hle
      have hle := hshort fun x => column.value x = .null
      rw [hsplit, hnone]
      omega
    · intro hcount hnull
      have hall : (S.take (n + 1)).countP (fun x => column.value x = .null) = n + 1 := by
        refine (List.countP_eq_length.mpr fun x hx => ?_).trans htake
        rw [decide_eq_true_iff]
        by_contra hvalue
        have hle := hS.le_of_mem_take hr hx
        exact OrientedCmp.not_isLE_of_lt ((lexBy_null hnull hvalue).2 rfl) hle
      have hle := hsub fun x => column.value x = .null
      omega

namespace SortsBy

/-- With one column, the query and the cursor order alike. -/
theorem compareBy_eq_lexBy (h : SortsBy model options field direction [] column) :
    compareBy p model field direction [] = lexBy p model column direction := by
  rw [h.keys_head]
  funext r x
  show (SortKey.compare p.collation ⟨column.value, direction⟩ r x).then
      (((model.idKey direction).compare p.collation r x).then .eq) =
    (SortKey.compare p.collation ⟨column.value, direction⟩ r x).then
      ((model.idKey direction).compare p.collation r x)
  rw [Ordering.then_eq]

theorem inOrder_lexBy (h : SortsBy model options field direction [] column) :
    InOrder (lexBy p model column direction) (listed p model rows test field direction []) := by
  rw [← h.compareBy_eq_lexBy]
  exact inOrder_listed

/-- **From a row with a value on, the pages end.** -/
theorem exists_walk_after (h : SortsBy model options field direction [] column)
    (hids : (rows.map model.id).Nodup) (hlimit : 1 ≤ options.limit) (hfield : field ≠ "id")
    (htyped : ∀ r ∈ rows, column.value r = .null ∨ (column.value r).kind? = some column.kind)
    (hordered : column.kind.ordered = true) (hr : r ∈ rows) (hvalue : column.value r ≠ .null)
    (n : Nat) :
    ∃ pages, Walk (fun _ => pageOf p model rows test options) n
        (some (cursorOf model options r)) pages ∧
      pages.flatten = (listed p model rows test field direction []).filter
        (afterCursor p model column direction (model.id r) (column.value r)) := by
  have hpage : ∀ {x}, x ∈ rows → column.value x ≠ .null →
      pageOf p model rows test options (some (cursorOf model options x)) =
        .ok (cut options.limit (cursorOf model options)
          ((listed p model rows test field direction []).filter
            (afterCursor p model column direction (model.id x) (column.value x)))) :=
    fun hx hne => h.pageOf_after hids hfield ((htyped _ hx).resolve_left hne) hordered
  -- the rows behind `r`, all of which have values
  obtain ⟨l, hl⟩ : ∃ l, l = (listed p model rows test field direction []).filter
      (afterCursor p model column direction (model.id r) (column.value r)) := ⟨_, rfl⟩
  have hmem : ∀ {x}, x ∈ l → x ∈ rows ∧ column.value x ≠ .null ∧
      afterCursor p model column direction (model.id r) (column.value r) x = true := by
    intro x hx
    rw [hl] at hx
    obtain ⟨hlisted, hafter⟩ := List.mem_filter.mp hx
    have hne := hafter
    rw [afterCursor_eq, Bool.and_eq_true, decide_eq_true_iff] at hne
    exact ⟨List.mem_of_mem_filter (perm_listed.subset hlisted), hne.1, hafter⟩
  have hsub : l.Sublist (listed p model rows test field direction []) := by
    rw [hl]
    exact List.filter_sublist
  have hidsL : (l.map model.id).Nodup := (nodup_ids_listed hids).sublist (hsub.map model.id)
  have hsorted : InOrder (lexBy p model column direction) l := h.inOrder_lexBy.sublist hsub
  have hends : PageEnds (pageOf p model rows test options) (cursorOf model options)
      options.limit l := by
    intro k x hx
    have hpos : 0 < (k + 1) * options.limit := Nat.mul_pos (Nat.succ_pos k) hlimit
    obtain ⟨hxrow, hxvalue, hxafter⟩ := hmem (List.mem_of_getElem? hx)
    have halone : Alone (lexBy p model column direction) l x := by
      rw [← h.compareBy_eq_lexBy]
      exact alone_of_nodup_ids hidsL (idKey_mem field direction []) x (List.mem_of_getElem? hx)
    have hdrop := hsorted.drop_eq_filter hidsL.of_map hx halone
    rw [Nat.sub_add_cancel hpos] at hdrop
    rw [hpage hxrow hxvalue, hdrop, hl, List.filter_filter]
    congr 2
    refine List.filter_congr fun y _ => ?_
    rw [Bool.eq_iff_iff, Bool.and_eq_true]
    constructor
    · intro hy
      have hlt := hy
      rw [afterCursor_eq, Bool.and_eq_true] at hlt
      exact ⟨hlt.2, afterCursor_trans hxafter hy⟩
    · rintro ⟨hlt, hy⟩
      rw [afterCursor_eq, Bool.and_eq_true] at hy ⊢
      exact ⟨hy.1, hlt⟩
  rw [← hl]
  refine exists_walk hlimit hends ?_ n
  rw [hpage hr hvalue, hl]

/-- The rows behind the last row of the first page are not on that page. -/
theorem take_append_filter_sublist (h : SortsBy model options field direction [] column)
    (hlimit : 1 ≤ n) (hr : (listed p model rows test field direction [])[n - 1]? = some r) :
    ((listed p model rows test field direction []).take n ++
      (listed p model rows test field direction []).filter
        (afterCursor p model column direction (model.id r) (column.value r))).Sublist
      (listed p model rows test field direction []) := by
  have hsorted : InOrder (lexBy p model column direction)
      (listed p model rows test field direction []) := h.inOrder_lexBy
  generalize listed p model rows test field direction [] = l at hr hsorted ⊢
  have hnone : (l.take n).filter
      (afterCursor p model column direction (model.id r) (column.value r)) = [] := by
    refine List.filter_eq_nil_iff.mpr fun x hx hafter => ?_
    rw [afterCursor_eq, Bool.and_eq_true, beq_iff_eq] at hafter
    rw [← Nat.sub_add_cancel hlimit] at hx
    have hle := hsorted.le_of_mem_take hr hx
    exact OrientedCmp.not_isLE_of_lt hafter.2 hle
  have hsplit : l.filter (afterCursor p model column direction (model.id r) (column.value r)) =
      (l.drop n).filter (afterCursor p model column direction (model.id r) (column.value r)) := by
    calc l.filter (afterCursor p model column direction (model.id r) (column.value r))
        = (l.take n ++ l.drop n).filter
            (afterCursor p model column direction (model.id r) (column.value r)) := by
          rw [List.take_append_drop]
      _ = _ := by rw [List.filter_append, hnone, List.nil_append]
  rw [hsplit]
  have hsub : (l.take n ++ (l.drop n).filter
      (afterCursor p model column direction (model.id r) (column.value r))).Sublist
        (l.take n ++ l.drop n) := List.Sublist.append_left List.filter_sublist _
  rwa [List.take_append_drop] at hsub

end SortsBy

/-- **Following the cursors ends, and lists no row twice,** if and only if the first page is not
full, or ends with a value that a filter can compare. -/
theorem walk_ends_iff (h : SortsBy model options field direction [] column)
    (hids : (rows.map model.id).Nodup) (hlimit : 1 ≤ options.limit)
    (htyped : ∀ r ∈ rows, column.value r = .null ∨ (column.value r).kind? = some column.kind) :
    (∃ pages, Walk (fun _ => pageOf p model rows test options) 0 none pages ∧
        (pages.flatten.map model.id).Nodup) ↔
      EndsWithValue rows test options.limit direction column := by
  have hfirst : pageOf p model rows test options none = .ok (cut options.limit
    (cursorOf model options) (listed p model rows test field direction [])) := h.pageOf_none
  have hidsL : ((listed p model rows test field direction []).map model.id).Nodup :=
    nodup_ids_listed hids
  have hlen : (listed p model rows test field direction []).length = (rows.filter test).length :=
    perm_listed.length_eq
  unfold EndsWithValue
  by_cases hshort : (rows.filter test).length < options.limit
  · -- the only page
    rw [cut_of_lt (by omega)] at hfirst
    refine ⟨fun _ => .inl hshort, fun _ => ⟨_, .last hfirst, ?_⟩⟩
    rw [List.flatten_singleton]
    exact hidsL
  · obtain ⟨r, hr, hcut⟩ := cut_of_le (cursorOf model options)
      (l := listed p model rows test field direction []) hlimit (by omega)
    rw [hcut] at hfirst
    have hmem : r ∈ rows := List.mem_of_mem_filter (perm_listed.subset (List.mem_of_getElem? hr))
    have hplace := value_at_iff h.inOrder_lexBy hr
    rw [Nat.sub_add_cancel hlimit, ValueAt.perm_iff perm_listed] at hplace
    refine Iff.trans ?_ (or_iff_right hshort).symm
    rw [← hplace]
    by_cases hfield : field = "id"
    · subst hfield
      have hcolumn : column = model.idColumn := (Option.some.inj h.column).symm
      refine ⟨fun _ => ?_, fun _ => ?_⟩
      · rw [hcolumn]
        exact ⟨rfl, fun hnull => (by cases hnull)⟩
      · obtain ⟨pages, hwalk, hflat⟩ :=
          exists_walk hlimit (h.pageEnds_id hids hlimit) h.pageOf_none 0
        exact ⟨pages, hwalk, by rw [hflat]; exact hidsL⟩
    · by_cases hvalue : column.value r = .null
      · -- the cursor is dropped, and the first page comes again
        have hagain := (h.pageOf_null hfield hvalue).trans hfirst
        constructor
        · rintro ⟨pages, hwalk, -⟩
          exact absurd ⟨pages, hwalk⟩ (not_walk_of_loop hfirst hagain)
        · rintro ⟨-, hne⟩
          exact absurd hvalue hne
      · cases hordered : column.kind.ordered with
        | false =>
          have herror : pageOf p model rows test options (some (cursorOf model options r)) =
              .error (.prisma "PrismaClientValidationError") :=
            h.pageOf_unordered hfield hvalue hordered
          constructor
          · rintro ⟨pages, hwalk, -⟩
            exact absurd ⟨pages, hwalk⟩ (not_walk_of_error hfirst herror)
          · rintro ⟨hyes, -⟩
            cases hyes
        | true =>
          refine ⟨fun _ => ⟨rfl, hvalue⟩, fun _ => ?_⟩
          obtain ⟨pages, hwalk, hflat⟩ :=
            h.exists_walk_after hids hlimit hfield htyped hordered hmem hvalue 1
          refine ⟨_, .more hfirst hwalk, ?_⟩
          rw [List.flatten_cons, hflat]
          refine hidsL.sublist (List.Sublist.map model.id ?_)
          exact h.take_append_filter_sublist hlimit hr

end

/-! A store without a code, and an annex with one. -/

namespace Stockroom

def codes : List (Id × LocationRecord) :=
  [(store, location here), (annex, { location here with code := some "A" })]

def byCode (limit : Nat) : PaginationOptions (Id × LocationRecord) :=
  { limit := limit, sortBy := some "code" }

def codeColumn : Column (Id × LocationRecord) :=
  { kind := .text, value := fun r => .ofText? r.2.code }

theorem sortsBy_code (limit : Nat) :
    SortsBy (locationModel id) (byCode limit) "code" .desc [] codeColumn :=
  ⟨rfl, rfl, List.forall_mem_nil _⟩

end Stockroom

theorem walk_ends_iff_codes :
    (∃ pages, Walk (fun _ => pageOf .plain (locationModel id) Stockroom.codes (fun _ => true)
          (Stockroom.byCode 2)) 0 none pages ∧
        (pages.flatten.map (locationModel id).id).Nodup) ↔
      EndsWithValue Stockroom.codes (fun _ => true) 2 .desc Stockroom.codeColumn :=
  walk_ends_iff (Stockroom.sortsBy_code 2) (by decide) (by decide) (by decide)

/-- One location a page, those without a code first: the first page comes again and again. -/
theorem store_again :
    ¬ ∃ pages, Walk (fun _ => pageOf .plain (locationModel id) Stockroom.codes (fun _ => true)
          (Stockroom.byCode 1)) 0 none pages ∧
        (pages.flatten.map (locationModel id).id).Nodup := by
  have hfirst : pageOf .plain (locationModel id) Stockroom.codes (fun _ => true)
      (Stockroom.byCode 1) none =
        .ok ([(Stockroom.store, Stockroom.location Stockroom.here)],
          some (.sort Stockroom.store "code" .null)) := rfl
  have hagain : pageOf .plain (locationModel id) Stockroom.codes (fun _ => true)
      (Stockroom.byCode 1) (some (.sort Stockroom.store "code" .null)) =
        .ok ([(Stockroom.store, Stockroom.location Stockroom.here)],
          some (.sort Stockroom.store "code" .null)) := rfl
  rintro ⟨pages, hwalk, -⟩
  exact not_walk_of_loop hfirst hagain ⟨pages, hwalk⟩

end LedgerLight
