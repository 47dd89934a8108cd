import LedgerLight.Infra.Paging
import LedgerLight.Prisma.Order

/-!
# The pages of `paginateMany`

What a request with the cursor of a row returns, as the first rows of a part of all matching rows in
their order.

* `SortsBy.pageOf_none` : the first page.
* `SortsBy.pageOf_after` : the page after a row, by what the cursor's filter lets through.
* `SortsBy.pageOf_id` : the page after a row if the query orders by the id.
* `SortsBy.pageOf_null`, `SortsBy.pageOf_unordered` : the cursor of a null is dropped, and that of a
  column without `lt` and `gt` is refused.
-/

namespace LedgerLight

open Infra Std

variable {R : Type}

/-- The answer to a request with a cursor. -/
def pageOf (p : Platform) (model : Model R) (rows : List R) (test : R → Bool)
    (options : PaginationOptions R) (cursor : Option Cursor) :
    Except BackendError (List R × Option Cursor) :=
  (paginateMany p model rows test { options with cursor := cursor }).map fun page =>
    (page.data, page.nextCursor)

/-- The cursor that is returned for a row. -/
def cursorOf (model : Model R) (options : PaginationOptions R) (r : R) : Cursor :=
  encodeCursor (model.id r)
    (model.sortValue (extractSortCursorConfig (normalizeOrderBy options)) r)

/-- The query orders by a scalar column first, and then by entries that are valid. -/
structure SortsBy (model : Model R) (options : PaginationOptions R) (field : String)
    (direction : SortDirection) (rest : List (OrderBy R)) (column : Column R) : Prop where
  orderBy : (options.orderBy <|> buildOrderBy options.sortBy options.sortOrder) =
    some (.column field direction :: rest)
  column : model.scalar? field = some column
  rest : ∀ o ∈ rest, ∃ key, o.sortKey model = .ok key

/-- The entries, and the id as the last tie-breaker. -/
def orderWithId (field : String) (direction : SortDirection) (rest : List (OrderBy R)) :
    List (OrderBy R) := .column field direction :: rest ++ [.column "id" direction]

/-- How the rows compare. -/
def compareBy (p : Platform) (model : Model R) (field : String) (direction : SortDirection)
    (rest : List (OrderBy R)) : R → R → Ordering :=
  compareRows p.collation (sortKeys model (orderWithId field direction rest))

/-- The rows that match, in their order. -/
def listed (p : Platform) (model : Model R) (rows : List R) (test : R → Bool) (field : String)
    (direction : SortDirection) (rest : List (OrderBy R)) : List R :=
  orderRows p (sortKeys model (orderWithId field direction rest)) (rows.filter test)

instance (p : Platform) (model : Model R) (field : String) (direction : SortDirection)
    (rest : List (OrderBy R)) : TransCmp (compareBy p model field direction rest) :=
  transCmp_compareRows _ _

theorem orderRows_congr {p : Platform} {keys keys' : List (SortKey R)}
    (h : compareRows p.collation keys = compareRows p.collation keys') (rows : List R) :
    orderRows p keys rows = orderRows p keys' rows := by
  unfold orderRows
  rw [h]

/-- A page has no more rows than were asked for. -/
theorem length_le_of_findMany {p : Platform} {model : Model R} {rows found : List R}
    {args : FindManyArgs R} {n : Nat} (hn : args.take = some n)
    (h : findMany p model rows args = .ok found) : found.length ≤ n := by
  unfold findMany at h
  cases hkeys : args.order.mapM (OrderBy.sortKey model) with
  | error e =>
    rw [hkeys] at h
    cases h
  | ok keys =>
    rw [hkeys] at h
    cases h
    rw [window, hn]
    exact List.length_take_le _ _

/-- A page ends with the cursor of its last row if it is full. -/
theorem pageOf_eq_cut {p : Platform} {model : Model R} {rows : List R} {test : R → Bool}
    {options : PaginationOptions R} {cursor : Option Cursor} {x : List R × Option Cursor}
    (h : pageOf p model rows test options cursor = .ok x) :
    x = cut options.limit (cursorOf model options) x.1 := by
  obtain ⟨page, hpage, rfl⟩ := map_eq_ok.mp h
  obtain ⟨q, hq, hpage⟩ := bind_eq_ok.mp hpage
  obtain ⟨data, hdata, hpage⟩ := bind_eq_ok.mp hpage
  cases hpage
  have hlen : data.length ≤ options.limit := length_le_of_findMany rfl hdata
  have htake : data.take options.limit = data := List.take_of_length_le hlen
  unfold cut
  rw [htake]
  rfl

section

variable {p : Platform} {model : Model R} {rows : List R} {test : R → Bool}
  {options : PaginationOptions R} {field : String} {direction : SortDirection}
  {rest : List (OrderBy R)} {column : Column R} {r : R}

/-! ## The rows in their order -/

theorem idKey_mem (field : String) (direction : SortDirection) (rest : List (OrderBy R)) :
    model.idKey direction ∈ sortKeys model (orderWithId field direction rest) := by
  rw [orderWithId, sortKeys_append, sortKeys_id]
  exact List.mem_append_right _ (List.mem_singleton_self _)

theorem perm_listed : (listed p model rows test field direction rest).Perm (rows.filter test) :=
  perm_orderRows _

theorem inOrder_listed : InOrder (compareBy p model field direction rest)
    (listed p model rows test field direction rest) := inOrder_sortBy

theorem nodup_ids_listed (hids : (rows.map model.id).Nodup) :
    ((listed p model rows test field direction rest).map model.id).Nodup :=
  (perm_listed.map model.id).nodup_iff.mpr (hids.sublist (List.filter_sublist.map _))

/-- No two of them compare alike. -/
theorem alone_listed (hids : (rows.map model.id).Nodup)
    (hr : r ∈ listed p model rows test field direction rest) :
    Alone (compareBy p model field direction rest)
      (listed p model rows test field direction rest) r :=
  alone_of_nodup_ids (nodup_ids_listed hids) (idKey_mem field direction rest) r hr

namespace SortsBy

/-! ## The entries of the query -/

theorem normalized (h : SortsBy model options field direction rest column) :
    normalizeOrderBy options = orderWithId field direction rest ∨
      normalizeOrderBy options = .column field direction :: rest ∧
        (OrderBy.column field direction :: rest).any OrderBy.isId = true := by
  unfold normalizeOrderBy
  rw [h.orderBy]
  dsimp only
  by_cases hadd : field ≠ "id" ∧ ¬ (rest.any OrderBy.isId) = true
  · rw [if_pos hadd]
    exact .inl rfl
  · rw [if_neg hadd]
    refine .inr ⟨rfl, ?_⟩
    rw [List.any_cons, Bool.or_eq_true]
    by_cases hfield : field = "id"
    · exact .inl (by simp [OrderBy.isId, hfield])
    · by_contra hnone
      exact hadd ⟨hfield, fun hany => hnone (.inr hany)⟩

theorem first_valid (h : SortsBy model options field direction rest column) :
    ∃ key, (OrderBy.column field direction).sortKey model = .ok key := by
  refine ⟨{ value := column.value, direction := direction }, ?_⟩
  unfold OrderBy.sortKey
  dsimp only
  rw [h.column]

theorem valid (h : SortsBy model options field direction rest column) :
    ∀ o ∈ normalizeOrderBy options, ∃ key, o.sortKey model = .ok key := by
  have hgiven : ∀ o ∈ OrderBy.column field direction :: rest,
      ∃ key, o.sortKey model = .ok key :=
    List.forall_mem_cons.mpr ⟨h.first_valid, h.rest⟩
  intro o ho
  rcases h.normalized with hn | ⟨hn, -⟩
  · rw [hn, orderWithId, List.mem_append, List.mem_singleton] at ho
    rcases ho with ho | rfl
    · exact hgiven o ho
    · exact ⟨model.idKey direction, rfl⟩
  · rw [hn] at ho
    exact hgiven o ho

/-- With the id at the end or elsewhere, the rows compare alike. -/
theorem compareRows_normalized (h : SortsBy model options field direction rest column) :
    compareRows p.collation (sortKeys model (normalizeOrderBy options)) =
      compareBy p model field direction rest := by
  unfold compareBy
  rcases h.normalized with hn | ⟨hn, hany⟩
  · rw [hn]
  · obtain ⟨direction', hkey⟩ := exists_idKey model hany
    rw [hn, orderWithId, sortKeys_append, sortKeys_id, compareRows_append_id hkey]

theorem extract (h : SortsBy model options field direction rest column) :
    extractSortCursorConfig (normalizeOrderBy options) =
      if field = "id" then none else some (field, direction) := by
  rcases h.normalized with hn | ⟨hn, -⟩
  · rw [hn]
    rfl
  · rw [hn]
    rfl

theorem keys_head (h : SortsBy model options field direction rest column) :
    compareBy p model field direction rest =
      compareLex (SortKey.compare p.collation ⟨column.value, direction⟩)
        (compareRows p.collation (sortKeys model (rest ++ [.column "id" direction]))) := by
  have hkeys : sortKeys model (orderWithId field direction rest) =
      ⟨column.value, direction⟩ :: sortKeys model (rest ++ [.column "id" direction]) := by
    unfold sortKeys orderWithId
    rw [List.cons_append, List.filterMap_cons]
    have hfirst : (OrderBy.column field direction : OrderBy R).sortKey model =
        .ok ⟨column.value, direction⟩ := by
      unfold OrderBy.sortKey
      dsimp only
      rw [h.column]
    rw [hfirst]
    rfl
  rw [compareBy, hkeys, compareRows_cons]

/-! ## The rows of a page -/

theorem orderBy_isEmpty (h : SortsBy model options field direction rest column) :
    (normalizeOrderBy options).isEmpty = false := by
  rcases h.normalized with hn | ⟨hn, -⟩
  · rw [hn]
    rfl
  · rw [hn]
    rfl

/-- A query without a cursor of its own. -/
theorem findMany_eq (h : SortsBy model options field direction rest column) (q : R → Bool) :
    findMany p model rows
        { test := q, orderBy := normalizeOrderBy options, take := some options.limit } =
      .ok ((listed p model rows q field direction rest).take options.limit) := by
  unfold findMany FindManyArgs.order
  simp only [h.orderBy_isEmpty, Bool.false_and, Bool.false_eq_true, if_false]
  rw [mapM_sortKey h.valid]
  show Except.ok (window 0 (some options.limit) (orderRows p _ _)) = _
  rw [orderRows_congr h.compareRows_normalized]
  rfl

/-- The page of a request, from its filter and the rows that are found. -/
theorem pageOf_of_data {cursor : Option Cursor} {q : R → Bool} {l : List R}
    (hq : buildCursorWhere p model test cursor
      (extractSortCursorConfig (normalizeOrderBy options)) = .ok q)
    (hdata : findMany p model rows (pageArgs { options with cursor := cursor } q) =
      .ok (l.take options.limit)) :
    pageOf p model rows test options cursor =
      .ok (cut options.limit (cursorOf model options) l) := by
  have hsame : normalizeOrderBy { options with cursor := cursor } = normalizeOrderBy options := rfl
  unfold pageOf paginateMany
  dsimp only
  rw [hsame, hq]
  show Except.map _ (findMany p model rows (pageArgs { options with cursor := cursor } q) >>= _) = _
  rw [hdata]
  rfl

/-- A request whose cursor is not one of the client's. -/
theorem pageOf_of_where (h : SortsBy model options field direction rest column)
    {cursor : Option Cursor} {q : R → Bool}
    (hq : buildCursorWhere p model test cursor
      (extractSortCursorConfig (normalizeOrderBy options)) = .ok q)
    (hcursor : cursor = none ∨ field ≠ "id") :
    pageOf p model rows test options cursor =
      .ok (cut options.limit (cursorOf model options)
        (listed p model rows q field direction rest)) := by
  have hargs : pageArgs { options with cursor := cursor } q =
      { test := q, orderBy := normalizeOrderBy options, take := some options.limit } := by
    have hnone : (if (extractSortCursorConfig (normalizeOrderBy options)).isNone then cursor
        else none) = none := by
      rcases hcursor with rfl | hfield
      · exact ite_self none
      · rw [h.extract, if_neg hfield]
        rfl
    have hsame :
        normalizeOrderBy { options with cursor := cursor } = normalizeOrderBy options := rfl
    unfold pageArgs
    dsimp only
    rw [hsame, hnone]
    rfl
  refine pageOf_of_data hq ?_
  rw [hargs]
  exact h.findMany_eq q

/-- **The first page** is the first rows of all. -/
theorem pageOf_none (h : SortsBy model options field direction rest column) :
    pageOf p model rows test options none =
      .ok (cut options.limit (cursorOf model options)
        (listed p model rows test field direction rest)) :=
  h.pageOf_of_where rfl (.inl rfl)

theorem column?_eq (h : SortsBy model options field direction rest column)
    (hfield : field ≠ "id") : model.column? field = some column := by
  have hscalar := h.column
  rwa [Model.scalar?, if_neg hfield] at hscalar

theorem cursorOf_eq (h : SortsBy model options field direction rest column)
    (hfield : field ≠ "id") : cursorOf model options r =
      .sort (model.id r) field (column.value r) := by
  unfold cursorOf
  rw [h.extract, if_neg hfield]
  show Cursor.sort (model.id r) field ((model.column? field).elim .null fun column =>
    column.value r) = _
  rw [h.column?_eq hfield]
  rfl

/-- The filter of the cursor of a row. -/
theorem where_of_cursor (h : SortsBy model options field direction rest column)
    (hfield : field ≠ "id") (p : Platform) (test : R → Bool) (r : R) :
    buildCursorWhere p model test (some (cursorOf model options r))
        (extractSortCursorConfig (normalizeOrderBy options)) =
      if column.value r = .null then .ok test
      else if (column.value r).kind? = some column.kind ∧ column.kind.ordered = true then
        .ok fun x => test x &&
          afterCursor p model column direction (model.id r) (column.value r) x
      else .error (.prisma "PrismaClientValidationError") := by
  have hdecode : decodeCursor (.sort (model.id r) field (column.value r)) field =
      some (model.id r, column.value r) := if_pos rfl
  rw [h.cursorOf_eq hfield, h.extract, if_neg hfield]
  unfold buildCursorWhere
  dsimp only
  rw [hdecode, h.column?_eq hfield]
  cases column.value r with
  | null => rfl
  | _ => rfl

/-- **The page after a row** has the first of the rows that the cursor's filter lets through. -/
theorem pageOf_after (h : SortsBy model options field direction rest column)
    (hids : (rows.map model.id).Nodup) (hfield : field ≠ "id")
    (hkind : (column.value r).kind? = some column.kind) (hordered : column.kind.ordered = true) :
    pageOf p model rows test options (some (cursorOf model options r)) =
      .ok (cut options.limit (cursorOf model options)
        ((listed p model rows test field direction rest).filter
          (afterCursor p model column direction (model.id r) (column.value r)))) := by
  have hnonnull : column.value r ≠ .null := ScalarValue.ne_null_of_kind hkind
  have hwhere := h.where_of_cursor hfield p test r
  rw [if_neg hnonnull, if_pos ⟨hkind, hordered⟩] at hwhere
  have hfilter : listed p model rows (fun x => test x &&
      afterCursor p model column direction (model.id r) (column.value r) x) field direction rest =
        (listed p model rows test field direction rest).filter
          (afterCursor p model column direction (model.id r) (column.value r)) := by
    have hids' : ((rows.filter test).map model.id).Nodup :=
      hids.sublist (List.filter_sublist.map _)
    unfold listed
    rw [← orderRows_filter hids' (idKey_mem field direction rest), List.filter_filter]
    congr 1
    exact List.filter_congr fun x _ => Bool.and_comm _ _
  rw [h.pageOf_of_where hwhere (.inr hfield), hfilter]

/-- The cursor of a null is dropped, and the first page comes again. -/
theorem pageOf_null (h : SortsBy model options field direction rest column)
    (hfield : field ≠ "id") (hnull : column.value r = .null) :
    pageOf p model rows test options (some (cursorOf model options r)) =
      pageOf p model rows test options none := by
  have hwhere := h.where_of_cursor hfield p test r
  rw [if_pos hnull] at hwhere
  rw [h.pageOf_of_where hwhere (.inr hfield), h.pageOf_none]

/-- The client refuses the cursor of a column without `lt` and `gt`. -/
theorem pageOf_unordered (h : SortsBy model options field direction rest column)
    (hfield : field ≠ "id") (hnonnull : column.value r ≠ .null)
    (hunordered : column.kind.ordered = false) :
    pageOf p model rows test options (some (cursorOf model options r)) =
      .error (.prisma "PrismaClientValidationError") := by
  have hwhere := h.where_of_cursor hfield p test r
  rw [if_neg hnonnull, if_neg (by rw [hunordered]; rintro ⟨-, ho⟩; cases ho)] at hwhere
  unfold pageOf paginateMany
  have hsame (cursor : Option Cursor) : normalizeOrderBy { options with cursor := cursor } =
      normalizeOrderBy options := rfl
  dsimp only
  rw [hsame, hwhere]
  rfl

theorem any_isId (h : SortsBy model options "id" direction rest column) :
    (normalizeOrderBy options).any OrderBy.isId = true := by
  rcases h.normalized with hn | ⟨hn, hany⟩
  · rw [hn]
    rfl
  · rw [hn]
    exact hany

/-- The id is among the keys, so the rows go on from the row that the cursor names. -/
theorem findMany_id (h : SortsBy model options "id" direction rest column)
    (hids : (rows.map model.id).Nodup) (hr : r ∈ rows) :
    findMany p model rows (pageArgs { options with cursor := some (.id (model.id r)) } test) =
      .ok ((((listed p model rows test "id" direction rest).filter fun x =>
        (compareBy p model "id" direction rest r x).isLE).drop 1).take options.limit) := by
  have hsame : normalizeOrderBy { options with cursor := some (.id (model.id r)) } =
      normalizeOrderBy options := rfl
  unfold findMany pageArgs FindManyArgs.order
  dsimp only
  rw [hsame, h.extract]
  simp only [h.orderBy_isEmpty, Bool.false_and, Bool.false_eq_true, if_false, if_true,
    Option.isNone_none, Option.isSome_some]
  rw [mapM_sortKey h.valid]
  show Except.ok (window 1 (some options.limit) (fromCursor p model _ _ _ rows
    (orderRows p _ (rows.filter test)))) = _
  rw [orderRows_congr h.compareRows_normalized, h.any_isId]
  unfold fromCursor
  rw [if_pos rfl, find?_of_mem hids hr]
  dsimp only
  rw [h.compareRows_normalized]
  rfl

/-- **The page after a row of a query that orders by the id** goes on behind its place. -/
theorem pageOf_id (h : SortsBy model options "id" direction rest column)
    (hids : (rows.map model.id).Nodup) {i : Nat}
    (hr : (listed p model rows test "id" direction rest)[i]? = some r) :
    pageOf p model rows test options (some (cursorOf model options r)) =
      .ok (cut options.limit (cursorOf model options)
        ((listed p model rows test "id" direction rest).drop (i + 1))) := by
  have hmem : r ∈ rows := List.mem_of_mem_filter (perm_listed.subset (List.mem_of_getElem? hr))
  have hdrop : (listed p model rows test "id" direction rest).filter (fun x =>
      (compareBy p model "id" direction rest r x).isLE) =
        (listed p model rows test "id" direction rest).drop i :=
    (inOrder_listed.drop_eq_filter_le (nodup_ids_listed hids).of_map hr
      (alone_listed hids (List.mem_of_getElem? hr))).symm
  have hcursor : cursorOf model options r = .id (model.id r) := by
    unfold cursorOf
    rw [h.extract]
    rfl
  have hwhere : buildCursorWhere p model test (some (.id (model.id r)))
      (extractSortCursorConfig (normalizeOrderBy options)) = .ok test := by
    rw [h.extract]
    rfl
  rw [hcursor]
  refine pageOf_of_data hwhere ?_
  rw [h.findMany_id hids hmem, hdrop, List.drop_drop]

end SortsBy

/-! ## The filter of a cursor -/

/-- The id of `x` is behind that of `r`, in the direction of the query. -/
def IdAfter (model : Model R) (direction : SortDirection) (r x : R) : Prop :=
  match direction with
  | .asc => model.id r < model.id x
  | .desc => model.id x < model.id r

instance (model : Model R) (direction : SortDirection) (r x : R) :
    Decidable (IdAfter model direction r x) := by
  unfold IdAfter
  split <;> infer_instance

/-- By the first column, and by the id among rows of one value. -/
def lexBy (p : Platform) (model : Model R) (column : Column R) (direction : SortDirection) :
    R → R → Ordering :=
  compareLex (SortKey.compare p.collation ⟨column.value, direction⟩)
    ((model.idKey direction).compare p.collation)

instance (p : Platform) (model : Model R) (column : Column R) (direction : SortDirection) :
    TransCmp (lexBy p model column direction) :=
  inferInstanceAs (TransCmp (compareLex _ _))

theorem idKey_compare_lt {x : R} :
    (model.idKey direction).compare p.collation r x = .lt ↔ IdAfter model direction r x := by
  cases direction with
  | asc => exact compare_lt_iff_lt (a := model.id r) (b := model.id x)
  | desc => exact compare_lt_iff_lt (a := model.id x) (b := model.id r)

/-- **The filter of a cursor** lets through what is behind it by the first column and the id, and no
null. -/
theorem afterCursor_eq (x : R) :
    afterCursor p model column direction (model.id r) (column.value r) x =
      (decide (column.value x ≠ .null) && lexBy p model column direction r x == .lt) := by
  have hlex : lexBy p model column direction r x =
      (SortKey.compare p.collation ⟨column.value, direction⟩ r x).then
        ((model.idKey direction).compare p.collation r x) := rfl
  have hid : ((model.idKey direction).compare p.collation r x == .lt) =
      decide (IdAfter model direction r x) := by
    rw [Bool.eq_iff_iff, beq_iff_eq, decide_eq_true_iff]
    exact idKey_compare_lt
  unfold afterCursor
  dsimp only
  congr 1
  rw [hlex]
  cases direction with
  | asc =>
    have hswap : ScalarValue.compare p.collation (column.value x) (column.value r) =
        (ScalarValue.compare p.collation (column.value r) (column.value x)).swap :=
      OrientedCmp.eq_swap
    rw [SortKey.compare_asc, hswap]
    cases ScalarValue.compare p.collation (column.value r) (column.value x) with
    | lt => rfl
    | eq => exact hid.symm
    | gt => rfl
  | desc =>
    rw [SortKey.compare_desc]
    cases ScalarValue.compare p.collation (column.value x) (column.value r) with
    | lt => rfl
    | eq => exact hid.symm
    | gt => rfl

/-- A cursor lets through no row before one that it lets through. -/
theorem afterCursor_trans {a b d : R}
    (hab : afterCursor p model column direction (model.id a) (column.value a) b = true)
    (hbd : afterCursor p model column direction (model.id b) (column.value b) d = true) :
    afterCursor p model column direction (model.id a) (column.value a) d = true := by
  rw [afterCursor_eq, Bool.and_eq_true, beq_iff_eq] at *
  exact ⟨hbd.1, TransCmp.lt_trans hab.2 hbd.2⟩

end

end LedgerLight
