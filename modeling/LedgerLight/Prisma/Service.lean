import LedgerLight.Prisma.Query

/-!
# `PrismaService.paginateMany`

`infra/prisma/prisma.service.ts`. A page ends with a cursor if it is full: the id of its last row,
or with a sort column the id and the value of that column.

A limit is a whole number here: the client refuses `take` with another one.

* `paginateMany_congr` : a page depends on the rows that pass the test and on the row of its cursor.
* `Returned` : the cursors that the pages of a query return.
-/

namespace LedgerLight

open Infra

variable {R : Type}

structure PaginationOptions (R : Type) where
  limit : Nat
  cursor : Option Cursor := none
  orderBy : Option (List (OrderBy R)) := none
  sortBy : Option String := none
  sortOrder : Option SortDirection := none

/-- A text that is given and not empty. -/
def nonempty? (s : Option String) : Option String := s.filter (· ≠ "")

def buildOrderBy (sortBy : Option String) (sortOrder : Option SortDirection) :
    Option (List (OrderBy R)) :=
  (nonempty? sortBy).map fun field => [.column field (sortOrder.getD .desc)]

/-- Rows that a column leaves together are ordered by the id. -/
def normalizeOrderBy (options : PaginationOptions R) : List (OrderBy R) :=
  match options.orderBy <|> buildOrderBy options.sortBy options.sortOrder with
  | some (.column field direction :: rest) =>
    if field ≠ "id" ∧ ¬ (rest.any OrderBy.isId) = true then
      .column field direction :: rest ++ [.column "id" direction]
    else .column field direction :: rest
  | some normalized => normalized
  | none => []

def extractSortCursorConfig (orderBy : List (OrderBy R)) : Option (String × SortDirection) :=
  match orderBy with
  | .column field direction :: _ => if field = "id" then none else some (field, direction)
  | _ => none

def encodeCursor (id : Id) (sort : Option (String × ScalarValue)) : Cursor :=
  match sort with
  | none => .id id
  | some (sortField, sortValue) => .sort id sortField sortValue

/-- The id and the sort value, if the cursor is one for the sort column. -/
def decodeCursor (cursor : Cursor) (sortField : String) : Option (Id × ScalarValue) :=
  match cursor with
  | .sort id field sortValue => if field = sortField then some (id, sortValue) else none
  | _ => none

/-- The row comes after the cursor: by the column, or by the id among rows of its value. -/
def afterCursor (p : Platform) (model : Model R) (column : Column R) (direction : SortDirection)
    (id : Id) (sortValue : ScalarValue) (r : R) : Bool :=
  let value := column.value r
  value ≠ .null &&
    match direction, ScalarValue.compare p.collation value sortValue with
    | .asc, .gt | .desc, .lt => true
    | .asc, .eq => id < model.id r
    | .desc, .eq => model.id r < id
    | _, _ => false

/-- Enumerations have no `lt` and `gt`, and a value must be of the kind of its column. -/
def buildCursorWhere (p : Platform) (model : Model R) (test : R → Bool) (cursor : Option Cursor)
    (sort : Option (String × SortDirection)) : Except BackendError (R → Bool) :=
  match cursor, sort with
  | some cursor, some (sortField, sortDirection) =>
    match decodeCursor cursor sortField, model.column? sortField with
    | none, _ | some (_, .null), _ => .ok test
    | some (id, sortValue), some column =>
      if sortValue.kind? = some column.kind ∧ column.kind.ordered = true then
        .ok fun r => test r && afterCursor p model column sortDirection id sortValue r
      else .error (.prisma "PrismaClientValidationError")
    | some _, none => .error (.prisma "PrismaClientValidationError")
  | _, _ => .ok test

structure Paginated (R : Type) where
  data : List R
  total : Nat
  nextCursor : Option Cursor

/-- The value of a column in a row, for the cursor. -/
def Model.sortValue (model : Model R) (sort : Option (String × SortDirection)) (r : R) :
    Option (String × ScalarValue) :=
  sort.map fun s => (s.1, (model.column? s.1).elim .null fun column => column.value r)

def nextCursor (model : Model R) (limit : Nat) (sort : Option (String × SortDirection))
    (data : List R) : Option Cursor :=
  if data.length = limit then
    data.getLast?.map fun r => encodeCursor (model.id r) (model.sortValue sort r)
  else none

/-- Without a sort column, the cursor is the client's, and its row is skipped. -/
def pageArgs (options : PaginationOptions R) (cursorTest : R → Bool) : FindManyArgs R :=
  let orderBy := normalizeOrderBy options
  let cursor := if (extractSortCursorConfig orderBy).isNone then options.cursor else none
  { test := cursorTest, orderBy := orderBy, cursor := cursor
    skip := if cursor.isSome then 1 else 0, take := some options.limit }

def paginateMany (p : Platform) (model : Model R) (rows : List R) (test : R → Bool)
    (options : PaginationOptions R) : Except BackendError (Paginated R) := do
  let sort := extractSortCursorConfig (normalizeOrderBy options)
  let cursorTest ← buildCursorWhere p model test options.cursor sort
  let data ← findMany p model rows (pageArgs options cursorTest)
  pure { data := data, total := rows.countP test
         nextCursor := nextCursor model options.limit sort data }

/-- The cursors that the pages of a query return: of the first page, and of the page after a cursor
that was returned. -/
inductive Returned (next : Option Cursor → Except BackendError (Option Cursor)) : Cursor → Prop
  | first {cursor : Cursor} (h : next none = .ok (some cursor)) : Returned next cursor
  | later {cursor cursor' : Cursor} (h : Returned next cursor)
      (h' : next (some cursor) = .ok (some cursor')) : Returned next cursor'

theorem Returned.mono {next next' : Option Cursor → Except BackendError (Option Cursor)}
    (hnext : ∀ c c', next c = .ok (some c') → next' c = .ok (some c')) {cursor : Cursor}
    (h : Returned next cursor) : Returned next' cursor := by
  induction h with
  | first h => exact .first (hnext _ _ h)
  | later _ h' ih => exact .later ih (hnext _ _ h')

/-! ## What a page sees -/

section

variable {p : Platform} {model : Model R} {rows rows' : List R} {test : R → Bool}
  {options : PaginationOptions R} {cursor : Cursor}

theorem buildCursorWhere_ok {sort : Option (String × SortDirection)} {cursor : Option Cursor}
    {q : R → Bool} (h : buildCursorWhere p model test cursor sort = .ok q) {r : R}
    (hq : q r = true) : test r = true := by
  unfold buildCursorWhere at h
  split at h
  · split at h
    · cases h
      exact hq
    · cases h
      exact hq
    · split at h
      · cases h
        exact (Bool.and_eq_true _ _ ▸ hq).1
      · cases h
    · cases h
  · cases h
    exact hq

/-- A narrower test. -/
theorem filter_congr_of_imp {q : R → Bool} (hq : ∀ r, q r = true → test r = true)
    (h : rows.filter test = rows'.filter test) : rows.filter q = rows'.filter q := by
  have hboth (l : List R) : (l.filter test).filter q = l.filter q := by
    rw [List.filter_filter]
    refine List.filter_congr fun r _ => ?_
    cases hr : q r with
    | false => rfl
    | true => rw [hq r hr]; rfl
  rw [← hboth rows, h, hboth]

/-- **A page depends on the rows that pass the test**, and on the row of its cursor if it has no
sort column. -/
theorem paginateMany_congr (h : rows.filter test = rows'.filter test)
    (hcursor : ∀ cursor, options.cursor = some cursor →
      extractSortCursorConfig (normalizeOrderBy options) = none →
      (rows.find? fun r => cursor.isId (model.id r)) =
        rows'.find? fun r => cursor.isId (model.id r)) :
    paginateMany p model rows test options = paginateMany p model rows' test options := by
  unfold paginateMany
  rw [List.countP_eq_length_filter, List.countP_eq_length_filter, h]
  refine bind_congr_ok fun q hq => ?_
  have hsame := filter_congr_of_imp (fun r => buildCursorWhere_ok hq) h
  have hpage : findMany p model rows (pageArgs options q) =
      findMany p model rows' (pageArgs options q) := by
    refine findMany_congr hsame fun cursor hc => ?_
    unfold pageArgs at hc
    dsimp only at hc
    split at hc
    · next hnone => exact hcursor cursor hc (Option.isNone_iff_eq_none.mp hnone)
    · cases hc
  rw [hpage]

/-- The next cursor is that of a row that passes the test. -/
theorem row_of_nextCursor {page : Paginated R}
    (h : paginateMany p model rows test options = .ok page)
    (hnext : page.nextCursor = some cursor) :
    ∃ r ∈ rows.filter test, cursor = encodeCursor (model.id r)
      (model.sortValue (extractSortCursorConfig (normalizeOrderBy options)) r) := by
  obtain ⟨q, hq, h⟩ := bind_eq_ok.mp h
  obtain ⟨data, hdata, h⟩ := bind_eq_ok.mp h
  cases h
  unfold nextCursor at hnext
  split at hnext
  · obtain ⟨r, hr, rfl⟩ := Option.map_eq_some_iff.mp hnext
    have hmem := mem_of_findMany hdata (List.mem_of_getLast? hr)
    obtain ⟨hrow, hpass⟩ := List.mem_filter.mp hmem
    exact ⟨r, List.mem_filter.mpr ⟨hrow, buildCursorWhere_ok hq hpass⟩, rfl⟩
  · cases hnext

/-- A cursor without a sort column that was returned is the id of a row that passes the test. -/
theorem row_of_returned
    (h : Returned (fun c => (paginateMany p model rows test { options with cursor := c }).map
      Paginated.nextCursor) cursor)
    (hsort : extractSortCursorConfig (normalizeOrderBy options) = none) :
    ∃ r ∈ rows.filter test, cursor = .id (model.id r) := by
  have hpage (c : Option Cursor) {cursor' : Cursor}
      (hc : (paginateMany p model rows test { options with cursor := c }).map
        Paginated.nextCursor = .ok (some cursor')) :
      ∃ r ∈ rows.filter test, cursor' = .id (model.id r) := by
    obtain ⟨page, hpage, hnext⟩ := map_eq_ok.mp hc
    obtain ⟨r, hr, he⟩ := row_of_nextCursor hpage hnext
    refine ⟨r, hr, he.trans ?_⟩
    show encodeCursor _ (model.sortValue (extractSortCursorConfig (normalizeOrderBy options)) r) = _
    rw [hsort]
    rfl
  cases h with
  | first h => exact hpage none h
  | later _ h => exact hpage _ h

theorem find?_of_mem (hids : (rows.map model.id).Nodup) {r : R} (hr : r ∈ rows) :
    (rows.find? fun r' => (Cursor.id (model.id r)).isId (model.id r')) = some r := by
  induction rows with
  | nil => cases hr
  | cons r' rows ih =>
    obtain ⟨hnew, hrest⟩ := List.nodup_cons.mp hids
    rcases List.mem_cons.mp hr with rfl | hr
    · rw [List.find?_cons_of_pos (by simp [Cursor.isId])]
    · have hne : model.id r ≠ model.id r' :=
        fun he => hnew (he ▸ List.mem_map_of_mem hr)
      rw [List.find?_cons_of_neg (by simp [Cursor.isId, hne])]
      exact ih hrest hr

/-- **A page after a cursor that was returned** depends on the rows that pass the test. -/
theorem paginateMany_congr_of_returned (hids : (rows.map model.id).Nodup)
    (hids' : (rows'.map model.id).Nodup) (h : rows.filter test = rows'.filter test)
    (hcursor : ∀ cursor, options.cursor = some cursor →
      Returned (fun c => (paginateMany p model rows test { options with cursor := c }).map
        Paginated.nextCursor) cursor) :
    paginateMany p model rows test options = paginateMany p model rows' test options := by
  refine paginateMany_congr h fun cursor hc hsort => ?_
  obtain ⟨r, hr, rfl⟩ := row_of_returned (hcursor cursor hc) hsort
  have hr' := hr
  rw [h] at hr'
  rw [find?_of_mem hids (List.mem_filter.mp hr).1, find?_of_mem hids' (List.mem_filter.mp hr').1]

end

end LedgerLight
