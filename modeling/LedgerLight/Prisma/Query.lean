import LedgerLight.Common.Platform
import LedgerLight.Domain.Backend
import LedgerLight.Infra.Rows

/-!
# Prisma's `findMany`

The rows of a model that pass a test, ordered, from a cursor on, and so many of them. A row here is
a row with its relations, as `include` asks for them.

The cursor of `findMany` is an id, and its row is looked up among all rows of the model, not among
those that pass the test.
-/

namespace LedgerLight

open Infra

variable {R : Type}

/-! ## Steps that may fail -/

section

variable {α β : Type} {x : Except BackendError α}

theorem bind_eq_ok {f : α → Except BackendError β} {b : β} :
    (x >>= f) = .ok b ↔ ∃ a, x = .ok a ∧ f a = .ok b := by
  cases x with
  | error e => exact ⟨fun h => (by cases h), fun ⟨_, h, _⟩ => (by cases h)⟩
  | ok a => exact ⟨fun h => ⟨a, rfl, h⟩, fun ⟨_, rfl, h⟩ => h⟩

theorem map_eq_ok {f : α → β} {b : β} : x.map f = .ok b ↔ ∃ a, x = .ok a ∧ f a = b := by
  cases x with
  | error e => exact ⟨fun h => (by cases h), fun ⟨_, h, _⟩ => (by cases h)⟩
  | ok a => exact ⟨fun h => ⟨a, rfl, Except.ok.inj h⟩, fun ⟨_, rfl, h⟩ => congrArg Except.ok h⟩

/-- Two programs that go on alike after a step that succeeds. -/
theorem bind_congr_ok {f g : α → Except BackendError β} (h : ∀ a, x = .ok a → f a = g a) :
    (x >>= f) = x >>= g := by
  cases x with
  | error e => rfl
  | ok a => exact h a rfl

end

/-! ## Values of scalar columns -/

inductive ScalarKind where
  | bool | int | text | id | date | enum
deriving DecidableEq, Repr

inductive ScalarValue where
  | null
  | bool (b : Bool)
  | int (n : Int)
  | text (s : String)
  | id (i : Id)
  | date (d : Date)
  /-- The value at a place of the declaration of its type. -/
  | enum (place : Nat)
deriving DecidableEq, Repr

namespace ScalarValue

def kind? : ScalarValue → Option ScalarKind
  | null => none
  | bool _ => some .bool
  | int _ => some .int
  | text _ => some .text
  | id _ => some .id
  | date _ => some .date
  | enum _ => some .enum

def ofText? (s : Option String) : ScalarValue := s.elim null text

def ofId? (i : Option Id) : ScalarValue := i.elim null id

def ofDate? (d : Option Date) : ScalarValue := d.elim null date

/-- The kinds in some order, and null after all of them. -/
def place : ScalarValue → Nat
  | bool _ => 0
  | int _ => 1
  | text _ => 2
  | id _ => 3
  | date _ => 4
  | enum _ => 5
  | null => 6

/-- Ascending, with nulls last. The values of one column are of one kind. -/
def compare (c : Collation) : ScalarValue → ScalarValue → Ordering
  | bool a, bool b => Ord.compare a b
  | int a, int b => Ord.compare a b
  | text a, text b => c.compare a b
  | id a, id b => Ord.compare a b
  | date a, date b => Ord.compare a b
  | enum a, enum b => Ord.compare a b
  | a, b => Ord.compare a.place b.place

end ScalarValue

/-- The filters of a kind have `lt` and `gt`. -/
def ScalarKind.ordered : ScalarKind → Bool
  | bool | enum => false
  | int | text | id | date => true

/-! ## Models -/

structure Column (R : Type) where
  kind : ScalarKind
  value : R → ScalarValue

/-- What queries name of a model: the id of a row and its scalar columns. -/
structure Model (R : Type) where
  id : R → Id
  /-- The other scalar columns. -/
  column? : String → Option (Column R)

def Model.idColumn (model : Model R) : Column R :=
  { kind := .id, value := fun r => .id (model.id r) }

def Model.scalar? (model : Model R) (field : String) : Option (Column R) :=
  if field = "id" then some model.idColumn else model.column? field

/-! ## Orders -/

inductive SortDirection where
  | asc | desc
deriving DecidableEq, Repr

/-- An entry of `orderBy`: a column of the model, or one of a relation of it. -/
inductive OrderBy (R : Type) where
  | column (field : String) (direction : SortDirection)
  | relation (value : R → ScalarValue) (direction : SortDirection)

/-- How an entry compares two rows. -/
structure SortKey (R : Type) where
  value : R → ScalarValue
  direction : SortDirection

def SortKey.compare (c : Collation) (key : SortKey R) (r r' : R) : Ordering :=
  match key.direction with
  | .asc => ScalarValue.compare c (key.value r) (key.value r')
  | .desc => ScalarValue.compare c (key.value r') (key.value r)

def compareRows (c : Collation) (keys : List (SortKey R)) (r r' : R) : Ordering :=
  keys.foldr (fun key rest => (key.compare c r r').then rest) .eq

/-- The client refuses a field that is not a scalar column. -/
def OrderBy.sortKey (model : Model R) : OrderBy R → Except BackendError (SortKey R)
  | .column field direction =>
    match model.scalar? field with
    | some c => .ok { value := c.value, direction := direction }
    | none => .error (.prisma "PrismaClientValidationError")
  | .relation value direction => .ok { value := value, direction := direction }

/-- The entry orders by the id. -/
def OrderBy.isId : OrderBy R → Bool
  | .column field _ => field == "id"
  | .relation _ _ => false

/-! ## Cursors -/

/-- The text of a cursor: an id, the base64 of the JSON of a sort value, or something else. -/
inductive Cursor where
  | id (id : Id)
  | sort (id : Id) (sortField : String) (sortValue : ScalarValue)
  | other (text : String)
deriving DecidableEq, Repr

/-- The cursor, as a text, is the id. -/
def Cursor.isId (cursor : Cursor) (i : Id) : Bool := cursor == .id i

/-! ## Queries -/

structure FindManyArgs (R : Type) where
  test : R → Bool
  orderBy : List (OrderBy R) := []
  cursor : Option Cursor := none
  skip : Nat := 0
  take : Option Nat := none

/-- The rows in their order. -/
def orderRows (p : Platform) (keys : List (SortKey R)) (rows : List R) : List R :=
  (p.arrange rows).insertionSort fun r r' => (compareRows p.collation keys r r').isLE

/-- The rows from the cursor's row on. Where an id is among the keys, these are the rows that do not
come before it, wherever it is found; else it is searched among the ordered rows. -/
def fromCursor (p : Platform) (model : Model R) (keys : List (SortKey R)) (byId : Bool)
    (cursor : Cursor) (all ordered : List R) : List R :=
  if byId then
    match all.find? fun r => cursor.isId (model.id r) with
    | none => []
    | some r => ordered.filter fun r' => (compareRows p.collation keys r r').isLE
  else ordered.dropWhile fun r => !cursor.isId (model.id r)

/-- Without `orderBy`, a page is ordered by the id. -/
def FindManyArgs.order (args : FindManyArgs R) : List (OrderBy R) :=
  if args.orderBy.isEmpty && (args.take.isSome || args.cursor.isSome) then [.column "id" .asc]
  else args.orderBy

/-- `skip` and `take`. -/
def window (skip : Nat) (take : Option Nat) (rows : List R) : List R :=
  take.elim (rows.drop skip) (rows.drop skip).take

def findMany (p : Platform) (model : Model R) (rows : List R) (args : FindManyArgs R) :
    Except BackendError (List R) := do
  let keys ← args.order.mapM (OrderBy.sortKey model)
  let ordered := orderRows p keys (rows.filter args.test)
  let onward :=
    match args.cursor with
    | none => ordered
    | some cursor => fromCursor p model keys (args.order.any OrderBy.isId) cursor rows ordered
  pure (window args.skip args.take onward)

/-! ## What a query sees -/

section

variable {p : Platform} {model : Model R} {rows rows' : List R} {args : FindManyArgs R}

theorem perm_orderRows (keys : List (SortKey R)) : (orderRows p keys rows).Perm rows :=
  (List.perm_insertionSort _ _).trans (p.arrange_perm rows)

theorem fromCursor_sublist {keys : List (SortKey R)} {byId : Bool} {cursor : Cursor}
    {ordered : List R} : (fromCursor p model keys byId cursor rows ordered).Sublist ordered := by
  unfold fromCursor
  split
  · split
    · exact List.nil_sublist _
    · exact List.filter_sublist
  · exact List.dropWhile_sublist _

theorem window_sublist {skip : Nat} {take : Option Nat} : (window skip take rows).Sublist rows := by
  unfold window
  cases take with
  | none => exact List.drop_sublist _ _
  | some n => exact (List.take_sublist _ _).trans (List.drop_sublist _ _)

/-- What a query returns is in the table and passes the test. -/
theorem mem_of_findMany {found : List R} (h : findMany p model rows args = .ok found) {r : R}
    (hr : r ∈ found) : r ∈ rows.filter args.test := by
  unfold findMany at h
  cases hkeys : args.order.mapM (OrderBy.sortKey model) with
  | error e =>
    rw [hkeys] at h
    cases h
  | ok keys =>
    rw [hkeys] at h
    cases h
    have honward := window_sublist.subset hr
    refine (perm_orderRows (p := p) keys).subset ?_
    split at honward
    · exact honward
    · exact fromCursor_sublist.subset honward

/-- A query sees of a table the rows that pass its test, and the row of its cursor. -/
theorem findMany_congr (h : rows.filter args.test = rows'.filter args.test)
    (hcursor : ∀ cursor, args.cursor = some cursor →
      (rows.find? fun r => cursor.isId (model.id r)) =
        rows'.find? fun r => cursor.isId (model.id r)) :
    findMany p model rows args = findMany p model rows' args := by
  unfold findMany
  rw [h]
  cases hc : args.cursor with
  | none => rfl
  | some cursor =>
    simp only [fromCursor]
    rw [hcursor cursor hc]

end

end LedgerLight
