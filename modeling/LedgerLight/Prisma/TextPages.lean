import LedgerLight.Inventory.Reads
import LedgerLight.Order.Reads
import LedgerLight.Prisma.CursorText
import LedgerLight.Prisma.Pages

/-!
# `paginateMany` with the texts of cursors

The filter and the next cursor as the service builds them, from the text that the client sends and for
the row that comes last.

The columns of a model are `Typed`, and the dates of its rows are `Timely`: the database holds no
others.
-/

namespace LedgerLight.CursorText

open Infra

variable {R : Type}

/-- How the client of the database writes and reads ids, and the names of enumerations. -/
structure Wire (p : Platform) where
  idOf? : String → Option Id
  idOf?_idText : ∀ i, idOf? (p.idText i) = some i
  idText_ne : ∀ i, p.idText i ≠ ""
  enumText : Nat → String

namespace Wire

variable {p : Platform} (w : Wire p)

/-- The value of a column, as an object of the language. -/
def value : ScalarValue → SortValue
  | .null => .json .null
  | .bool b => .json (.bool b)
  | .int n => .json (.num { mantissa := n })
  | .text s => .json (quotes s)
  | .id i => .json (quotes (p.idText i))
  | .date d => .date (d : Int)
  | .enum place => .json (quotes (w.enumText place))

def date? (d : Instant) : Option ScalarValue := if 0 ≤ d then some (.date d.toNat) else none

/-- A value in the filter of a column, read as one of its kind. -/
def scalar? : ScalarKind → SortValue → Option ScalarValue
  | .bool, .json (.bool b) => some (.bool b)
  | .int, .json (.num n) => n.toInt?.map .int
  | .text, .json (.str s) => some (.text (String.ofList s))
  | .id, .json (.str s) => (w.idOf? (String.ofList s)).map .id
  | .date, .date d => date? d
  | .date, .json (.str s) => (Instant.ofISOString s).bind date?
  | _, _ => none

end Wire

/-! ## Pages -/

section

variable {p : Platform} (w : Wire p) (model : Model R)

/-- The value is `undefined` or null. -/
def SortValue.isNothing : SortValue → Bool
  | .undefined | .json .null => true
  | _ => false

def buildCursorWhere (test : R → Bool) (cursor : Option String)
    (sort : Option (String × SortDirection)) : Except BackendError (R → Bool) :=
  match nonempty? cursor, sort with
  | some cursor, some (sortField, sortDirection) =>
    let decoded := decodeCursor p cursor (some sortField)
    -- a date that is invalid is a value
    if (decoded.sortValue.map SortValue.isNothing).getD false = true then .ok test
    else
      match model.column? sortField with
      | none => .error (.prisma "PrismaClientValidationError")
      | some column =>
        match decoded.sortValue.bind (w.scalar? column.kind) with
        | none => .error (.prisma "PrismaClientValidationError")
        | some value =>
          if column.kind.ordered = true then
            match w.idOf? decoded.id with
            | none => .error (.prisma "PrismaClientKnownRequestError")
            | some id =>
              .ok fun r => test r && afterCursor p model column sortDirection id value r
          else .error (.prisma "PrismaClientValidationError")
  | _, _ => .ok test

/-- `lastRecord[sortField]`. -/
def lastValue (sort : Option (String × SortDirection)) (r : R) : SortValue :=
  match sort with
  | none => .undefined
  | some (field, _) => (model.column? field).elim .undefined fun column => w.value (column.value r)

def nextCursor (limit : Nat) (sort : Option (String × SortDirection)) (data : List R) :
    Option String :=
  if data.length = limit then
    data.getLast?.map fun r =>
      encodeCursor (p.idText (model.id r)) (sort.map Prod.fst) (lastValue w model sort r)
  else none

/-- `cursor: { id: cursor }`. -/
def idCursor (cursor : String) : Cursor := (w.idOf? cursor).elim (.other cursor) .id

def pageArgs (options : PaginationOptions R) (cursor : Option String) (cursorTest : R → Bool) :
    FindManyArgs R :=
  let orderBy := normalizeOrderBy options
  let cursor :=
    if (extractSortCursorConfig orderBy).isNone then (nonempty? cursor).map (idCursor w) else none
  { test := cursorTest, orderBy := orderBy, cursor := cursor
    skip := if cursor.isSome then 1 else 0, take := some options.limit }

/-- The page of a request, and the cursor that it ends with. -/
def paginateMany (rows : List R) (test : R → Bool) (options : PaginationOptions R)
    (cursor : Option String) : Except BackendError (List R × Option String) := do
  let sort := extractSortCursorConfig (normalizeOrderBy options)
  let cursorTest ← buildCursorWhere w model test cursor sort
  let data ← findMany p model rows (pageArgs w options cursor cursorTest)
  pure (data, nextCursor w model options.limit sort data)

end

/-- The text of a cursor. -/
def toText {p : Platform} (w : Wire p) : Cursor → String
  | .id i => p.idText i
  | .sort i sortField sortValue => encodeCursor (p.idText i) (some sortField) (w.value sortValue)
  | .other text => text

end CursorText

/-! ## The values of rows -/

/-- The columns have names, and values of their kinds. -/
structure Model.Typed {R : Type} (model : Model R) : Prop where
  named : model.column? "" = none
  kinds : ∀ {field column}, model.column? field = some column → ∀ r,
    column.value r = .null ∨ (column.value r).kind? = some column.kind

/-- The dates of a row are such that a `Date` object holds. -/
def Model.Timely {R : Type} (model : Model R) (r : R) : Prop :=
  ∀ field column d, model.column? field = some column → column.value r = .date d →
    Instant.IsTime (d : Int)

theorem kind?_ofId? (i : Option Id) :
    ScalarValue.ofId? i = .null ∨ (ScalarValue.ofId? i).kind? = some .id := by
  cases i with
  | none => exact Or.inl rfl
  | some i => exact Or.inr rfl

theorem kind?_ofDate? (d : Option Date) :
    ScalarValue.ofDate? d = .null ∨ (ScalarValue.ofDate? d).kind? = some .date := by
  cases d with
  | none => exact Or.inl rfl
  | some d => exact Or.inr rfl

theorem kind?_ofText? (s : Option String) :
    ScalarValue.ofText? s = .null ∨ (ScalarValue.ofText? s).kind? = some .text := by
  cases s with
  | none => exact Or.inl rfl
  | some s => exact Or.inr rfl

theorem orderModel_typed : orderModel.Typed where
  named := rfl
  kinds {field column} h r := by
    unfold orderModel at h
    dsimp only at h
    split at h <;> cases h
    all_goals first
      | exact Or.inr rfl
      | exact kind?_ofId? _
      | exact kind?_ofDate? _

theorem levelModel_typed : levelModel.Typed where
  named := rfl
  kinds {field column} h r := by
    unfold levelModel at h
    dsimp only at h
    split at h <;> cases h
    all_goals exact Or.inr rfl

theorem locationModel_typed {R : Type} (row : R → Id × LocationRecord) :
    (locationModel row).Typed where
  named := rfl
  kinds {field column} h r := by
    unfold locationModel at h
    dsimp only at h
    split at h <;> cases h
    all_goals first
      | exact Or.inr rfl
      | exact kind?_ofText? _

end LedgerLight
