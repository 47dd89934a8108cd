import LedgerLight.Common.IsoDate
import LedgerLight.Infra.Base64
import LedgerLight.Infra.Json
import LedgerLight.Infra.Utf8
import LedgerLight.Prisma.Service

/-!
# The texts of cursors

`encodeCursor`, `decodeCursor` and the queries of `paginateMany` on the texts that clients send: with a
sort column, a cursor is the base64 of the JSON of an id and a sort value.

* `decodeCursor_encodeCursor` : a cursor of the sort column is read back as it was written.
* `decodeCursor_encodeCursor_ne` : under another sort column it is read as an id.
-/

namespace LedgerLight.CursorText

open Infra

/-! ## Sort values -/

/-- A value of the language that a row has in a column, or that a cursor brings. -/
inductive SortValue where
  | undefined
  | date (d : Instant)
  | json (j : Json)

def quotes (text : String) : Json := .str text.toList

/-- `typeof`. -/
def typeOf : Json → String
  | .bool _ => "boolean"
  | .num _ => "number"
  | .str _ => "string"
  | .null | .arr _ | .obj _ => "object"

/-- A member that is `undefined` is not written. -/
def SortValue.toJson : SortValue → Json
  | .undefined => .obj [("type".toList, quotes "undefined")]
  | .date d => .obj [("type".toList, quotes "date"), ("value".toList, .str d.toISOString)]
  | .json j => .obj [("type".toList, quotes (typeOf j)), ("value".toList, j)]

/-! ## Cursors -/

def sortCursorVersion : Int := 1

def cursorJson (id sortField : String) (sortValue : SortValue) : Json :=
  .obj [("v".toList, .num { mantissa := sortCursorVersion }), ("id".toList, quotes id),
    ("sortField".toList, quotes sortField), ("sortValue".toList, sortValue.toJson)]

def encodeCursor (id : String) (sortField : Option String) (sortValue : SortValue) : String :=
  match nonempty? sortField with
  | none => id
  | some field =>
    String.ofList (Base64.encode (Utf8.encode (Json.stringify (cursorJson id field sortValue))))

mutual

/-- `String(value)`. -/
def stringOf : Json → String
  | .null => "null"
  | .bool true => "true"
  | .bool false => "false"
  | .num n => String.ofList (Json.number n)
  | .str text => String.ofList text
  | .arr items => ",".intercalate (strings items)
  | .obj _ => "[object Object]"

/-- The items of an array; null is the empty text. -/
def strings : List Json → List String
  | [] => []
  | .null :: items => "" :: strings items
  | item :: items => stringOf item :: strings items

end

/-- `new Date(String(value))`, if that is a valid date. -/
def newDate (p : Platform) (value : Option Json) : Option Instant :=
  let text := value.elim "undefined" stringOf
  (Instant.ofISOString text.toList).orElse fun _ => p.parseDate text

/-- `none` is a date that is invalid. -/
structure DecodedCursor where
  id : String
  sortValue : Option SortValue := some .undefined

/-- The sort value of a cursor; a missing one has no type. -/
def sortValueOf (p : Platform) (sortValue : Option Json) : Option SortValue :=
  match sortValue.bind (Json.member? "type") with
  | some (.str type) =>
    if type = "date".toList then
      (newDate p (sortValue.bind (Json.member? "value"))).map .date
    else some ((sortValue.bind (Json.member? "value")).elim .undefined .json)
  | _ => some ((sortValue.bind (Json.member? "value")).elim .undefined .json)

def decodeCursor (p : Platform) (cursor : String) (sortField : Option String) : DecodedCursor :=
  match nonempty? sortField with
  | none => { id := cursor }
  | some field =>
    match Json.parse (Utf8.decode (Base64.decode cursor.toList)) with
    | none => { id := cursor }
    | some decoded =>
      match decoded.member? "v", decoded.member? "id", decoded.member? "sortField" with
      | some (.num v), some (.str id), some (.str sortField) =>
        if v.toInt? = some sortCursorVersion ∧ sortField = field.toList then
          { id := String.ofList id, sortValue := sortValueOf p (decoded.member? "sortValue") }
        else { id := cursor }
      | _, _, _ => { id := cursor }

/-! ## A cursor is read back -/

/-- A date is one that a `Date` object holds. -/
def SortValue.IsValid : SortValue → Prop
  | .date d => d.IsTime
  | _ => True

section

variable {p : Platform} {id field : String} {sortField : Option String} {value : SortValue}

theorem typeOf_ne_date (j : Json) : (typeOf j).toList ≠ "date".toList := by
  cases j with
  | bool b => exact (by decide : "boolean".toList ≠ "date".toList)
  | num n => exact (by decide : "number".toList ≠ "date".toList)
  | str text => exact (by decide : "string".toList ≠ "date".toList)
  | null => exact (by decide : "object".toList ≠ "date".toList)
  | arr items => exact (by decide : "object".toList ≠ "date".toList)
  | obj members => exact (by decide : "object".toList ≠ "date".toList)

theorem sortValueOf_toJson (h : value.IsValid) : sortValueOf p (some value.toJson) = some value := by
  cases value with
  | undefined => rfl
  | date d =>
    have hdate : newDate p (some (.str d.toISOString)) = some d := by
      show (Instant.ofISOString (stringOf (.str d.toISOString)).toList).orElse _ = some d
      rw [stringOf, String.toList_ofList, ofISOString_toISOString h]
      rfl
    show (newDate p (some (.str d.toISOString))).map SortValue.date = _
    rw [hdate]
    rfl
  | json j =>
    show (if (typeOf j).toList = "date".toList then _ else _) = _
    rw [if_neg (typeOf_ne_date j)]
    rfl

theorem parse_encoded (j : Json) :
    Json.parse (Utf8.decode (Base64.decode
      (String.ofList (Base64.encode (Utf8.encode j.stringify))).toList)) = some j := by
  rw [String.toList_ofList, Base64.decode_encode, Utf8.decode_encode, Json.parse_stringify]

theorem decodeCursor_cursorJson {other : String} (hother : nonempty? sortField = some other) :
    decodeCursor p (String.ofList (Base64.encode (Utf8.encode
        (Json.stringify (cursorJson id field value))))) sortField =
      if field.toList = other.toList then
        { id := id, sortValue := sortValueOf p (some value.toJson) }
      else { id := String.ofList (Base64.encode (Utf8.encode
        (Json.stringify (cursorJson id field value)))) } := by
  unfold decodeCursor
  rw [hother]
  dsimp only
  rw [parse_encoded]
  show (if Decimal.toInt? _ = some sortCursorVersion ∧ field.toList = other.toList then _
    else _) = _
  by_cases hsame : field.toList = other.toList
  · rw [if_pos ⟨rfl, hsame⟩, if_pos hsame]
    show DecodedCursor.mk (String.ofList id.toList) _ = _
    rw [String.ofList_toList]
    rfl
  · rw [if_neg fun h => hsame h.2, if_neg hsame]

/-- **A cursor of the sort column is read back as it was written.** -/
theorem decodeCursor_encodeCursor (h : value.IsValid) (hfield : nonempty? sortField = some field) :
    decodeCursor p (encodeCursor id sortField value) sortField =
      { id := id, sortValue := some value } := by
  unfold encodeCursor
  rw [hfield]
  dsimp only
  rw [decodeCursor_cursorJson hfield, if_pos rfl, sortValueOf_toJson h]

/-- Under another sort column, the text is read as an id. -/
theorem decodeCursor_encodeCursor_ne {other : Option String}
    (hfield : nonempty? sortField = some field) (hne : nonempty? other ≠ some field) :
    decodeCursor p (encodeCursor id sortField value) other =
      { id := encodeCursor id sortField value } := by
  unfold encodeCursor
  rw [hfield]
  dsimp only
  cases hother : nonempty? other with
  | none =>
    unfold decodeCursor
    rw [hother]
  | some o =>
    rw [decodeCursor_cursorJson hother, if_neg]
    intro he
    exact hne (by rw [hother, ← String.toList_inj.mp he])

end

end LedgerLight.CursorText
