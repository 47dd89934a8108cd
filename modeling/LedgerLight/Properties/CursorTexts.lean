import LedgerLight.Prisma.TextPages
import LedgerLight.Properties.PagesListed

/-!
# Clients send back the texts of cursors

A cursor is a text on its way to the client and back. The filter that is built from a text is that of
the cursor, so the pages that a client walks through are those of the cursors.

* `cursor_read_back` : a text is read as its id and its sort value, or as an id.
* `id_read_as_id` : an id is no sort cursor.
* `walk_texts_iff` : the pages of the texts are the pages of the cursors.
-/

namespace LedgerLight.CursorText

open Infra

/-! Ids as the plain platform writes them. -/

namespace Stockroom

def idOf? (text : String) : Option Id :=
  let step := (Digits.digits text.toList).1
  let index := (Digits.digits (Digits.digits text.toList).2.tail).1
  some ⟨Nat.ofDigitChars 10 step 0, Nat.ofDigitChars 10 index 0⟩

theorem toList_idText (i : Id) : (Platform.plain.idText i).toList =
    Nat.toDigits 10 i.step ++ '-' :: Nat.toDigits 10 i.index := by
  show (toString i.step ++ "-" ++ toString i.index).toList = _
  rw [String.toList_append, String.toList_append, Nat.toString_eq_ofList_toDigits,
    Nat.toString_eq_ofList_toDigits, String.toList_ofList, String.toList_ofList,
    String.toList_ofList, List.append_assoc]
  rfl

theorem idOf?_idText (i : Id) : idOf? (Platform.plain.idText i) = some i := by
  have hstep : Digits.digits (Nat.toDigits 10 i.step ++ '-' :: Nat.toDigits 10 i.index) =
      (Nat.toDigits 10 i.step, '-' :: Nat.toDigits 10 i.index) := by
    refine Digits.digits_append Digits.isDigit_toDigits fun c hc => ?_
    obtain rfl : '-' = c := Option.some.inj hc
    rfl
  have hindex : Digits.digits (Nat.toDigits 10 i.index) = (Nat.toDigits 10 i.index, []) := by
    have happend : Digits.digits (Nat.toDigits 10 i.index ++ []) = (Nat.toDigits 10 i.index, []) :=
      Digits.digits_append Digits.isDigit_toDigits fun c hc => by cases hc
    rw [List.append_nil] at happend
    exact happend
  unfold idOf?
  dsimp only
  rw [toList_idText, hstep]
  dsimp only [List.tail_cons]
  rw [hindex, Nat.ofDigitChars_ten_toDigits, Nat.ofDigitChars_ten_toDigits]

def wire : Wire .plain where
  idOf? := idOf?
  idOf?_idText := idOf?_idText
  idText_ne i h := by
    have hchars := toList_idText i
    rw [h] at hchars
    exact Nat.toDigits_ne_nil (List.append_eq_nil_iff.mp hchars.symm).1
  enumText place := toString place

theorem timely_levels : ∀ r ∈ LedgerLight.Stockroom.levels, levelModel.Timely r := by
  have hlevel (index : Nat) (name : String) :
      levelModel.Timely (LedgerLight.Stockroom.levelOf index name) := by
    intro field column d hcolumn hvalue
    have hzero : Instant.IsTime ((0 : Nat) : Int) := by decide
    unfold levelModel at hcolumn
    dsimp only at hcolumn
    split at hcolumn <;> cases hcolumn
    all_goals cases hvalue
    all_goals exact hzero
  intro r hr
  rcases List.mem_pair.mp hr with rfl | rfl
  · exact hlevel 2 "A"
  · exact hlevel 1 "B"

end Stockroom

section

variable {R : Type} {p : Platform} {w : Wire p} {model : Model R} {test : R → Bool}
  {options : PaginationOptions R} {field : String} {direction : SortDirection} {r : R}

/-! ## Texts -/

theorem nonempty?_some {s : String} (h : s ≠ "") : nonempty? (some s) = some s := by
  rw [nonempty?, Option.filter_some, if_pos (decide_eq_true h)]

theorem decodeCursor_empty (sortField : Option String) :
    decodeCursor p "" sortField = { id := "" } := by
  unfold decodeCursor
  cases nonempty? sortField with
  | none => rfl
  | some field => rfl

theorem encodeCursor_ne {id : String} {sortField : Option String} {value : SortValue}
    (hid : id ≠ "") (h : value.IsValid) : encodeCursor id sortField value ≠ "" := by
  cases hfield : nonempty? sortField with
  | none =>
    unfold encodeCursor
    rw [hfield]
    exact hid
  | some field =>
    intro hempty
    -- the empty text is read as no id but itself
    have hread : decodeCursor .plain (encodeCursor id sortField value) sortField =
        { id := id, sortValue := some value } := decodeCursor_encodeCursor h hfield
    rw [hempty, decodeCursor_empty] at hread
    exact hid (congrArg DecodedCursor.id hread).symm

def hexDigits : List Char := "0123456789abcdef".toList

/-- The digits of base64 that are digits of an id. -/
def hexValues : List Nat :=
  [52, 53, 54, 55, 56, 57, 58, 59, 60, 61, 26, 27, 28, 29, 30, 31]

theorem value?_hexDigit {c : Char} (h : c ∈ hexDigits) :
    ∃ v ∈ hexValues, Base64.value? c = some v := by
  have hvalues : hexDigits.map Base64.value? = hexValues.map some := by decide
  have hmem : Base64.value? c ∈ hexDigits.map Base64.value? := List.mem_map_of_mem h
  rw [hvalues] at hmem
  obtain ⟨v, hv, he⟩ := List.mem_map.mp hmem
  exact ⟨v, hv, he.symm⟩

/-- The first two bytes of what begins like an id. -/
theorem decode_hexDigits {a b c d : Char} (ha : a ∈ hexDigits) (hb : b ∈ hexDigits)
    (hc : c ∈ hexDigits) (hd : d ∈ hexDigits) (rest : List Char) :
    ∃ u ∈ hexValues, ∃ v ∈ hexValues, ∃ x ∈ hexValues, ∃ bytes,
      Base64.decode (a :: b :: c :: d :: rest) =
        .ofNat (u * 4 + v / 16) :: .ofNat (v % 16 * 16 + x / 4) :: bytes := by
  obtain ⟨u, hu, hua⟩ := value?_hexDigit ha
  obtain ⟨v, hv, hvb⟩ := value?_hexDigit hb
  obtain ⟨x, hx, hxc⟩ := value?_hexDigit hc
  obtain ⟨y, hy, hyd⟩ := value?_hexDigit hd
  refine ⟨u, hu, v, hv, x, hx,
    .ofNat (x % 4 * 64 + y) :: Base64.ofDigits (rest.filterMap Base64.value?), ?_⟩
  rw [Base64.decode, List.filterMap_cons_some hua, List.filterMap_cons_some hvb,
    List.filterMap_cons_some hxc, List.filterMap_cons_some hyd, Base64.ofDigits]

/-- The first byte is beyond ASCII, begins no value, or is a brace. -/
theorem firstByte_hexValues : ∀ u ∈ hexValues, ∀ v ∈ hexValues,
    u * 4 + v / 16 < 256 ∧ (0x80 ≤ u * 4 + v / 16 ∨
      Json.starts (Char.ofNat (u * 4 + v / 16)) = false ∨ u * 4 + v / 16 = 0x7B) := by
  decide

/-- The second byte is beyond ASCII, a brace, or neither a space nor a quotation mark. -/
theorem secondByte_hexValues : ∀ v ∈ hexValues, ∀ x ∈ hexValues,
    v % 16 * 16 + x / 4 < 256 ∧ (0x80 ≤ v % 16 * 16 + x / 4 ∨ v % 16 * 16 + x / 4 = 0x7D ∨
      Json.isSpace (Char.ofNat (v % 16 * 16 + x / 4)) = false ∧
        Char.ofNat (v % 16 * 16 + x / 4) ≠ '"' ∧ Char.ofNat (v % 16 * 16 + x / 4) ≠ '\x7d') := by
  decide

theorem not_key_of_beyondAscii {text : List Char} (h : Utf8.BeyondAscii text) :
    ∀ c, text.head? = some c → Json.isSpace c = false ∧ c ≠ '"' ∧ c ≠ '\x7d' := by
  intro c hc
  have hstarts := Json.starts_eq_false (h c hc)
  simp only [Json.starts, Bool.or_eq_false_iff, beq_eq_false_iff_ne] at hstarts
  refine ⟨hstarts.1.1.1.1.1.1.1.1, hstarts.1.1.1.1.1.1.1.2, ?_⟩
  rintro rfl
  exact absurd (h _ hc) (by decide)

/-- What begins like an id is no JSON, or an object without members. -/
theorem parse_hexDigits {a b c d : Char} (ha : a ∈ hexDigits) (hb : b ∈ hexDigits)
    (hc : c ∈ hexDigits) (hd : d ∈ hexDigits) (rest : List Char) :
    Json.parse (Utf8.decode (Base64.decode (a :: b :: c :: d :: rest))) = none ∨
      Json.parse (Utf8.decode (Base64.decode (a :: b :: c :: d :: rest))) = some (.obj []) := by
  obtain ⟨u, hu, v, hv, x, hx, bytes, hbytes⟩ := decode_hexDigits ha hb hc hd rest
  obtain ⟨hfirst, hkind⟩ := firstByte_hexValues u hu v hv
  obtain ⟨hsecond, hkind'⟩ := secondByte_hexValues v hv x hx
  rw [hbytes, Utf8.decode]
  by_cases hhigh : 0x80 ≤ u * 4 + v / 16
  · exact Or.inl (Json.parse_of_not_starts fun c hc =>
      Json.starts_eq_false (Utf8.beyondAscii_decodeFrom hhigh hfirst c hc))
  rw [Utf8.decodeFrom_ascii (by omega)]
  rcases hkind with hhigh' | hstarts | hbrace
  · exact absurd hhigh' hhigh
  · refine Or.inl (Json.parse_of_not_starts fun c hc => ?_)
    obtain rfl : Char.ofNat _ = c := Option.some.inj hc
    exact hstarts
  -- a brace: the next byte is no key, and if it closes the object there are no members
  rw [hbrace]
  rcases Nat.lt_or_ge (v % 16 * 16 + x / 4) 0x80 with hlow | hhigh'
  · rw [Utf8.decodeFrom_ascii hlow]
    rcases hkind' with hhigh' | hclose | hother
    · omega
    · rw [hclose]
      exact Json.parse_braces
    · refine Or.inl (Json.parse_brace fun c hc => ?_)
      obtain rfl : Char.ofNat _ = c := Option.some.inj hc
      exact hother
  · exact Or.inl (Json.parse_brace
      (not_key_of_beyondAscii (Utf8.beyondAscii_decodeFrom hhigh' hsecond)))

/-- **An id is read as an id**, and filters nothing: no text that begins with four hexadecimal digits
is a sort cursor, of whatever column. -/
theorem id_read_as_id {R : Type} {p : Platform} (w : Wire p) (model : Model R) (test : R → Bool)
    (text : String) (a b c d : Char) (rest : List Char)
    (htext : text.toList = a :: b :: c :: d :: rest)
    (hhex : a ∈ hexDigits ∧ b ∈ hexDigits ∧ c ∈ hexDigits ∧ d ∈ hexDigits) :
    (∀ sortField, decodeCursor p text sortField = { id := text }) ∧
      ∀ sort, buildCursorWhere w model test (some text) sort = .ok test := by
  have hread (sortField : Option String) : decodeCursor p text sortField = { id := text } := by
    unfold decodeCursor
    cases nonempty? sortField with
    | none => rfl
    | some field =>
      rw [htext]
      rcases parse_hexDigits hhex.1 hhex.2.1 hhex.2.2.1 hhex.2.2.2 rest with hparse | hparse
      · rw [hparse]
      · rw [hparse]
        rfl
  refine ⟨hread, fun sort => ?_⟩
  unfold buildCursorWhere
  cases hcursor : nonempty? (some text) with
  | none => rfl
  | some cursor =>
    cases sort with
    | none => rfl
    | some s =>
      have hsame : text = cursor :=
        Option.some.inj (Option.filter_eq_some_iff.mp hcursor).1
      subst hsame
      dsimp only
      rw [hread]
      rfl

theorem id_read_as_id_uuid :
    (∀ sortField, decodeCursor .plain "e30a41f2-6b1c" sortField = { id := "e30a41f2-6b1c" }) ∧
      ∀ sort, buildCursorWhere Stockroom.wire levelModel (fun _ => true) (some "e30a41f2-6b1c")
        sort = .ok fun _ => true :=
  id_read_as_id Stockroom.wire levelModel (fun _ => true) "e30a41f2-6b1c" 'e' '3' '0' 'a'
    "41f2-6b1c".toList (by decide) (by decide)

/-! ## Values -/

theorem isNothing_value {v : ScalarValue} (h : v ≠ .null) : (w.value v).isNothing = false := by
  cases v with
  | null => exact absurd rfl h
  | bool b => rfl
  | int n => rfl
  | text s => rfl
  | id i => rfl
  | date d => rfl
  | enum place => rfl

/-- A value is read from the filter of a column of its kind. -/
theorem scalar?_value {v : ScalarValue} {kind : ScalarKind} (hkind : v.kind? = some kind)
    (hordered : kind.ordered = true) : w.scalar? kind (w.value v) = some v := by
  cases v with
  | null => cases hkind
  | bool b =>
    cases hkind
    cases hordered
  | int n =>
    cases hkind
    show (Decimal.toInt? { mantissa := n }).map ScalarValue.int = _
    rw [Decimal.toInt?_intCast]
    rfl
  | text s =>
    cases hkind
    show some (ScalarValue.text (String.ofList s.toList)) = _
    rw [String.ofList_toList]
  | id i =>
    cases hkind
    show (w.idOf? (String.ofList (p.idText i).toList)).map ScalarValue.id = _
    rw [String.ofList_toList, w.idOf?_idText]
    rfl
  | date d =>
    cases hkind
    show (if (0 : Int) ≤ (d : Int) then some (ScalarValue.date (d : Int).toNat) else none) = _
    rw [if_pos (Int.natCast_nonneg d), Int.toNat_natCast]
  | enum place =>
    cases hkind
    cases hordered

theorem isValid_value {v : ScalarValue} (h : ∀ d, v = .date d → Instant.IsTime (d : Int)) :
    (w.value v).IsValid := by
  cases v with
  | date d => exact h d rfl
  | null => trivial
  | bool b => trivial
  | int n => trivial
  | text s => trivial
  | id i => trivial
  | enum place => trivial

/-! ## The filter of a cursor -/

/-- A page of the query may end with the cursor. -/
def Issued (model : Model R) (options : PaginationOptions R) (cursor : Cursor) : Prop :=
  ∃ r, model.Timely r ∧ cursor = cursorOf model options r

/-- The filter of a cursor with a value. -/
theorem buildCursorWhere_value {column : Column R} {i : Id} {v : ScalarValue} (hv : v ≠ .null)
    (hcolumn : model.column? field = some column) :
    LedgerLight.buildCursorWhere p model test (some (.sort i field v)) (some (field, direction)) =
      if v.kind? = some column.kind ∧ column.kind.ordered = true then
        .ok fun r => test r && afterCursor p model column direction i v r
      else .error (.prisma "PrismaClientValidationError") := by
  unfold LedgerLight.buildCursorWhere LedgerLight.decodeCursor
  dsimp only
  rw [if_pos rfl, hcolumn]
  cases v with
  | null => exact absurd rfl hv
  | bool b => rfl
  | int n => rfl
  | text s => rfl
  | id i => rfl
  | date d => rfl
  | enum place => rfl

/-- The filter of the text of a cursor with a value. -/
theorem buildCursorWhere_valueText {column : Column R} {i : Id} {v : ScalarValue} (hv : v ≠ .null)
    (hvalid : (w.value v).IsValid) (hfield : field ≠ "")
    (hcolumn : model.column? field = some column) (hkind : v.kind? = some column.kind) :
    buildCursorWhere w model test (some (encodeCursor (p.idText i) (some field) (w.value v)))
        (some (field, direction)) =
      if column.kind.ordered = true then
        .ok fun r => test r && afterCursor p model column direction i v r
      else .error (.prisma "PrismaClientValidationError") := by
  unfold buildCursorWhere
  rw [nonempty?_some (encodeCursor_ne (w.idText_ne i) hvalid)]
  dsimp only
  rw [decodeCursor_encodeCursor hvalid (nonempty?_some hfield)]
  have hsome : ¬ ((some (w.value v)).map SortValue.isNothing).getD false = true := by
    rw [Option.map_some, Option.getD_some, isNothing_value hv]
    exact Bool.false_ne_true
  dsimp only
  rw [if_neg hsome, hcolumn]
  dsimp only [Option.bind_some]
  cases hordered : column.kind.ordered with
  | true =>
    rw [scalar?_value hkind hordered, w.idOf?_idText]
  | false =>
    cases w.scalar? column.kind (w.value v) with
    | none => rfl
    | some value => rfl

theorem buildCursorWhere_unsorted (text : Option String) :
    buildCursorWhere w model test text none = .ok test := by
  unfold buildCursorWhere
  cases nonempty? text with
  | none => rfl
  | some text => rfl

/-- A text that brings no value filters nothing. -/
theorem buildCursorWhere_nothing {text : String} {value : SortValue}
    (hdecoded : (decodeCursor p text (some field)).sortValue = some value)
    (hvalue : value.isNothing = true) :
    buildCursorWhere w model test (some text) (some (field, direction)) = .ok test := by
  by_cases htext : text = ""
  · subst htext
    rfl
  · unfold buildCursorWhere
    rw [nonempty?_some htext]
    dsimp only
    rw [hdecoded]
    dsimp only [Option.map_some, Option.getD_some]
    rw [if_pos hvalue]

/-- A cursor of no value filters nothing. -/
theorem buildCursorWhere_null {i : Id} :
    LedgerLight.buildCursorWhere p model test (some (.sort i field .null))
      (some (field, direction)) = .ok test := by
  unfold LedgerLight.buildCursorWhere LedgerLight.decodeCursor
  dsimp only
  rw [if_pos rfl]

/-- The text of a cursor of no value filters nothing. -/
theorem buildCursorWhere_nullText {i : Id} :
    buildCursorWhere w model test (some (encodeCursor (p.idText i) (some field) (w.value .null)))
      (some (field, direction)) = .ok test := by
  by_cases hfield : field = ""
  · subst hfield
    exact buildCursorWhere_nothing rfl (rfl : SortValue.isNothing .undefined = true)
  · refine buildCursorWhere_nothing ?_ (rfl : SortValue.isNothing (.json .null) = true)
    have hvalid : (w.value .null).IsValid := trivial
    rw [decodeCursor_encodeCursor hvalid (nonempty?_some hfield)]
    rfl

/-- **The text of a cursor filters like the cursor.** -/
theorem buildCursorWhere_text (htyped : model.Typed) {cursor : Option Cursor}
    (hc : ∀ c ∈ cursor, Issued model options c) :
    buildCursorWhere w model test (cursor.map (toText w))
        (extractSortCursorConfig (normalizeOrderBy options)) =
      LedgerLight.buildCursorWhere p model test cursor
        (extractSortCursorConfig (normalizeOrderBy options)) := by
  cases cursor with
  | none => rfl
  | some c =>
    obtain ⟨r, htimely, rfl⟩ := hc c rfl
    unfold cursorOf
    cases extractSortCursorConfig (normalizeOrderBy options) with
    | none => exact buildCursorWhere_unsorted _
    | some sort =>
      obtain ⟨field, direction⟩ := sort
      cases hcolumn : model.column? field with
      | none =>
        -- the rows have no value in a column that is none
        have hvalue : model.sortValue (some (field, direction)) r = some (field, .null) := by
          unfold Model.sortValue
          rw [Option.map_some, hcolumn]
          rfl
        rw [hvalue]
        exact buildCursorWhere_nullText.trans buildCursorWhere_null.symm
      | some column =>
        have hvalue : model.sortValue (some (field, direction)) r =
            some (field, column.value r) := by
          unfold Model.sortValue
          rw [Option.map_some, hcolumn]
          rfl
        rw [hvalue]
        by_cases hnull : column.value r = .null
        · rw [hnull]
          exact buildCursorWhere_nullText.trans buildCursorWhere_null.symm
        · have hkind := (htyped.kinds hcolumn r).resolve_left hnull
          have hfield : field ≠ "" := by
            rintro rfl
            rw [htyped.named] at hcolumn
            cases hcolumn
          have hvalid : (w.value (column.value r)).IsValid :=
            isValid_value fun d => htimely field column d hcolumn
          show buildCursorWhere w model test (some (encodeCursor (p.idText (model.id r))
            (some field) (w.value (column.value r)))) _ = LedgerLight.buildCursorWhere p model test
              (some (.sort (model.id r) field (column.value r))) _
          rw [buildCursorWhere_value hnull hcolumn,
            buildCursorWhere_valueText hnull hvalid hfield hcolumn hkind]
          simp only [hkind, true_and]

/-! ## Pages -/

/-- A query that is answered sorts by a column of the model. -/
theorem column_of_findMany {rows data : List R} {args : FindManyArgs R} {rest : List (OrderBy R)}
    (horder : args.orderBy = .column field direction :: rest)
    (h : findMany p model rows args = .ok data) : ∃ column, model.scalar? field = some column := by
  obtain ⟨keys, hkeys, -⟩ := bind_eq_ok.mp h
  have hsame : args.order = .column field direction :: rest := by
    unfold FindManyArgs.order
    rw [horder]
    rfl
  rw [hsame, List.mapM_cons] at hkeys
  obtain ⟨key, hkey, -⟩ := bind_eq_ok.mp hkeys
  unfold OrderBy.sortKey at hkey
  dsimp only at hkey
  cases hcolumn : model.scalar? field with
  | none =>
    rw [hcolumn] at hkey
    cases hkey
  | some column => exact ⟨column, rfl⟩

theorem exists_of_extract {orderBy : List (OrderBy R)}
    (h : extractSortCursorConfig orderBy = some (field, direction)) :
    field ≠ "id" ∧ ∃ rest, orderBy = .column field direction :: rest := by
  unfold extractSortCursorConfig at h
  split at h
  · split at h
    · cases h
    · next hid =>
      cases h
      exact ⟨hid, _, rfl⟩
  · cases h

theorem nextCursor_text {sort : Option (String × SortDirection)} {limit : Nat} {data : List R}
    (hcolumn : ∀ s, sort = some s → ∃ column, model.column? s.1 = some column) :
    nextCursor w model limit sort data =
      (LedgerLight.nextCursor model limit sort data).map (toText w) := by
  have hrow (r : R) : encodeCursor (p.idText (model.id r)) (sort.map Prod.fst)
      (lastValue w model sort r) =
        toText w (LedgerLight.encodeCursor (model.id r) (model.sortValue sort r)) := by
    cases sort with
    | none => rfl
    | some s =>
      obtain ⟨field, direction⟩ := s
      obtain ⟨column, hcolumn⟩ := hcolumn _ rfl
      unfold lastValue Model.sortValue
      dsimp only [Option.map_some]
      rw [hcolumn]
      rfl
  unfold nextCursor LedgerLight.nextCursor
  split
  · rw [Option.map_map]
    exact congrArg (fun f => data.getLast?.map f) (funext hrow)
  · rfl

theorem pageArgs_text {cursor : Option Cursor} (hc : ∀ c ∈ cursor, Issued model options c)
    (cursorTest : R → Bool) :
    pageArgs w options (cursor.map (toText w)) cursorTest =
      LedgerLight.pageArgs { options with cursor := cursor } cursorTest := by
  have hsame : normalizeOrderBy { options with cursor := cursor } = normalizeOrderBy options := rfl
  unfold pageArgs LedgerLight.pageArgs
  dsimp only
  rw [hsame]
  cases hsort : extractSortCursorConfig (normalizeOrderBy options) with
  | some sort => rfl
  | none =>
    cases cursor with
    | none => rfl
    | some c =>
      obtain ⟨r, -, rfl⟩ := hc c rfl
      have hcursor : cursorOf model options r = .id (model.id r) := by
        unfold cursorOf
        rw [hsort]
        rfl
      have hid : (nonempty? ((some (Cursor.id (model.id r))).map (toText w))).map (idCursor w) =
          some (.id (model.id r)) := by
        rw [Option.map_some, toText, nonempty?_some (w.idText_ne _), Option.map_some, idCursor,
          w.idOf?_idText]
        rfl
      rw [hcursor, hid]

/-- **A request with the text of a cursor** is answered with the same page, and the text of its next
cursor. -/
theorem paginateMany_text (htyped : model.Typed) (rows : List R) {cursor : Option Cursor}
    (hc : ∀ c ∈ cursor, Issued model options c) :
    paginateMany w model rows test options (cursor.map (toText w)) =
      (pageOf p model rows test options cursor).map fun x => (x.1, x.2.map (toText w)) := by
  have hsame : normalizeOrderBy { options with cursor := cursor } = normalizeOrderBy options := rfl
  unfold paginateMany pageOf LedgerLight.paginateMany
  dsimp only
  rw [hsame, buildCursorWhere_text htyped hc]
  cases LedgerLight.buildCursorWhere p model test cursor
    (extractSortCursorConfig (normalizeOrderBy options)) with
  | error e => rfl
  | ok q =>
    show (findMany p model rows (pageArgs w options (cursor.map (toText w)) q) >>= _) =
      Except.map _ (Except.map _ (findMany p model rows _ >>= _))
    rw [pageArgs_text hc]
    cases hdata : findMany p model rows
      (LedgerLight.pageArgs { options with cursor := cursor } q) with
    | error e => rfl
    | ok data =>
      refine congrArg (fun next => Except.ok (data, next)) (nextCursor_text fun s hs => ?_)
      obtain ⟨hid, rest, horder⟩ := exists_of_extract hs
      obtain ⟨column, hcolumn⟩ := column_of_findMany horder hdata
      refine ⟨column, ?_⟩
      rw [Model.scalar?, if_neg hid] at hcolumn
      exact hcolumn

theorem issued_of_page {rows : List R} (htimely : ∀ r ∈ rows, model.Timely r)
    {cursor : Option Cursor} {data : List R} {next : Cursor}
    (h : pageOf p model rows test options cursor = .ok (data, some next)) :
    Issued model options next := by
  obtain ⟨page, hpage, hx⟩ := map_eq_ok.mp h
  obtain ⟨-, hnext⟩ := Prod.mk.inj hx
  obtain ⟨r, hr, he⟩ := row_of_nextCursor hpage hnext
  exact ⟨r, htimely r (List.mem_of_mem_filter hr), he⟩

end

/-- **The pages of the texts are the pages of the cursors**, whatever the rows are at each request. -/
theorem walk_texts_iff {R : Type} {p : Platform} (w : Wire p) {model : Model R}
    (htyped : model.Typed) (rows : Nat → List R) (htimely : ∀ n, ∀ r ∈ rows n, model.Timely r)
    (test : R → Bool) (options : PaginationOptions R) (pages : List (List R)) :
    Walk (fun n => paginateMany w model (rows n) test options) 0 none pages ↔
      Walk (fun n => pageOf p model (rows n) test options) 0 none pages := by
  have hsame (n : Nat) (c : Option Cursor) (hc : ∀ c' ∈ c, Issued model options c') :
      paginateMany w model (rows n) test options (c.map (toText w)) =
        (pageOf p model (rows n) test options c).map fun x => (x.1, x.2.map (toText w)) :=
    paginateMany_text htyped (rows n) hc
  have hissued (n : Nat) (c : Option Cursor) (data : List R) (c' : Cursor)
      (h : pageOf p model (rows n) test options c = .ok (data, some c')) :
      Issued model options c' := issued_of_page (htimely n) h
  have hnone : ∀ c' ∈ (none : Option Cursor), Issued model options c' := by
    rintro c' ⟨⟩
  exact walk_mapCursor_iff hsame hissued hnone

theorem walk_texts_iff_levels :
    Walk (fun _ => paginateMany Stockroom.wire levelModel LedgerLight.Stockroom.levels
        (fun _ => true) (LedgerLight.Stockroom.byQuantity 1)) 0 none
        [[LedgerLight.Stockroom.levelOf 1 "B"], []] ↔
      Walk (fun _ => pageOf .plain levelModel LedgerLight.Stockroom.levels
        (fun _ => true) (LedgerLight.Stockroom.byQuantity 1)) 0 none
        [[LedgerLight.Stockroom.levelOf 1 "B"], []] :=
  walk_texts_iff Stockroom.wire levelModel_typed (fun _ => LedgerLight.Stockroom.levels)
    (fun _ => Stockroom.timely_levels) (fun _ => true) (LedgerLight.Stockroom.byQuantity 1) _

end LedgerLight.CursorText
