import LedgerLight.Properties.InventoryPages

/-!
# Pages of rows in memory

`paginateRows` on any rows and any texts as their cursors. A cursor is looked up if it is truthy, so
the empty text asks for the first page, as no cursor does.

* `paginateRows_texts` : with ids as the texts, these are the pages of the inventory service.
* `lists_iff` : the pages list the rows if and only if none but the last ends with an empty cursor.
-/

namespace LedgerLight

open Infra

namespace OnTexts

/-- `rows.findIndex(test)`. -/
def findIndex {R : Type} (rows : List R) (test : R → Bool) : Int :=
  (rows.findIdx? test).elim (-1) fun i => i

def startIndex {R : Type} (rows : List R) (cursor : Option String) (getCursor : R → String) :
    Nat :=
  match nonempty? cursor with
  | some cursor => (max (findIndex rows (fun row => getCursor row == cursor) + 1) 0).toNat
  | none => 0

def paginateRows {R : Type} (rows : List R) (limit : Nat) (cursor : Option String)
    (getCursor : R → String) : Except BackendError (List R × Option String) :=
  let startIndex := startIndex rows cursor getCursor
  let data := (rows.drop startIndex).take limit
  let hasMore := startIndex + limit < rows.length
  if hasMore then
    match data.getLast? with
    | some row => .ok (data, some (getCursor row))
    | none => .error (.typeError "Cannot read properties of undefined")
  else .ok (data, none)

section

variable {R : Type} {rows : List R} {getCursor : R → String} {limit : Nat}

theorem paginateRows_eq (rows : List R) (limit : Nat) (cursor : Option String)
    (getCursor : R → String) :
    paginateRows rows limit cursor getCursor =
      pageFrom (.typeError "Cannot read properties of undefined") getCursor limit rows
        (startIndex rows cursor getCursor) :=
  rfl

theorem startIndex_empty : startIndex rows (some "") getCursor = 0 := rfl

theorem startIndex_some {cursor : String} (hcursor : cursor ≠ "") :
    startIndex rows (some cursor) getCursor =
      (rows.findIdx? fun row => getCursor row == cursor).elim 0 (· + 1) := by
  have htruthy : nonempty? (some cursor) = some cursor := by simp [nonempty?, hcursor]
  unfold startIndex findIndex
  rw [htruthy]
  dsimp only
  cases rows.findIdx? fun row => getCursor row == cursor with
  | none => rfl
  | some i =>
    show (max ((i : Int) + 1) 0).toNat = i + 1
    omega

/-- The cursor of a row leads behind it, unless it is empty. -/
theorem startIndex_of_getElem? (hkeys : (rows.map getCursor).Nodup) {i : Nat} {row : R}
    (hrow : rows[i]? = some row) (hcursor : getCursor row ≠ "") :
    startIndex rows (some (getCursor row)) getCursor = i + 1 := by
  rw [startIndex_some hcursor, findIdx?_key hkeys hrow]
  rfl

/-- A page with its cursor as a text. -/
def withText (text : Id → String) : List R × Option Cursor → List R × Option String
  | (data, some (.id i)) => (data, some (text i))
  | (data, _) => (data, none)

/-- **On the texts of ids** these are the pages of rows with ids. -/
theorem paginateRows_texts {text : Id → String} {key : R → Id} (htext : Function.Injective text)
    (hne : ∀ i, text i ≠ "") (rows : List R) (limit : Nat) (cursor : Option Id) :
    paginateRows rows limit (cursor.map text) (fun r => text (key r)) =
      (LedgerLight.paginateRows rows limit (cursor.map .id) key).map (withText text) := by
  have hstart : startIndex rows (cursor.map text) (fun r => text (key r)) =
      LedgerLight.startIndex rows key (cursor.map .id) := by
    cases cursor with
    | none => rfl
    | some i =>
      have htest : (fun r => text (key r) == text i) = fun r => (Cursor.id i).isId (key r) := by
        funext r
        rw [Cursor.isId, Bool.eq_iff_iff, beq_iff_eq, beq_iff_eq, Cursor.id.injEq, htext.eq_iff]
        exact eq_comm
      show startIndex rows (some (text i)) (fun r => text (key r)) = _
      rw [startIndex_some (hne i), htest]
      rfl
  rw [paginateRows_eq, LedgerLight.paginateRows_eq, hstart]
  by_cases hmore : LedgerLight.startIndex rows key (cursor.map .id) + limit < rows.length
  · unfold pageFrom
    dsimp only
    rw [if_pos hmore, if_pos hmore]
    cases ((rows.drop (LedgerLight.startIndex rows key (cursor.map .id))).take
      limit).getLast? with
    | none => rfl
    | some r => rfl
  · rw [pageFrom_last _ _ (Nat.le_of_not_lt hmore), pageFrom_last _ _ (Nat.le_of_not_lt hmore)]
    rfl

/-- Iterated from no cursor, the calls end, all of them with a page; all pages but the last are full,
and one after the other they are the rows. -/
def Lists (rows : List R) (limit : Nat) (getCursor : R → String) : Prop :=
  ∃ pages, Walk (fun _ cursor => paginateRows rows limit cursor getCursor) 0 none pages ∧
    (∀ data ∈ pages.dropLast, data.length = limit) ∧ pages.flatten = rows

/-- **The pages list the rows** if and only if no page but the last ends with the empty cursor. -/
theorem lists_iff (hlimit : 1 ≤ limit) (hkeys : (rows.map getCursor).Nodup) :
    Lists rows limit getCursor ↔
      ∀ k row, rows[(k + 1) * limit - 1]? = some row → (k + 1) * limit < rows.length →
        getCursor row ≠ "" := by
  have hplaces (i : Nat) (row : R) (hrow : rows[i]? = some row) :
      startIndex rows (some (getCursor row)) getCursor = i + 1 ∨
        startIndex rows (some (getCursor row)) getCursor = 0 := by
    by_cases hcursor : getCursor row = ""
    · right
      rw [hcursor]
      exact startIndex_empty
    · left
      exact startIndex_of_getElem? hkeys hrow hcursor
  have hwalks := exists_walk_places_iff (n := 0)
    (fun cursor => startIndex rows cursor getCursor) hlimit
    (fun cursor => paginateRows_eq rows limit cursor getCursor) rfl hplaces
  refine hwalks.trans ⟨fun hleads k row hrow hk hempty => ?_, fun hnone k row hrow hk => ?_⟩
  · have hbehind : startIndex rows (some (getCursor row)) getCursor = (k + 1) * limit :=
      hleads k row hrow hk
    have hpos : 0 < (k + 1) * limit := Nat.mul_pos (Nat.succ_pos k) hlimit
    rw [hempty, startIndex_empty] at hbehind
    omega
  · have hpos : 0 < (k + 1) * limit := Nat.mul_pos (Nat.succ_pos k) hlimit
    have hbehind := startIndex_of_getElem? hkeys hrow (hnone k row hrow hk)
    show startIndex rows (some (getCursor row)) getCursor = (k + 1) * limit
    omega

/-- Three rows are a full page and a row. -/
theorem lists_three : Lists ["a", "b", "c"] 2 id := by
  refine (lists_iff (by decide) (by decide)).mpr fun k row hrow hk => ?_
  obtain rfl : k = 0 := by
    simp only [List.length_cons, List.length_nil] at hk
    omega
  cases hrow
  decide

/-- The first page ends with the empty cursor, which asks for it again. -/
theorem not_lists_empty : (["", "a"].map id).Nodup ∧ ¬ Lists ["", "a"] 1 id := by
  refine ⟨by decide, ?_⟩
  rintro ⟨pages, hwalk, -⟩
  have hpage : paginateRows ["", "a"] 1 none id = .ok ([""], some "") := by decide
  have hagain : paginateRows ["", "a"] 1 (some "") id = .ok ([""], some "") := by decide
  exact not_walk_of_loop hpage hagain ⟨pages, hwalk⟩

end

end OnTexts

end LedgerLight
