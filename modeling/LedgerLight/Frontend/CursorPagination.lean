import LedgerLight.Infra.Machine
import LedgerLight.Prisma.Service

/-!
# The pages of a list

`hooks/use-cursor-pagination.ts`, as a machine. A step is a call, a render with another filter, or
the answer of a fetch; which fetch is answered next is not up to the hook. A fetch returns the page
of the filter and the cursor that it was started with, and none is rejected.
-/

namespace LedgerLight.Frontend

open Infra

/-- `filterKey` : a text, or parts that are joined. -/
inductive FilterKey (P : Type) where
  | text (key : String)
  | parts (parts : List P)
deriving DecidableEq, Repr

structure PaginatedResult (T : Type) where
  data : List T
  totalCount : Nat
  nextCursor : Option String
deriving DecidableEq, Repr

/-- What goes on when a fetch is answered. -/
inductive Awaiting where
  | filterEffect
  | goNext (nextCursor : String)
  | goPrevious
  | refresh
deriving DecidableEq, Repr

/-- A fetch in flight. -/
structure Fetch (P : Type) where
  id : Nat
  awaiting : Awaiting
  filter : Option (FilterKey P)
  cursor : Option String
deriving DecidableEq, Repr

/-- The cells of the hook, the filter of the last render, and the fetches in flight. -/
structure Pagination (T P : Type) where
  filter : Option (FilterKey P)
  data : List T
  total : Nat
  nextCursor : Option String
  cursorStack : List (Option String)
  loading : Bool
  prevFilterKey : Option String
  /-- The fetch of the last effect, unless that is answered or `cancelled`. -/
  effect : Option Nat
  fetches : List (Fetch P)
  /-- How many fetches were started. -/
  started : Nat
deriving DecidableEq, Repr

inductive PageAction (P : Type) where
  | goNext
  | goPrevious
  | refresh
  | changeFilter (filter : Option (FilterKey P))
  | answer (id : Nat)
deriving DecidableEq, Repr

/-! ## What the hook returns -/

namespace Pagination

variable {T P : Type} (s : Pagination T P)

def page : Nat := s.cursorStack.length

def hasPrevious : Bool := 1 < s.page

def showingFrom (limit : Nat) : Int := if s.total = 0 then 0 else (s.page - 1) * limit + 1

def showingTo (limit : Nat) : Int := (s.page - 1) * limit + s.data.length

def hasNext (limit : Nat) : Bool :=
  (nonempty? s.nextCursor).isSome && s.showingTo limit != s.total

/-- `cursorStack[cursorStack.length - 1]`. -/
def currentCursor : Option String := s.cursorStack.getLast?.getD none

/-- `cursorStack[cursorStack.length - 2]`. -/
def prevCursor : Option String := (s.cursorStack[s.cursorStack.length - 2]?).getD none

/-! ## Steps -/

/-- A fetch for the filter of the last render. -/
def startFetch (awaiting : Awaiting) (cursor : Option String) : Pagination T P :=
  { s with
    loading := true
    fetches := s.fetches ++
      [{ id := s.started, awaiting := awaiting, filter := s.filter, cursor := cursor }]
    started := s.started + 1 }

def goNext : Pagination T P :=
  match nonempty? s.nextCursor with
  | none => s
  | some nextCursor => s.startFetch (.goNext nextCursor) (some nextCursor)

def goPrevious : Pagination T P :=
  if s.hasPrevious then s.startFetch .goPrevious s.prevCursor else s

def refresh : Pagination T P := s.startFetch .refresh s.currentCursor

/-- `setData`, `setTotal` and `setNextCursor`. -/
def setResult (result : PaginatedResult T) : Pagination T P :=
  { s with data := result.data, total := result.totalCount, nextCursor := result.nextCursor }

variable (partText : P → String)

/-- `Array.isArray(filterKey) ? filterKey.join("|") : filterKey`. -/
def fk : Option (FilterKey P) → Option String
  | none => none
  | some (.text key) => some key
  | some (.parts parts) => some (String.intercalate "|" (parts.map partText))

/-- A render with a filter. With another one, the fetch function is another one too: the last effect
is cleaned up, and the effect runs. -/
def changeFilter [DecidableEq P] (filter : Option (FilterKey P)) : Pagination T P :=
  if filter = s.filter then s
  else
    let s := { s with filter := filter, effect := none }
    if s.prevFilterKey = fk partText filter then s
    else
      { { s with prevFilterKey := fk partText filter }.startFetch .filterEffect none with
        effect := some s.started }

variable (pages : Option (FilterKey P) → Option String → PaginatedResult T)

/-- The hook goes on with the answer of a fetch. -/
def answer (id : Nat) : Pagination T P :=
  match s.fetches.find? fun fetch => fetch.id == id with
  | none => s
  | some fetch =>
    let s := { s with fetches := s.fetches.filter fun fetch => fetch.id != id }
    let result := pages fetch.filter fetch.cursor
    match fetch.awaiting with
    | .filterEffect =>
      if s.effect = some id then
        { s.setResult result with cursorStack := [none], effect := none, loading := false }
      else s
    | .goNext nextCursor =>
      { s.setResult result with
        cursorStack := s.cursorStack ++ [some nextCursor], loading := false }
    | .goPrevious =>
      { s.setResult result with cursorStack := s.cursorStack.dropLast, loading := false }
    | .refresh => { s.setResult result with loading := false }

end Pagination

section

variable {T P : Type} [DecidableEq P] (partText : P → String)
  (pages : Option (FilterKey P) → Option String → PaginatedResult T)

/-- The hook. -/
def useCursorPagination : Machine (Pagination T P) (PageAction P) where
  step s
    | .goNext => s.goNext
    | .goPrevious => s.goPrevious
    | .refresh => s.refresh
    | .changeFilter filter => s.changeFilter partText filter
    | .answer id => s.answer pages id

/-- The first render, with the first page of its filter. -/
def firstRender (filter : Option (FilterKey P)) : Pagination T P :=
  { filter := filter, data := (pages filter none).data, total := (pages filter none).totalCount
    nextCursor := (pages filter none).nextCursor, cursorStack := [none], loading := false
    prevFilterKey := Pagination.fk partText filter, effect := none, fetches := [], started := 0 }

end

end LedgerLight.Frontend
