import LedgerLight.Common.Errors
import Mathlib.Data.List.Perm.Basic
import Mathlib.Data.Prod.Lex

/-!
# What reads take from the platform

How texts compare, the order of rows that no query orders, and the local time: the database and the
language runtime decide these, not the services.
-/

namespace LedgerLight

/-- The collation of the database orders all texts. -/
structure Collation where
  compare : String → String → Ordering
  trans : Std.TransCmp compare
  eq : Std.LawfulEqCmp compare

/-- The collation by code points. -/
def Collation.binary : Collation := ⟨Ord.compare, inferInstance, inferInstance⟩

/-- An instant of a `Date` object, in milliseconds since the epoch. -/
abbrev Instant := Int

/-- The time zone of the process: what is added to an instant to get the local time, by the instant
and by the local time. The labels are those of `toLocaleTimeString` and `toLocaleDateString`. -/
structure TimeZone where
  offset : Instant → Int
  offsetOfLocal : Int → Int
  hourLabel : Instant → String
  weekdayLabel : Instant → String
  dayLabel : Instant → String

structure Platform where
  collation : Collation
  /-- `contains` with `mode: 'insensitive'`, on a text and what is searched. -/
  contains : String → String → Bool
  idText : Id → String
  /-- `left.localeCompare(right)`. -/
  localeCompare : String → String → Int
  /-- The order in which the database returns rows that are not ordered, or ordered alike. -/
  arrange : {R : Type} → List R → List R
  arrange_perm : ∀ {R : Type} (rows : List R), (arrange rows).Perm rows
  /-- `new Date(text)`, if that is a valid date. -/
  parseDate : String → Option Instant
  zone : TimeZone

/-- An order in which the database returns rows that are not ordered. -/
structure Arrangement where
  order : {R : Type} → List R → List R
  perm : ∀ {R : Type} (rows : List R), (order rows).Perm rows

/-- Rows as they come. -/
def Arrangement.asGiven : Arrangement := ⟨id, fun rows => .refl rows⟩

def Arrangement.reversed : Arrangement := ⟨List.reverse, List.reverse_perm⟩

/-- The same platform, with rows in another order. -/
def Platform.arranged (p : Platform) (a : Arrangement) : Platform :=
  { p with arrange := a.order, arrange_perm := a.perm }

/-- A platform of UTC, with texts in the order of their code points and rows as they come. -/
def Platform.plain : Platform where
  collation := .binary
  contains s t := 1 < (s.toLower.splitOn t.toLower).length
  idText i := toString i.step ++ "-" ++ toString i.index
  localeCompare s t :=
    match compare s t with
    | .lt => -1
    | .eq => 0
    | .gt => 1
  arrange rows := rows
  arrange_perm rows := .refl rows
  parseDate _ := none
  zone :=
    { offset := fun _ => 0, offsetOfLocal := fun _ => 0, hourLabel := fun _ => ""
      weekdayLabel := fun _ => "", dayLabel := fun _ => "" }

theorem Id.toLex_injective :
    Function.Injective fun i : Id => (toLex (i.step, i.index) : Nat ×ₗ Nat) := by
  intro i j h
  cases i
  cases j
  cases h
  rfl

/-- Ids are ordered as texts; that order is some linear order. -/
instance : LinearOrder Id :=
  { LinearOrder.lift' _ Id.toLex_injective with
    toDecidableEq := instDecidableEqId
    compare_eq_compareOfLessAndEq := fun i j => by
      rw [Subsingleton.elim instDecidableEqId
        (LinearOrder.lift' _ Id.toLex_injective).toDecidableEq]
      exact (LinearOrder.lift' _ Id.toLex_injective).compare_eq_compareOfLessAndEq i j }

end LedgerLight
