import LedgerLight.Common.CalendarSpec
import LedgerLight.Infra.Digits

/-!
# `toISOString`

The text of a date in UTC. A year has four digits, or a sign and six.

* `ofISOString_toISOString` : a date is read back as it was written.
-/

namespace LedgerLight

open Infra.Digits

/-- What a `Date` object holds, if it is valid. -/
def Instant.IsTime (d : Instant) : Prop := -8640000000000000 ≤ d ∧ d ≤ 8640000000000000

instance (d : Instant) : Decidable d.IsTime :=
  inferInstanceAs (Decidable (-8640000000000000 ≤ d ∧ d ≤ 8640000000000000))

def isoYear (year : Int) : List Char :=
  if 0 ≤ year ∧ year ≤ 9999 then padded 4 year.natAbs
  else (if year < 0 then '-' else '+') :: padded 6 year.natAbs

namespace Instant

def toISOString (d : Instant) : List Char :=
  let fields := civil (d / dayInMs)
  let time := d % dayInMs
  isoYear fields.1 ++ '-' :: (padded 2 (fields.2.1 + 1).natAbs ++
    '-' :: (padded 2 fields.2.2.natAbs ++ 'T' :: (padded 2 (time / hourInMs).natAbs ++
    ':' :: (padded 2 (time % hourInMs / 60000).natAbs ++
    ':' :: (padded 2 (time % 60000 / 1000).natAbs ++
    '.' :: (padded 3 (time % 1000).natAbs ++ ['Z']))))))

end Instant

/-! ## Reading -/

def readDigits (k : Nat) (cs : List Char) : Option (Nat × List Char) :=
  if k ≤ cs.length ∧ (cs.take k).all Char.isDigit = true then
    some (Nat.ofDigitChars 10 (cs.take k) 0, cs.drop k)
  else none

def readChar (c : Char) (cs : List Char) : Option (List Char) :=
  if cs.head? = some c then some cs.tail else none

def readYear (cs : List Char) : Option (Int × List Char) :=
  if cs.head? = some '-' then (readDigits 6 cs.tail).map fun x => (-x.1, x.2)
  else if cs.head? = some '+' then (readDigits 6 cs.tail).map fun x => (x.1, x.2)
  else (readDigits 4 cs).map fun x => (x.1, x.2)

/-- The instant that the fields of a text name, in or out of their range. -/
def readFields (cs : List Char) : Option Instant := do
  let (year, cs) ← readYear cs
  let cs ← readChar '-' cs
  let (month, cs) ← readDigits 2 cs
  let cs ← readChar '-' cs
  let (date, cs) ← readDigits 2 cs
  let cs ← readChar 'T' cs
  let (hours, cs) ← readDigits 2 cs
  let cs ← readChar ':' cs
  let (minutes, cs) ← readDigits 2 cs
  let cs ← readChar ':' cs
  let (seconds, cs) ← readDigits 2 cs
  let cs ← readChar '.' cs
  let (ms, _) ← readDigits 3 cs
  pure (makeDay year (month - 1) date * dayInMs + hours * hourInMs + minutes * 60000 +
    seconds * 1000 + ms)

/-- Reads what `toISOString` writes, and no other text. -/
def Instant.ofISOString (cs : List Char) : Option Instant :=
  (readFields cs).filter fun d => d.toISOString == cs

/-! ## A date is read back -/

section

variable {k n : Nat} {cs : List Char} {day : Int}

theorem readDigits_padded (h : n < 10 ^ k) : readDigits k (padded k n ++ cs) = some (n, cs) := by
  have htake : (padded k n ++ cs).take k = padded k n := by
    rw [List.take_append_of_le_length (Nat.le_of_eq (length_padded k n).symm),
      List.take_of_length_le (Nat.le_of_eq (length_padded k n))]
  have hdrop : (padded k n ++ cs).drop k = cs := by
    have hlen : (padded k n ++ cs).drop (padded k n).length = cs := List.drop_left
    rw [length_padded] at hlen
    exact hlen
  rw [readDigits, htake, hdrop, if_pos, ofDigitChars_padded h]
  refine ⟨?_, List.all_eq_true.mpr isDigit_padded⟩
  rw [List.length_append, length_padded]
  omega

theorem readChar_cons (c : Char) : readChar c (c :: cs) = some cs := if_pos rfl

theorem readYear_isoYear {year : Int} (h : -1000000 < year ∧ year < 1000000) :
    readYear (isoYear year ++ cs) = some (year, cs) := by
  unfold isoYear
  split
  · next hfour =>
    rw [readYear, if_neg (head?_padded_ne (by decide) rfl cs),
      if_neg (head?_padded_ne (by decide) rfl cs), readDigits_padded (by omega)]
    refine congrArg (fun y => some (y, cs)) ?_
    show (year.natAbs : Int) = year
    omega
  split
  · next hneg =>
    rw [List.cons_append, readYear, List.head?_cons, if_pos rfl, List.tail_cons,
      readDigits_padded (by omega)]
    refine congrArg (fun y => some (y, cs)) ?_
    show -(year.natAbs : Int) = year
    omega
  · next hpos =>
    rw [List.cons_append, readYear, List.head?_cons, if_neg (by decide), if_pos rfl,
      List.tail_cons, readDigits_padded (by omega)]
    refine congrArg (fun y => some (y, cs)) ?_
    show (year.natAbs : Int) = year
    omega

/-! ### The fields are in range -/

theorem date_bounds (day : Int) : 1 ≤ (civil day).2.2 ∧ (civil day).2.2 ≤ 31 := by
  obtain ⟨year, month, date, hcivil, -, -, hdate, hle, -⟩ := civil_spec day
  constructor
  · rw [hcivil]
    dsimp only
    omega
  · unfold civil
    dsimp only
    omega

theorem month_bounds (day : Int) : 0 ≤ (civil day).2.1 ∧ (civil day).2.1 ≤ 11 := by
  rw [month_eq]
  omega

theorem year_bounds (h : -100000000 ≤ day ∧ day ≤ 100000000) :
    -1000000 < (civil day).1 ∧ (civil day).1 < 1000000 := by
  -- the days that a `Date` object holds lie well between these years
  have hfirst : monthStart (12 * (-999999)) ≤ -100000000 := by decide
  have hlast : 100000000 < monthStart (12 * 1000000) := by decide
  have hle : -999999 ≤ (civil day).1 ↔ monthStart (12 * (-999999)) ≤ day := le_year_iff
  have hlt : 1000000 ≤ (civil day).1 ↔ monthStart (12 * 1000000) ≤ day := le_year_iff
  omega

theorem readFields_toISOString {d : Int} (h : Instant.IsTime d) :
    readFields (Instant.toISOString d) = some d := by
  have hlow : -8640000000000000 ≤ d := h.1
  have hhigh : d ≤ 8640000000000000 := h.2
  have hdayMs : dayInMs = 86400000 := rfl
  have hhourMs : hourInMs = 3600000 := rfl
  have hyear := year_bounds (show -100000000 ≤ d / 86400000 ∧ d / 86400000 ≤ 100000000 by omega)
  have hmonth := month_bounds (d / 86400000)
  have hdate := date_bounds (d / 86400000)
  unfold readFields Instant.toISOString
  dsimp only
  rw [hdayMs, hhourMs]
  rw [readYear_isoYear hyear]
  simp only [Option.bind_eq_bind, Option.bind_some, readChar_cons]
  rw [readDigits_padded (by omega)]
  simp only [Option.bind_some, readChar_cons]
  rw [readDigits_padded (by omega)]
  simp only [Option.bind_some, readChar_cons]
  rw [readDigits_padded (by omega)]
  simp only [Option.bind_some, readChar_cons]
  rw [readDigits_padded (by omega)]
  simp only [Option.bind_some, readChar_cons]
  rw [readDigits_padded (by omega)]
  simp only [Option.bind_some, readChar_cons]
  rw [readDigits_padded (by omega)]
  refine congrArg some ?_
  have hmonth' : (((civil (d / 86400000)).2.1 + 1).natAbs : Int) - 1 =
      (civil (d / 86400000)).2.1 := by omega
  have hdate' : ((civil (d / 86400000)).2.2.natAbs : Int) = (civil (d / 86400000)).2.2 := by omega
  rw [hmonth', hdate', makeDay_civil]
  show d / 86400000 * 86400000 + ((d % 86400000 / 3600000).natAbs : Int) * 3600000 +
    ((d % 86400000 % 3600000 / 60000).natAbs : Int) * 60000 +
    ((d % 86400000 % 60000 / 1000).natAbs : Int) * 1000 +
    ((d % 86400000 % 1000).natAbs : Int) = d
  omega

/-- **A date is read back as it was written.** -/
theorem ofISOString_toISOString {d : Instant} (h : d.IsTime) :
    Instant.ofISOString d.toISOString = some d := by
  rw [Instant.ofISOString, readFields_toISOString h]
  simp

end

end LedgerLight
