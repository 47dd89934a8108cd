import LedgerLight.Common.Platform

/-!
# Dates

What the services use of `Date` objects: an instant, and the fields of its local time. A day is a
number of days since the epoch, a month counts from 0.
-/

namespace LedgerLight

def hourInMs : Int := 60 * 60 * 1000

def dayInMs : Int := 24 * hourInMs

/-! ## The calendar -/

/-- A year from 0 to 99 is one of the twentieth century for `Date` and `Date.UTC`. -/
def fullYear (year : Int) : Int := if 0 ≤ year ∧ year ≤ 99 then 1900 + year else year

/-- The first day of a month: the years are counted from March, in cycles of 400. -/
def firstOfMonth (year month : Int) : Int :=
  let shifted := year * 12 + month - 2
  let y := shifted / 12
  let m := shifted % 12
  365 * y + y / 4 - y / 100 + y / 400 + (153 * m + 2) / 5 - 719468

/-- The day of a calendar date; days and months beyond their range go on in the next ones. -/
def makeDay (year month date : Int) : Int := firstOfMonth year month + date - 1

/-- The year, the month and the date of a day. -/
def civil (day : Int) : Int × Int × Int :=
  let z := day + 719468
  let era := z / 146097
  let doe := z % 146097
  let yoe := (doe - doe / 1460 + doe / 36524 - doe / 146096) / 365
  let doy := doe - (365 * yoe + yoe / 4 - yoe / 100)
  let mp := (5 * doy + 2) / 153
  let month := if mp < 10 then mp + 2 else mp - 10
  let year := yoe + era * 400 + (if mp < 10 then 0 else 1)
  (year, month, doy - (153 * mp + 2) / 5 + 1)

example : makeDay 1970 0 1 = 0 ∧ makeDay 2024 2 1 = makeDay 2024 1 29 + 1 ∧
    civil (makeDay 2000 1 29) = (2000, 1, 29) ∧ makeDay 2023 12 1 = makeDay 2024 0 1 := by
  decide

/-! ## Local time -/

namespace Instant

variable (zone : TimeZone) (date : Instant)

/-- The local time, as an instant of a zone without offset. -/
def toLocal : Int := date + zone.offset date

def ofLocal (time : Int) : Instant := time - zone.offsetOfLocal time

/-- The local day. -/
def localDay : Int := date.toLocal zone / dayInMs

def getFullYear : Int := (civil (date.localDay zone)).1

def getMonth : Int := (civil (date.localDay zone)).2.1

def getDate : Int := (civil (date.localDay zone)).2.2

def getHours : Int := date.toLocal zone % dayInMs / hourInMs

/-- Sunday is 0. -/
def getDay : Int := (date.localDay zone + 4) % 7

/-- `new Date(year, month, date, hours)`. -/
def ofFields (year month date : Int) (hours : Int := 0) : Instant :=
  ofLocal zone (makeDay (fullYear year) month date * dayInMs + hours * hourInMs)

/-- `setHours(0, 0, 0, 0)`. -/
def startOfDay : Instant := ofLocal zone (date.localDay zone * dayInMs)

/-- `setDate(getDate() + days)`. -/
def addDays (days : Int) : Instant :=
  ofLocal zone ((date.localDay zone + days) * dayInMs + date.toLocal zone % dayInMs)

end Instant

end LedgerLight
