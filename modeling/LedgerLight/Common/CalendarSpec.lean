import LedgerLight.Common.Calendar
import LedgerLight.Infra.Tiling
import Mathlib.Tactic.Linarith

/-!
# The calendar

The months follow each other, and the fields of a day name the month that it lies in. In a zone of
constant offset, local time is the time with another origin.

* `civil_spec` : the fields of a day.
* `dayTiling`, `weekTiling`, `monthTiling` : the days, the weeks and the months tile the days.
* `dayStart_le`, `lt_dayStart` : local days start one after the other.
-/

namespace LedgerLight

open Infra

/-! ## The cycle of 400 years -/

/-- The century of a day in a cycle of 400 years; the last one has a day more. -/
theorem exists_century {day : Int} (h0 : 0 ≤ day) (h1 : day < 146097) :
    ∃ c e, 0 ≤ c ∧ c ≤ 3 ∧ 0 ≤ e ∧ e ≤ 36524 ∧ (e = 36524 → c = 3) ∧ day = 36524 * c + e ∧
      day / 36524 - day / 146096 = c := by
  by_cases hlast : day = 146096
  · subst hlast
    exact ⟨3, 36524, by decide⟩
  · exact ⟨day / 36524, day % 36524, by omega⟩

/-- The year of a day in a century; every fourth one has a day more, but the last of a century. -/
theorem exists_year {e : Int} (h0 : 0 ≤ e) (h1 : e ≤ 36524) :
    ∃ q r d, 0 ≤ q ∧ q ≤ 24 ∧ 0 ≤ r ∧ r ≤ 3 ∧ 0 ≤ d ∧ d ≤ 365 ∧ (d = 365 → r = 3) ∧
      (d = 365 → q = 24 → e = 36524) ∧ e = 1461 * q + 365 * r + d := by
  by_cases hleap : e % 1461 = 1460
  · exact ⟨e / 1461, 3, 365, by omega⟩
  · exact ⟨e / 1461, e % 1461 / 365, e % 1461 % 365, by omega⟩

theorem ediv_of_parts {n y z x : Int} (hn : 0 < n) (hx : x = n * y + z) (hz0 : 0 ≤ z) (hz1 : z < n) :
    x / n = y := by
  rw [hx, Int.mul_add_ediv_left _ _ (Int.ne_of_gt hn), Int.ediv_eq_zero_of_lt hz0 hz1, Int.add_zero]

/-- A day of a cycle of 400 years. -/
theorem exists_yearOfCycle {day : Int} (h0 : 0 ≤ day) (h1 : day < 146097) :
    ∃ c q r d, 0 ≤ c ∧ c ≤ 3 ∧ 0 ≤ q ∧ q ≤ 24 ∧ 0 ≤ r ∧ r ≤ 3 ∧ 0 ≤ d ∧ d ≤ 365 ∧
      (d = 365 → r = 3 ∧ (q = 24 → c = 3)) ∧ day = 36524 * c + 1461 * q + 365 * r + d ∧
      (day - day / 1460 + day / 36524 - day / 146096) / 365 = 100 * c + 4 * q + r := by
  obtain ⟨c, e, hc0, hc3, he0, he1, hlast, hday, hcent⟩ := exists_century h0 h1
  obtain ⟨q, r, d, hq0, hq1, hr0, hr3, hd0, hd1, hleap, hleap', he⟩ := exists_year he0 he1
  refine ⟨c, q, r, d, hc0, hc3, hq0, hq1, hr0, hr3, hd0, hd1, ?_, by omega, ?_⟩
  · exact fun h => ⟨hleap h, fun h' => hlast (hleap' h h')⟩
  · -- the day 1460 of four years counts as the last one of its year
    obtain ⟨x, hx⟩ : ∃ x, x = (24 * c + q + 365 * r + d) / 1460 := ⟨_, rfl⟩
    have hx0 : 0 ≤ x ∧ x ≤ 1 := by omega
    have hfirst : d = 0 → x = 0 := by omega
    have hfull : d = 365 → x = 1 := by omega
    have h1460 : day / 1460 = 25 * c + q + x := by
      refine ediv_of_parts (z := 24 * c + q + 365 * r + d - 1460 * x) (by decide) ?_ ?_ ?_
      · linarith
      · omega
      · omega
    refine ediv_of_parts (z := d - x) (by decide) ?_ ?_ ?_
    · linarith
    · omega
    · omega

/-- The first day of a month, by the months since the year 0. -/
def monthStart (k : Int) : Int := firstOfMonth 0 k

theorem firstOfMonth_eq (year month : Int) :
    firstOfMonth year month = monthStart (12 * year + month) := by
  have h : year * 12 + month - 2 = 0 * 12 + (12 * year + month) - 2 := by omega
  unfold monthStart firstOfMonth
  rw [h]

/-- The days before a month of a year that starts in March. -/
theorem monthStart_eq {n c q r m k : Int} (hc0 : 0 ≤ c) (hc1 : c ≤ 3) (hq0 : 0 ≤ q) (hq1 : q ≤ 24)
    (hr0 : 0 ≤ r) (hr1 : r ≤ 3) (hm0 : 0 ≤ m) (hm1 : m ≤ 11)
    (hk : k = 12 * (400 * n + (100 * c + 4 * q + r)) + m + 2) :
    monthStart k =
      146097 * n + 36524 * c + 1461 * q + 365 * r + (153 * m + 2) / 5 - 719468 := by
  obtain ⟨y, hy⟩ : ∃ y, y = 400 * n + (100 * c + 4 * q + r) := ⟨_, rfl⟩
  have hshift : 0 * 12 + k - 2 = 12 * y + m := by omega
  have hyear : (12 * y + m) / 12 = y := by omega
  have hmonth : (12 * y + m) % 12 = m := by omega
  have h4 : y / 4 = 100 * n + 25 * c + q := by omega
  have h100 : y / 100 = 4 * n + c := by omega
  have h400 : y / 400 = n := by omega
  unfold monthStart firstOfMonth
  dsimp only
  rw [hshift, hyear, hmonth, h4, h100, h400]
  omega

/-- A month of a cycle of 400 years. -/
theorem exists_monthOfCycle (k : Int) :
    ∃ n c q r m, 0 ≤ c ∧ c ≤ 3 ∧ 0 ≤ q ∧ q ≤ 24 ∧ 0 ≤ r ∧ r ≤ 3 ∧ 0 ≤ m ∧ m ≤ 11 ∧
      k = 12 * (400 * n + (100 * c + 4 * q + r)) + m + 2 := by
  refine ⟨(k - 2) / 4800, (k - 2) % 4800 / 1200, (k - 2) % 1200 / 48, (k - 2) % 48 / 12,
    (k - 2) % 12, ?_⟩
  omega

/-- The next March comes after the days of a year. -/
theorem monthStart_nextYear {n c q r : Int} (hc0 : 0 ≤ c) (hc1 : c ≤ 3) (hq0 : 0 ≤ q) (hq1 : q ≤ 24)
    (hr0 : 0 ≤ r) (hr1 : r ≤ 3) :
    ∃ days, monthStart (12 * (400 * n + (100 * c + 4 * q + r)) + 14) =
        146097 * n + 36524 * c + 1461 * q + 365 * r + days - 719468 ∧
      365 ≤ days ∧ (r = 3 → (q = 24 → c = 3) → days = 366) := by
  by_cases hr : r < 3
  · refine ⟨365, ?_, by omega, by omega⟩
    rw [monthStart_eq (r := r + 1) (m := 0) (n := n) hc0 hc1 hq0 hq1 (by omega) (by omega)
      (by omega) (by omega) (by omega)]
    omega
  by_cases hq : q < 24
  · refine ⟨366, ?_, by omega, by omega⟩
    rw [monthStart_eq (q := q + 1) (r := 0) (m := 0) (n := n) hc0 hc1 (by omega) (by omega)
      (by omega) (by omega) (by omega) (by omega) (by omega)]
    omega
  by_cases hc : c < 3
  · refine ⟨365, ?_, by omega, by omega⟩
    rw [monthStart_eq (c := c + 1) (q := 0) (r := 0) (m := 0) (n := n) (by omega) (by omega)
      (by omega) (by omega) (by omega) (by omega) (by omega) (by omega) (by omega)]
    omega
  · refine ⟨366, ?_, by omega, by omega⟩
    rw [monthStart_eq (c := 0) (q := 0) (r := 0) (m := 0) (n := n + 1) (by omega) (by omega)
      (by omega) (by omega) (by omega) (by omega) (by omega) (by omega) (by omega)]
    omega

/-- **Months follow each other.** -/
theorem monthStart_lt_succ (k : Int) : monthStart k < monthStart (k + 1) := by
  obtain ⟨n, c, q, r, m, hc0, hc1, hq0, hq1, hr0, hr1, hm0, hm1, hk⟩ := exists_monthOfCycle k
  rw [monthStart_eq hc0 hc1 hq0 hq1 hr0 hr1 hm0 hm1 hk]
  by_cases hm : m < 11
  · rw [monthStart_eq hc0 hc1 hq0 hq1 hr0 hr1 (show 0 ≤ m + 1 by omega) (by omega)
      (show k + 1 = 12 * (400 * n + (100 * c + 4 * q + r)) + (m + 1) + 2 by omega)]
    omega
  · have hlast : k + 1 = 12 * (400 * n + (100 * c + 4 * q + r)) + 14 := by omega
    obtain ⟨days, hdays, hlen, -⟩ := monthStart_nextYear (n := n) hc0 hc1 hq0 hq1 hr0 hr1
    rw [hlast, hdays]
    omega

theorem monthStart_strictMono : StrictMono monthStart :=
  strictMono_int_of_lt_succ monthStart_lt_succ

theorem yearOfCycle_div {c q r : Int} (hq0 : 0 ≤ q) (hq1 : q ≤ 24) (hr0 : 0 ≤ r) (hr1 : r ≤ 3) :
    (100 * c + 4 * q + r) / 4 = 25 * c + q ∧ (100 * c + 4 * q + r) / 100 = c := by
  omega

/-- The fields of a day, by its place in the cycle. -/
theorem civil_eq (day : Int) :
    ∃ n c q r d m, 0 ≤ c ∧ c ≤ 3 ∧ 0 ≤ q ∧ q ≤ 24 ∧ 0 ≤ r ∧ r ≤ 3 ∧ 0 ≤ d ∧ d ≤ 365 ∧
      (d = 365 → r = 3 ∧ (q = 24 → c = 3)) ∧ m = (5 * d + 2) / 153 ∧
      day = 146097 * n + 36524 * c + 1461 * q + 365 * r + d - 719468 ∧
      civil day = (100 * c + 4 * q + r + n * 400 + (if m < 10 then 0 else 1),
        if m < 10 then m + 2 else m - 10, d - (153 * m + 2) / 5 + 1) := by
  obtain ⟨n, hn⟩ : ∃ n, n = (day + 719468) / 146097 := ⟨_, rfl⟩
  obtain ⟨doe, hdoe⟩ : ∃ doe, doe = (day + 719468) % 146097 := ⟨_, rfl⟩
  have hday : day = 146097 * n + doe - 719468 := by omega
  obtain ⟨c, q, r, d, hc0, hc1, hq0, hq1, hr0, hr1, hd0, hd1, hleap, hdoe', hyoe⟩ :=
    exists_yearOfCycle (show 0 ≤ doe by omega) (by omega)
  have hdoy : doe - (365 * (100 * c + 4 * q + r) + (100 * c + 4 * q + r) / 4 -
      (100 * c + 4 * q + r) / 100) = d := by
    obtain ⟨h4, h100⟩ := yearOfCycle_div (c := c) hq0 hq1 hr0 hr1
    rw [h4, h100]
    linarith
  refine ⟨n, c, q, r, d, _, hc0, hc1, hq0, hq1, hr0, hr1, hd0, hd1, hleap, rfl, by linarith, ?_⟩
  unfold civil
  dsimp only
  rw [← hn, ← hdoe, hyoe, hdoy]

/-- **The fields of a day** : it lies in the month that they name, and its date counts from the first
day of that month. -/
theorem civil_spec (day : Int) :
    ∃ year month date, civil day = (year, month, date) ∧ 0 ≤ month ∧ month ≤ 11 ∧
      date = day - monthStart (12 * year + month) + 1 ∧
      monthStart (12 * year + month) ≤ day ∧ day < monthStart (12 * year + month + 1) := by
  obtain ⟨n, c, q, r, d, m, hc0, hc1, hq0, hq1, hr0, hr1, hd0, hd1, hleap, hm, hday, hcivil⟩ :=
    civil_eq day
  have hmonths : 12 * (100 * c + 4 * q + r + n * 400 + (if m < 10 then 0 else 1)) +
      (if m < 10 then m + 2 else m - 10) = 12 * (400 * n + (100 * c + 4 * q + r)) + m + 2 := by
    split
    · omega
    · omega
  refine ⟨_, _, _, hcivil, ?_, ?_, ?_, ?_, ?_⟩
  · split
    · omega
    · omega
  · split
    · omega
    · omega
  · rw [hmonths, monthStart_eq hc0 hc1 hq0 hq1 hr0 hr1 (by omega) (by omega) rfl]
    omega
  · rw [hmonths, monthStart_eq hc0 hc1 hq0 hq1 hr0 hr1 (by omega) (by omega) rfl]
    omega
  · rw [hmonths]
    by_cases hlast : m < 11
    · rw [monthStart_eq hc0 hc1 hq0 hq1 hr0 hr1 (show 0 ≤ m + 1 by omega) (by omega)
        (show _ = 12 * (400 * n + (100 * c + 4 * q + r)) + (m + 1) + 2 by omega)]
      omega
    · have hmarch : 12 * (400 * n + (100 * c + 4 * q + r)) + m + 2 + 1 =
          12 * (400 * n + (100 * c + 4 * q + r)) + 14 := by omega
      obtain ⟨days, hdays, hlen, hleapyear⟩ :=
        monthStart_nextYear (n := n) hc0 hc1 hq0 hq1 hr0 hr1
      rw [hmarch, hdays]
      by_cases hd : d = 365
      · rw [hleapyear (hleap hd).1 (hleap hd).2]
        omega
      · omega

/-! ## Days, weeks and months -/

def dayTiling : Tiling Int where
  bound k := k
  strictMono := strictMono_id
  tileOf day := day
  bound_le _ := le_rfl
  lt_bound day := Int.lt_succ day

/-- The weeks start on Monday; the day 0 is a Thursday. -/
def weekTiling : Tiling Int where
  bound k := 7 * k - 3
  strictMono := strictMono_int_of_lt_succ fun k => by omega
  tileOf day := (day + 3) / 7
  bound_le day := by omega
  lt_bound day := by omega

/-- The month of a day, by the months since the year 0. -/
def monthOf (day : Int) : Int := 12 * (civil day).1 + (civil day).2.1

def monthTiling : Tiling Int where
  bound := monthStart
  strictMono := monthStart_strictMono
  tileOf := monthOf
  bound_le day := by
    obtain ⟨year, month, date, hcivil, -, -, -, hle, -⟩ := civil_spec day
    unfold monthOf
    rw [hcivil]
    exact hle
  lt_bound day := by
    obtain ⟨year, month, date, hcivil, -, -, -, -, hlt⟩ := civil_spec day
    unfold monthOf
    rw [hcivil]
    exact hlt

section

variable {day k : Int}

theorem monthOf_monthStart : monthOf (monthStart k) = k := monthTiling.tileOf_bound k

theorem year_eq : (civil day).1 = monthOf day / 12 := by
  obtain ⟨year, month, date, hcivil, hm0, hm1, -⟩ := civil_spec day
  unfold monthOf
  rw [hcivil]
  dsimp only
  omega

theorem month_eq : (civil day).2.1 = monthOf day % 12 := by
  obtain ⟨year, month, date, hcivil, hm0, hm1, -⟩ := civil_spec day
  unfold monthOf
  rw [hcivil]
  dsimp only
  omega

theorem date_eq : (civil day).2.2 = day - monthStart (monthOf day) + 1 := by
  obtain ⟨year, month, date, hcivil, -, -, hdate, -⟩ := civil_spec day
  unfold monthOf
  rw [hcivil]
  exact hdate

theorem makeDay_eq (year month date : Int) :
    makeDay year month date = monthStart (12 * year + month) + date - 1 := by
  rw [makeDay, firstOfMonth_eq]

/-- A day is made of its fields. -/
theorem makeDay_civil : makeDay (civil day).1 (civil day).2.1 (civil day).2.2 = day := by
  rw [makeDay_eq, date_eq]
  show monthStart (monthOf day) + _ - 1 = day
  omega

/-- The days of a year and later. -/
theorem le_year_iff {year : Int} : year ≤ (civil day).1 ↔ monthStart (12 * year) ≤ day := by
  rw [← show monthTiling.bound (12 * year) = monthStart (12 * year) from rfl,
    ← monthTiling.le_tileOf_iff, year_eq]
  show _ ↔ 12 * year ≤ monthOf day
  omega

theorem fullYear_of_le {year : Int} (h : 100 ≤ year) : fullYear year = year := by
  unfold fullYear
  rw [if_neg (by omega)]

theorem fullYear_fullYear (year : Int) : fullYear (fullYear year) = fullYear year := by
  by_cases h : 0 ≤ year ∧ year ≤ 99
  · have hfull : fullYear year = 1900 + year := if_pos h
    rw [hfull]
    exact fullYear_of_le (by omega)
  · have hkeep : fullYear year = year := if_neg h
    rw [hkeep, hkeep]

end

/-! ## Local time -/

/-- The zone has the same offset at all times. -/
def TimeZone.HasOffset (zone : TimeZone) (offset : Int) : Prop :=
  (∀ date, zone.offset date = offset) ∧ ∀ time, zone.offsetOfLocal time = offset

theorem Platform.plain_hasOffset : Platform.plain.zone.HasOffset 0 :=
  ⟨fun _ => rfl, fun _ => rfl⟩

/-- The start of a local day. -/
def dayStart (zone : TimeZone) (day : Int) : Instant := .ofLocal zone (day * dayInMs)

section

variable {zone : TimeZone} {offset time day days : Int} {date : Instant}

theorem toLocal_ofLocal (h : zone.HasOffset offset) :
    (Instant.ofLocal zone time).toLocal zone = time := by
  unfold Instant.ofLocal Instant.toLocal
  rw [h.1, h.2]
  omega

theorem ofLocal_add (h : zone.HasOffset offset) (more : Int) :
    Instant.ofLocal zone (time + more) = .ofLocal zone time + more := by
  unfold Instant.ofLocal
  rw [h.2, h.2]
  exact (sub_add_eq_add_sub time offset more).symm

theorem ofLocal_le (h : zone.HasOffset offset) :
    Instant.ofLocal zone time ≤ date ↔ time ≤ date.toLocal zone := by
  unfold Instant.ofLocal Instant.toLocal
  rw [h.1, h.2]
  exact sub_le_iff_le_add

theorem lt_ofLocal (h : zone.HasOffset offset) :
    date < Instant.ofLocal zone time ↔ date.toLocal zone < time := by
  unfold Instant.ofLocal Instant.toLocal
  rw [h.1, h.2]
  exact lt_sub_iff_add_lt

/-- The steps of local time: its hours, its days. -/
def localTiling (h : zone.HasOffset offset) {unit : Int} (hunit : 0 < unit) : Tiling Instant where
  bound k := .ofLocal zone (k * unit)
  strictMono j k hjk := by
    rw [lt_ofLocal h, toLocal_ofLocal h]
    exact Int.mul_lt_mul_of_pos_right hjk hunit
  tileOf date := date.toLocal zone / unit
  bound_le date := (ofLocal_le h).mpr (Int.ediv_mul_le _ (Int.ne_of_gt hunit))
  lt_bound date := (lt_ofLocal h).mpr (Int.lt_ediv_add_one_mul_self _ hunit)

theorem dayInMs_pos : 0 < dayInMs := by decide

theorem hourInMs_pos : 0 < hourInMs := by decide

theorem localDay_dayStart (h : zone.HasOffset offset) :
    (dayStart zone day).localDay zone = day := by
  unfold Instant.localDay dayStart
  rw [toLocal_ofLocal h]
  exact Int.mul_ediv_cancel day (by decide)

/-- A day starts at an instant or before it if the instant is of the day or a later one. -/
theorem dayStart_le (h : zone.HasOffset offset) :
    dayStart zone day ≤ date ↔ day ≤ date.localDay zone := by
  unfold dayStart Instant.localDay
  rw [ofLocal_le h, Int.le_ediv_iff_mul_le dayInMs_pos]

theorem lt_dayStart (h : zone.HasOffset offset) :
    date < dayStart zone day ↔ date.localDay zone < day := by
  unfold dayStart Instant.localDay
  rw [lt_ofLocal h, Int.ediv_lt_iff_lt_mul dayInMs_pos]

theorem dayStart_inj (h : zone.HasOffset offset) {day' : Int} :
    dayStart zone day = dayStart zone day' ↔ day = day' := by
  constructor
  · intro he
    have hdays := congrArg (Instant.localDay zone) he
    rwa [localDay_dayStart h, localDay_dayStart h] at hdays
  · exact fun he => he ▸ rfl

theorem startOfDay_eq : date.startOfDay zone = dayStart zone (date.localDay zone) := rfl

theorem addDays_dayStart (h : zone.HasOffset offset) :
    (dayStart zone day).addDays zone days = dayStart zone (day + days) := by
  have hmod : (dayStart zone day).toLocal zone % dayInMs = 0 := by
    unfold dayStart
    rw [toLocal_ofLocal h]
    exact Int.mul_emod_left day dayInMs
  unfold Instant.addDays
  rw [localDay_dayStart h, hmod, Int.add_zero]
  rfl

theorem ofFields_eq (year month : Int) :
    Instant.ofFields zone year month 1 =
      dayStart zone (monthStart (12 * fullYear year + month)) := by
  unfold Instant.ofFields dayStart
  rw [makeDay_eq, Int.zero_mul, Int.add_zero]
  congr 2
  omega

end

end LedgerLight
