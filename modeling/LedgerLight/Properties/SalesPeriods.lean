import LedgerLight.Common.CalendarSpec
import LedgerLight.Dashboard.Service

/-!
# The periods of the sales overview

In a zone of constant offset a period is a tile of the days: a day, a week or a month. What the
service reads off a date is the tile that the date lies in, unless it is asked for months and the year
is one of the first hundred: `new Date(year, month, 1)` takes these for years of the twentieth century.

* `resolveSalesPeriod_eq` : the period of a tile.
* `tilesCalendar_iff` : exactly when the periods tile the calendar.
-/

namespace LedgerLight

open Infra

/-! ## Periods are tiles -/

namespace DashboardSalesTimeline

def tiling : DashboardSalesTimeline → Tiling Int
  | day => dayTiling
  | week => weekTiling
  | month => monthTiling

/-- The tile that the service reads off a day. -/
def readTile : DashboardSalesTimeline → Int → Int
  | day, d => dayTiling.tileOf d
  | week, d => weekTiling.tileOf d
  | month, d => 12 * fullYear (civil d).1 + (civil d).2.1

end DashboardSalesTimeline

/-- The period of a tile, if `current` is the one of now. -/
def tilePeriod (zone : TimeZone) (t : Tiling Int) (k current : Int) : SalesPeriod :=
  { anchor := dayStart zone (t.bound k), periodStart := dayStart zone (t.bound k)
    periodEnd := dayStart zone (t.bound (k + 1))
    previousAnchor := dayStart zone (t.bound (k - 1))
    nextAnchor := dayStart zone (t.bound (k + 1))
    currentPeriodStart := dayStart zone (t.bound current) }

section

variable {zone : TimeZone} {offset : Int} {timeline : DashboardSalesTimeline}
  {now anchor date : Instant} {day k : Int}

theorem startOfWeek_eq (h : zone.HasOffset offset) :
    startOfWeek zone date =
      dayStart zone (weekTiling.bound (weekTiling.tileOf (date.localDay zone))) := by
  unfold startOfWeek Instant.getDay
  dsimp only
  rw [startOfDay_eq, localDay_dayStart h, addDays_dayStart h]
  congr 1
  show _ = 7 * ((date.localDay zone + 3) / 7) - 3
  omega

theorem startOfMonth_eq :
    startOfMonth zone date =
      dayStart zone (monthStart (DashboardSalesTimeline.month.readTile (date.localDay zone))) :=
  ofFields_eq _ _

/-- From the start of a month that the service has read, it gets to the others. -/
theorem addMonths_startOfMonth (h : zone.HasOffset offset) (months : Int) :
    addMonths zone (startOfMonth zone date) months =
      dayStart zone (monthStart
        (DashboardSalesTimeline.month.readTile (date.localDay zone) + months)) := by
  obtain ⟨k, hk⟩ : ∃ k, k = DashboardSalesTimeline.month.readTile (date.localDay zone) := ⟨_, rfl⟩
  have hmonth : 0 ≤ (civil (date.localDay zone)).2.1 ∧ (civil (date.localDay zone)).2.1 ≤ 11 := by
    rw [month_eq]
    omega
  have hread : k = 12 * fullYear (civil (date.localDay zone)).1 +
      (civil (date.localDay zone)).2.1 := hk
  have hyear : (civil (monthStart k)).1 = fullYear (civil (date.localDay zone)).1 := by
    rw [year_eq, monthOf_monthStart]
    omega
  have hmonth' : (civil (monthStart k)).2.1 = (civil (date.localDay zone)).2.1 := by
    rw [month_eq, monthOf_monthStart]
    omega
  rw [startOfMonth_eq, ← hk]
  unfold addMonths Instant.getFullYear Instant.getMonth
  rw [localDay_dayStart h, hyear, hmonth', ofFields_eq, fullYear_fullYear, ← Int.add_assoc,
    ← hread]

/-- **The period of a date** is the tile that the service reads off its day. -/
theorem resolveSalesPeriod_eq (h : zone.HasOffset offset) (timeline : DashboardSalesTimeline)
    (now anchor : Instant) :
    resolveSalesPeriod zone timeline now anchor =
      tilePeriod zone timeline.tiling (timeline.readTile (anchor.localDay zone))
        (timeline.readTile (now.localDay zone)) := by
  cases timeline with
  | day =>
    unfold resolveSalesPeriod
    dsimp only
    rw [startOfDay_eq, startOfDay_eq, addDays_dayStart h, addDays_dayStart h]
    rfl
  | week =>
    unfold resolveSalesPeriod
    dsimp only
    rw [startOfWeek_eq h, startOfWeek_eq h, addDays_dayStart h, addDays_dayStart h]
    have hnext (k : Int) : weekTiling.bound k + 7 = weekTiling.bound (k + 1) := by
      show 7 * k - 3 + 7 = 7 * (k + 1) - 3
      omega
    have hprevious (k : Int) : weekTiling.bound k + -7 = weekTiling.bound (k - 1) := by
      show 7 * k - 3 + -7 = 7 * (k - 1) - 3
      omega
    rw [hnext, hprevious]
    rfl
  | month =>
    unfold resolveSalesPeriod
    dsimp only
    rw [addMonths_startOfMonth h, addMonths_startOfMonth h, startOfMonth_eq, startOfMonth_eq]
    rfl

/-! ## What the service reads -/

/-- Only months of the first hundred years are read as others. -/
theorem readTile_eq (hyears : timeline = .month → 100 ≤ (civil day).1) :
    timeline.readTile day = timeline.tiling.tileOf day := by
  cases timeline with
  | day => rfl
  | week => rfl
  | month =>
    show 12 * fullYear (civil day).1 + (civil day).2.1 = 12 * (civil day).1 + (civil day).2.1
    rw [fullYear_of_le (hyears rfl)]

/-- The year of a day is that of its month. -/
theorem le_year_of_tileOf (year : Int) (hk : timeline.tiling.tileOf day = k)
    (hyears : timeline = .month → 12 * year ≤ k) : timeline = .month → year ≤ (civil day).1 := by
  intro hmonth
  have hle := hyears hmonth
  subst hmonth
  rw [year_eq]
  have htile : monthOf day = k := hk
  omega

/-- What is read off the first day of a tile. -/
theorem readTile_bound (hyears : timeline = .month → 1200 ≤ k) :
    timeline.readTile (timeline.tiling.bound k) = k := by
  have hk := timeline.tiling.tileOf_bound k
  rw [readTile_eq (le_year_of_tileOf 100 hk hyears), hk]

/-! ## The calendar -/

/-- The years from 100 to 9999, in local time. -/
def InYears (zone : TimeZone) (date : Instant) : Prop :=
  100 ≤ date.getFullYear zone ∧ date.getFullYear zone ≤ 9999

instance (zone : TimeZone) (date : Instant) : Decidable (InYears zone date) :=
  inferInstanceAs (Decidable (_ ∧ _))

/-- The periods tile the calendar around the one of `anchor`. -/
structure TilesCalendar (zone : TimeZone) (timeline : DashboardSalesTimeline)
    (now anchor : Instant) : Prop where
  contains : (resolveSalesPeriod zone timeline now anchor).periodStart ≤ anchor ∧
    anchor < (resolveSalesPeriod zone timeline now anchor).periodEnd
  same : ∀ b, (resolveSalesPeriod zone timeline now anchor).periodStart ≤ b →
    b < (resolveSalesPeriod zone timeline now anchor).periodEnd →
    resolveSalesPeriod zone timeline now b = resolveSalesPeriod zone timeline now anchor
  next_start : (resolveSalesPeriod zone timeline now
      (resolveSalesPeriod zone timeline now anchor).nextAnchor).periodStart =
    (resolveSalesPeriod zone timeline now anchor).periodEnd
  previous_end : (resolveSalesPeriod zone timeline now
      (resolveSalesPeriod zone timeline now anchor).previousAnchor).periodEnd =
    (resolveSalesPeriod zone timeline now anchor).periodStart
  next_previous : resolveSalesPeriod zone timeline now (resolveSalesPeriod zone timeline now
      (resolveSalesPeriod zone timeline now anchor).nextAnchor).previousAnchor =
    resolveSalesPeriod zone timeline now anchor
  previous_next : resolveSalesPeriod zone timeline now (resolveSalesPeriod zone timeline now
      (resolveSalesPeriod zone timeline now anchor).previousAnchor).nextAnchor =
    resolveSalesPeriod zone timeline now anchor
  current : (resolveSalesPeriod zone timeline now anchor).periodStart =
      (resolveSalesPeriod zone timeline now anchor).currentPeriodStart ↔
    (resolveSalesPeriod zone timeline now anchor).periodStart ≤ now ∧
      now < (resolveSalesPeriod zone timeline now anchor).periodEnd

/-- Reading the tile before the one of the anchor, and that of now, is all that may go wrong. -/
theorem tilesCalendar_iff_readTile (h : zone.HasOffset offset)
    (hk : timeline.tiling.tileOf (anchor.localDay zone) = k)
    (hyears : timeline = .month → 1200 ≤ k) :
    TilesCalendar zone timeline now anchor ↔
      timeline.readTile (timeline.tiling.bound (k - 1)) = k - 1 ∧
        (timeline.readTile (now.localDay zone) = k ↔
          timeline.tiling.tileOf (now.localDay zone) = k) := by
  have hread (date : Instant) (htile : timeline.tiling.tileOf (date.localDay zone) = k) :
      timeline.readTile (date.localDay zone) = k := by
    rw [readTile_eq (le_year_of_tileOf 100 htile hyears), htile]
  have hperiod : resolveSalesPeriod zone timeline now anchor =
      tilePeriod zone timeline.tiling k (timeline.readTile (now.localDay zone)) := by
    rw [resolveSalesPeriod_eq h, hread anchor hk]
  have hbound (j : Int) :
      resolveSalesPeriod zone timeline now (dayStart zone (timeline.tiling.bound j)) =
        tilePeriod zone timeline.tiling (timeline.readTile (timeline.tiling.bound j))
          (timeline.readTile (now.localDay zone)) := by
    rw [resolveSalesPeriod_eq h, localDay_dayStart h]
  have hin (date : Instant) : (tilePeriod zone timeline.tiling k
      (timeline.readTile (now.localDay zone))).periodStart ≤ date ∧
        date < (tilePeriod zone timeline.tiling k
          (timeline.readTile (now.localDay zone))).periodEnd ↔
      timeline.tiling.tileOf (date.localDay zone) = k := by
    rw [timeline.tiling.tileOf_eq_iff]
    exact and_congr (dayStart_le h) (lt_dayStart h)
  have hthis : timeline.readTile (timeline.tiling.bound k) = k := readTile_bound hyears
  have hnext : timeline.readTile (timeline.tiling.bound (k + 1)) = k + 1 :=
    readTile_bound fun hmonth => (hyears hmonth).trans (by omega)
  have hstart (i j : Int) : dayStart zone (timeline.tiling.bound i) =
      dayStart zone (timeline.tiling.bound j) ↔ i = j := by
    rw [dayStart_inj h, timeline.tiling.bound_inj]
  have hcurrent : ((tilePeriod zone timeline.tiling k
      (timeline.readTile (now.localDay zone))).periodStart =
        (tilePeriod zone timeline.tiling k
          (timeline.readTile (now.localDay zone))).currentPeriodStart) ↔
      timeline.readTile (now.localDay zone) = k := (hstart _ _).trans eq_comm
  constructor
  · intro htiles
    refine ⟨?_, ?_⟩
    · have hend := htiles.previous_end
      rw [hperiod] at hend
      have hplace := (hstart _ _).mp (hbound (k - 1) ▸ hend)
      omega
    · rw [← hcurrent, ← hin now, ← hperiod]
      exact htiles.current
  · rintro ⟨hprevious, hnow⟩
    constructor
    · rw [hperiod]
      exact (hin anchor).mpr hk
    · intro b hb0 hb1
      rw [hperiod] at hb0 hb1 ⊢
      rw [resolveSalesPeriod_eq h, hread b ((hin b).mp ⟨hb0, hb1⟩)]
    · rw [hperiod]
      show (resolveSalesPeriod zone timeline now
        (dayStart zone (timeline.tiling.bound (k + 1)))).periodStart = _
      rw [hbound, hnext]
      rfl
    · rw [hperiod]
      show (resolveSalesPeriod zone timeline now
        (dayStart zone (timeline.tiling.bound (k - 1)))).periodEnd = _
      rw [hbound, hprevious]
      exact (hstart _ _).mpr (Int.sub_add_cancel k 1)
    · rw [hperiod]
      show resolveSalesPeriod zone timeline now (resolveSalesPeriod zone timeline now
        (dayStart zone (timeline.tiling.bound (k + 1)))).previousAnchor = _
      rw [hbound, hnext]
      show resolveSalesPeriod zone timeline now
        (dayStart zone (timeline.tiling.bound (k + 1 - 1))) = _
      rw [Int.add_sub_cancel, hbound, hthis]
    · rw [hperiod]
      show resolveSalesPeriod zone timeline now (resolveSalesPeriod zone timeline now
        (dayStart zone (timeline.tiling.bound (k - 1)))).nextAnchor = _
      rw [hbound, hprevious]
      show resolveSalesPeriod zone timeline now
        (dayStart zone (timeline.tiling.bound (k - 1 + 1))) = _
      rw [Int.sub_add_cancel, hbound, hthis]
    · rw [hperiod, hcurrent, hin, hnow]

/-- Of the months from January 100 on, only that one follows a month that is read as another. -/
theorem readMonth_previous (hk : 1200 ≤ k) :
    12 * fullYear ((k - 1) / 12) + (k - 1) % 12 = k - 1 ↔ ¬ k = 1200 := by
  by_cases hfirst : k = 1200
  · subst hfirst
    decide
  · rw [fullYear_of_le (by omega)]
    omega

/-- A month of the first hundred years is read as one of the months from January 100 on. -/
theorem readMonth_current {m : Int} (hk : 1200 ≤ k) :
    (12 * fullYear (m / 12) + m % 12 = k ↔ m = k) ↔
      ¬ (0 ≤ m / 12 ∧ m / 12 ≤ 99 ∧ k / 12 = 1900 + m / 12 ∧ k % 12 = m % 12) := by
  by_cases hearly : 0 ≤ m / 12 ∧ m / 12 ≤ 99
  · have hread : fullYear (m / 12) = 1900 + m / 12 := if_pos hearly
    rw [hread]
    omega
  · have hread : fullYear (m / 12) = m / 12 := if_neg hearly
    rw [hread]
    omega

/-- **The periods tile the calendar**, except where a month of the first hundred years is read: the
month before January 100, or that of now, if it is taken for the one of the anchor. -/
theorem tilesCalendar_iff (h : zone.HasOffset offset) (hyears : InYears zone anchor) :
    TilesCalendar zone timeline now anchor ↔ ¬ (timeline = .month ∧
      (anchor.getFullYear zone = 100 ∧ anchor.getMonth zone = 0 ∨
        (0 ≤ now.getFullYear zone ∧ now.getFullYear zone ≤ 99 ∧
          anchor.getFullYear zone = 1900 + now.getFullYear zone ∧
          anchor.getMonth zone = now.getMonth zone))) := by
  obtain ⟨k, hk⟩ : ∃ k, timeline.tiling.tileOf (anchor.localDay zone) = k := ⟨_, rfl⟩
  have hfrom : 100 ≤ (civil (anchor.localDay zone)).1 := hyears.1
  cases timeline with
  | day =>
    rw [tilesCalendar_iff_readTile h hk nofun]
    simp [DashboardSalesTimeline.readTile, DashboardSalesTimeline.tiling]
  | week =>
    rw [tilesCalendar_iff_readTile h hk nofun]
    simp [DashboardSalesTimeline.readTile, DashboardSalesTimeline.tiling]
  | month =>
    have hmonth : monthOf (anchor.localDay zone) = k := hk
    have hyear : anchor.getFullYear zone = k / 12 := by rw [← hmonth, ← year_eq]; rfl
    have hmonth' : anchor.getMonth zone = k % 12 := by rw [← hmonth, ← month_eq]; rfl
    have hnow : now.getFullYear zone = monthOf (now.localDay zone) / 12 := year_eq
    have hnow' : now.getMonth zone = monthOf (now.localDay zone) % 12 := month_eq
    have hk1200 : 1200 ≤ k := by
      rw [year_eq, hmonth] at hfrom
      omega
    rw [tilesCalendar_iff_readTile h hk fun _ => hk1200]
    have hprevious : DashboardSalesTimeline.month.readTile
        (DashboardSalesTimeline.month.tiling.bound (k - 1)) =
          12 * fullYear ((k - 1) / 12) + (k - 1) % 12 := by
      show 12 * fullYear (civil (monthStart (k - 1))).1 + (civil (monthStart (k - 1))).2.1 = _
      rw [year_eq, month_eq, monthOf_monthStart]
    have hread : DashboardSalesTimeline.month.readTile (now.localDay zone) =
        12 * fullYear (monthOf (now.localDay zone) / 12) + monthOf (now.localDay zone) % 12 := by
      show 12 * fullYear (civil (now.localDay zone)).1 + (civil (now.localDay zone)).2.1 = _
      rw [year_eq, month_eq]
    have htile : DashboardSalesTimeline.month.tiling.tileOf (now.localDay zone) =
        monthOf (now.localDay zone) := rfl
    rw [hprevious, hread, htile, readMonth_previous hk1200, readMonth_current hk1200, hyear,
      hmonth', hnow, hnow']
    have hfirst : k = 1200 ↔ k / 12 = 100 ∧ k % 12 = 0 := by omega
    rw [hfirst, ← not_or]
    simp only [true_and]

/-- The month of a leap day. -/
theorem tilesCalendar_leap :
    TilesCalendar Platform.plain.zone .month 0 (makeDay 2024 1 29 * dayInMs) :=
  (tilesCalendar_iff Platform.plain_hasOffset (by decide)).mpr (by decide)

/-- Before January 100 the service goes to December 1999. -/
theorem not_tilesCalendar_january :
    InYears Platform.plain.zone (makeDay 100 0 15 * dayInMs) ∧
      ¬ TilesCalendar Platform.plain.zone .month 0 (makeDay 100 0 15 * dayInMs) := by
  refine ⟨by decide, fun htiles => ?_⟩
  have hend := htiles.previous_end
  revert hend
  decide +kernel

end

end LedgerLight
