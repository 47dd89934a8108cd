import LedgerLight.Infra.Buckets
import LedgerLight.Properties.SalesPeriods

/-!
# The buckets of the sales overview

The buckets of a period are the tiles of a finer tiling: the hours of a day, or the days of a week or
a month. The index of a sale is the tile that it was placed in, counted from the first one. Days are
counted with `Date.UTC`, which takes the first hundred years for those of the twentieth century, as
`new Date` does.

* `getSalesOverview_eq` : the answer, from the orders that the query returns.
* `partitions_of_tiling` : buckets that are the tiles of a period lose nothing.
* `partitions_iff` : exactly when the buckets of the overview do not.
-/

namespace LedgerLight

open Infra

/-! ## The loop over the orders -/

/-- `select: { placedAt: true, totalCents: true }`. -/
structure SelectedOrder where
  placedAt : Option Instant
  totalCents : Int

/-- The where clause on `placedAt`. -/
def SelectedOrder.placedIn (start stop : Instant) (o : SelectedOrder) : Bool :=
  o.placedAt.any fun placedAt => start ≤ placedAt && placedAt < stop

/-- The body of the loop. -/
def countOrder (zone : TimeZone) (timeline : DashboardSalesTimeline) (periodStart : Instant)
    (sales : List DashboardSalesBucketDto × Int) (o : SelectedOrder) :
    List DashboardSalesBucketDto × Int :=
  match o.placedAt with
  | none => sales
  | some placedAt =>
    let bucketIndex := getBucketIndex zone timeline periodStart placedAt
    if bucketIndex < 0 ∨ sales.1.length ≤ bucketIndex then sales
    else (sales.1.modify bucketIndex.toNat fun bucket =>
      { bucket with salesCents := bucket.salesCents + o.totalCents }, sales.2 + o.totalCents)

/-- `getSalesOverview` once its query has returned `orders`. -/
def salesOverview (zone : TimeZone) (now : Instant) (timeline : DashboardSalesTimeline)
    (anchor : Instant) (orders : List SelectedOrder) : DashboardSalesOverviewDto :=
  let period := resolveSalesPeriod zone timeline now anchor
  let (buckets, totalSalesCents) := orders.foldl (countOrder zone timeline period.periodStart)
    (buildSalesBuckets zone timeline period, 0)
  { timeline := timeline, anchor := period.anchor, periodStart := period.periodStart
    periodEnd := period.periodEnd, previousAnchor := period.previousAnchor
    nextAnchor := period.nextAnchor
    isCurrentPeriod := period.periodStart == period.currentPeriodStart
    totalSalesCents := totalSalesCents, buckets := buckets }

/-- What the query selects of an order. -/
def OrderRecord.selected (o : OrderRecord) : SelectedOrder :=
  { placedAt := o.placedAt.map fun placedAt => (placedAt : Int), totalCents := o.totalCents }

theorem countSale_eq (zone : TimeZone) (timeline : DashboardSalesTimeline) (periodStart : Instant)
    (sales : List DashboardSalesBucketDto × Int) (o : OrderRecord) :
    countSale zone timeline periodStart sales o =
      countOrder zone timeline periodStart sales o.selected := by
  unfold countSale countOrder OrderRecord.selected
  cases o.placedAt with
  | none => rfl
  | some placedAt => rfl

theorem selected_placedIn {org : CurrentOrg} {start stop : Instant} {o : OrderRecord}
    (h : salesWhere org start stop o = true) : o.selected.placedIn start stop = true := by
  unfold salesWhere at h
  rw [Bool.and_eq_true] at h
  unfold SelectedOrder.placedIn OrderRecord.selected
  rw [Option.any_map]
  exact h.2

/-- **The answer of the service** is that on the orders that count as sales of the period. -/
theorem getSalesOverview_eq {p : Platform} {now anchor : Instant} {db : Backend} {org : CurrentOrg}
    {query : DashboardSalesOverviewQueryDto} (h : salesAnchor p now query.anchor = .ok anchor) :
    ∃ rows : List OrderRow, rows.Perm (db.orderRows.filter fun r => salesWhere org
        (resolveSalesPeriod p.zone query.timeline now anchor).periodStart
        (resolveSalesPeriod p.zone query.timeline now anchor).periodEnd r.order) ∧
      getSalesOverview p now db org query =
        .ok (salesOverview p.zone now query.timeline anchor (rows.map (·.order.selected))) := by
  refine ⟨_, perm_orderRows (p := p)
    [{ value := fun r : OrderRow => .ofDate? r.order.placedAt, direction := .asc }], ?_⟩
  have hloop (periodStart : Instant) : countSale p.zone query.timeline periodStart =
      fun sales o => countOrder p.zone query.timeline periodStart sales o.selected :=
    funext fun sales => funext fun o => countSale_eq _ _ _ sales o
  unfold getSalesOverview salesOverview
  rw [h]
  show Except.ok _ = Except.ok _
  dsimp only
  rw [hloop, List.foldl_map, List.foldl_map]
  rfl

/-! ## Buckets that are tiles -/

/-- The buckets follow each other through the period, each has the sales of the orders that were
placed in it, and no order is lost. -/
structure Partitions (zone : TimeZone) (answer : DashboardSalesOverviewDto)
    (orders : List SelectedOrder) : Prop where
  consecutive : Consecutive answer.periodStart
    (answer.buckets.map fun b => (b.bucketStart, b.bucketEnd)) answer.periodEnd
  sums : ∀ b ∈ answer.buckets, b.salesCents =
    ((orders.filter fun o => o.placedIn b.bucketStart b.bucketEnd).map (·.totalCents)).sum
  counted : ∀ o ∈ orders, ∀ placedAt, o.placedAt = some placedAt →
    0 ≤ getBucketIndex zone answer.timeline answer.periodStart placedAt ∧
      getBucketIndex zone answer.timeline answer.periodStart placedAt < answer.buckets.length
  total_buckets : answer.totalSalesCents = (answer.buckets.map (·.salesCents)).sum
  total_orders : answer.totalSalesCents = (orders.map (·.totalCents)).sum

section

variable {zone : TimeZone} {offset : Int} {timeline : DashboardSalesTimeline}
  {now anchor start : Instant} {orders : List SelectedOrder} {s : Int} {n : Nat}

/-- The index of the bucket of an order; without `placedAt` there is none. -/
def orderIndex (zone : TimeZone) (timeline : DashboardSalesTimeline) (start : Instant)
    (o : SelectedOrder) : Int :=
  o.placedAt.elim (-1) (getBucketIndex zone timeline start)

def addSales (cents : Int) (bucket : DashboardSalesBucketDto) : DashboardSalesBucketDto :=
  { bucket with salesCents := bucket.salesCents + cents }

theorem addSales_zero (bucket : DashboardSalesBucketDto) : addSales 0 bucket = bucket := by
  unfold addSales
  rw [Int.add_zero]

theorem addSales_addSales (x y : Int) (bucket : DashboardSalesBucketDto) :
    addSales x (addSales y bucket) = addSales (y + x) bucket := by
  unfold addSales
  rw [Int.add_assoc]

theorem countOrder_eq (zone : TimeZone) (timeline : DashboardSalesTimeline) (start : Instant) :
    countOrder zone timeline start =
      countInto (orderIndex zone timeline start) (·.totalCents) addSales := by
  funext sales o
  unfold countOrder countInto orderIndex
  cases o.placedAt with
  | none =>
    have hskip : (-1 : Int) < 0 := by decide
    exact (if_pos (Or.inl hskip)).symm
  | some placedAt => rfl

/-- The overview once the period is known. -/
theorem salesOverview_eq {period : SalesPeriod} {counted : List DashboardSalesBucketDto × Int}
    (hperiod : resolveSalesPeriod zone timeline now anchor = period)
    (hcounted : orders.foldl
      (countInto (orderIndex zone timeline period.periodStart) (·.totalCents) addSales)
      (buildSalesBuckets zone timeline period, 0) = counted) :
    salesOverview zone now timeline anchor orders =
      { timeline := timeline, anchor := period.anchor, periodStart := period.periodStart
        periodEnd := period.periodEnd, previousAnchor := period.previousAnchor
        nextAnchor := period.nextAnchor
        isCurrentPeriod := period.periodStart == period.currentPeriodStart
        totalSalesCents := counted.2, buckets := counted.1 } := by
  unfold salesOverview
  rw [hperiod]
  dsimp only
  rw [countOrder_eq, hcounted]

theorem mem_span_iff (fine : Tiling Instant) {k : Int} {o : SelectedOrder} {placedAt : Instant}
    (ho : o.placedAt = some placedAt) :
    o.placedIn (fine.bound k) (fine.bound (k + 1)) = true ↔ fine.tileOf placedAt = k := by
  unfold SelectedOrder.placedIn
  rw [ho, Option.any_some, Bool.and_eq_true, decide_eq_true_iff, decide_eq_true_iff,
    fine.tileOf_eq_iff]

/-- The tile of an order that was placed from the tile `s` on, and before the tile `s + n`. -/
theorem SelectedOrder.exists_tile (fine : Tiling Instant) {o : SelectedOrder}
    (h : o.placedIn (fine.bound s) (fine.bound (s + n)) = true) :
    ∃ t, o.placedAt = some t ∧ s ≤ fine.tileOf t ∧ fine.tileOf t < s + n := by
  unfold SelectedOrder.placedIn at h
  cases ht : o.placedAt with
  | none =>
    rw [ht] at h
    cases h
  | some t =>
    rw [ht, Option.any_some, Bool.and_eq_true, decide_eq_true_iff, decide_eq_true_iff,
      ← fine.le_tileOf_iff, ← fine.tileOf_lt_iff] at h
    exact ⟨t, rfl, h.1, h.2⟩

/-- After the loop, a bucket has the span it had, and the amounts at its index. -/
theorem counted_bucket {index : SelectedOrder → Int} {buckets : List DashboardSalesBucketDto}
    {span : Nat → Instant × Instant} (hlength : buckets.length = n)
    (hspans : (buckets.map fun b => (b.bucketStart, b.bucketEnd)) = (List.range n).map span)
    (hzero : ∀ b ∈ buckets, b.salesCents = 0)
    (hrange : ∀ o ∈ orders, 0 ≤ index o ∧ index o < buckets.length) {i : Nat}
    {b : DashboardSalesBucketDto}
    (hb : (orders.foldl (countInto index (·.totalCents) addSales) (buckets, 0)).1[i]? = some b) :
    (b.bucketStart, b.bucketEnd) = span i ∧
      b.salesCents = amountAt index (·.totalCents) orders i := by
  rw [(foldl_countInto SelectedOrder.totalCents 0 addSales_zero addSales_addSales hrange).2 i] at hb
  obtain ⟨b₀, hb₀, rfl⟩ := Option.map_eq_some_iff.mp hb
  obtain ⟨hi, -⟩ := List.getElem?_eq_some_iff.mp hb₀
  have hspan := congrArg (fun spans => spans[i]?) hspans
  simp only [List.getElem?_map, hb₀, List.getElem?_range (hlength ▸ hi), Option.map_some,
    Option.some.injEq] at hspan
  refine ⟨hspan, ?_⟩
  show b₀.salesCents + _ = _
  rw [hzero b₀ (List.mem_of_getElem? hb₀), Int.zero_add]

/-- **Buckets that are tiles lose nothing** : if the buckets of a period are the tiles of a finer tiling
from `s` on, and the index of a sale is its tile counted from `s`. -/
theorem partitions_of_tiling (fine : Tiling Instant) {period : SalesPeriod}
    (hperiod : resolveSalesPeriod zone timeline now anchor = period)
    (hstart : period.periodStart = fine.bound s) (hend : period.periodEnd = fine.bound (s + n))
    (hspans : ((buildSalesBuckets zone timeline period).map fun b => (b.bucketStart, b.bucketEnd)) =
      (List.range n).map fun i : Nat => (fine.bound (s + i), fine.bound (s + i + 1)))
    (hzero : ∀ b ∈ buildSalesBuckets zone timeline period, b.salesCents = 0)
    (hindex : ∀ t, s ≤ fine.tileOf t → fine.tileOf t < s + n →
      getBucketIndex zone timeline period.periodStart t = fine.tileOf t - s)
    (hselected : ∀ o ∈ orders, o.placedIn period.periodStart period.periodEnd = true) :
    Partitions zone (salesOverview zone now timeline anchor orders) orders := by
  obtain ⟨buckets, hbuckets⟩ : ∃ buckets, buildSalesBuckets zone timeline period = buckets :=
    ⟨_, rfl⟩
  obtain ⟨index, hindexEq⟩ : ∃ index, orderIndex zone timeline period.periodStart = index :=
    ⟨_, rfl⟩
  rw [hbuckets] at hspans hzero
  have hlength : buckets.length = n := by
    have hlengths := congrArg List.length hspans
    rwa [List.length_map, List.length_map, List.length_range] at hlengths
  -- the tile of a selected order is one of the period
  have hplaced : ∀ o ∈ orders, ∃ t, o.placedAt = some t ∧ s ≤ fine.tileOf t ∧
      fine.tileOf t < s + n ∧ index o = fine.tileOf t - s := by
    intro o ho
    have hin := hselected o ho
    rw [hstart, hend] at hin
    obtain ⟨t, ht, hlow, hhigh⟩ := SelectedOrder.exists_tile fine hin
    refine ⟨t, ht, hlow, hhigh, ?_⟩
    rw [← hindexEq]
    unfold orderIndex
    rw [ht]
    exact hindex t hlow hhigh
  have hrange : ∀ o ∈ orders, 0 ≤ index o ∧ index o < buckets.length := by
    intro o ho
    obtain ⟨t, -, hlow, hhigh, hi⟩ := hplaced o ho
    omega
  obtain ⟨counted, hfold⟩ : ∃ counted,
      orders.foldl (countInto index (·.totalCents) addSales) (buckets, 0) = counted := ⟨_, rfl⟩
  have htotal := (foldl_countInto SelectedOrder.totalCents 0 addSales_zero addSales_addSales
    hrange).1
  have hcounted : counted.1.length = buckets.length := by
    rw [← hfold]
    exact length_foldl_countInto _
  rw [hfold] at htotal
  have hanswer : salesOverview zone now timeline anchor orders = _ :=
    salesOverview_eq hperiod (by rw [hindexEq, hbuckets, hfold])
  have hplace : ∀ (i : Nat) (b : DashboardSalesBucketDto), counted.1[i]? = some b →
      (b.bucketStart, b.bucketEnd) = (fine.bound (s + i), fine.bound (s + i + 1)) ∧
        b.salesCents = amountAt index (·.totalCents) orders i := by
    intro i b hb
    rw [← hfold] at hb
    exact counted_bucket hlength hspans hzero hrange hb
  have hspans' : (counted.1.map fun b => (b.bucketStart, b.bucketEnd)) =
      (List.range n).map fun i : Nat => (fine.bound (s + i), fine.bound (s + i + 1)) :=
    map_eq_range_map (hcounted.trans hlength) fun i b hb => (hplace i b hb).1
  have hcents : (counted.1.map (·.salesCents)) =
      (List.range n).map fun i : Nat => amountAt index (·.totalCents) orders i :=
    map_eq_range_map (hcounted.trans hlength) fun i b hb => (hplace i b hb).2
  rw [hanswer]
  refine ⟨?_, ?_, ?_, ?_, ?_⟩
  · show Consecutive period.periodStart (counted.1.map fun b => (b.bucketStart, b.bucketEnd))
      period.periodEnd
    rw [hstart, hend, hspans']
    exact consecutive_range fine.bound n s
  · intro b hb
    obtain ⟨i, hi⟩ := List.mem_iff_getElem?.mp hb
    obtain ⟨hspan, hsales⟩ := hplace i b hi
    obtain ⟨hbstart, hbend⟩ := Prod.mk.inj hspan
    rw [hsales, hbstart, hbend]
    unfold amountAt
    congr 2
    refine List.filter_congr fun o ho => ?_
    obtain ⟨t, ht, -, -, hi⟩ := hplaced o ho
    rw [Bool.eq_iff_iff, mem_span_iff fine ht, decide_eq_true_iff]
    omega
  · intro o ho t ht
    have hi := hrange o ho
    rw [← hindexEq] at hi
    unfold orderIndex at hi
    rw [ht] at hi
    rw [hcounted]
    exact hi
  · show counted.2 = (counted.1.map (·.salesCents)).sum
    rw [htotal, hcents, sum_amountAt (by rw [← hlength]; exact hrange), Int.zero_add]
  · show counted.2 = _
    rw [htotal, Int.zero_add]

/-! ## Hours and days -/

theorem dayStart_eq_hour (h : zone.HasOffset offset) (day : Int) :
    dayStart zone day = (localTiling h hourInMs_pos).bound (24 * day) := by
  show Instant.ofLocal zone (day * (24 * hourInMs)) = .ofLocal zone (24 * day * hourInMs)
  rw [Int.mul_left_comm, Int.mul_assoc]

/-- The bucket of an hour starts with it. -/
theorem ofFields_hour (h : zone.HasOffset offset) {day : Int} (hyear : 100 ≤ (civil day).1)
    (i : Int) :
    Instant.ofFields zone ((dayStart zone day).getFullYear zone)
        ((dayStart zone day).getMonth zone) ((dayStart zone day).getDate zone) i =
      (localTiling h hourInMs_pos).bound (24 * day + i) := by
  unfold Instant.ofFields Instant.getFullYear Instant.getMonth Instant.getDate
  rw [localDay_dayStart h, fullYear_of_le hyear, makeDay_civil]
  show Instant.ofLocal zone (day * (24 * hourInMs) + i * hourInMs) =
    .ofLocal zone ((24 * day + i) * hourInMs)
  rw [Int.add_mul, Int.mul_left_comm, Int.mul_assoc]

theorem hour_next (h : zone.HasOffset offset) (k : Int) :
    (localTiling h hourInMs_pos).bound k + hourInMs =
      (localTiling h hourInMs_pos).bound (k + 1) := by
  show Instant.ofLocal zone (k * hourInMs) + hourInMs = .ofLocal zone ((k + 1) * hourInMs)
  rw [Int.add_mul, Int.one_mul, ofLocal_add h]

theorem buildSalesBuckets_zero {period : SalesPeriod} :
    ∀ b ∈ buildSalesBuckets zone timeline period, b.salesCents = 0 := by
  intro b hb
  cases timeline with
  | day =>
    obtain ⟨i, -, rfl⟩ := List.mem_map.mp hb
    rfl
  | week =>
    obtain ⟨i, -, rfl⟩ := List.mem_map.mp hb
    rfl
  | month =>
    obtain ⟨i, -, rfl⟩ := List.mem_map.mp hb
    rfl

/-- Indices as integers. -/
theorem range_ints (n : Nat) :
    (do let i ← List.range n; pure (i : Int)) = (List.range n).map fun i : Nat => (i : Int) := by
  rw [bind_pure_comp]
  rfl

/-- The buckets of a week and of a month are days. -/
theorem buildSalesBuckets_days (zone : TimeZone) (hdays : timeline ≠ .day)
    (period : SalesPeriod) :
    ((buildSalesBuckets zone timeline period).map fun b => (b.bucketStart, b.bucketEnd)) =
      (List.range (getCalendarDayDifference zone period.periodStart period.periodEnd).toNat).map
        fun i : Nat => (period.periodStart.addDays zone i,
          (period.periodStart.addDays zone i).addDays zone 1) := by
  cases timeline with
  | day => exact absurd rfl hdays
  | week =>
    unfold buildSalesBuckets
    dsimp only
    rw [range_ints, List.map_map, List.map_map]
    rfl
  | month =>
    unfold buildSalesBuckets
    dsimp only
    rw [range_ints, List.map_map, List.map_map]
    rfl

/-- The hours of a day are its buckets. -/
theorem partitions_day (h : zone.HasOffset offset) (hyear : 100 ≤ anchor.getFullYear zone)
    (hselected : ∀ o ∈ orders,
      o.placedIn (resolveSalesPeriod zone .day now anchor).periodStart
        (resolveSalesPeriod zone .day now anchor).periodEnd = true) :
    Partitions zone (salesOverview zone now .day anchor orders) orders := by
  obtain ⟨day, hday⟩ : ∃ day, anchor.localDay zone = day := ⟨_, rfl⟩
  have hperiod := resolveSalesPeriod_eq h .day now anchor
  rw [hday] at hperiod
  rw [hperiod] at hselected
  have hcivil : 100 ≤ (civil day).1 := by rw [← hday]; exact hyear
  refine partitions_of_tiling (localTiling h hourInMs_pos) (s := 24 * day) (n := 24) hperiod ?_ ?_
    ?_ ?_ ?_ hselected
  · exact dayStart_eq_hour h day
  · show dayStart zone (day + 1) = _
    rw [dayStart_eq_hour h, Int.mul_add]
    rfl
  · unfold buildSalesBuckets
    dsimp only
    rw [range_ints, List.map_map, List.map_map]
    refine List.map_congr_left fun i _ => ?_
    have hhour := ofFields_hour h hcivil i
    refine Prod.ext hhour ?_
    rw [← hour_next h, ← hhour]
    rfl
  · exact buildSalesBuckets_zero
  · intro t hlow hhigh
    have hlow' : 24 * day ≤ t.toLocal zone / (60 * 60 * 1000) := hlow
    have hhigh' : t.toLocal zone / (60 * 60 * 1000) < 24 * day + 24 := hhigh
    show t.toLocal zone % (24 * (60 * 60 * 1000)) / (60 * 60 * 1000) =
      t.toLocal zone / (60 * 60 * 1000) - 24 * day
    omega

/-- Days are counted as they follow each other, from the year 100 on. -/
theorem getCalendarDayDifference_eq {start stop : Instant} (hstart : 100 ≤ start.getFullYear zone)
    (hstop : 100 ≤ stop.getFullYear zone) :
    getCalendarDayDifference zone start stop = stop.localDay zone - start.localDay zone := by
  unfold getCalendarDayDifference
  dsimp only
  rw [fullYear_of_le hstart, fullYear_of_le hstop]
  show makeDay (civil (stop.localDay zone)).1 (civil (stop.localDay zone)).2.1
      (civil (stop.localDay zone)).2.2 -
    makeDay (civil (start.localDay zone)).1 (civil (start.localDay zone)).2.1
      (civil (start.localDay zone)).2.2 = _
  rw [makeDay_civil, makeDay_civil]

/-- The days of a week or a month are its buckets, if it starts in the year 100 or later. -/
theorem partitions_days (h : zone.HasOffset offset) (hdays : timeline ≠ .day) {k : Int}
    (hk : timeline.readTile (anchor.localDay zone) = k)
    (hyear : 100 ≤ (civil (timeline.tiling.bound k)).1)
    (hselected : ∀ o ∈ orders,
      o.placedIn (resolveSalesPeriod zone timeline now anchor).periodStart
        (resolveSalesPeriod zone timeline now anchor).periodEnd = true) :
    Partitions zone (salesOverview zone now timeline anchor orders) orders := by
  have hperiod := resolveSalesPeriod_eq h timeline now anchor
  rw [hk] at hperiod
  rw [hperiod] at hselected
  obtain ⟨first, hfirst⟩ : ∃ first, timeline.tiling.bound k = first := ⟨_, rfl⟩
  obtain ⟨last, hlast⟩ : ∃ last, timeline.tiling.bound (k + 1) = last := ⟨_, rfl⟩
  rw [hfirst] at hyear
  have hless : first < last := by
    rw [← hfirst, ← hlast]
    exact timeline.tiling.strictMono (Int.lt_succ k)
  have hdifference (date : Instant) (hdate : first ≤ date.localDay zone) :
      getCalendarDayDifference zone (dayStart zone first) date = date.localDay zone - first := by
    have hstart : 100 ≤ (dayStart zone first).getFullYear zone := by
      unfold Instant.getFullYear
      rw [localDay_dayStart h]
      exact hyear
    have hstop : 100 ≤ date.getFullYear zone :=
      le_year_iff.mpr ((le_year_iff.mp hyear).trans hdate)
    rw [getCalendarDayDifference_eq hstart hstop, localDay_dayStart h]
  have hcount : getCalendarDayDifference zone (dayStart zone first) (dayStart zone last) =
      last - first := by
    rw [hdifference _ (by rw [localDay_dayStart h]; exact hless.le), localDay_dayStart h]
  refine partitions_of_tiling (localTiling h dayInMs_pos) (s := first) (n := (last - first).toNat)
    hperiod ?_ ?_ ?_ ?_ ?_ hselected
  · show dayStart zone (timeline.tiling.bound k) = _
    rw [hfirst]
    rfl
  · show dayStart zone (timeline.tiling.bound (k + 1)) = dayStart zone (first + (last - first).toNat)
    rw [hlast]
    congr 1
    omega
  · rw [buildSalesBuckets_days zone hdays]
    show (List.range (getCalendarDayDifference zone (dayStart zone (timeline.tiling.bound k))
      (dayStart zone (timeline.tiling.bound (k + 1)))).toNat).map _ = _
    rw [hfirst, hlast, hcount]
    refine List.map_congr_left fun i _ => ?_
    show ((dayStart zone (timeline.tiling.bound k)).addDays zone i,
      ((dayStart zone (timeline.tiling.bound k)).addDays zone i).addDays zone 1) = _
    rw [hfirst, addDays_dayStart h, addDays_dayStart h]
    rfl
  · exact buildSalesBuckets_zero
  · intro t hlow hhigh
    show getBucketIndex zone timeline (dayStart zone (timeline.tiling.bound k)) t = _
    unfold getBucketIndex
    rw [if_neg hdays, hfirst]
    exact hdifference t hlow

/-! ## The week of January 100 -/

theorem monthStart_january : monthStart 1200 = -683003 := by decide

theorem january_le_iff {day : Int} : 100 ≤ (civil day).1 ↔ monthStart 1200 ≤ day := by
  have hmonths : (12 : Int) * 100 = 1200 := rfl
  rw [le_year_iff, hmonths]

/-- The first three days of the year 100. -/
theorem january_iff {day : Int} (hday : monthStart 1200 ≤ day) :
    (civil day).1 = 100 ∧ (civil day).2.1 = 0 ∧ (civil day).2.2 ≤ 3 ↔ day ≤ -683001 := by
  have hnext : monthStart 1201 = -682972 := by decide
  have hjanuary : monthOf day = 1200 ↔ day < monthStart 1201 :=
    (monthTiling.tileOf_eq_iff).trans (and_iff_right hday)
  rw [year_eq, month_eq, date_eq]
  rw [monthStart_january] at hday
  constructor
  · rintro ⟨hyear, hmonth, hdate⟩
    have hmonthOf : monthOf day = 1200 := by omega
    rw [hmonthOf, monthStart_january] at hdate
    omega
  · intro hlast
    have hmonthOf : monthOf day = 1200 := hjanuary.mpr (by omega)
    rw [hmonthOf, monthStart_january]
    omega

/-- Between a week's first day in the year 99 and its last in the year 100, `Date.UTC` counts back. -/
theorem getCalendarDayDifference_back (h : zone.HasOffset offset) {day : Int}
    (hday : day < monthStart 1200) (hnext : monthStart 1200 ≤ day + 7) :
    getCalendarDayDifference zone (dayStart zone day) (dayStart zone (day + 7)) ≤ 0 := by
  have hyear : 0 ≤ (civil day).1 ∧ (civil day).1 ≤ 99 := by
    have hearly : ¬ 100 ≤ (civil day).1 := fun hle =>
      absurd (january_le_iff.mp hle) (not_le.mpr hday)
    have hlate : 0 ≤ (civil day).1 := by
      have hzero : monthStart (12 * 0) = -719528 := by decide
      rw [le_year_iff, hzero]
      rw [monthStart_january] at hnext
      omega
    omega
  have hstop : makeDay (fullYear (civil (day + 7)).1) (civil (day + 7)).2.1
      (civil (day + 7)).2.2 = day + 7 := by
    rw [fullYear_of_le (january_le_iff.mpr hnext), makeDay_civil]
  -- the first day is taken for one after 1900
  have hstart : -25567 ≤ makeDay (fullYear (civil day).1) (civil day).2.1 (civil day).2.2 := by
    have hread : fullYear (civil day).1 = 1900 + (civil day).1 := if_pos hyear
    have h1900 : monthStart 22800 = -25567 := by decide
    have hmonth : 0 ≤ (civil day).2.1 := by
      rw [month_eq]
      omega
    have hmono : monthStart 22800 ≤ monthStart (12 * (1900 + (civil day).1) + (civil day).2.1) :=
      monthStart_strictMono.monotone (by omega)
    have hdate : 1 ≤ (civil day).2.2 := by
      have hle : monthStart (monthOf day) ≤ day := monthTiling.bound_le day
      rw [date_eq]
      omega
    rw [hread, makeDay_eq]
    omega
  unfold getCalendarDayDifference Instant.getFullYear Instant.getMonth Instant.getDate
  dsimp only
  rw [localDay_dayStart h, localDay_dayStart h, hstop]
  rw [monthStart_january] at hday
  omega

/-- Such a week has no buckets. -/
theorem not_partitions_week (h : zone.HasOffset offset) {k : Int}
    (hk : weekTiling.tileOf (anchor.localDay zone) = k)
    (hyear : monthStart 1200 ≤ anchor.localDay zone) (hweek : weekTiling.bound k < monthStart 1200) :
    ¬ Partitions zone (salesOverview zone now .week anchor orders) orders := by
  have hnext : weekTiling.bound (k + 1) = weekTiling.bound k + 7 := by
    show 7 * (k + 1) - 3 = 7 * k - 3 + 7
    omega
  have hlater : monthStart 1200 ≤ weekTiling.bound k + 7 := by
    have hlt := weekTiling.lt_bound (anchor.localDay zone)
    rw [hk, hnext] at hlt
    omega
  have hperiod : resolveSalesPeriod zone .week now anchor = tilePeriod zone weekTiling k
      (weekTiling.tileOf (now.localDay zone)) := by
    rw [← hk]
    exact resolveSalesPeriod_eq h .week now anchor
  obtain ⟨period, hthis⟩ : ∃ period, resolveSalesPeriod zone .week now anchor = period := ⟨_, rfl⟩
  rw [hthis] at hperiod
  have hstart : period.periodStart = dayStart zone (weekTiling.bound k) := by rw [hperiod]; rfl
  have hend : period.periodEnd = dayStart zone (weekTiling.bound k + 7) := by
    rw [hperiod, ← hnext]
    rfl
  have hnone : buildSalesBuckets zone .week period = [] := by
    have hspans := buildSalesBuckets_days zone
      (show DashboardSalesTimeline.week ≠ .day by decide) period
    have hcount := getCalendarDayDifference_back h hweek hlater
    rw [hstart, hend, Int.toNat_of_nonpos hcount] at hspans
    exact List.map_eq_nil_iff.mp hspans
  have hbuckets : (salesOverview zone now .week anchor orders).buckets = [] := by
    rw [salesOverview_eq hthis rfl, hnone]
    exact List.length_eq_zero_iff.mp (length_foldl_countInto _)
  intro hpartitions
  have hconsecutive := hpartitions.consecutive
  rw [hbuckets] at hconsecutive
  -- the period would start where it ends
  have hempty : (resolveSalesPeriod zone .week now anchor).periodStart =
      (resolveSalesPeriod zone .week now anchor).periodEnd := hconsecutive
  rw [hthis, hstart, hend, dayStart_inj h] at hempty
  omega

/-- **The buckets partition the period**, except for the week of the first days of the year 100, which
starts in the year 99. -/
theorem partitions_iff (h : zone.HasOffset offset) (hyears : InYears zone anchor)
    (hselected : ∀ o ∈ orders,
      o.placedIn (resolveSalesPeriod zone timeline now anchor).periodStart
        (resolveSalesPeriod zone timeline now anchor).periodEnd = true) :
    Partitions zone (salesOverview zone now timeline anchor orders) orders ↔
      ¬ (timeline = .week ∧ anchor.getFullYear zone = 100 ∧ anchor.getMonth zone = 0 ∧
        anchor.getDate zone ≤ 3) := by
  have hday : monthStart 1200 ≤ anchor.localDay zone := january_le_iff.mp hyears.1
  cases timeline with
  | day => exact iff_of_true (partitions_day h hyears.1 hselected) (by simp)
  | month =>
    refine iff_of_true (partitions_days h (by decide) rfl ?_ hselected) (by simp)
    -- the month is of the year of its days
    have hread : DashboardSalesTimeline.month.readTile (anchor.localDay zone) =
        monthOf (anchor.localDay zone) := readTile_eq fun _ => hyears.1
    have hyear : 100 ≤ (civil (anchor.localDay zone)).1 := hyears.1
    show 100 ≤ (civil (monthStart _)).1
    rw [hread, year_eq, monthOf_monthStart, ← year_eq]
    exact hyear
  | week =>
    have hjanuary := january_iff hday
    have hfirst : weekTiling.bound (weekTiling.tileOf (anchor.localDay zone)) =
        7 * ((anchor.localDay zone + 3) / 7) - 3 := rfl
    by_cases hweek : monthStart 1200 ≤ weekTiling.bound (weekTiling.tileOf (anchor.localDay zone))
    · refine iff_of_true (partitions_days h (by decide) rfl (january_le_iff.mpr hweek) hselected) ?_
      rintro ⟨-, hdate⟩
      have hearly := hjanuary.mp hdate
      rw [monthStart_january] at hweek hday
      omega
    · refine iff_of_false (not_partitions_week h rfl hday (not_le.mp hweek)) ?_
      refine not_not_intro ⟨rfl, hjanuary.mpr ?_⟩
      rw [monthStart_january] at hweek hday
      omega

/-- A week of a leap day, with a sale on it. -/
theorem partitions_leap :
    Partitions Platform.plain.zone
      (salesOverview Platform.plain.zone 0 .week (makeDay 2024 1 29 * dayInMs)
        [{ placedAt := some (makeDay 2024 1 29 * dayInMs), totalCents := 100 }])
      [{ placedAt := some (makeDay 2024 1 29 * dayInMs), totalCents := 100 }] :=
  (partitions_iff Platform.plain_hasOffset (by decide) (by decide)).mpr (by decide)

/-- A sale of the first day of the year 100 is lost. -/
theorem not_partitions_january :
    InYears Platform.plain.zone (makeDay 100 0 1 * dayInMs) ∧
      SelectedOrder.placedIn
        (resolveSalesPeriod Platform.plain.zone .week 0 (makeDay 100 0 1 * dayInMs)).periodStart
        (resolveSalesPeriod Platform.plain.zone .week 0 (makeDay 100 0 1 * dayInMs)).periodEnd
        { placedAt := some (makeDay 100 0 1 * dayInMs), totalCents := 100 } = true ∧
      ¬ Partitions Platform.plain.zone
        (salesOverview Platform.plain.zone 0 .week (makeDay 100 0 1 * dayInMs)
          [{ placedAt := some (makeDay 100 0 1 * dayInMs), totalCents := 100 }])
        [{ placedAt := some (makeDay 100 0 1 * dayInMs), totalCents := 100 }] := by
  refine ⟨by decide, by decide, fun hpartitions => ?_⟩
  have htotal := hpartitions.total_orders
  revert htotal
  decide

end

end LedgerLight
