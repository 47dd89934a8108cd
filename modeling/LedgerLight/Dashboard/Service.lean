import LedgerLight.Common.Calendar
import LedgerLight.Inventory.Reads

/-!
# The dashboard service

`domain/dashboard/dashboard.service.ts`. Instants are those of `Date` objects, and the local time is
that of the process.
-/

namespace LedgerLight

open Infra

/-- `DASHBOARD_ORDER_STATUSES`. -/
def dashboardOrderStatuses : List OrderStatus := [.confirmed, .fulfilled]

/-- The orders that count as sales from `start` on and before `stop`. -/
def salesWhere (org : CurrentOrg) (start stop : Instant) (o : OrderRecord) : Bool :=
  o.visibleTo org && dashboardOrderStatuses.contains o.status &&
    o.placedAt.any fun placedAt => start ≤ (placedAt : Int) && (placedAt : Int) < stop

/-! ## `getSummary` -/

structure DashboardSummaryDto where
  todaysSalesCents : Int
  ordersTodayCount : Nat
  lowStockItemsCount : Nat
  activeCustomersCount : Nat
deriving DecidableEq, Repr

/-- The start of today, and that of tomorrow. -/
def getTodayDateRange (p : Platform) (now : Instant) : Instant × Instant :=
  let start := now.startOfDay p.zone
  (start, start.addDays p.zone 1)

def getSummary (p : Platform) (now : Instant) (db : Backend) (org : CurrentOrg) :
    DashboardSummaryDto :=
  let todayRange := getTodayDateRange p now
  let today := fun (_ : Id) o => salesWhere org todayRange.1 todayRange.2 o
  { todaysSalesCents := db.orders.sumRows today (·.totalCents)
    ordersTodayCount := db.orders.countRows today
    lowStockItemsCount := getLowStockProductCount p db org
    activeCustomersCount := db.customers.countRows fun _ c =>
      c.organizationId == org.organizationId && c.status == .active }

/-! ## `getSalesOverview` -/

inductive DashboardSalesTimeline where
  | day | week | month
deriving DecidableEq, Repr

structure DashboardSalesBucketDto where
  bucketStart : Instant
  bucketEnd : Instant
  label : String
  salesCents : Int
deriving DecidableEq, Repr

structure SalesPeriod where
  anchor : Instant
  periodStart : Instant
  periodEnd : Instant
  previousAnchor : Instant
  nextAnchor : Instant
  currentPeriodStart : Instant

section

variable (zone : TimeZone)

/-- Weeks start on Monday. -/
def startOfWeek (date : Instant) : Instant :=
  let value := date.startOfDay zone
  value.addDays zone (-((value.getDay zone + 6) % 7))

def startOfMonth (date : Instant) : Instant :=
  .ofFields zone (date.getFullYear zone) (date.getMonth zone) 1

def addMonths (date : Instant) (months : Int) : Instant :=
  .ofFields zone (date.getFullYear zone) (date.getMonth zone + months) 1

/-- The days between the two, of which each counts as its date at midnight UTC. -/
def getCalendarDayDifference (start stop : Instant) : Int :=
  let utcDay (date : Instant) : Int :=
    makeDay (fullYear (date.getFullYear zone)) (date.getMonth zone) (date.getDate zone)
  utcDay stop - utcDay start

def resolveSalesPeriod (timeline : DashboardSalesTimeline) (now anchor : Instant) : SalesPeriod :=
  match timeline with
  | .day =>
    let periodStart := anchor.startOfDay zone
    { anchor := periodStart, periodStart := periodStart, periodEnd := periodStart.addDays zone 1,
      previousAnchor := periodStart.addDays zone (-1), nextAnchor := periodStart.addDays zone 1,
      currentPeriodStart := now.startOfDay zone }
  | .week =>
    let periodStart := startOfWeek zone anchor
    { anchor := periodStart, periodStart := periodStart, periodEnd := periodStart.addDays zone 7,
      previousAnchor := periodStart.addDays zone (-7), nextAnchor := periodStart.addDays zone 7,
      currentPeriodStart := startOfWeek zone now }
  | .month =>
    let periodStart := startOfMonth zone anchor
    { anchor := periodStart, periodStart := periodStart, periodEnd := addMonths zone periodStart 1,
      previousAnchor := addMonths zone periodStart (-1),
      nextAnchor := addMonths zone periodStart 1, currentPeriodStart := startOfMonth zone now }

/-- An hour of a day each, or a day of a week or a month. -/
def buildSalesBuckets (timeline : DashboardSalesTimeline) (period : SalesPeriod) :
    List DashboardSalesBucketDto :=
  match timeline with
  | .day => (List.range 24).map fun hourIndex =>
    let bucketStart : Instant := .ofFields zone (period.periodStart.getFullYear zone)
      (period.periodStart.getMonth zone) (period.periodStart.getDate zone) hourIndex
    { bucketStart := bucketStart, bucketEnd := bucketStart + hourInMs,
      label := zone.hourLabel bucketStart, salesCents := 0 }
  | _ =>
    let bucketCount := getCalendarDayDifference zone period.periodStart period.periodEnd
    (List.range bucketCount.toNat).map fun dayIndex =>
      let bucketStart := period.periodStart.addDays zone dayIndex
      { bucketStart := bucketStart, bucketEnd := bucketStart.addDays zone 1
        label := if timeline = .week then zone.weekdayLabel bucketStart
          else zone.dayLabel bucketStart
        salesCents := 0 }

def getBucketIndex (timeline : DashboardSalesTimeline) (periodStart placedAt : Instant) : Int :=
  if timeline = .day then placedAt.getHours zone
  else getCalendarDayDifference zone periodStart placedAt

/-- The loop over the orders: the bucket of an order and the total grow by what it sold. -/
def countSale (timeline : DashboardSalesTimeline) (periodStart : Instant)
    (sales : List DashboardSalesBucketDto × Int) (o : OrderRecord) :
    List DashboardSalesBucketDto × Int :=
  match o.placedAt with
  | none => sales
  | some placedAt =>
    let bucketIndex := getBucketIndex zone timeline periodStart (placedAt : Int)
    if bucketIndex < 0 ∨ sales.1.length ≤ bucketIndex then sales
    else (sales.1.modify bucketIndex.toNat fun bucket =>
      { bucket with salesCents := bucket.salesCents + o.totalCents }, sales.2 + o.totalCents)

end

structure DashboardSalesOverviewQueryDto where
  timeline : DashboardSalesTimeline := .week
  anchor : Option String := none

structure DashboardSalesOverviewDto where
  timeline : DashboardSalesTimeline
  anchor : Instant
  periodStart : Instant
  periodEnd : Instant
  previousAnchor : Instant
  nextAnchor : Instant
  isCurrentPeriod : Bool
  totalSalesCents : Int
  buckets : List DashboardSalesBucketDto
deriving DecidableEq, Repr

/-- The date that a query anchors its period at; the client refuses dates that are none. -/
def salesAnchor (p : Platform) (now : Instant) (anchor : Option String) :
    Except BackendError Instant :=
  match nonempty? anchor with
  | none => .ok now
  | some text =>
    match p.parseDate text with
    | some date => .ok date
    | none => .error (.prisma "PrismaClientValidationError")

def getSalesOverview (p : Platform) (now : Instant) (db : Backend) (org : CurrentOrg)
    (query : DashboardSalesOverviewQueryDto) : Except BackendError DashboardSalesOverviewDto := do
  let anchor ← salesAnchor p now query.anchor
  let period := resolveSalesPeriod p.zone query.timeline now anchor
  let orders ← findMany p orderModel db.orderRows
    { test := fun r => salesWhere org period.periodStart period.periodEnd r.order
      orderBy := [.column "placedAt" .asc] }
  let (buckets, totalSalesCents) := (orders.map (·.order)).foldl
    (countSale p.zone query.timeline period.periodStart)
    (buildSalesBuckets p.zone query.timeline period, 0)
  pure { timeline := query.timeline, anchor := period.anchor, periodStart := period.periodStart
         periodEnd := period.periodEnd, previousAnchor := period.previousAnchor
         nextAnchor := period.nextAnchor
         isCurrentPeriod := period.periodStart == period.currentPeriodStart
         totalSalesCents := totalSalesCents, buckets := buckets }

end LedgerLight
