import LedgerLight.Common.Platform
import LedgerLight.Domain.Schema
import LedgerLight.Infra.Sql

/-!
# The migration to payments

The statements of `prisma/migrations/20260409170000_payments_v2/migration.sql` that read or write
rows, in the order of the file: four `INSERT`s, an `UPDATE`, the new type of a column and a unique
index. A statement that fails ends the migration.
-/

namespace LedgerLight

open Infra

/-! ## Rows before and after -/

inductive LegacyOrderStatus where
  | pending | confirmed | cancelled | fulfilled | refunded
deriving DecidableEq, Repr

/-- The columns of `"Order"` that the statements name, with the type of the status. -/
structure OrderColumns (Status : Type) where
  organizationId : Id
  status : Status
  totalCents : Int
  placedAt : Option Date
  cancelledAt : Option Date
  createdAt : Date
  updatedAt : Date
deriving DecidableEq, Repr

abbrev LegacyOrder := OrderColumns LegacyOrderStatus

abbrev MigratedOrder := OrderColumns OrderStatus

/-- The text `'pay_' || "id"`. -/
structure PayId where
  orderId : Id
deriving DecidableEq, Repr

/-- A row of `"Payment"` but for its id. The columns that no `INSERT` names are null. -/
structure BackfilledPayment where
  organizationId : Id
  orderId : Id
  method : Option PaymentMethod := none
  paymentStatus : PaymentStatus
  refundStatus : RefundStatus
  amountCents : Int
  currencyCode : String
  stripeRefundId : Option RefundId := none
  paidAt : Option Date := none
  refundRequestedAt : Option Date := none
  refundedAt : Option Date := none
  refundFailedAt : Option Date := none
  refundReason : Option String := none
  lastPaymentFailure : Option String := none
  lastRefundFailure : Option String := none
  createdAt : Date
  updatedAt : Date
deriving DecidableEq, Repr

/-! ## Statements -/

/-- `INSERT INTO "Payment" SELECT 'pay_' || "id", … FROM "Order" WHERE …`. -/
def insertPayments (orders : Table Id LegacyOrder) (test : LegacyOrder → Bool)
    (row : Id → LegacyOrder → BackfilledPayment) (payments : Table PayId BackfilledPayment) :
    Option (Table PayId BackfilledPayment) :=
  Sql.insertAll payments ((orders.select fun _ o => test o).map fun r => (⟨r.1⟩, row r.1 r.2))

def isFulfilled (o : LegacyOrder) : Bool := o.status == .fulfilled

def fulfilledPayment (orderId : Id) (o : LegacyOrder) : BackfilledPayment :=
  { organizationId := o.organizationId, orderId := orderId, paymentStatus := .paid
    refundStatus := .none, amountCents := o.totalCents, currencyCode := "CAD"
    paidAt := some (o.placedAt.getD o.createdAt), createdAt := o.createdAt
    updatedAt := o.updatedAt }

def isConfirmed (o : LegacyOrder) : Bool := o.status == .confirmed

def confirmedPayment (orderId : Id) (o : LegacyOrder) : BackfilledPayment :=
  { organizationId := o.organizationId, orderId := orderId, paymentStatus := .unpaid
    refundStatus := .none, amountCents := o.totalCents, currencyCode := "CAD"
    createdAt := o.createdAt, updatedAt := o.updatedAt }

def isCancelledOnce (o : LegacyOrder) : Bool := o.status == .cancelled && o.placedAt.isSome

def cancelledPayment (orderId : Id) (o : LegacyOrder) : BackfilledPayment :=
  { organizationId := o.organizationId, orderId := orderId, paymentStatus := .unpaid
    refundStatus := .none, amountCents := o.totalCents, currencyCode := "CAD"
    createdAt := o.createdAt, updatedAt := o.updatedAt }

def isRefunded (o : LegacyOrder) : Bool := o.status == .refunded

/-- `"updatedAt"` is not null. -/
def refundedPayment (orderId : Id) (o : LegacyOrder) : BackfilledPayment :=
  { organizationId := o.organizationId, orderId := orderId, paymentStatus := .paid
    refundStatus := .refunded, amountCents := o.totalCents, currencyCode := "CAD"
    paidAt := some (o.placedAt.getD o.createdAt), refundedAt := some o.updatedAt
    createdAt := o.createdAt, updatedAt := o.updatedAt }

/-- `UPDATE "Order" SET … WHERE "status" = 'REFUNDED'`. -/
def normalizeRefunded (o : LegacyOrder) : LegacyOrder :=
  if isRefunded o then { o with status := .fulfilled, cancelledAt := none } else o

/-- `"status"::text::"OrderStatus_new"`. -/
def castStatus : LegacyOrderStatus → Option OrderStatus
  | .pending => some .pending
  | .confirmed => some .confirmed
  | .cancelled => some .cancelled
  | .fulfilled => some .fulfilled
  | .refunded => none

def OrderColumns.cast (o : LegacyOrder) (status : OrderStatus) : MigratedOrder :=
  { organizationId := o.organizationId, status := status, totalCents := o.totalCents
    placedAt := o.placedAt, cancelledAt := o.cancelledAt, createdAt := o.createdAt
    updatedAt := o.updatedAt }

/-- `ALTER COLUMN "status" TYPE "OrderStatus_new"` fails on a value that is not of the new type. -/
def alterStatus (orders : Table Id LegacyOrder) : Option (Table Id MigratedOrder) :=
  if orders.countRows (fun _ o => (castStatus o.status).isNone) = 0 then
    some (orders.mapRows fun o => o.cast ((castStatus o.status).getD .pending))
  else none

/-- `CREATE UNIQUE INDEX` on `"orderId"`. -/
def uniqueOrderId (payments : Table PayId BackfilledPayment) : Option Unit :=
  if (payments.entries.map fun e => e.2.orderId).Nodup then some () else none

structure Migrated where
  orders : Table Id MigratedOrder
  payments : Table PayId BackfilledPayment

/-- The migration of a database without payments. -/
def paymentsV2 (orders : Table Id LegacyOrder) : Option Migrated := do
  let payments ← insertPayments orders isFulfilled fulfilledPayment ∅
  let payments ← insertPayments orders isConfirmed confirmedPayment payments
  let payments ← insertPayments orders isCancelledOnce cancelledPayment payments
  let payments ← insertPayments orders isRefunded refundedPayment payments
  let orders ← alterStatus (orders.mapRows normalizeRefunded)
  uniqueOrderId payments
  pure { orders := orders, payments := payments }

end LedgerLight
