import LedgerLight.Common.Errors

/-!
# The rows of the database

`prisma/schema.prisma`, as far as orders and payments read it.

`Payment.orderId` is unique and every relation below an order cascades, so the rows that hang
from one order are kept with it: `OrderRecord` has the order's items and its payment, and the
payment has its attempts. These are the relations the services read with `include`
(`OrderWithPayment` and `PaymentWithAttempts` in `payment.service.ts`). A row's own key is the key
of the table it is in.
-/

namespace LedgerLight

/-! ## Enumerations -/

inductive OrderStatus where
  | pending | confirmed | cancelled | fulfilled
deriving DecidableEq, Repr

inductive PaymentStatus where
  | unpaid | pending | failed | paid
deriving DecidableEq, Repr

inductive RefundStatus where
  | none | requested | pending | failed | refunded
deriving DecidableEq, Repr

inductive PaymentMethod where
  | card | cash
deriving DecidableEq, Repr

inductive PaymentAttemptStatus where
  | pending | requiresAction | succeeded | failed | canceled
deriving DecidableEq, Repr

/-- The audit actions of payments. -/
inductive AuditAction where
  | paymentCreated | paymentAttemptStarted | paymentPaid | paymentFailed | paymentReopenVoided
  | paymentRefundRequested | paymentRefunded | paymentRefundFailed
deriving DecidableEq, Repr

inductive AuditEntityType where
  | payment
deriving DecidableEq, Repr

/-- The name the database and the API use. -/
def OrderStatus.wire : OrderStatus → String
  | pending => "PENDING"
  | confirmed => "CONFIRMED"
  | cancelled => "CANCELLED"
  | fulfilled => "FULFILLED"

def PaymentStatus.wire : PaymentStatus → String
  | unpaid => "UNPAID"
  | pending => "PENDING"
  | failed => "FAILED"
  | paid => "PAID"

def RefundStatus.wire : RefundStatus → String
  | none => "NONE"
  | requested => "REQUESTED"
  | pending => "PENDING"
  | failed => "FAILED"
  | refunded => "REFUNDED"

def PaymentMethod.wire : PaymentMethod → String
  | card => "CARD"
  | cash => "CASH"

def PaymentAttemptStatus.wire : PaymentAttemptStatus → String
  | pending => "PENDING"
  | requiresAction => "REQUIRES_ACTION"
  | succeeded => "SUCCEEDED"
  | failed => "FAILED"
  | canceled => "CANCELED"

/-! ## Catalog -/

structure Product where
  organizationId : Id
  name : String
  sku : String
  priceCents : Int
  active : Bool
deriving DecidableEq, Repr

structure Customer where
  organizationId : Id
deriving DecidableEq, Repr

structure Location where
  organizationId : Id
deriving DecidableEq, Repr

/-! ## Orders and payments -/

structure OrderItem where
  id : Id
  productId : Id
  organizationId : Id
  productName : String
  sku : Option String
  qty : Int
  unitPriceCents : Int
  lineSubtotalCents : Int
  discountCents : Int
  taxCents : Int
  lineTotalCents : Int
deriving DecidableEq, Repr

structure Order where
  organizationId : Id
  customerId : Option Id
  locationId : Option Id
  status : OrderStatus
  subtotalCents : Int
  taxCents : Int
  discountCents : Int
  totalCents : Int
  createdAt : Date
  updatedAt : Date
  placedAt : Option Date
  cancelledAt : Option Date
deriving DecidableEq, Repr

/-- Stripe's id of a PaymentIntent. -/
abbrev PaymentIntentId := Nat

/-- Stripe's id of a refund. -/
abbrev RefundId := Nat

abbrev ClientSecret := String

structure Payment where
  id : Id
  organizationId : Id
  method : Option PaymentMethod
  paymentStatus : PaymentStatus
  refundStatus : RefundStatus
  amountCents : Int
  currencyCode : String
  stripeRefundId : Option RefundId
  paidAt : Option Date
  refundRequestedAt : Option Date
  refundedAt : Option Date
  refundFailedAt : Option Date
  refundReason : Option String
  lastPaymentFailure : Option String
  lastRefundFailure : Option String
  createdAt : Date
  updatedAt : Date
deriving DecidableEq, Repr

structure PaymentAttempt where
  id : Id
  stripePaymentIntentId : PaymentIntentId
  status : PaymentAttemptStatus
  clientSecret : ClientSecret
  amountCents : Int
  currencyCode : String
  lastFailure : Option String
  createdAt : Date
  updatedAt : Date
deriving DecidableEq, Repr

/-- A payment with its attempts, newest first (`orderBy: { createdAt: 'desc' }`; of two attempts
created at one instant the later one comes first). -/
structure PaymentWithAttempts extends Payment where
  attempts : List PaymentAttempt
deriving DecidableEq, Repr

/-- An order with the rows that hang from it. -/
structure OrderRecord extends Order where
  items : List OrderItem
  payment : Option PaymentWithAttempts
deriving DecidableEq, Repr

/-! ## Audit log and webhook receipts -/

/-- A value in the JSON of an audit row. -/
inductive AuditValue where
  | null
  | bool (b : Bool)
  | int (n : Int)
  | text (s : String)
  | id (i : Id)
  | intent (i : PaymentIntentId)
deriving DecidableEq, Repr

abbrev AuditJson := List (String × AuditValue)

structure AuditLog where
  organizationId : Id
  actorUserId : Option Id
  entityType : AuditEntityType
  entityId : Id
  action : AuditAction
  beforeJson : Option AuditJson
  afterJson : Option AuditJson
  requestId : Option String
  ip : Option String
  userAgent : Option String
deriving DecidableEq, Repr

/-- Stripe's id of an event. -/
abbrev StripeEventId := Nat

structure StripeWebhookReceipt where
  eventType : String
  receivedAt : Date
  processedAt : Option Date
deriving DecidableEq, Repr

end LedgerLight
