import LedgerLight.Order.Reads

/-!
# The order page

Which actions `components/orders/order-detail-page.tsx` shows for an order that `getOrderById`
answered. The page decides that on the answer, with rules of its own.
-/

namespace LedgerLight.Frontend

inductive ButtonVariant where
  | default | outline | destructive
deriving DecidableEq, Repr

structure TransitionAction where
  toStatus : OrderStatus
  label : String
  variant : ButtonVariant
  requiresConfirmation : Bool
deriving DecidableEq, Repr

def hasActiveRefundFlow (payment : Option PaymentSummaryDto) : Bool :=
  payment.any fun p => p.refundStatus == .requested || p.refundStatus == .pending

def canProcessPayment (order : OrderDetailDto) : Bool :=
  order.status == .confirmed &&
    order.payment.any fun p =>
      p.financialStatus == .unpaid || p.financialStatus == .paymentFailed ||
        p.financialStatus == .paymentPending

def canRefundPayment (order : OrderDetailDto) : Bool :=
  order.payment.any fun p =>
    p.paymentStatus == .paid && (p.refundStatus == .none || p.refundStatus == .failed)

def confirmAction : TransitionAction :=
  { toStatus := .confirmed, label := "Confirm Order", variant := .default,
    requiresConfirmation := false }

def cancelAction : TransitionAction :=
  { toStatus := .cancelled, label := "Cancel Order", variant := .destructive,
    requiresConfirmation := true }

def fulfillAction : TransitionAction :=
  { toStatus := .fulfilled, label := "Fulfill Order", variant := .default,
    requiresConfirmation := false }

def reopenAction : TransitionAction :=
  { toStatus := .pending, label := "Reopen Order", variant := .outline,
    requiresConfirmation := true }

/-- `order.payment?.paymentStatus === "PAID"`. -/
def hasPaidPayment (payment : Option PaymentSummaryDto) : Bool :=
  payment.any fun p => p.paymentStatus == .paid

def getAvailableTransitions (order : OrderDetailDto) : List TransitionAction :=
  match order.status with
  | .pending => [confirmAction, cancelAction]
  | .confirmed =>
    (if order.payment.any fun p => p.financialStatus == .paid then [fulfillAction] else []) ++
      if order.payment.isSome && !hasPaidPayment order.payment &&
          !hasActiveRefundFlow order.payment then [cancelAction] else []
  | .cancelled =>
    if !hasPaidPayment order.payment && !hasActiveRefundFlow order.payment then [reopenAction]
    else []
  | .fulfilled => []

/-- The statuses that the page offers. -/
def offeredStatuses (order : OrderDetailDto) : List OrderStatus :=
  (getAvailableTransitions order).map (·.toStatus)

end LedgerLight.Frontend
