import LedgerLight.Stripe.Service

/-!
# Payment rules

The parts of `payment.service.ts` and `payment.utils.ts` that touch neither the database nor
Stripe: which attempt can be resumed, how Stripe's states map to payment states, and the guards.
-/

namespace LedgerLight

def cardActiveAttemptStatuses : List PaymentAttemptStatus := [.pending, .requiresAction]

def activeRefundStatuses : List RefundStatus := [.requested, .pending]

structure PaymentTransitionResult where
  paymentStatus : PaymentStatus
  attemptStatus : PaymentAttemptStatus
  lastFailure : Option String
  paidAt : Option Date
deriving DecidableEq, Repr

structure RefundTransitionResult where
  refundStatus : RefundStatus
  lastFailure : Option String
  refundedAt : Option Date
  refundFailedAt : Option Date
deriving DecidableEq, Repr

/-- `a ?? b` on an optional value. -/
def orElseNow (a : Option Date) (now : Date) : Option Date := some (a.getD now)

@[simp] theorem orElseNow_some (a now : Date) : orElseNow (some a) now = some a := rfl

@[simp] theorem orElseNow_isSome (a : Option Date) (now : Date) : (orElseNow a now).isSome := rfl

def mapPaymentIntentState (now : Date) (paymentIntent : StripePaymentIntent) (payment : Payment) :
    PaymentTransitionResult :=
  match paymentIntent.status with
  | .succeeded =>
    { paymentStatus := .paid, attemptStatus := .succeeded, lastFailure := none,
      paidAt := orElseNow payment.paidAt now }
  | .processing =>
    { paymentStatus := .pending, attemptStatus := .pending, lastFailure := none,
      paidAt := payment.paidAt }
  | .requiresAction | .requiresConfirmation =>
    { paymentStatus := .pending, attemptStatus := .requiresAction, lastFailure := none,
      paidAt := payment.paidAt }
  | .requiresPaymentMethod =>
    { paymentStatus := .failed, attemptStatus := .failed,
      lastFailure := some
        (paymentIntent.lastPaymentError.getD "Payment requires a new payment method"),
      paidAt := none }
  | .canceled =>
    { paymentStatus := .failed, attemptStatus := .canceled,
      lastFailure := some (paymentIntent.cancellationReason.getD "Payment attempt was canceled"),
      paidAt := none }
  | .other _ =>
    { paymentStatus := .pending, attemptStatus := .pending, lastFailure := none,
      paidAt := payment.paidAt }

def mapRefundState (now : Date) (refund : StripeRefund) (payment : Payment) :
    RefundTransitionResult :=
  match refund.status with
  | .succeeded =>
    { refundStatus := .refunded, lastFailure := none,
      refundedAt := orElseNow payment.refundedAt now, refundFailedAt := none }
  | .failed =>
    { refundStatus := .failed, lastFailure := some (refund.failureReason.getD "Refund failed"),
      refundedAt := none, refundFailedAt := some now }
  | .canceled =>
    { refundStatus := .failed,
      lastFailure := some (refund.failureReason.getD "Refund was canceled"),
      refundedAt := none, refundFailedAt := some now }
  | .pending | .other _ =>
    { refundStatus := .pending, lastFailure := none, refundedAt := none, refundFailedAt := none }

/-- The newest attempt, if it is still in progress. -/
def getReusableAttempt (payment : PaymentWithAttempts) : Option PaymentAttempt :=
  match payment.attempts with
  | [] => none
  | latestAttempt :: _ =>
    if payment.paymentStatus = .pending ∧ latestAttempt.status ∈ cardActiveAttemptStatuses then
      some latestAttempt
    else none

/-! ## Guards -/

def assertRefundInactive (payment : PaymentWithAttempts) : Except AppError Unit :=
  if payment.refundStatus ∈ activeRefundStatuses then
    .error (.badRequest "Refund processing is already in progress for this order")
  else .ok ()

def assertPaymentAcceptsCollection (payment : PaymentWithAttempts) : Except AppError Unit := do
  if payment.refundStatus = .refunded then
    .error (.conflict "Refunded orders cannot accept new payments")
  else
    assertRefundInactive payment
    if payment.paymentStatus = .paid then
      .error (.conflict "Order payment has already been completed")
    else .ok ()

def assertPaymentCanRefund (order : Order) (payment : PaymentWithAttempts) :
    Except AppError Unit :=
  if order.status ≠ .confirmed ∧ order.status ≠ .fulfilled then
    .error (.badRequest "Only confirmed or fulfilled orders can be refunded")
  else if payment.paymentStatus ≠ .paid then
    .error (.badRequest "Only paid orders can be refunded")
  else if payment.refundStatus = .refunded then
    .error (.conflict "Order payment has already been refunded")
  else if payment.refundStatus ∈ activeRefundStatuses then
    .error (.conflict "A refund is already in progress")
  else .ok ()

/-- `getStripeFailureMessage`: the error's own message unless it is empty. -/
def getStripeFailureMessage (error : AppError) (fallback : String) : String :=
  if error.message = "" then fallback else error.message

/-! ## What the guards and the maps guarantee -/

theorem getReusableAttempt_eq_some {p : PaymentWithAttempts} {a : PaymentAttempt} :
    getReusableAttempt p = some a ↔
      p.attempts.head? = some a ∧ p.paymentStatus = .pending ∧
        (a.status = .pending ∨ a.status = .requiresAction) := by
  unfold getReusableAttempt
  cases p.attempts with
  | nil => simp
  | cons b rest => simp only [cardActiveAttemptStatuses]; grind

theorem assertRefundInactive_ok {p : PaymentWithAttempts} {u : Unit} :
    assertRefundInactive p = .ok u ↔ p.refundStatus ≠ .requested ∧ p.refundStatus ≠ .pending := by
  unfold assertRefundInactive activeRefundStatuses
  cases p.refundStatus <;> simp

theorem assertPaymentAcceptsCollection_ok {p : PaymentWithAttempts} {u : Unit} :
    assertPaymentAcceptsCollection p = .ok u ↔
      (p.refundStatus = .none ∨ p.refundStatus = .failed) ∧ p.paymentStatus ≠ .paid := by
  unfold assertPaymentAcceptsCollection assertRefundInactive activeRefundStatuses
  cases hr : p.refundStatus <;> cases hp : p.paymentStatus <;>
    simp [Bind.bind, Except.bind]

theorem assertPaymentCanRefund_ok {o : Order} {p : PaymentWithAttempts} {u : Unit} :
    assertPaymentCanRefund o p = .ok u ↔
      (o.status = .confirmed ∨ o.status = .fulfilled) ∧ p.paymentStatus = .paid ∧
        (p.refundStatus = .none ∨ p.refundStatus = .failed) := by
  unfold assertPaymentCanRefund activeRefundStatuses
  cases o.status <;> cases p.paymentStatus <;> cases p.refundStatus <;> simp

theorem mapRefundState_refunded {now : Date} {refund : StripeRefund} {p : Payment}
    (h : (mapRefundState now refund p).refundStatus = .refunded) :
    refund.status = .succeeded ∧
      (mapRefundState now refund p).refundedAt = orElseNow p.refundedAt now := by
  unfold mapRefundState at h ⊢
  cases hs : refund.status <;> simp_all

/-! ## Answers -/

inductive FinancialStatus where
  | noPayment | unpaid | paymentPending | paymentFailed | paid | refundRequested | refundPending
  | refundFailed | refunded
deriving DecidableEq, Repr

def deriveFinancialStatus : Option Payment → FinancialStatus
  | none => .noPayment
  | some payment =>
    match payment.refundStatus with
    | .refunded => .refunded
    | .requested => .refundRequested
    | .pending => .refundPending
    | .failed => .refundFailed
    | .none =>
      match payment.paymentStatus with
      | .paid => .paid
      | .pending => .paymentPending
      | .failed => .paymentFailed
      | .unpaid => .unpaid

structure PaymentAttemptSummaryDto where
  id : Id
  stripePaymentIntentId : PaymentIntentId
  status : PaymentAttemptStatus
  lastFailure : Option String
  createdAt : Date
  updatedAt : Date
deriving DecidableEq, Repr

def toPaymentAttemptSummaryDto (attempt : PaymentAttempt) : PaymentAttemptSummaryDto :=
  { id := attempt.id, stripePaymentIntentId := attempt.stripePaymentIntentId,
    status := attempt.status, lastFailure := attempt.lastFailure,
    createdAt := attempt.createdAt, updatedAt := attempt.updatedAt }

structure PaymentSummaryDto where
  id : Id
  method : Option PaymentMethod
  paymentStatus : PaymentStatus
  refundStatus : RefundStatus
  financialStatus : FinancialStatus
  amountCents : Int
  currencyCode : String
  paidAt : Option Date
  refundRequestedAt : Option Date
  refundedAt : Option Date
deriving DecidableEq, Repr

def toPaymentSummaryDto (payment : Payment) : PaymentSummaryDto :=
  { id := payment.id, method := payment.method, paymentStatus := payment.paymentStatus,
    refundStatus := payment.refundStatus,
    financialStatus := deriveFinancialStatus (some payment),
    amountCents := payment.amountCents, currencyCode := payment.currencyCode,
    paidAt := payment.paidAt, refundRequestedAt := payment.refundRequestedAt,
    refundedAt := payment.refundedAt }

structure PaymentDto extends PaymentSummaryDto where
  orderId : Id
  organizationId : Id
  stripeRefundId : Option RefundId
  refundFailedAt : Option Date
  refundReason : Option String
  lastPaymentFailure : Option String
  lastRefundFailure : Option String
  latestAttempt : Option PaymentAttemptSummaryDto
  createdAt : Date
  updatedAt : Date
deriving DecidableEq, Repr

def toPaymentDto (orderId : Id) (payment : PaymentWithAttempts) : PaymentDto :=
  { toPaymentSummaryDto payment.toPayment with
    orderId := orderId, organizationId := payment.organizationId,
    stripeRefundId := payment.stripeRefundId, refundFailedAt := payment.refundFailedAt,
    refundReason := payment.refundReason, lastPaymentFailure := payment.lastPaymentFailure,
    lastRefundFailure := payment.lastRefundFailure,
    latestAttempt := payment.attempts.head?.map toPaymentAttemptSummaryDto,
    createdAt := payment.createdAt, updatedAt := payment.updatedAt }

structure CreateCardPaymentResponseDto where
  paymentId : Id
  attemptId : Id
  clientSecret : ClientSecret
  paymentStatus : PaymentStatus
  attemptStatus : PaymentAttemptStatus
deriving DecidableEq, Repr

end LedgerLight
