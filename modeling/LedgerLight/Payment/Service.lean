import LedgerLight.Domain.Database
import LedgerLight.Payment.Rules

/-!
# The payment service

`domain/payment/payment.service.ts`. A function whose name ends in `Tx` runs inside a transaction
of its caller. `confirmCardPayment` and `refundPayment` make calls to Stripe between transactions;
each of their parts is a function of its own here (`confirmCardPaymentRead`, …), and
`LedgerLight.System.World` runs the parts one after the other.
-/

namespace LedgerLight

open Infra Prog

variable {S M : Type}

/-- `writePaymentAuditLogTx`. -/
def writePaymentAuditLogTx (payment : Payment) (action : AuditAction)
    (beforeJson afterJson : Option AuditJson) (context : AuditContext) : Tx S Unit :=
  auditLogCreate
    { organizationId := payment.organizationId, actorUserId := context.actorUserId,
      entityType := .payment, entityId := payment.id, action := action,
      beforeJson := beforeJson, afterJson := afterJson, requestId := context.requestId,
      ip := context.ip, userAgent := context.userAgent }

/-! ## Payment rows -/

/-- The row `createPaymentForConfirmedOrderTx` creates. -/
def newPayment (env : Env) (organizationId : Id) (amountCents : Int) (orderCreatedAt : Date) :
    PaymentWithAttempts :=
  { id := env.uuid 0, organizationId := organizationId, method := none, paymentStatus := .unpaid,
    refundStatus := .none, amountCents := amountCents, currencyCode := "CAD",
    stripeRefundId := none, paidAt := none, refundRequestedAt := none, refundedAt := none,
    refundFailedAt := none, refundReason := none, lastPaymentFailure := none,
    lastRefundFailure := none, createdAt := orderCreatedAt, updatedAt := env.now, attempts := [] }

def createPaymentForConfirmedOrderTx (env : Env) (orderId organizationId : Id)
    (amountCents : Int) (orderCreatedAt : Date) (auditContext : AuditContext) :
    Tx S PaymentWithAttempts := do
  match ← paymentFindByOrder orderId with
  | some existing => pure existing
  | none =>
    let payment ← paymentCreate orderId (newPayment env organizationId amountCents orderCreatedAt)
    writePaymentAuditLogTx payment.toPayment .paymentCreated none
      (some [("paymentStatus", .text payment.paymentStatus.wire),
        ("refundStatus", .text payment.refundStatus.wire),
        ("amountCents", .int payment.amountCents),
        ("currencyCode", .text payment.currencyCode)])
      auditContext
    pure payment

/-- The row `ensureLegacyPaymentForOrderTx` creates. -/
def legacyPayment (env : Env) (organizationId : Id) (orderStatus : OrderStatus)
    (amountCents : Int) (orderCreatedAt : Date) (placedAt : Option Date) : PaymentWithAttempts :=
  let isPaidOrder := orderStatus = .fulfilled
  { newPayment env organizationId amountCents orderCreatedAt with
    paymentStatus := if isPaidOrder then .paid else .unpaid
    paidAt := if isPaidOrder then some (placedAt.getD orderCreatedAt) else none }

/-- Orders for which no payment is backfilled: never confirmed. -/
def withoutLegacyPayment (orderStatus : OrderStatus) (placedAt : Option Date) : Prop :=
  orderStatus = .pending ∨ orderStatus = .cancelled ∧ placedAt = none

instance (orderStatus : OrderStatus) (placedAt : Option Date) :
    Decidable (withoutLegacyPayment orderStatus placedAt) :=
  inferInstanceAs (Decidable (_ ∨ _))

def ensureLegacyPaymentForOrderTx (env : Env) (orderId organizationId : Id)
    (orderStatus : OrderStatus) (amountCents : Int) (orderCreatedAt : Date)
    (placedAt : Option Date) : Tx S (Option PaymentWithAttempts) := do
  match ← paymentFindByOrder orderId with
  | some existing => pure (some existing)
  | none =>
    if withoutLegacyPayment orderStatus placedAt then
      pure none
    else
      some <$> paymentCreate orderId
        (legacyPayment env organizationId orderStatus amountCents orderCreatedAt placedAt)

/-- `order.payment ?? await this.ensureLegacyPaymentForOrderTx(…)`. -/
def paymentOrLegacyTx (env : Env) (orderId : Id) (order : OrderRecord) :
    Tx S (Option PaymentWithAttempts) :=
  match order.payment with
  | some payment => pure (some payment)
  | none =>
    ensureLegacyPaymentForOrderTx env orderId order.organizationId order.status order.totalCents
      order.createdAt order.placedAt

def getPaymentByIdTx (orderId paymentId : Id) : Tx S PaymentWithAttempts := do
  match ← paymentFindById orderId paymentId with
  | none => fail (.notFound "Payment not found")
  | some payment => pure payment

def getOrderWithPaymentTx (org : CurrentOrg) (orderId : Id) : Tx S OrderRecord := do
  match ← select fun db => (db.order? orderId).filter (·.visibleTo org) with
  | none => fail (.notFound "Order not found for organization")
  | some order => pure order

/-- The order and its payment, as every service call on a payment reads them. -/
def orderAndPaymentTx (env : Env) (org : CurrentOrg) (orderId : Id) :
    Tx S (OrderRecord × Option PaymentWithAttempts) := do
  let order ← getOrderWithPaymentTx org orderId
  let payment ← paymentOrLegacyTx env orderId order
  pure (order, payment)

/-! ## Applying Stripe's state -/

/-- The payment row is written with what Stripe says of an attempt. -/
def PaymentTransitionResult.onPayment (next : PaymentTransitionResult) (p : Payment) : Payment :=
  { p with method := some .card, paymentStatus := next.paymentStatus,
           lastPaymentFailure := next.lastFailure, paidAt := next.paidAt }

def PaymentTransitionResult.onAttempt (next : PaymentTransitionResult) (a : PaymentAttempt) :
    PaymentAttempt :=
  { a with status := next.attemptStatus, lastFailure := next.lastFailure }

def paymentChangedBy (payment : Payment) (next : PaymentTransitionResult) : Prop :=
  payment.paymentStatus ≠ next.paymentStatus ∨
    payment.lastPaymentFailure ≠ next.lastFailure ∨
    payment.paidAt ≠ next.paidAt ∨
    payment.method ≠ some .card

instance (payment : Payment) (next : PaymentTransitionResult) :
    Decidable (paymentChangedBy payment next) :=
  inferInstanceAs (Decidable (_ ∨ _ ∨ _ ∨ _))

def attemptChangedBy (attempt : PaymentAttempt) (next : PaymentTransitionResult) : Prop :=
  attempt.status ≠ next.attemptStatus ∨ attempt.lastFailure ≠ next.lastFailure

instance (attempt : PaymentAttempt) (next : PaymentTransitionResult) :
    Decidable (attemptChangedBy attempt next) :=
  inferInstanceAs (Decidable (_ ∨ _))

/-- The audit action of a payment status that was just entered. -/
def paymentStatusAction : PaymentStatus → Option AuditAction
  | .paid => some .paymentPaid
  | .failed => some .paymentFailed
  | _ => none

def applyPaymentIntentStateTx (env : Env) (orderId : Id) (payment : PaymentWithAttempts)
    (attempt : PaymentAttempt) (paymentIntent : StripePaymentIntent)
    (auditContext : AuditContext := {}) : Tx S PaymentDto := do
  let next := mapPaymentIntentState env.now paymentIntent payment.toPayment
  if ¬ paymentChangedBy payment.toPayment next ∧ ¬ attemptChangedBy attempt next then
    pure (toPaymentDto orderId payment)
  else
    doWhen (attemptChangedBy attempt next)
      (do let _ ← attemptUpdate env orderId payment.id attempt.id next.onAttempt)
    let updatedPayment ← paymentUpdate env orderId payment.id next.onPayment
    if payment.paymentStatus ≠ updatedPayment.paymentStatus then
      match paymentStatusAction updatedPayment.paymentStatus with
      | some action =>
        writePaymentAuditLogTx payment.toPayment action
          (some [("paymentStatus", .text payment.paymentStatus.wire),
            ("refundStatus", .text payment.refundStatus.wire)])
          (some [("paymentStatus", .text updatedPayment.paymentStatus.wire),
            ("refundStatus", .text updatedPayment.refundStatus.wire),
            ("lastPaymentFailure", updatedPayment.lastPaymentFailure.elim .null .text)])
          auditContext
        pure (toPaymentDto orderId updatedPayment)
      | none => pure (toPaymentDto orderId updatedPayment)
    else
      pure (toPaymentDto orderId updatedPayment)

def RefundTransitionResult.onPayment (next : RefundTransitionResult) (p : Payment) : Payment :=
  { p with refundStatus := next.refundStatus, refundedAt := next.refundedAt,
           refundFailedAt := next.refundFailedAt, lastRefundFailure := next.lastFailure }

def refundChangedBy (payment : Payment) (next : RefundTransitionResult) (refund : StripeRefund) :
    Prop :=
  payment.refundStatus ≠ next.refundStatus ∨
    payment.lastRefundFailure ≠ next.lastFailure ∨
    payment.refundedAt ≠ next.refundedAt ∨
    payment.refundFailedAt ≠ next.refundFailedAt ∨
    payment.stripeRefundId ≠ some refund.id

instance (payment : Payment) (next : RefundTransitionResult) (refund : StripeRefund) :
    Decidable (refundChangedBy payment next refund) :=
  inferInstanceAs (Decidable (_ ∨ _ ∨ _ ∨ _ ∨ _))

/-- The order row after a successful refund of a confirmed order. -/
def cancelledByRefund (env : Env) (o : OrderRecord) : OrderRecord :=
  { o with status := .cancelled, cancelledAt := some env.now }

/-- The payment row is written only if the refund changes it. -/
def updateRefundTx (env : Env) (orderId : Id) (payment : PaymentWithAttempts)
    (next : RefundTransitionResult) (refund : StripeRefund) : Tx S PaymentWithAttempts :=
  if refundChangedBy payment.toPayment next refund then
    paymentUpdateRefundId env orderId payment.id refund.id next.onPayment
  else pure payment

def applyRefundStateTx (env : Env) (orderId : Id) (order : OrderRecord)
    (payment : PaymentWithAttempts) (refund : StripeRefund) (auditContext : AuditContext := {}) :
    Tx S PaymentDto := do
  let next := mapRefundState env.now refund payment.toPayment
  let updatedPayment ← updateRefundTx env orderId payment next refund
  doWhen (updatedPayment.refundStatus = .refunded ∧ order.status = .confirmed)
    (do let _ ← orderUpdate env orderId order.organizationId (cancelledByRefund env))
  doWhen (payment.refundStatus ≠ updatedPayment.refundStatus ∧
      updatedPayment.refundStatus = .refunded)
    (writePaymentAuditLogTx payment.toPayment .paymentRefunded
      (some [("refundStatus", .text payment.refundStatus.wire)])
      (some [("refundStatus", .text updatedPayment.refundStatus.wire)])
      auditContext)
  doWhen (payment.refundStatus ≠ updatedPayment.refundStatus ∧
      updatedPayment.refundStatus = .failed)
    (writePaymentAuditLogTx payment.toPayment .paymentRefundFailed
      (some [("refundStatus", .text payment.refundStatus.wire)])
      (some [("refundStatus", .text updatedPayment.refundStatus.wire),
        ("lastRefundFailure", updatedPayment.lastRefundFailure.elim .null .text)])
      auditContext)
  pure (toPaymentDto orderId updatedPayment)

/-! ## Retiring a card attempt -/

/-- Cancel the intent; if Stripe refuses, read its state instead. -/
def StripeService.cancelOrRetrieve (stripe : StripeService S M) (paymentIntentId : PaymentIntentId)
    (s : S) : Except AppError StripePaymentIntent × S :=
  match stripe.cancelPaymentIntent paymentIntentId s with
  | (.ok paymentIntent, s') => (.ok paymentIntent, s')
  | (.error _, s') => stripe.retrievePaymentIntent paymentIntentId s'

def cancelPaymentIntentForSync (stripe : StripeService S M) (paymentIntentId : PaymentIntentId) :
    Tx S StripePaymentIntent :=
  invoke (stripe.cancelOrRetrieve paymentIntentId)

def cancelActiveCardAttemptTx (stripe : StripeService S M) (env : Env) (orderId paymentId : Id)
    (auditContext : AuditContext) : Tx S PaymentWithAttempts := do
  let payment ← getPaymentByIdTx orderId paymentId
  match getReusableAttempt payment with
  | none => pure payment
  | some attempt =>
    let paymentIntent ← cancelPaymentIntentForSync stripe attempt.stripePaymentIntentId
    let _ ← applyPaymentIntentStateTx env orderId payment attempt paymentIntent auditContext
    getPaymentByIdTx orderId paymentId

/-- The intent of a payment's reusable attempt is cancelled; Stripe's answer is not used. -/
def cancelReusableAttempt (stripe : StripeService S M) : Option PaymentAttempt → Tx S Unit
  | none => pure ()
  | some attempt => do
    let _ ← cancelPaymentIntentForSync stripe attempt.stripePaymentIntentId

def deletePaymentForReopenTx (stripe : StripeService S M) (orderId paymentId : Id)
    (auditContext : AuditContext) : Tx S Unit := do
  let payment ← getPaymentByIdTx orderId paymentId
  let attempt := getReusableAttempt payment
  cancelReusableAttempt stripe attempt
  let _ ← attemptDeleteMany orderId payment.id
  paymentDelete orderId payment.id
  writePaymentAuditLogTx payment.toPayment .paymentReopenVoided
    (some [("method", payment.method.elim .null fun m => .text m.wire),
      ("paymentStatus", .text payment.paymentStatus.wire),
      ("refundStatus", .text payment.refundStatus.wire),
      ("latestAttemptId", attempt.elim .null fun a => .id a.id),
      ("latestAttemptStatus", attempt.elim .null fun a => .text a.status.wire),
      ("stripePaymentIntentId", attempt.elim .null fun a => .intent a.stripePaymentIntentId)])
    (some [("deleted", .bool true)])
    auditContext

/-! ## Collecting a payment -/

def startedAttempt (p : Payment) : Payment :=
  { p with method := some .card, paymentStatus := .pending, lastPaymentFailure := none }

/-- What `initiateCardPayment` asks Stripe for. -/
def cardPaymentArgs (orderId organizationId attemptId : Id) (payment : Payment) :
    CreatePaymentIntentArgs :=
  { amountCents := payment.amountCents, currencyCode := payment.currencyCode,
    metadata := { orderId := some orderId, organizationId := some organizationId,
                  paymentId := some payment.id, paymentAttemptId := some attemptId },
    idempotencyKey := (payment.id, attemptId) }

/-- The attempt `initiateCardPayment` creates. -/
def newAttempt (env : Env) (payment : Payment) (paymentIntentId : PaymentIntentId)
    (clientSecret : ClientSecret) : PaymentAttempt :=
  { id := env.uuid 1, stripePaymentIntentId := paymentIntentId, status := .pending,
    clientSecret := clientSecret, amountCents := payment.amountCents,
    currencyCode := payment.currencyCode, lastFailure := none, createdAt := env.now,
    updatedAt := env.now }

def initiateCardPayment (stripe : StripeService S M) (env : Env) (org : CurrentOrg) (orderId : Id)
    (auditContext : AuditContext := {}) : Tx S CreateCardPaymentResponseDto := do
  let (order, payment?) ← orderAndPaymentTx env org orderId
  match payment? with
  | none => fail (.badRequest "Only confirmed orders can accept payments")
  | some payment =>
    require (order.status = .confirmed) (.badRequest "Only confirmed orders can accept payments")
    ofExcept (assertPaymentAcceptsCollection payment)
    match getReusableAttempt payment with
    | some reusableAttempt =>
      pure { paymentId := payment.id, attemptId := reusableAttempt.id,
             clientSecret := reusableAttempt.clientSecret,
             paymentStatus := payment.paymentStatus, attemptStatus := reusableAttempt.status }
    | none =>
      let paymentIntent ← invoke (stripe.createPaymentIntent
        (cardPaymentArgs orderId order.organizationId (env.uuid 1) payment.toPayment))
      match paymentIntent.clientSecret.filter (· ≠ "") with
      | none =>
        fail (.badRequest "Stripe did not return a client secret for this payment attempt")
      | some clientSecret =>
        let attempt := newAttempt env payment.toPayment paymentIntent.id clientSecret
        let _ ← attemptCreate orderId payment.id attempt
        let _ ← paymentUpdate env orderId payment.id startedAttempt
        writePaymentAuditLogTx payment.toPayment .paymentAttemptStarted
          (some [("paymentStatus", .text payment.paymentStatus.wire),
            ("refundStatus", .text payment.refundStatus.wire)])
          (some [("paymentStatus", .text PaymentStatus.pending.wire),
            ("refundStatus", .text payment.refundStatus.wire),
            ("attemptId", .id attempt.id),
            ("stripePaymentIntentId", .intent attempt.stripePaymentIntentId)])
          auditContext
        pure { paymentId := payment.id, attemptId := attempt.id,
               clientSecret := attempt.clientSecret, paymentStatus := .pending,
               attemptStatus := attempt.status }

def paidInCash (env : Env) (payment p : Payment) : Payment :=
  { p with method := some .cash, paymentStatus := .paid,
           paidAt := orElseNow payment.paidAt env.now, lastPaymentFailure := none }

def markCashPaid (env : Env) (org : CurrentOrg) (orderId : Id) (auditContext : AuditContext := {}) :
    Tx S PaymentDto := do
  let (order, payment?) ← orderAndPaymentTx env org orderId
  match payment? with
  | none => fail (.badRequest "Only confirmed orders can be marked as paid")
  | some payment =>
    require (order.status = .confirmed) (.badRequest "Only confirmed orders can be marked as paid")
    ofExcept (assertRefundInactive payment)
    require (payment.paymentStatus ≠ .paid)
      (.conflict "Order payment has already been completed")
    require (payment.paymentStatus ≠ .pending)
      (.badRequest "Cannot mark cash paid while a card payment is still in progress")
    let updated ← paymentUpdate env orderId payment.id (paidInCash env payment.toPayment)
    writePaymentAuditLogTx payment.toPayment .paymentPaid
      (some [("paymentStatus", .text payment.paymentStatus.wire),
        ("refundStatus", .text payment.refundStatus.wire),
        ("method", payment.method.elim .null fun m => .text m.wire)])
      (some [("paymentStatus", .text updated.paymentStatus.wire),
        ("refundStatus", .text updated.refundStatus.wire),
        ("method", updated.method.elim .null fun m => .text m.wire)])
      auditContext
    pure (toPaymentDto orderId updated)

end LedgerLight
