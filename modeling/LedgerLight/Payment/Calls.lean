import LedgerLight.Payment.Service

/-!
# Confirmations, refunds and webhooks

The calls of `payment.service.ts` that are more than one transaction, part by part, and the
handlers of Stripe's webhooks.
-/

namespace LedgerLight

open Infra Prog

variable {S M : Type}

def getPaymentByOrderId (env : Env) (org : CurrentOrg) (orderId : Id) : Tx S PaymentDto := do
  let read ← orderAndPaymentTx env org orderId
  ofExcept (match read.2 with
    | none => .error (.notFound "Payment not found for order")
    | some payment => .ok (toPaymentDto orderId payment))

/-- `attempts.find((attempt) => attempt.id === id) ?? attempts[0]` -/
def freshAttempt? (payment : PaymentWithAttempts) (attemptId : Id) : Option PaymentAttempt :=
  (payment.attempts.find? fun a => a.id == attemptId).or payment.attempts.head?

/-! ## confirmCardPayment -/

/-- What `confirmCardPayment` takes from its first read: the payment and its newest attempt. -/
def confirmCardPaymentTarget (payment? : Option PaymentWithAttempts) :
    Except AppError (PaymentWithAttempts × PaymentAttempt) :=
  match payment? with
  | none => .error (.notFound "Payment not found for order")
  | some payment =>
    match payment.attempts.head? with
    | none => .error (.badRequest "No card payment attempt exists for order")
    | some latestAttempt => .ok (payment, latestAttempt)

/-- The read before the call to Stripe. -/
def confirmCardPaymentRead (env : Env) (org : CurrentOrg) (orderId : Id) :
    Tx S (PaymentWithAttempts × PaymentAttempt) := do
  let read ← orderAndPaymentTx env org orderId
  ofExcept (confirmCardPaymentTarget read.2)

/-- The transaction after the call to Stripe. -/
def confirmCardPaymentApply (env : Env) (orderId paymentId attemptId : Id)
    (paymentIntent : StripePaymentIntent) (auditContext : AuditContext) : Tx S PaymentDto := do
  let freshPayment ← getPaymentByIdTx orderId paymentId
  match freshAttempt? freshPayment attemptId with
  | none => fail (.notFound "Payment attempt not found")
  | some freshAttempt =>
    applyPaymentIntentStateTx env orderId freshPayment freshAttempt paymentIntent auditContext

/-- The whole call: the read, the call to Stripe and the transaction. -/
def confirmCardPayment (stripe : StripeService S M) (env : Env) (org : CurrentOrg) (orderId : Id)
    (auditContext : AuditContext) : Tx S PaymentDto := do
  let target ← confirmCardPaymentRead env org orderId
  let paymentIntent ← invoke (stripe.retrievePaymentIntent target.2.stripePaymentIntentId)
  transaction
    (confirmCardPaymentApply env orderId target.1.id target.2.id paymentIntent auditContext)

/-! ## refundPayment -/

/-- What a `refundPayment` call keeps from its first read. -/
structure RefundCall where
  org : CurrentOrg
  orderId : Id
  organizationId : Id
  paymentId : Id
  refundReason : String
  auditContext : AuditContext
deriving DecidableEq, Repr

/-- The row after `markRefundRequestedTx`. -/
def refundRequested (env : Env) (refundReason : String) (p : Payment) : Payment :=
  { p with refundStatus := .requested, refundRequestedAt := some env.now,
           refundReason := some refundReason, lastRefundFailure := none, refundFailedAt := none }

def markRefundRequestedTx (env : Env) (orderId : Id) (payment : PaymentWithAttempts)
    (refundReason : String) (auditContext : AuditContext) : Tx S PaymentWithAttempts := do
  let requested ← paymentUpdate env orderId payment.id (refundRequested env refundReason)
  doWhen (payment.refundStatus ≠ .requested)
    (writePaymentAuditLogTx payment.toPayment .paymentRefundRequested
      (some [("refundStatus", .text payment.refundStatus.wire)])
      (some [("refundStatus", .text requested.refundStatus.wire),
        ("refundReason", .text refundReason)])
      auditContext)
  pure requested

/-- What `refundPayment` takes from its first read, after its guard: the call, and the intent to
refund or none for a cash payment. -/
def refundPaymentTarget (org : CurrentOrg) (orderId : Id) (refundReason : String)
    (auditContext : AuditContext) (order : OrderRecord) (payment? : Option PaymentWithAttempts) :
    Except AppError (RefundCall × Option PaymentIntentId) :=
  match payment? with
  | none => .error (.notFound "Payment not found for order")
  | some payment => do
    assertPaymentCanRefund order.toOrder payment
    let call : RefundCall :=
      { org := org, orderId := orderId, organizationId := order.organizationId,
        paymentId := payment.id, refundReason := refundReason, auditContext := auditContext }
    if payment.method = some .cash then
      pure (call, none)
    else
      match payment.attempts.find? fun a => a.status == .succeeded with
      | none => throw (.badRequest "Card refunds require a successful payment attempt")
      | some successfulAttempt => pure (call, some successfulAttempt.stripePaymentIntentId)

/-- The read and the guard before any transaction. -/
def refundPaymentGuard (env : Env) (org : CurrentOrg) (orderId : Id) (refundReason : String)
    (auditContext : AuditContext) : Tx S (RefundCall × Option PaymentIntentId) := do
  let read ← orderAndPaymentTx env org orderId
  ofExcept (refundPaymentTarget org orderId refundReason auditContext read.1 read.2)

/-- The row after a cash refund. -/
def cashRefunded (env : Env) (p : Payment) : Payment :=
  { p with refundStatus := .refunded, refundedAt := some env.now, lastRefundFailure := none }

/-- The transaction of a cash refund. -/
def refundPaymentCash (env : Env) (call : RefundCall) : Tx S PaymentDto := do
  let refreshedOrder ← getOrderWithPaymentTx call.org call.orderId
  let refreshedPayment ← getPaymentByIdTx call.orderId call.paymentId
  let _ ← markRefundRequestedTx env call.orderId refreshedPayment call.refundReason
    call.auditContext
  let refunded ← paymentUpdate env call.orderId refreshedPayment.id (cashRefunded env)
  doWhen (refreshedOrder.status = .confirmed)
    (do let _ ← orderUpdate env call.orderId refreshedOrder.organizationId (cancelledByRefund env))
  writePaymentAuditLogTx refreshedPayment.toPayment .paymentRefunded
    (some [("refundStatus", .text RefundStatus.requested.wire)])
    (some [("refundStatus", .text refunded.refundStatus.wire)])
    call.auditContext
  pure (toPaymentDto call.orderId refunded)

/-- The first transaction of a card refund. -/
def refundPaymentRequest (env : Env) (call : RefundCall) : Tx S Unit := do
  let refreshedPayment ← getPaymentByIdTx call.orderId call.paymentId
  let _ ← markRefundRequestedTx env call.orderId refreshedPayment call.refundReason
    call.auditContext

/-- The call to Stripe between the two transactions of a card refund. -/
def refundPaymentCreate (stripe : StripeService S M) (call : RefundCall)
    (paymentIntentId : PaymentIntentId) (s : S) : Except AppError StripeRefund × S :=
  stripe.createRefund
    { paymentIntentId := paymentIntentId,
      metadata := { orderId := some call.orderId, organizationId := some call.organizationId,
                    paymentId := some call.paymentId },
      idempotencyKey := call.paymentId } s

/-- The row after a failed call to Stripe. -/
def refundFailed (env : Env) (failureMessage : String) (p : Payment) : Payment :=
  { p with refundStatus := .failed, lastRefundFailure := some failureMessage,
           refundFailedAt := some env.now }

/-- The transaction after a failed call to Stripe. -/
def refundPaymentFail (env : Env) (call : RefundCall) (failureMessage : String) :
    Tx S PaymentDto := do
  let failedPayment ← getPaymentByIdTx call.orderId call.paymentId
  let updated ← paymentUpdate env call.orderId failedPayment.id (refundFailed env failureMessage)
  writePaymentAuditLogTx failedPayment.toPayment .paymentRefundFailed
    (some [("refundStatus", .text failedPayment.refundStatus.wire)])
    (some [("refundStatus", .text updated.refundStatus.wire),
      ("lastRefundFailure", updated.lastRefundFailure.elim .null .text)])
    call.auditContext
  pure (toPaymentDto call.orderId updated)

/-- The transaction after an answered call to Stripe. -/
def refundPaymentApply (env : Env) (call : RefundCall) (refund : StripeRefund) :
    Tx S PaymentDto := do
  let refreshedOrder ← getOrderWithPaymentTx call.org call.orderId
  let refreshedPayment ← getPaymentByIdTx call.orderId call.paymentId
  applyRefundStateTx env call.orderId refreshedOrder refreshedPayment refund call.auditContext

/-- A card refund after its guard: the request, the call to Stripe and what follows it. -/
def refundPaymentCard (stripe : StripeService S M) (env : Env) (call : RefundCall)
    (paymentIntentId : PaymentIntentId) : Tx S PaymentDto := do
  transaction (refundPaymentRequest env call)
  match ← attempt (refundPaymentCreate stripe call paymentIntentId) with
  | .ok refund => transaction (refundPaymentApply env call refund)
  | .error e =>
    transaction (refundPaymentFail env call
      (getStripeFailureMessage e "Unable to create Stripe refund"))

/-- The whole call. -/
def refundPayment (stripe : StripeService S M) (env : Env) (org : CurrentOrg) (orderId : Id)
    (refundReason : String) (auditContext : AuditContext) : Tx S PaymentDto := do
  let target ← refundPaymentGuard env org orderId refundReason auditContext
  match target.2 with
  | none => transaction (refundPaymentCash env target.1)
  | some paymentIntentId => refundPaymentCard stripe env target.1 paymentIntentId

/-! ## Webhooks -/

/-- A receipt for the event; `false` if there already is one. -/
def createWebhookReceiptTx (env : Env) (stripeEventId : StripeEventId) (eventType : String) :
    Tx S Bool := do
  let received ← select fun db => (db.receipts.lookup stripeEventId).isSome
  if received then
    pure false
  else
    exec [.receipt stripeEventId]
      (fun db => if (db.receipts.lookup stripeEventId).isSome then some (.prisma "P2002") else none)
      (fun db => db.setReceipt stripeEventId
        { eventType := eventType, receivedAt := env.now, processedAt := none })
    pure true

def markWebhookReceiptProcessedTx (env : Env) (stripeEventId : StripeEventId) : Tx S Unit :=
  exec [.receipt stripeEventId]
    (fun db => if (db.receipts.lookup stripeEventId).isSome then none else some (.prisma "P2025"))
    (fun db =>
      match db.receipts.lookup stripeEventId with
      | none => db
      | some r => db.setReceipt stripeEventId { r with processedAt := some env.now })

/-- The attempt an intent belongs to: by the intent's id or by the attempt id in its metadata. -/
def attemptOfIntent (paymentIntent : StripePaymentIntent) (a : PaymentAttempt) : Bool :=
  a.stripePaymentIntentId == paymentIntent.id ||
    paymentIntent.metadata.paymentAttemptId == some a.id

/-- The part of `handleWebhookPaymentIntent` under a new receipt. -/
def syncWebhookPaymentIntent (env : Env) (paymentIntent : StripePaymentIntent) : Tx S Unit := do
  match ← select fun db => db.findAttempt? (attemptOfIntent paymentIntent) with
  | none => pure ()
  | some (orderId, attemptPayment, attempt) =>
    let payment ← getPaymentByIdTx orderId attemptPayment.id
    match freshAttempt? payment attempt.id with
    | none => pure ()
    | some freshAttempt =>
      let _ ← applyPaymentIntentStateTx env orderId payment freshAttempt paymentIntent

def handleWebhookPaymentIntent (env : Env) (stripeEventId : StripeEventId) (eventType : String)
    (paymentIntent : StripePaymentIntent) : Tx S Unit := do
  let shouldProcess ← createWebhookReceiptTx env stripeEventId eventType
  doWhen (shouldProcess = true) (do
    syncWebhookPaymentIntent env paymentIntent
    markWebhookReceiptProcessedTx env stripeEventId)

/-- The payment a refund belongs to: by the refund's id or by the payment id in its metadata. -/
def paymentOfRefund (refund : StripeRefund) (p : Payment) : Bool :=
  p.stripeRefundId == some refund.id || refund.metadata.paymentId == some p.id

/-- The part of `handleWebhookRefund` under a new receipt. -/
def syncWebhookRefund (env : Env) (refund : StripeRefund) : Tx S Unit := do
  match ← select fun db => db.findPayment? (paymentOfRefund refund) with
  | none => pure ()
  | some (orderId, order, payment) =>
    let _ ← applyRefundStateTx env orderId order payment refund

def handleWebhookRefund (env : Env) (stripeEventId : StripeEventId) (eventType : String)
    (refund : StripeRefund) : Tx S Unit := do
  let shouldProcess ← createWebhookReceiptTx env stripeEventId eventType
  doWhen (shouldProcess = true) (do
    syncWebhookRefund env refund
    markWebhookReceiptProcessedTx env stripeEventId)

end LedgerLight
