import LedgerLight.Infra.Machine
import LedgerLight.Order.Service
import LedgerLight.Payment.Calls

/-!
# The system as a machine

A `World` is the database, Stripe's state, the calls that are between two of their parts, and the
clock. One action is one transaction, one read outside a transaction with the backfill that may
follow it, one call to Stripe between two transactions, or one move of the environment. Calls of
several parts (`confirmCardPayment`, `refundPayment`) are kept in `calls` between their parts, so
their parts interleave with everything else in any order.

Stripe is any `StripeService S M`, and its moves happen at any time: what is proved about
`system stripe` holds for any answers Stripe gives. Assumptions on Stripe are conditions on
the steps of a run.
-/

namespace LedgerLight

open Infra

/-- A call between two of its parts: which part is next, and what it kept. -/
inductive InFlight where
  /-- `confirmCardPayment` before it retrieves the intent. -/
  | confirmRetrieve (orderId paymentId : Id) (attempt : PaymentAttempt)
      (auditContext : AuditContext)
  /-- `confirmCardPayment` before its transaction. -/
  | confirmApply (orderId paymentId attemptId : Id) (paymentIntent : StripePaymentIntent)
      (auditContext : AuditContext)
  /-- A cash refund that passed the guard. -/
  | refundCash (call : RefundCall)
  /-- A card refund that passed the guard. -/
  | refundRequest (call : RefundCall) (paymentIntentId : PaymentIntentId)
  /-- A card refund whose request is committed. -/
  | refundCreate (call : RefundCall) (paymentIntentId : PaymentIntentId)
  /-- A card refund whose call to Stripe failed. -/
  | refundFail (call : RefundCall) (failureMessage : String)
  /-- A card refund whose call to Stripe was answered. -/
  | refundApply (call : RefundCall) (refund : StripeRefund)
deriving DecidableEq, Repr

structure World (S : Type) where
  db : Database
  stripe : S
  /-- Calls between two of their parts, by the id they got when they started. -/
  calls : Table Id InFlight
  /-- Client secrets that were answered to a caller. -/
  returned : List ClientSecret
  now : Date
  /-- Number of steps made; ids generated in a step carry it. -/
  steps : Nat

namespace World

variable {S M : Type}

def init (s : S) : World S :=
  { db := .empty, stripe := s, calls := ∅, returned := [], now := 0, steps := 0 }

/-- What a call made in this state reads. -/
def env (w : World S) : Env := { now := w.now, uuid := fun i => ⟨w.steps, i⟩ }

end World

inductive Action (M : Type) where
  | createOrder (org : CurrentOrg) (data : CreateOrderDto)
  | addOrderItem (org : CurrentOrg) (orderId : Id) (data : CreateOrderItemDto)
  | deleteOrderItem (org : CurrentOrg) (orderId itemId : Id)
  | updateOrder (org : CurrentOrg) (orderId : Id) (data : UpdateOrderDto)
  | deleteOrder (org : CurrentOrg) (orderId : Id)
  | transitionStatus (org : CurrentOrg) (orderId : Id) (toStatus : OrderStatus)
      (auditContext : AuditContext)
  | initiateCardPayment (org : CurrentOrg) (orderId : Id) (auditContext : AuditContext)
  | markCashPaid (org : CurrentOrg) (orderId : Id) (auditContext : AuditContext)
  | getPayment (org : CurrentOrg) (orderId : Id)
  /-- `confirmCardPayment` up to its call to Stripe. -/
  | confirmCardPayment (org : CurrentOrg) (orderId : Id) (auditContext : AuditContext)
  /-- `refundPayment` up to its first transaction. -/
  | refundPayment (org : CurrentOrg) (orderId : Id) (refundReason : String)
      (auditContext : AuditContext)
  /-- The next part of a call. -/
  | resume (callId : Id)
  | webhookPaymentIntent (event : StripeEventId) (eventType : String)
      (paymentIntent : StripePaymentIntent)
  | webhookRefund (event : StripeEventId) (eventType : String) (refund : StripeRefund)
  /-- Stripe's state changes by itself. -/
  | stripe (move : M)
  /-- Time passes. -/
  | tick (milliseconds : Nat)
  /-- The catalog is edited by other services. -/
  | catalog (products : Table Id Product) (customers : Table Id Customer)
      (locations : Table Id Location)

/-- What a step answers to its caller. -/
inductive Response where
  | order (orderId : Id) (order : OrderRecord)
  | deleted
  | card (dto : CreateCardPaymentResponseDto)
  | payment (dto : PaymentDto)
  /-- The call goes on with the next `resume`. -/
  | started (callId : Id)
  | received
  | none

namespace World

variable {S M : Type} (stripe : StripeService S M) (w : World S)

/-- One more step is made. -/
def next : World S := { w with steps := w.steps + 1 }

/-- Run a transaction and commit it unless it fails. -/
def transact {α : Type} (x : Tx S α) : Except AppError α × World S :=
  match x.run w.db w.stripe with
  | (.ok (a, db), s) => (.ok a, { w with db := db, stripe := s })
  | (.error e, s) => (.error e, { w with stripe := s })

/-- Run a service call that is not in a transaction: its writes stay when it fails. -/
def autocommit {α : Type} (x : Tx S α) : Except AppError α × World S :=
  match x.runAuto w.db w.stripe with
  | (r, db, s) => (r, { w with db := db, stripe := s })

def setCall (callId : Id) (call : InFlight) : World S :=
  { w with calls := w.calls.insert callId call }

def endCall (callId : Id) : World S := { w with calls := w.calls.erase callId }

/-- A call's answer, once its last part is done. -/
def respond {α : Type} (f : α → Response) (r : Except AppError α × World S) :
    Except AppError Response × World S :=
  (r.1.map f, r.2)

/-- The first part of a call: on success the call waits for its next part. -/
def start {α : Type} (f : α → InFlight) (r : Except AppError α × World S) :
    Except AppError Response × World S :=
  match r with
  | (.ok a, w') => (.ok (.started (w.env.uuid 0)), w'.setCall (w.env.uuid 0) (f a))
  | (.error e, w') => (.error e, w')

/-- The client secret of an answered card payment is known to the caller. -/
def reveal (r : Except AppError CreateCardPaymentResponseDto × World S) :
    Except AppError CreateCardPaymentResponseDto × World S :=
  match r with
  | (.ok dto, w') => (.ok dto, { w' with returned := dto.clientSecret :: w'.returned })
  | (.error e, w') => (.error e, w')

/-- `confirmCardPayment` after Stripe's answer. -/
def confirmRetrieved (callId orderId paymentId attemptId : Id) (auditContext : AuditContext)
    (r : Except AppError StripePaymentIntent × S) : Except AppError Response × World S :=
  match r with
  | (.ok paymentIntent, s) =>
    (.ok (.started callId), setCall { w with stripe := s } callId
      (.confirmApply orderId paymentId attemptId paymentIntent auditContext))
  | (.error e, s) => (.error e, endCall { w with stripe := s } callId)

/-- A card refund after the transaction of its request. -/
def requested (callId : Id) (call : RefundCall) (paymentIntentId : PaymentIntentId)
    (r : Except AppError Unit × World S) : Except AppError Response × World S :=
  match r with
  | (.ok _, w') => (.ok (.started callId), w'.setCall callId (.refundCreate call paymentIntentId))
  | (.error e, w') => (.error e, w')

/-- A card refund after Stripe's answer. -/
def refundAnswered (callId : Id) (call : RefundCall) (r : Except AppError StripeRefund × S) :
    Except AppError Response × World S :=
  match r with
  | (.ok refund, s) =>
    (.ok (.started callId), setCall { w with stripe := s } callId (.refundApply call refund))
  | (.error e, s) =>
    (.ok (.started callId), setCall { w with stripe := s } callId
      (.refundFail call (getStripeFailureMessage e "Unable to create Stripe refund")))

/-- The next part of a call. -/
def resumeCall (callId : Id) : InFlight → Except AppError Response × World S
  | .confirmRetrieve orderId paymentId attempt auditContext =>
    w.confirmRetrieved callId orderId paymentId attempt.id auditContext
      (stripe.retrievePaymentIntent attempt.stripePaymentIntentId w.stripe)
  | .confirmApply orderId paymentId attemptId paymentIntent auditContext =>
    respond .payment ((w.endCall callId).transact
      (confirmCardPaymentApply w.env orderId paymentId attemptId paymentIntent auditContext))
  | .refundCash call =>
    respond .payment ((w.endCall callId).transact (refundPaymentCash w.env call))
  | .refundRequest call paymentIntentId =>
    requested callId call paymentIntentId
      ((w.endCall callId).transact (refundPaymentRequest w.env call))
  | .refundCreate call paymentIntentId =>
    w.refundAnswered callId call (refundPaymentCreate stripe call paymentIntentId w.stripe)
  | .refundFail call failureMessage =>
    respond .payment ((w.endCall callId).transact (refundPaymentFail w.env call failureMessage))
  | .refundApply call refund =>
    respond .payment ((w.endCall callId).transact (refundPaymentApply w.env call refund))

/-- What an action answers and does. -/
def exec : Action M → Except AppError Response × World S
  | .createOrder org data =>
    respond (fun r => .order r.1 r.2) (w.transact (LedgerLight.createOrder w.env org data))
  | .addOrderItem org orderId data =>
    respond (.order orderId) (w.transact (LedgerLight.addOrderItem w.env org orderId data))
  | .deleteOrderItem org orderId itemId =>
    respond (.order orderId) (w.transact (LedgerLight.deleteOrderItem w.env org orderId itemId))
  | .updateOrder org orderId data =>
    respond (.order orderId) (w.autocommit (LedgerLight.updateOrder w.env org orderId data))
  | .deleteOrder org orderId =>
    respond (fun _ => .deleted) (w.autocommit (LedgerLight.deleteOrder org orderId))
  | .transitionStatus org orderId toStatus auditContext =>
    respond (.order orderId)
      (w.transact (LedgerLight.transitionStatus stripe w.env org orderId toStatus auditContext))
  | .initiateCardPayment org orderId auditContext =>
    respond .card (reveal
      (w.transact (LedgerLight.initiateCardPayment stripe w.env org orderId auditContext)))
  | .markCashPaid org orderId auditContext =>
    respond .payment (w.transact (LedgerLight.markCashPaid w.env org orderId auditContext))
  | .getPayment org orderId =>
    respond .payment (w.autocommit (getPaymentByOrderId w.env org orderId))
  | .confirmCardPayment org orderId auditContext =>
    w.start (fun r => .confirmRetrieve orderId r.1.id r.2 auditContext)
      (w.autocommit (confirmCardPaymentRead w.env org orderId))
  | .refundPayment org orderId refundReason auditContext =>
    w.start (fun r =>
        match r.2 with
        | Option.none => .refundCash r.1
        | some paymentIntentId => .refundRequest r.1 paymentIntentId)
      (w.autocommit (refundPaymentGuard w.env org orderId refundReason auditContext))
  | .resume callId =>
    match w.calls.lookup callId with
    | Option.none => (.ok .none, w)
    | some call => w.resumeCall stripe callId call
  | .webhookPaymentIntent event eventType paymentIntent =>
    respond (fun _ => .received)
      (w.transact (handleWebhookPaymentIntent w.env event eventType paymentIntent))
  | .webhookRefund event eventType refund =>
    respond (fun _ => .received) (w.transact (handleWebhookRefund w.env event eventType refund))
  | .stripe move => (.ok .none, { w with stripe := stripe.move move w.stripe })
  | .tick milliseconds => (.ok .none, { w with now := w.now + milliseconds })
  | .catalog products customers locations =>
    (.ok .none, { w with db := { w.db with products := products, customers := customers,
                                           locations := locations } })

/-- The error an action answers, if it fails. -/
def error? (a : Action M) : Option AppError :=
  match (w.exec stripe a).1 with
  | .error e => some e
  | .ok _ => none

/-! ## Fields that a part of a step leaves alone -/

theorem transact_steps {α : Type} (x : Tx S α) : (w.transact x).2.steps = w.steps := by
  unfold transact
  rcases x.run w.db w.stripe with ⟨_ | ⟨_, _⟩, _⟩ <;> rfl

theorem start_steps {α : Type} (f : α → InFlight) (r : Except AppError α × World S) :
    (w.start f r).2.steps = r.2.steps := by
  rcases r with ⟨_ | _, _⟩ <;> rfl

theorem reveal_steps (r : Except AppError CreateCardPaymentResponseDto × World S) :
    (reveal r).2.steps = r.2.steps := by
  rcases r with ⟨_ | _, _⟩ <;> rfl

variable {stripe w} {callId : Id}

theorem confirmRetrieved_db (orderId paymentId attemptId : Id) (auditContext : AuditContext)
    (r : Except AppError StripePaymentIntent × S) :
    (w.confirmRetrieved callId orderId paymentId attemptId auditContext r).2.db = w.db := by
  rcases r with ⟨e | pi, s⟩ <;> rfl

theorem confirmRetrieved_steps (orderId paymentId attemptId : Id) (auditContext : AuditContext)
    (r : Except AppError StripePaymentIntent × S) :
    (w.confirmRetrieved callId orderId paymentId attemptId auditContext r).2.steps = w.steps := by
  rcases r with ⟨_ | _, _⟩ <;> rfl

theorem refundAnswered_steps (call : RefundCall) (r : Except AppError StripeRefund × S) :
    (w.refundAnswered callId call r).2.steps = w.steps := by
  rcases r with ⟨_ | _, _⟩ <;> rfl

theorem requested_steps (call : RefundCall) (paymentIntentId : PaymentIntentId)
    (r : Except AppError Unit × World S) :
    (requested callId call paymentIntentId r).2.steps = r.2.steps := by
  rcases r with ⟨_ | _, _⟩ <;> rfl

theorem refundAnswered_db (call : RefundCall) (r : Except AppError StripeRefund × S) :
    (w.refundAnswered callId call r).2.db = w.db := by
  rcases r with ⟨e | refund, s⟩ <;> rfl

theorem requested_db (call : RefundCall) (paymentIntentId : PaymentIntentId)
    (r : Except AppError Unit × World S) :
    (requested callId call paymentIntentId r).2.db = r.2.db ∧
      (requested callId call paymentIntentId r).2.stripe = r.2.stripe := by
  rcases r with ⟨e | u, w'⟩ <;> exact ⟨rfl, rfl⟩

theorem start_db {α : Type} (f : α → InFlight) (r : Except AppError α × World S) :
    (w.start f r).2.db = r.2.db ∧ (w.start f r).2.stripe = r.2.stripe := by
  rcases r with ⟨e | a, w'⟩ <;> exact ⟨rfl, rfl⟩

theorem reveal_db (r : Except AppError CreateCardPaymentResponseDto × World S) :
    (reveal r).2.db = r.2.db ∧ (reveal r).2.stripe = r.2.stripe := by
  rcases r with ⟨e | a, w'⟩ <;> exact ⟨rfl, rfl⟩

theorem exec_resume_none (h : w.calls.lookup callId = Option.none) :
    w.exec stripe (.resume callId) = (.ok .none, w) := by
  simp only [exec, h]

theorem exec_resume {call : InFlight} (h : w.calls.lookup callId = some call) :
    w.exec stripe (.resume callId) = w.resumeCall stripe callId call := by
  simp only [exec, h]

theorem resumeCall_steps (call : InFlight) :
    (w.resumeCall stripe callId call).2.steps = w.steps := by
  cases call with
  | confirmRetrieve orderId paymentId attempt auditContext => exact confirmRetrieved_steps ..
  | refundCreate call paymentIntentId => exact refundAnswered_steps ..
  | refundRequest call paymentIntentId =>
    exact (requested_steps ..).trans ((w.endCall callId).transact_steps _)
  | confirmApply orderId paymentId attemptId paymentIntent auditContext =>
    exact (w.endCall callId).transact_steps _
  | refundCash call => exact (w.endCall callId).transact_steps _
  | refundFail call message => exact (w.endCall callId).transact_steps _
  | refundApply call refund => exact (w.endCall callId).transact_steps _

theorem exec_steps (a : Action M) : (w.exec stripe a).2.steps = w.steps := by
  cases a with
  | createOrder org data => exact w.transact_steps _
  | addOrderItem org orderId data => exact w.transact_steps _
  | deleteOrderItem org orderId itemId => exact w.transact_steps _
  | updateOrder org orderId data => rfl
  | deleteOrder org orderId => rfl
  | transitionStatus org orderId toStatus auditContext => exact w.transact_steps _
  | initiateCardPayment org orderId auditContext =>
    exact (reveal_steps _).trans (w.transact_steps _)
  | markCashPaid org orderId auditContext => exact w.transact_steps _
  | getPayment org orderId => rfl
  | confirmCardPayment org orderId auditContext => exact w.start_steps _ _
  | refundPayment org orderId refundReason auditContext => exact w.start_steps _ _
  | resume callId =>
    cases hcall : w.calls.lookup callId with
    | none => rw [exec_resume_none hcall]
    | some call => rw [exec_resume hcall]; exact resumeCall_steps call
  | webhookPaymentIntent event eventType paymentIntent => exact w.transact_steps _
  | webhookRefund event eventType refund => exact w.transact_steps _
  | stripe move => rfl
  | tick milliseconds => rfl
  | catalog products customers locations => rfl

end World

/-- The orders and payments service over a Stripe account. -/
def system {S M : Type} (stripe : StripeService S M) : Machine (World S) (Action M) where
  step w a := (w.exec stripe a).2.next

@[simp] theorem step_steps {S M : Type} (stripe : StripeService S M) (w : World S) (a : Action M) :
    ((system stripe).step w a).steps = w.steps + 1 :=
  congrArg (· + 1) (World.exec_steps a)

end LedgerLight
