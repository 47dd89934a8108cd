import LedgerLight.Infra.ReadCommitted
import LedgerLight.Order.Service
import LedgerLight.Payment.Calls

/-!
# Concurrent transactions

The `$transaction` callbacks of the two services as the transactions of `Infra.ReadCommitted`: no
isolation level is set, so they run under PostgreSQL's default, statement by statement.
-/

namespace LedgerLight

open Infra ReadCommitted

/-- The transactions of the services. -/
inductive Transaction where
  | createOrder (org : CurrentOrg) (data : CreateOrderDto)
  | addOrderItem (org : CurrentOrg) (orderId : Id) (data : CreateOrderItemDto)
  | deleteOrderItem (org : CurrentOrg) (orderId itemId : Id)
  | transitionStatus (org : CurrentOrg) (orderId : Id) (toStatus : OrderStatus)
      (auditContext : AuditContext)
  | initiateCardPayment (org : CurrentOrg) (orderId : Id) (auditContext : AuditContext)
  | markCashPaid (org : CurrentOrg) (orderId : Id) (auditContext : AuditContext)
  | confirmCardPayment (orderId paymentId attemptId : Id) (paymentIntent : StripePaymentIntent)
      (auditContext : AuditContext)
  /-- `refundPayment` of a cash payment. -/
  | refundPaymentCash (call : RefundCall)
  /-- `refundPayment` of a card payment, before the call to Stripe. -/
  | refundPaymentRequest (call : RefundCall)
  /-- `refundPayment` of a card payment, after the call failed. -/
  | refundPaymentFail (call : RefundCall) (failureMessage : String)
  /-- `refundPayment` of a card payment, after the call was answered. -/
  | refundPaymentApply (call : RefundCall) (refund : StripeRefund)
  | webhookPaymentIntent (event : StripeEventId) (eventType : String)
      (paymentIntent : StripePaymentIntent)
  | webhookRefund (event : StripeEventId) (eventType : String) (refund : StripeRefund)
deriving DecidableEq

/-- A transaction with the clock and the ids it reads. -/
structure Request where
  env : Env
  transaction : Transaction

variable {S M : Type}

def Request.prog (stripe : StripeService S M) (r : Request) : Tx S Unit :=
  match r.transaction with
  | .createOrder org data => do
    let _ ← LedgerLight.createOrder r.env org data
  | .addOrderItem org orderId data => do
    let _ ← LedgerLight.addOrderItem r.env org orderId data
  | .deleteOrderItem org orderId itemId => do
    let _ ← LedgerLight.deleteOrderItem r.env org orderId itemId
  | .transitionStatus org orderId toStatus auditContext => do
    let _ ← LedgerLight.transitionStatus stripe r.env org orderId toStatus auditContext
  | .initiateCardPayment org orderId auditContext => do
    let _ ← LedgerLight.initiateCardPayment stripe r.env org orderId auditContext
  | .markCashPaid org orderId auditContext => do
    let _ ← LedgerLight.markCashPaid r.env org orderId auditContext
  | .confirmCardPayment orderId paymentId attemptId paymentIntent auditContext => do
    let _ ← confirmCardPaymentApply r.env orderId paymentId attemptId paymentIntent auditContext
  | .refundPaymentCash call => do
    let _ ← LedgerLight.refundPaymentCash r.env call
  | .refundPaymentRequest call => LedgerLight.refundPaymentRequest r.env call
  | .refundPaymentFail call failureMessage => do
    let _ ← LedgerLight.refundPaymentFail r.env call failureMessage
  | .refundPaymentApply call refund => do
    let _ ← LedgerLight.refundPaymentApply r.env call refund
  | .webhookPaymentIntent event eventType paymentIntent =>
    handleWebhookPaymentIntent r.env event eventType paymentIntent
  | .webhookRefund event eventType refund => handleWebhookRefund r.env event eventType refund

/-- The database while transactions of the services run. -/
abbrev Sessions (S : Type) := Store Database RowKey S AppError Request

/-- The transactions of the services, in any order of their statements. -/
def concurrent (stripe : StripeService S M) : Machine (Sessions S) (Move Request M) :=
  transactions (Request.prog stripe) stripe.move

end LedgerLight
