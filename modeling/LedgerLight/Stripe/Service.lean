import LedgerLight.Domain.Schema

/-!
# The Stripe client

`infra/stripe/stripe.service.ts` is a thin layer over Stripe's own library, which is not part of
the repository. `StripeService S M` stands for it: each call answers or throws, and changes Stripe's
state `S`. Nothing is assumed about either; `LedgerLight.Stripe.Account` is one instance.
-/

namespace LedgerLight

/-- `paymentIntent.status`. The code has one branch for every status it does not name. -/
inductive PaymentIntentStatus where
  | succeeded | processing | requiresAction | requiresConfirmation | requiresPaymentMethod
  | canceled
  | other (name : String)
deriving DecidableEq, Repr

/-- `refund.status`. -/
inductive StripeRefundStatus where
  | succeeded | failed | canceled | pending
  | other (name : String)
deriving DecidableEq, Repr

/-- The metadata the services attach to the objects they create. Objects that were not created
here may lack any of it. -/
structure StripeMetadata where
  orderId : Option Id := none
  organizationId : Option Id := none
  paymentId : Option Id := none
  paymentAttemptId : Option Id := none
deriving DecidableEq, Repr

/-- What Stripe sends of a PaymentIntent, in an answer or in an event. -/
structure StripePaymentIntent where
  id : PaymentIntentId
  status : PaymentIntentStatus
  clientSecret : Option ClientSecret := none
  metadata : StripeMetadata := {}
  /-- `last_payment_error?.message` -/
  lastPaymentError : Option String := none
  cancellationReason : Option String := none
deriving DecidableEq, Repr

/-- What Stripe sends of a refund. -/
structure StripeRefund where
  id : RefundId
  status : StripeRefundStatus
  metadata : StripeMetadata := {}
  failureReason : Option String := none
deriving DecidableEq, Repr

structure CreatePaymentIntentArgs where
  amountCents : Int
  currencyCode : String
  metadata : StripeMetadata
  /-- `payment-attempt:${payment.id}:${attemptId}` -/
  idempotencyKey : Id × Id
deriving DecidableEq, Repr

structure CreateRefundArgs where
  paymentIntentId : PaymentIntentId
  metadata : StripeMetadata
  /-- `refund:${payment.id}` -/
  idempotencyKey : Id
deriving DecidableEq, Repr

/-- The calls the services make, and what happens at Stripe by itself. -/
structure StripeService (S M : Type) where
  move : M → S → S
  createPaymentIntent : CreatePaymentIntentArgs → S → Except AppError StripePaymentIntent × S
  retrievePaymentIntent : PaymentIntentId → S → Except AppError StripePaymentIntent × S
  cancelPaymentIntent : PaymentIntentId → S → Except AppError StripePaymentIntent × S
  createRefund : CreateRefundArgs → S → Except AppError StripeRefund × S

end LedgerLight
