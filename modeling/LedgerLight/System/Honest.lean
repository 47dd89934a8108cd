import LedgerLight.Stripe.Account
import LedgerLight.System.Effect

/-!
# The system over a Stripe account

What the environment may do when Stripe is a `StripeAccount`: events carry what Stripe had to say,
and a payment succeeds only if its client secret is known to somebody. What rests on Stripe's
behaviour is proved for runs whose steps are all honest.
-/

namespace LedgerLight

open Infra

/-- The orders and payments service over a Stripe account. -/
abbrev ledger : Machine (World StripeAccount) (Action StripeMove) := system stripeAccount

namespace World

variable (w : World StripeAccount)

/-- The assumption on the environment of a step. -/
def Honest : Action StripeMove → Prop
  | .webhookPaymentIntent _ _ paymentIntent => w.stripe.Had paymentIntent
  | .webhookRefund event _ refund => (event, refund) ∈ w.stripe.emitted
  | .stripe (.intentStatus paymentIntentId status) =>
    status = .succeeded → clientSecretOf paymentIntentId ∈ w.returned
  | _ => True

instance (a : Action StripeMove) : Decidable (w.Honest a) := by
  unfold Honest
  split <;> infer_instance

end World

/-! ## A small shop

One organization with two products, for runs on fixed inputs. -/

namespace Shop

def org : CurrentOrg := { organizationId := ⟨0, 100⟩ }

def pen : Id := ⟨0, 101⟩

def book : Id := ⟨0, 102⟩

def product (name : String) (priceCents : Int) : Product :=
  { organizationId := org.organizationId, name := name, sku := name, priceCents := priceCents,
    active := true }

variable {M : Type}

/-- The first step of every run. -/
def catalog : Action M :=
  .catalog ((AList.insert pen (product "pen" 200) ∅).insert book (product "book" 1500)) ∅ ∅

/-- The second step: the order gets the id `orderId`. -/
def createOrder : Action M :=
  .createOrder org
    { orderItems := [{ productId := pen, qty := some 1 }, { productId := book, qty := some 1 }] }

def orderId : Id := ⟨1, 0⟩

def transition (toStatus : OrderStatus) : Action M := .transitionStatus org orderId toStatus {}

/-- An order and its confirmation: its payment gets the id `paymentId`. -/
def confirmed : List (Action M) := [catalog, createOrder, transition .confirmed]

def paymentId : Id := ⟨2, 0⟩

def payByCard : Action M := .initiateCardPayment org orderId {}

/-- A snapshot of the intent of the attempt that was started in a step. -/
def intent (id : PaymentIntentId) (step : Nat) (status : PaymentIntentStatus) :
    StripePaymentIntent :=
  { id := id, status := status, clientSecret := some (clientSecretOf id),
    metadata := { orderId := some orderId, organizationId := some org.organizationId,
                  paymentId := some paymentId, paymentAttemptId := some ⟨step, 1⟩ } }

/-- The event that announces it. -/
def event (event : StripeEventId) (paymentIntent : StripePaymentIntent) : Action M :=
  .webhookPaymentIntent event "payment_intent" paymentIntent

def refund : Action M := .refundPayment org orderId "returned" {}

/-- Stripe refunds at once from now on. -/
def refundsAtOnce : Action StripeMove := .stripe (.plan { refundStatus := .succeeded })

/-- The event that announces a refund of the payment. -/
def refundEvent (event : StripeEventId) (id : RefundId) (status : StripeRefundStatus) : Action M :=
  .webhookRefund event "refund"
    { id := id, status := status,
      metadata := { orderId := some orderId, organizationId := some org.organizationId,
                    paymentId := some paymentId } }

/-- The card payment of the confirmed order succeeds. -/
def paidByCard : List (Action StripeMove) :=
  confirmed ++ [payByCard, .stripe (.intentStatus 0 .succeeded), event 1 (intent 0 3 .succeeded)]

/-- The shop once the order was paid in cash. -/
def afterCash : World StripeAccount :=
  ledger.run (World.init .empty) (confirmed ++ [.markCashPaid org orderId {}])

/-- The first attempt fails and a second one is started. -/
def retried : List (Action StripeMove) :=
  confirmed ++ [payByCard, event 1 (intent 0 3 .requiresPaymentMethod), payByCard]

end Shop

end LedgerLight
