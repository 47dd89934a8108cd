import LedgerLight.Infra.Table
import LedgerLight.Stripe.Service

/-!
# A Stripe account

An instance of `StripeService` with what is assumed of Stripe, and no more:

* an intent keeps its id and its metadata; `succeeded` and `canceled` are final;
* a cancel is refused once an intent succeeded, was cancelled or is processing, and may be refused
  at any time; a retrieve answers the intent as it is;
* `createRefund` refunds an intent that succeeded, and replays its first answer to a key;
* a refund moves from pending to anything and from `succeeded` to `failed`, and every status it gets
  is announced by an event.

How the next calls go (`StripePlan`) is left open: it may change between any two steps.
-/

namespace LedgerLight

open Infra

structure StripeIntent where
  status : PaymentIntentStatus
  /-- The statuses it had before. -/
  past : List PaymentIntentStatus
  metadata : StripeMetadata
deriving DecidableEq

structure StripeRefundObject where
  paymentIntentId : PaymentIntentId
  status : StripeRefundStatus
  metadata : StripeMetadata
deriving DecidableEq

/-- How the next calls go. -/
structure StripePlan where
  /-- Calls do not reach Stripe. -/
  unreachable : Bool := false
  /-- Cancels are refused. -/
  refuseCancel : Bool := false
  /-- The status of a new refund. -/
  refundStatus : StripeRefundStatus := .pending
  /-- The answer to `createRefund` is lost on its way. -/
  loseAnswer : Bool := false

structure StripeAccount where
  intents : Table PaymentIntentId StripeIntent
  refunds : Table RefundId StripeRefundObject
  /-- The first answer to every idempotency key of `createRefund`. -/
  answers : Table Id (Except AppError StripeRefund)
  /-- The events about refunds, newest first. -/
  emitted : List (StripeEventId × StripeRefund)
  /-- The next id of an intent, a refund or an event. -/
  nextId : Nat
  plan : StripePlan

inductive StripeMove where
  | plan (plan : StripePlan)
  | intentStatus (paymentIntentId : PaymentIntentId) (status : PaymentIntentStatus)
  | refundStatus (refundId : RefundId) (status : StripeRefundStatus)

/-- A secret of its own for every intent. -/
def clientSecretOf (paymentIntentId : PaymentIntentId) : ClientSecret :=
  String.ofList (List.replicate (paymentIntentId + 1) 's')

def PaymentIntentStatus.final : PaymentIntentStatus → Bool
  | .succeeded | .canceled => true
  | _ => false

/-- The statuses a refund can move to. -/
def StripeRefundStatus.mayBecome : StripeRefundStatus → StripeRefundStatus → Bool
  | .succeeded, next => next == .failed
  | .failed, _ => false
  | .canceled, _ => false
  | _, _ => true

def StripeIntent.snapshot (paymentIntentId : PaymentIntentId) (i : StripeIntent) :
    StripePaymentIntent :=
  { id := paymentIntentId, status := i.status,
    clientSecret := some (clientSecretOf paymentIntentId), metadata := i.metadata }

def StripeIntent.become (status : PaymentIntentStatus) (i : StripeIntent) : StripeIntent :=
  { i with status := status, past := i.status :: i.past }

def StripeRefundObject.snapshot (refundId : RefundId) (r : StripeRefundObject) : StripeRefund :=
  { id := refundId, status := r.status, metadata := r.metadata }

namespace StripeAccount

def empty : StripeAccount :=
  { intents := ∅, refunds := ∅, answers := ∅, emitted := [], nextId := 0, plan := {} }

variable (acct : StripeAccount)

def setIntent (id : PaymentIntentId) (i : StripeIntent) : StripeAccount :=
  { acct with intents := acct.intents.insert id i }

/-- A refund gets a status, and an event announces it. -/
def setRefund (id : RefundId) (r : StripeRefundObject) : StripeAccount :=
  { acct with refunds := acct.refunds.insert id r,
              emitted := (acct.nextId, r.snapshot id) :: acct.emitted,
              nextId := acct.nextId + 1 }

/-- The intent `createPaymentIntent` creates. -/
def newIntent (args : CreatePaymentIntentArgs) : StripeIntent :=
  { status := .requiresPaymentMethod, past := [], metadata := args.metadata }

def createPaymentIntent (args : CreatePaymentIntentArgs) :
    Except AppError StripePaymentIntent × StripeAccount :=
  if acct.plan.unreachable then
    (.error (.stripe "Could not connect to Stripe"), acct)
  else
    (.ok ((newIntent args).snapshot acct.nextId),
      { acct.setIntent acct.nextId (newIntent args) with nextId := acct.nextId + 1 })

def retrievePaymentIntent (id : PaymentIntentId) :
    Except AppError StripePaymentIntent × StripeAccount :=
  if acct.plan.unreachable then
    (.error (.stripe "Could not connect to Stripe"), acct)
  else
    match acct.intents.lookup id with
    | none => (.error (.stripe "No such payment_intent"), acct)
    | some i => (.ok (i.snapshot id), acct)

def cancelPaymentIntent (id : PaymentIntentId) :
    Except AppError StripePaymentIntent × StripeAccount :=
  if acct.plan.unreachable then
    (.error (.stripe "Could not connect to Stripe"), acct)
  else
    match acct.intents.lookup id with
    | none => (.error (.stripe "No such payment_intent"), acct)
    | some i =>
      if acct.plan.refuseCancel ∨ i.status.final ∨ i.status = .processing then
        (.error (.stripe "You cannot cancel this PaymentIntent"), acct)
      else
        (.ok ((i.become .canceled).snapshot id), acct.setIntent id (i.become .canceled))

/-- A new answer to a key is kept. -/
def answerRefund (key : Id) (answer : Except AppError StripeRefund) : StripeAccount :=
  { acct with answers := acct.answers.insert key answer }

/-- The answer on its way back. -/
def deliver (answer : Except AppError StripeRefund) :
    Except AppError StripeRefund × StripeAccount :=
  (if acct.plan.loseAnswer then .error (.stripe "Request timed out") else answer, acct)

def createRefund (args : CreateRefundArgs) : Except AppError StripeRefund × StripeAccount :=
  if acct.plan.unreachable then
    (.error (.stripe "Could not connect to Stripe"), acct)
  else
    match acct.answers.lookup args.idempotencyKey with
    | some first => acct.deliver first
    | none =>
      if (acct.intents.lookup args.paymentIntentId).any fun i => i.status == .succeeded then
        let r : StripeRefundObject :=
          { paymentIntentId := args.paymentIntentId, status := acct.plan.refundStatus,
            metadata := args.metadata }
        let acct' := (acct.setRefund acct.nextId r).answerRefund args.idempotencyKey
          (.ok (r.snapshot acct.nextId))
        acct'.deliver (.ok (r.snapshot acct.nextId))
      else
        let answer := .error (.stripe "This PaymentIntent does not have a successful charge")
        (acct.answerRefund args.idempotencyKey answer).deliver answer

def move : StripeMove → StripeAccount
  | .plan plan => { acct with plan := plan }
  | .intentStatus id status =>
    match acct.intents.lookup id with
    | none => acct
    | some i => if i.status.final then acct else acct.setIntent id (i.become status)
  | .refundStatus id status =>
    match acct.refunds.lookup id with
    | none => acct
    | some r =>
      if r.status.mayBecome status then acct.setRefund id { r with status := status } else acct

/-- The snapshot is one of an intent of the account, with a status it has or had. -/
def Had (paymentIntent : StripePaymentIntent) : Prop :=
  match acct.intents.lookup paymentIntent.id with
  | none => False
  | some i =>
    paymentIntent.metadata = i.metadata ∧
      paymentIntent.clientSecret = some (clientSecretOf paymentIntent.id) ∧
      (paymentIntent.status = i.status ∨ paymentIntent.status ∈ i.past)

instance (paymentIntent : StripePaymentIntent) : Decidable (acct.Had paymentIntent) := by
  unfold Had
  split <;> infer_instance

end StripeAccount

/-- The client of a `StripeAccount`. -/
def stripeAccount : StripeService StripeAccount StripeMove where
  move m acct := acct.move m
  createPaymentIntent args acct := acct.createPaymentIntent args
  retrievePaymentIntent id acct := acct.retrievePaymentIntent id
  cancelPaymentIntent id acct := acct.cancelPaymentIntent id
  createRefund args acct := acct.createRefund args

theorem clientSecretOf_injective {m n : PaymentIntentId} (h : clientSecretOf m = clientSecretOf n) :
    m = n := by
  have hl := congrArg List.length (String.ofList_injective h)
  simpa using hl

/-! ## What the calls do to the intents -/

namespace StripeAccount

variable {acct : StripeAccount} {id : PaymentIntentId} {i : StripeIntent}

theorem createPaymentIntent_cases (acct : StripeAccount) (args : CreatePaymentIntentArgs) :
    (∃ e, acct.createPaymentIntent args = (.error e, acct)) ∨
      acct.createPaymentIntent args = (.ok ((newIntent args).snapshot acct.nextId),
        { acct.setIntent acct.nextId (newIntent args) with nextId := acct.nextId + 1 }) := by
  unfold createPaymentIntent
  split
  · exact Or.inl ⟨_, rfl⟩
  · exact Or.inr rfl

theorem retrievePaymentIntent_cases (acct : StripeAccount) (id : PaymentIntentId) :
    (∃ e, acct.retrievePaymentIntent id = (.error e, acct)) ∨
      ∃ i, acct.intents.lookup id = some i ∧
        acct.retrievePaymentIntent id = (.ok (i.snapshot id), acct) := by
  unfold retrievePaymentIntent
  split
  · exact Or.inl ⟨_, rfl⟩
  · cases hi : acct.intents.lookup id with
    | none => exact Or.inl ⟨_, rfl⟩
    | some i => exact Or.inr ⟨i, rfl, rfl⟩

theorem createRefund_intents (acct : StripeAccount) (args : CreateRefundArgs) :
    (acct.createRefund args).2.intents = acct.intents ∧
      acct.nextId ≤ (acct.createRefund args).2.nextId := by
  unfold createRefund
  split
  · exact ⟨rfl, le_rfl⟩
  · cases acct.answers.lookup args.idempotencyKey with
    | some first => exact ⟨rfl, le_rfl⟩
    | none =>
      dsimp only
      split
      · exact ⟨rfl, Nat.le_succ _⟩
      · exact ⟨rfl, le_rfl⟩

/-- An answer that arrives is the one that was given. -/
theorem deliver_ok {acct' : StripeAccount} {answer : Except AppError StripeRefund}
    {refund : StripeRefund} (h : acct.deliver answer = (.ok refund, acct')) :
    answer = .ok refund ∧ acct' = acct ∧ acct.plan.loseAnswer = false := by
  unfold deliver at h
  split at h
  · cases h
  · next hkept => exact ⟨(Prod.ext_iff.mp h).1, (Prod.ext_iff.mp h).2.symm, by simpa using hkept⟩

/-- What `createRefund` answers is kept from then on. It is the first answer to the key, or the
refund was made now. -/
theorem createRefund_ok {acct' : StripeAccount} {args : CreateRefundArgs} {refund : StripeRefund}
    (h : acct.createRefund args = (.ok refund, acct')) :
    acct'.answers.lookup args.idempotencyKey = some (.ok refund) ∧
      (acct.answers.lookup args.idempotencyKey = some (.ok refund) ∧
          acct.plan.unreachable = false ∧ acct.plan.loseAnswer = false ∨
        ∃ r, acct'.refunds.lookup refund.id = some r ∧ r.status = refund.status) := by
  unfold createRefund at h
  split at h
  · cases h
  · next hreach =>
    split at h
    · next first hkey =>
      obtain ⟨rfl, rfl, hkept⟩ := deliver_ok h
      exact ⟨hkey, Or.inl ⟨hkey, by simpa using hreach, hkept⟩⟩
    · split at h
      · obtain ⟨heq, rfl, -⟩ := deliver_ok h
        cases heq
        exact ⟨AList.lookup_insert _, Or.inr ⟨_, AList.lookup_insert _, rfl⟩⟩
      · obtain ⟨heq, -⟩ := deliver_ok h
        cases heq

theorem lookup_setIntent (acct : StripeAccount) (id id' : PaymentIntentId) (i : StripeIntent) :
    (acct.setIntent id i).intents.lookup id' =
      if id' = id then some i else acct.intents.lookup id' :=
  Table.lookup_insert_ite ..

/-- A snapshot of an intent as it is. -/
theorem had_snapshot (hi : acct.intents.lookup id = some i) : acct.Had (i.snapshot id) := by
  unfold Had
  rw [show (i.snapshot id).id = id from rfl, hi]
  exact ⟨rfl, rfl, Or.inl rfl⟩

theorem had_iff {paymentIntent : StripePaymentIntent} :
    acct.Had paymentIntent ↔ ∃ i, acct.intents.lookup paymentIntent.id = some i ∧
      paymentIntent.metadata = i.metadata ∧
      paymentIntent.clientSecret = some (clientSecretOf paymentIntent.id) ∧
      (paymentIntent.status = i.status ∨ paymentIntent.status ∈ i.past) := by
  unfold Had
  cases acct.intents.lookup paymentIntent.id with
  | none => simp
  | some i => simp

end StripeAccount

end LedgerLight
