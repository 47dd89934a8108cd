import LedgerLight.Properties.Lifecycle

/-!
# Collected money and dead orders

A refund needs a confirmed or fulfilled order, so a payment that was collected must not be left with
a cancelled or pending one. `transitionStatus` looks at the payment before it asks Stripe to cancel
the attempt in progress, and the answer may be that the money was collected; and an event about the
intent of a cancelled order is applied like any other.

* `nothing_stranded` : in a run in which no success is applied while the order is being cancelled or
  after it was, no reachable order strands its payment.
* `stranded_by_cancel`, `stranded_by_webhook` : two runs in which one does.
-/

namespace LedgerLight

open Infra

/-- The order is dead, and its payment was collected and not given back. -/
def OrderRecord.Stranded (o : OrderRecord) : Prop :=
  (o.status = .cancelled ∨ o.status = .pending) ∧
    ∃ p, o.payment = some p ∧ p.paymentStatus = .paid ∧ p.refundStatus = .none

def Action.isTransition {M : Type} : Action M → Bool
  | .transitionStatus .. => true
  | _ => false

/-- A success that the step applies to a payment without a refund is neither what Stripe answers
while the order is being cancelled, nor news about an order that is cancelled. -/
def World.CollectsAlive {S M : Type} (stripe : StripeService S M) (w : World S) (a : Action M) :
    Prop :=
  match w.intentSync? stripe a with
  | none => True
  | some y =>
    y.paymentIntent.status = .succeeded → y.payment.refundStatus = .none →
      a.isTransition = false ∧ y.order.status ≠ .cancelled

instance {S M : Type} (stripe : StripeService S M) (w : World S) (a : Action M) :
    Decidable (w.CollectsAlive stripe a) := by
  unfold World.CollectsAlive
  obtain _ | y := w.intentSync? stripe a <;> infer_instance

section

variable {S M : Type} {stripe : StripeService S M} {w : World S} {a : Action M} {k : Id}
  {o o' : OrderRecord} {p q : PaymentWithAttempts} {rows : List (Id × AuditAction)} {s s' : S}
  {env : Env}

theorem OrderRecord.not_stranded_of_none (h : o.payment = none) : ¬ o.Stranded := by
  rintro ⟨-, p, hp, -⟩
  rw [h] at hp
  cases hp

/-- An order that is alive strands nothing. -/
theorem OrderRecord.not_stranded_of_alive (h : o.status = .confirmed ∨ o.status = .fulfilled) :
    ¬ o.Stranded := by
  rintro ⟨hs | hs, -⟩ <;> rw [hs] at h <;> rcases h with h | h <;> cases h

/-- A payment of a refund that is asked for, refused or done does not strand. -/
theorem OrderRecord.not_stranded_of_refund (hp : o.payment = some p)
    (h : p.refundStatus ≠ .none) : ¬ o.Stranded := by
  rintro ⟨-, q, hq, -, hn⟩
  obtain rfl := Option.some.inj (hp.symm.trans hq)
  exact h hn

/-- An unpaid payment does not strand. -/
theorem OrderRecord.not_stranded_of_unpaid (hp : o.payment = some p)
    (h : p.paymentStatus ≠ .paid) : ¬ o.Stranded := by
  rintro ⟨-, q, hq, hpaid, -⟩
  obtain rfl := Option.some.inj (hp.symm.trans hq)
  exact h hpaid

theorem paymentStatus_paid_iff {now : Date} {paymentIntent : StripePaymentIntent} {p : Payment} :
    (mapPaymentIntentState now paymentIntent p).paymentStatus = .paid ↔
      paymentIntent.status = .succeeded := by
  unfold mapPaymentIntentState
  cases paymentIntent.status <;> simp

theorem mapRefundState_ne_none {now : Date} {refund : StripeRefund} {p : Payment} :
    (mapRefundState now refund p).refundStatus ≠ .none := by
  unfold mapRefundState
  cases refund.status <;> simp

theorem stranded_transition {org : CurrentOrg} {toStatus : OrderStatus}
    {auditContext : AuditContext} (ho : w.db.order? k = some o) (hv : o.visibleTo org = true)
    (hlife : o.Lifecycle)
    (halive : w.CollectsAlive stripe (.transitionStatus org k toStatus auditContext))
    (ht : Transition stripe w.env o w.stripe toStatus o' rows s') : ¬ o'.Stranded := by
  cases ht with
  | confirmed hs hp => exact OrderRecord.not_stranded_of_alive (Or.inl rfl)
  | fulfilled hs hp hpaid hrefund => exact OrderRecord.not_stranded_of_alive (Or.inr rfl)
  | cancelledPending hs => exact OrderRecord.not_stranded_of_none (hlife.pending hs).2.2
  | cancelledConfirmed hs hp hpaid hrefund hr =>
    exact OrderRecord.not_stranded_of_unpaid (p := _) (by rw [← hp]; rfl) hpaid
  | @cancelledSynced p attempt paymentIntent s' hs hp hpaid hrefund hr hans =>
    rw [World.CollectsAlive, intentSync?_of_cancelled ho hv hs hp hr hans] at halive
    rintro ⟨-, q, hq, hcollected, hnone⟩
    cases hq
    rw [syncedPayment_paymentStatus, paymentStatus_paid_iff] at hcollected
    rw [syncedPayment_refundStatus] at hnone
    have htransition := (halive hcollected hnone).1
    cases htransition
  | reopenedUnpaid hs hp => exact OrderRecord.not_stranded_of_none rfl
  | reopened hs hp hpaid hrefund hans => exact OrderRecord.not_stranded_of_none rfl

theorem stranded_change (hlife : o.Lifecycle) (h : ¬ o.Stranded)
    (halive : w.CollectsAlive stripe a) (hc : Change stripe w k a o o' rows s') :
    ¬ o'.Stranded := by
  cases hc with
  | itemAdded hs => exact h
  | itemDeleted hi => exact h
  | metadata => exact h
  | transition ho hv ht => exact stranded_transition ho hv hlife halive ht
  | backfilled => rw [hlife.backfilled_eq]; exact h
  | attemptStarted hs hp hrefund hpaid hr hans hsecret =>
    exact OrderRecord.not_stranded_of_alive (Or.inl hs)
  | paidInCash hs hp hreq hpend hpaid hprogress =>
    exact OrderRecord.not_stranded_of_alive (Or.inl hs)
  | synced y hsync hid hp =>
    rw [World.CollectsAlive, hsync] at halive
    rintro ⟨hs, q, hq, hcollected, hnone⟩
    cases hq
    rw [syncedPayment_paymentStatus, paymentStatus_paid_iff] at hcollected
    rw [syncedPayment_refundStatus] at hnone
    rcases hs with hs | hs
    · exact (halive hcollected hnone).2 hs
    · exact hlife.not_pending hp hs
  | cashRefunded hcall hid hp hpid =>
    exact OrderRecord.not_stranded_of_refund OrderRecord.payment_afterRefund fun hn => by cases hn
  | refundRequested hcall hid hp hpid =>
    exact OrderRecord.not_stranded_of_refund rfl fun hn => by cases hn
  | refundFailed hcall hid hp hpid =>
    exact OrderRecord.not_stranded_of_refund rfl fun hn => by cases hn
  | refundSynced y hsync hid hp =>
    refine OrderRecord.not_stranded_of_refund OrderRecord.payment_afterRefund ?_
    rw [refundSynced_refundStatus]
    exact mapRefundState_ne_none

/-- **Nothing is stranded** in a run in which no success is applied to a payment of an order that is
being cancelled or is cancelled. -/
theorem nothing_stranded (stripe : StripeService S M) (s : S) (as : List (Action M))
    (h : (system stripe).Meets (World.CollectsAlive stripe) (World.init s) as) :
    ((system stripe).run (World.init s) as).Every fun o => ¬ o.Stranded := by
  have hevery := every_run (P := fun o => o.Lifecycle ∧ ¬ o.Stranded)
    (fun _ _ _ _ _ => ⟨lifecycle_newOrder .., OrderRecord.not_stranded_of_none rfl⟩)
    (fun halive _ ho hc => ⟨lifecycle_change ho.1 hc, stranded_change ho.1 ho.2 halive hc⟩) h
  exact fun k o ho => (hevery k o ho).2

/-- A card attempt that Stripe lets be cancelled, with its order. -/
theorem nothing_stranded_shop :
    (ledger.run (World.init .empty)
      (Shop.confirmed ++ [Shop.payByCard, Shop.transition .cancelled])).Every fun o =>
        ¬ o.Stranded :=
  nothing_stranded stripeAccount .empty _ (by decide)

/-- The shop's order is dead, and its payment was collected and not given back. -/
def Shop.stranded {S : Type} (w : World S) : Bool :=
  (w.db.order? orderId).any fun o => o.status == .cancelled &&
    o.payment.any fun p => p.paymentStatus == .paid && p.refundStatus == .none

theorem not_every_of_stranded (h : Shop.stranded w = true) :
    ¬ w.Every fun o => ¬ o.Stranded := by
  intro hevery
  obtain ⟨o, ho, hs⟩ := (Option.any_eq_true _ _).mp h
  simp only [Bool.and_eq_true, beq_iff_eq, Option.any_eq_true] at hs
  obtain ⟨hcancelled, p, hp, hpaid, hnone⟩ := hs
  exact hevery _ o ho ⟨Or.inl hcancelled, p, hp, hpaid, hnone⟩

/-- The customer pays between the start of the attempt and the cancellation of the order: Stripe
refuses the cancel and says that the intent succeeded, and the order is cancelled all the same. -/
theorem stranded_by_cancel :
    ledger.Meets World.Honest (World.init .empty) (Shop.confirmed ++
        [Shop.payByCard, .stripe (.intentStatus 0 .succeeded), Shop.transition .cancelled]) ∧
      ¬ (ledger.run (World.init .empty) (Shop.confirmed ++ [Shop.payByCard,
        .stripe (.intentStatus 0 .succeeded), Shop.transition .cancelled])).Every fun o =>
          ¬ o.Stranded :=
  ⟨by decide, not_every_of_stranded (by decide)⟩

/-- The payment is processing when the order is cancelled, and succeeds afterwards. -/
theorem stranded_by_webhook :
    ledger.Meets World.Honest (World.init .empty) (Shop.confirmed ++
        [Shop.payByCard, .stripe (.intentStatus 0 .processing), Shop.transition .cancelled,
          .stripe (.intentStatus 0 .succeeded), Shop.event 1 (Shop.intent 0 3 .succeeded)]) ∧
      ¬ (ledger.run (World.init .empty) (Shop.confirmed ++
        [Shop.payByCard, .stripe (.intentStatus 0 .processing), Shop.transition .cancelled,
          .stripe (.intentStatus 0 .succeeded),
          Shop.event 1 (Shop.intent 0 3 .succeeded)])).Every fun o => ¬ o.Stranded :=
  ⟨by decide, not_every_of_stranded (by decide)⟩

end

end LedgerLight
