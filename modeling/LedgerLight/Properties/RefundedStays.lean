import LedgerLight.System.Honest

/-!
# A refunded payment stays refunded

Four places write `refundStatus`: the transaction of a request, the cash branch, the branch of a
failed call to Stripe, and `applyRefundStateTx`. None of them looks at what it overwrites, and the
guard was passed in an earlier transaction.

* `refunded_stays` : if the first three are not run on a refunded payment and the fourth is only
  told of successes, a refunded payment keeps its status and its time.
* `refund_undone` : a run in which a second request undoes the refund.
-/

namespace LedgerLight

open Infra

/-- The call, if its next part writes a refund status of its own. -/
def InFlight.overwrites? : InFlight → Option RefundCall
  | .refundCash call => some call
  | .refundRequest call _ => some call
  | .refundFail call _ => some call
  | _ => none

namespace World

variable {S M : Type} (w : World S)

/-- The payment whose refund status the step overwrites without being told of a refund. -/
def overwrites? : Action M → Option PaymentWithAttempts
  | .resume callId =>
    ((w.calls.lookup callId).bind InFlight.overwrites?).bind fun call =>
      w.db.payment? call.orderId call.paymentId
  | _ => none

/-- The step tells a refunded payment of nothing but a success. -/
def KeepsRefunded (a : Action M) : Prop :=
  ((w.overwrites? a).all fun p => p.refundStatus != .refunded) ∧
    ((w.refundSync? a).all fun y =>
      y.payment.refundStatus != .refunded || y.refund.status == .succeeded)

instance (a : Action M) : Decidable (w.KeepsRefunded a) := inferInstanceAs (Decidable (_ ∧ _))

end World

section

variable {S M : Type} {stripe : StripeService S M} {w : World S} {a : Action M}
  {orderId paymentId : Id} {p q : PaymentWithAttempts}

/-! ## A refunded payment has a time -/

def Payment.HasRefundedAt (p : Payment) : Prop := p.refundStatus = .refunded → p.refundedAt.isSome

theorem hasRefundedAt_new {env : Env} (h : p.New env) : p.HasRefundedAt := by
  obtain ⟨organizationId, orderStatus, amountCents, createdAt, placedAt, rfl⟩ := h
  intro hr
  cases hr

theorem PaymentChange.hasRefundedAt (hc : PaymentChange stripe w orderId a p q)
    (h : p.HasRefundedAt) : q.HasRefundedAt := by
  cases hc with
  | same => exact h
  | attemptStarted hrefund hpaid => exact h
  | paidInCash hpaid => exact h
  | synced y hsync hid =>
    intro hr
    rw [syncedPayment_refundStatus] at hr
    rw [syncedPayment_refundedAt]
    exact h hr
  | cashRefunded ha hcall hid hpid => intro _; rfl
  | refundRequested ha hcall hid hpid => intro hr; cases hr
  | refundFailed ha hcall hid hpid => intro hr; cases hr
  | refundSynced y hsync hid =>
    intro hr
    rw [refundSynced_refundStatus] at hr
    rw [refundSynced_refundedAt, (mapRefundState_refunded hr).2]
    rfl

theorem every_hasRefundedAt (stripe : StripeService S M) (s : S) (as : List (Action M)) :
    ((system stripe).run (World.init s) as).Every fun o =>
      ∀ p, o.payment = some p → p.HasRefundedAt :=
  every_payment_run (fun _ _ => hasRefundedAt_new) (fun _ h hc => hc.hasRefundedAt h)
    (Machine.meets_true _ _ as)

/-! ## What a refunded payment keeps -/

/-- The payment was refunded at this time. -/
structure Payment.RefundedAs (refundedAt : Date) (p : Payment) : Prop where
  refunded : p.refundStatus = .refunded
  refundedAt : p.refundedAt = some refundedAt

theorem overwrites?_eq_some {callId : Id} {call : InFlight} {refundCall : RefundCall}
    (hcall : w.calls.lookup callId = some call) (hover : call.overwrites? = some refundCall)
    (hp : w.db.payment? refundCall.orderId refundCall.paymentId = some p) :
    w.overwrites? (.resume callId : Action M) = some p := by
  simp [World.overwrites?, hcall, hover, hp]

/-- A step that overwrites the refund status of a payment does not find it refunded. -/
theorem not_refunded_of_overwrites (hkeeps : w.KeepsRefunded a) (hover : w.overwrites? a = some p)
    {refundedAt : Date} : ¬ p.RefundedAs refundedAt := by
  intro h
  have hne := hkeeps.1
  simp [hover, h.refunded] at hne

theorem PaymentChange.refundedAs {refundedAt : Date} (hkeeps : w.KeepsRefunded a)
    (hp : w.db.payment? orderId paymentId = some p) (h : p.RefundedAs refundedAt)
    (hc : PaymentChange stripe w orderId a p q) : q.RefundedAs refundedAt := by
  have hid : p.id = paymentId := by
    obtain ⟨o, -, -, hid⟩ := Database.payment?_eq_some.mp hp
    exact hid
  subst hid
  cases hc with
  | same => exact h
  | attemptStarted hrefund hpaid => exact ⟨h.refunded, h.refundedAt⟩
  | paidInCash hpaid => exact ⟨h.refunded, h.refundedAt⟩
  | synced y hsync hid =>
    exact ⟨(syncedPayment_refundStatus ..).trans h.refunded,
      (syncedPayment_refundedAt ..).trans h.refundedAt⟩
  | cashRefunded ha hcall hid hpid =>
    subst ha hid
    exact absurd h (not_refunded_of_overwrites hkeeps (overwrites?_eq_some hcall rfl (hpid ▸ hp)))
  | refundRequested ha hcall hid hpid =>
    subst ha hid
    exact absurd h (not_refunded_of_overwrites hkeeps (overwrites?_eq_some hcall rfl (hpid ▸ hp)))
  | refundFailed ha hcall hid hpid =>
    subst ha hid
    exact absurd h (not_refunded_of_overwrites hkeeps (overwrites?_eq_some hcall rfl (hpid ▸ hp)))
  | refundSynced y hsync hid =>
    have hsucceeded : y.refund.status = .succeeded := by
      have htold := hkeeps.2
      simpa [hsync, h.refunded] using htold
    constructor
    · simp [mapRefundState, hsucceeded]
    · simp [mapRefundState, hsucceeded, h.refundedAt]

/-- **A refunded payment stays refunded**, with its time, for as long as the row exists: in every
run that neither requests, pays out nor fails a refund of a refunded payment and tells it of nothing
but successes. -/
theorem refunded_stays (stripe : StripeService S M) (s : S) (as bs : List (Action M))
    (h : (system stripe).Meets World.KeepsRefunded (World.init s) (as ++ bs))
    (orderId paymentId : Id) (p q : PaymentWithAttempts)
    (hp : ((system stripe).run (World.init s) as).db.payment? orderId paymentId = some p)
    (hrefunded : p.refundStatus = .refunded)
    (hq : ((system stripe).run (World.init s) (as ++ bs)).db.payment? orderId paymentId = some q) :
    q.refundStatus = .refunded ∧ q.refundedAt = p.refundedAt := by
  obtain ⟨o, ho, hop, rfl⟩ := Database.payment?_eq_some.mp hp
  obtain ⟨refundedAt, hat⟩ := Option.isSome_iff_exists.mp (every_hasRefundedAt stripe s as _ o ho p
    hop hrefunded)
  rw [Machine.run_append] at hq
  have hstays := payment_run (I := fun _ => True)
    (P := fun r => r.RefundedAs refundedAt) (fun _ _ _ _ => trivial)
    (fun w a r r' _ hkeeps hr h hc => hc.refundedAs hkeeps hr h) trivial
    (every_paymentId stripe s as _ o ho p hop)
    (fun r hr => by rw [hp] at hr; cases hr; exact ⟨hrefunded, hat⟩)
    ((Machine.meets_append _ _ _ _ _).mp h).2 q hq
  exact ⟨hstays.refunded, hstays.refundedAt.trans hat.symm⟩

namespace Shop

/-- Two requests pass the guard, and the first one is carried through. -/
def refundedOnce : List (Action StripeMove) :=
  paidByCard ++ [refundsAtOnce, refund, refund, .resume ⟨7, 0⟩, .resume ⟨7, 0⟩, .resume ⟨7, 0⟩]

end Shop

/-- The event of the refund arrives after the refund was recorded. -/
theorem refunded_stays_shop :
    ∃ p q, (ledger.run (World.init .empty) Shop.refundedOnce).db.payment? Shop.orderId
        Shop.paymentId = some p ∧
      (ledger.run (World.init .empty) (Shop.refundedOnce ++
        [.tick 500, Shop.refundEvent 2 1 .succeeded])).db.payment? Shop.orderId
        Shop.paymentId = some q ∧
      q.refundStatus = .refunded ∧ q.refundedAt = p.refundedAt := by
  obtain ⟨p, hp, hrefunded⟩ := (Option.any_eq_true _ _).mp (show ((ledger.run (World.init .empty)
    Shop.refundedOnce).db.payment? Shop.orderId Shop.paymentId).any
      (fun p => p.refundStatus == .refunded) = true by decide)
  obtain ⟨q, hq⟩ := Option.isSome_iff_exists.mp (show ((ledger.run (World.init .empty)
    (Shop.refundedOnce ++ [.tick 500, Shop.refundEvent 2 1 .succeeded])).db.payment?
      Shop.orderId Shop.paymentId).isSome = true by decide)
  exact ⟨p, q, hp, hq, refunded_stays stripeAccount .empty Shop.refundedOnce
    [.tick 500, Shop.refundEvent 2 1 .succeeded] (by decide) _ _ p q hp
    (by simpa using hrefunded) hq⟩

/-- The second request goes on with its transaction, and the refunded payment is `REQUESTED`. -/
theorem refund_undone :
    ledger.Meets World.Honest (World.init .empty) (Shop.refundedOnce ++ [.resume ⟨8, 0⟩]) ∧
      ((ledger.run (World.init .empty) Shop.refundedOnce).db.payment? Shop.orderId
        Shop.paymentId).map (·.refundStatus) = some .refunded ∧
      ((ledger.run (World.init .empty) (Shop.refundedOnce ++ [.resume ⟨8, 0⟩])).db.payment?
        Shop.orderId Shop.paymentId).map (·.refundStatus) = some .requested := by
  decide

end

end LedgerLight
