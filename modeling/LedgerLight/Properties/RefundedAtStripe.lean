import LedgerLight.System.Events

/-!
# What is recorded as refunded is refunded at Stripe

Every call to `createRefund` for a payment has the same idempotency key, so a retry is answered what
the first call was answered. If the first refund succeeded and failed later, the retry is told that
it succeeded, and nothing more is announced.

* `refunded_at_stripe` : if no retry is answered a success that Stripe has taken back, a card
  payment that is `REFUNDED` has a refund at Stripe that succeeded, as far as was told.
* `refunded_by_replay` : a run in which a retry is answered such a success.
-/

namespace LedgerLight

open Infra

/-- A card refund whose answer is still to be applied. -/
def InFlight.applies : InFlight → Bool
  | .refundApply .. => true
  | _ => false

/-- A cash refund of the payment. -/
def InFlight.refundsCash (paymentId : Id) : InFlight → Bool
  | .refundCash call => call.paymentId == paymentId
  | _ => false

namespace World

variable (w : World StripeAccount)

/-- Webhooks about refunds do not come between an answer of `createRefund` and its transaction, and
what is said of an intent is not applied to a payment whose cash is being given back, or was. -/
def RefundsApart (a : Action StripeMove) : Prop :=
  (match a with
    | .webhookRefund _ _ _ => ∀ e ∈ w.calls.entries, e.2.applies = false
    | _ => True) ∧
  match w.intentSync? stripeAccount a with
  | none => True
  | some y => y.payment.method = some .cash → y.payment.refundStatus ≠ .refunded ∧
      ∀ e ∈ w.calls.entries, e.2.refundsCash y.payment.id = false

/-- A success that `createRefund` answers again is of a refund that stands. -/
def AnswerStands : Action StripeMove → Prop
  | .resume callId =>
    match w.calls.lookup callId with
    | some (.refundCreate call _) =>
      match w.stripe.answers.lookup call.paymentId with
      | some (.ok first) =>
        first.status = .succeeded → w.stripe.plan.unreachable = false →
          w.stripe.plan.loseAnswer = false → w.Standing first.id
      | _ => True
    | _ => True
  | _ => True

/-- A refund of the payment stands. -/
def Held (paymentId : Id) : Prop :=
  ∃ id r, w.stripe.refunds.lookup id = some r ∧ r.metadata.paymentId = some paymentId ∧
    w.Standing id

/-- What is recorded as refunded is held at Stripe, and what calls in flight will record. -/
structure RefundsHeld : Prop where
  payments : ∀ k o p, w.db.order? k = some o → o.payment = some p → p.method ≠ some .cash →
    p.refundStatus = .refunded → w.Held p.id
  answers : ∀ callId call refund, w.calls.lookup callId = some (.refundApply call refund) →
    refund.status = .succeeded → w.Standing refund.id
  cash : ∀ callId call, w.calls.lookup callId = some (.refundCash call) →
    call.paymentId.step < w.steps ∧ ∀ k o p, w.db.order? k = some o → o.payment = some p →
      p.id = call.paymentId → p.method = some .cash ∧ p.paymentStatus = .paid

instance (a : Action StripeMove) : Decidable (w.RefundsApart a) := by
  unfold RefundsApart
  refine @instDecidableAnd _ _ ?_ ?_
  · obtain ⟨⟩ := a <;> infer_instance
  · obtain _ | y := w.intentSync? stripeAccount a <;> infer_instance

instance (a : Action StripeMove) : Decidable (w.AnswerStands a) := by
  unfold AnswerStands
  obtain ⟨⟩ := a
  case resume callId =>
    dsimp only
    obtain _ | ⟨⟨⟩⟩ := w.calls.lookup callId
    case some.refundCreate call paymentIntentId =>
      dsimp only
      obtain _ | ⟨⟨⟩⟩ := w.stripe.answers.lookup call.paymentId <;> infer_instance
    all_goals infer_instance
  all_goals infer_instance

end World

section

variable {w : World StripeAccount} {a : Action StripeMove} {k paymentId : Id} {id : RefundId}
  {event : StripeEventId} {eventType : String} {refund : StripeRefund} {o o' : OrderRecord}
  {p q : PaymentWithAttempts}

/-! ## Events that are applied -/

/-- A refund of the payment goes on standing, unless the step tells that it did not succeed. -/
theorem World.Held.step (hh : w.Held paymentId) (h : w.EventsOrdered) (hr : w.RefundsKnown)
    (hc : w.Honest a) (horder : w.InOrder a)
    (htold : ∀ event eventType refund, a = .webhookRefund event eventType refund →
      w.db.receipts.lookup event = none → (ledger.step w a).db.receipts.lookup event ≠ none →
      refund.metadata.paymentId = some paymentId → refund.status = .succeeded) :
    (ledger.step w a).Held paymentId := by
  obtain ⟨id, r, hlookup, hpayment, hstanding⟩ := hh
  obtain ⟨r', hlookup', hmeta, -⟩ := hr.refund_of (a := a) hlookup
  refine ⟨id, r', hlookup', hmeta ▸ hpayment, ?_⟩
  by_cases hevent : ∃ event eventType refund, a = .webhookRefund event eventType refund ∧
      w.db.receipts.lookup event = none ∧ (ledger.step w a).db.receipts.lookup event ≠ none ∧
      refund.id = id
  · obtain ⟨event, eventType, refund, rfl, hnew, hdone, rfl⟩ := hevent
    obtain ⟨-, key, r₁, hr₁, hmeta₁, -⟩ := hr.emitted _ _ hc
    obtain rfl := Option.some.inj (hlookup.symm.trans hr₁)
    have hs := htold _ _ _ rfl hnew hdone (by rw [hmeta₁, hpayment])
    exact standing_delivered h hr hc hnew hs
  · refine hstanding.step h hr hc horder fun event eventType refund ha hnew hdone hid => ?_
    exact hevent ⟨event, eventType, refund, ha, hnew, hdone, hid⟩

/-- An event about a refund of a payment, once it is processed, is applied to that payment. -/
theorem webhookRefund_applied (hr : w.RefundsKnown)
    (hc : w.Honest (.webhookRefund event eventType refund))
    (hnew : w.db.receipts.lookup event = none)
    (hdone : (ledger.step w (.webhookRefund event eventType refund)).db.receipts.lookup event ≠
      none)
    (ho : w.db.order? k = some o) (hp : o.payment = some p)
    (hid : refund.metadata.paymentId = some p.id) :
    ∃ o', (ledger.step w (.webhookRefund event eventType refund)).db.order? k = some o' ∧
      o'.payment = some (refundSynced w.env p refund) := by
  show ∃ o', (w.transact (handleWebhookRefund w.env event eventType refund)).2.db.order? k =
    some o' ∧ _
  replace hdone : (w.transact (handleWebhookRefund w.env event eventType
    refund)).2.db.receipts.lookup event ≠ none := hdone
  rcases transact_cases w (handleWebhookRefund w.env event eventType refund) with
    ⟨e, s, he⟩ | ⟨u, db, s, hrun, he⟩
  · -- a failure leaves no receipt
    rw [he] at hdone
    exact absurd hnew hdone
  · rw [he]
    have hmatch : paymentOfRefund refund p.toPayment = true := by simp [paymentOfRefund, hid]
    obtain ⟨-, ⟨hnone, -⟩ | ⟨orderId, o₁, p₁, hfound, ho₁, hp₁, hput⟩⟩ :=
      handleWebhookRefund_ok hrun
    · -- the payment is there to be found
      unfold Database.refundOfEvent? at hnone
      rw [hnew] at hnone
      rw [if_neg (by simp)] at hnone
      have hsome := Database.findPayment?_isSome ho hp hmatch
      rw [hnone] at hsome
      cases hsome
    · have hsync : w.refundSync? (.webhookRefund event eventType refund : Action StripeMove) =
          some ⟨orderId, o₁, p₁, refund⟩ := by simp [World.refundSync?, hfound]
      obtain ⟨r, -, hmeta, hkey⟩ := hr.sync_told hc hsync
      have hsame : p₁.id = p.id := Option.some.inj ((hkey.symm.trans (hmeta ▸ hid)))
      obtain rfl : orderId = k := (hr.payments _ _ _ ho hp).only _ _ _ ho₁ hp₁ hsame
      obtain rfl := Option.some.inj (ho.symm.trans ho₁)
      obtain rfl := Option.some.inj (hp.symm.trans hp₁)
      exact ⟨_, (hput.order? _).trans (if_pos rfl), OrderRecord.payment_afterRefund⟩

/-- What the step tells of a refund of a payment that is `REFUNDED` afterwards is a success. -/
theorem told_succeeded (hr : w.RefundsKnown) (hc : w.Honest a) (ho : w.db.order? k = some o)
    (hp : o.payment = some p) (ho' : (ledger.step w a).db.order? k = some o')
    (hq : o'.payment = some q) (hrefunded : q.refundStatus = .refunded)
    (ha : a = .webhookRefund event eventType refund) (hnew : w.db.receipts.lookup event = none)
    (hdone : (ledger.step w a).db.receipts.lookup event ≠ none)
    (hid : refund.metadata.paymentId = some p.id) : refund.status = .succeeded := by
  subst ha
  obtain ⟨o₁, ho₁, hp₁⟩ := webhookRefund_applied hr hc hnew hdone ho hp hid
  obtain rfl := Option.some.inj (ho'.symm.trans ho₁)
  obtain rfl := Option.some.inj (hq.symm.trans hp₁)
  rw [refundSynced_refundStatus] at hrefunded
  exact (mapRefundState_refunded hrefunded).1

/-! ## Every step keeps it -/

/-- A payment that was just created is not refunded. -/
theorem PaymentWithAttempts.New.not_refunded {env : Env} (h : p.New env) :
    p.refundStatus ≠ .refunded := by
  obtain ⟨organizationId, orderStatus, amountCents, orderCreatedAt, placedAt, rfl⟩ := h
  exact fun hr => by cases hr

theorem World.RefundsHeld.payments_step (h : w.RefundsHeld) (he : w.EventsOrdered)
    (hr : w.RefundsKnown) (hc : w.Honest a) (horder : w.InOrder a) (hapart : w.RefundsApart a)
    (ho' : (ledger.step w a).db.order? k = some o') (hq : o'.payment = some q)
    (hmethod : q.method ≠ some .cash) (hrefunded : q.refundStatus = .refunded) :
    (ledger.step w a).Held q.id := by
  -- a payment that was refunded before
  have hold : ∀ o p, w.db.order? k = some o → o.payment = some p → p.id = q.id →
      p.method ≠ some .cash → p.refundStatus = .refunded → (ledger.step w a).Held q.id := by
    intro o p ho hp hid hmethod hwas
    rw [← hid]
    refine (h.payments k o p ho hp hmethod hwas).step he hr hc horder ?_
    intro event eventType refund ha hnew hdone hpayment
    exact told_succeeded hr hc ho hp ho' hq hrefunded ha hnew hdone hpayment
  rcases step_order_inv ho' with ho | ⟨-, _, _, _, _, _, rfl⟩ | ⟨o, rows, ho, hch⟩
  · exact hold o' q ho hq rfl hmethod hrefunded
  · cases hq
  · obtain ⟨p, hp, hid, hpc⟩ := hch.payment hq
    have hheld : p.method ≠ some .cash → p.refundStatus = .refunded →
        (ledger.step w a).Held q.id := by
      intro hmethod hwas
      rcases hp with hp | hnew
      · exact hold o p ho hp hid.symm hmethod hwas
      · exact absurd hwas hnew.not_refunded
    cases hpc with
    | same => exact hheld hmethod hrefunded
    | attemptStarted hnone hpaid ha =>
      rw [show (withAttempt w.env p _).refundStatus = p.refundStatus from rfl] at hrefunded
      rw [hrefunded] at hnone
      rcases hnone with hnone | hnone <;> cases hnone
    | paidInCash hpaid => exact absurd rfl hmethod
    | synced y hsync hk =>
      rw [syncedPayment_refundStatus] at hrefunded
      refine hheld (fun hcash => ?_) hrefunded
      have hkept := hapart.2
      rw [hsync] at hkept
      exact (hkept hcash).1 hrefunded
    | @cashRefunded callId call _ ha hcall hk hpid =>
      obtain ⟨hlt, hcash⟩ := h.cash _ _ hcall
      rcases hp with hp | hnew
      · exact absurd (hcash k o p ho hp hpid).1 hmethod
      · rw [← hpid, hnew.id_eq] at hlt
        exact absurd hlt (Nat.lt_irrefl _)
    | refundRequested ha hcall hk hpid => cases hrefunded
    | refundFailed ha hcall hk hpid => cases hrefunded
    | refundSynced y hsync hk =>
      rw [refundSynced_refundStatus] at hrefunded
      have hs := (mapRefundState_refunded hrefunded).1
      -- the refund is one of this payment
      obtain ⟨r, hlookup, -, hpayment⟩ := hr.sync_told hc hsync
      obtain ⟨r', hlookup', hmeta, -⟩ := hr.refund_of (a := a) hlookup
      refine ⟨y.refund.id, r', hlookup', by rw [hmeta, hpayment, hid], ?_⟩
      cases refundSync?_from hsync with
      | applied ho₁ hp₁ hcall hid₁ hpid =>
        exact (h.answers _ _ _ hcall hs).step he hr hc horder fun _ _ _ ha => by cases ha
      | received ho₁ hp₁ hnew htest => exact standing_delivered he hr hc hnew hs

theorem World.RefundsHeld.answers_step (h : w.RefundsHeld) (he : w.EventsOrdered)
    (hr : w.RefundsKnown) (hc : w.Honest a) (horder : w.InOrder a) (hapart : w.RefundsApart a)
    (hstands : w.AnswerStands a) {callId : Id} {call : RefundCall}
    (hcall : (ledger.step w a).calls.lookup callId = some (.refundApply call refund))
    (hs : refund.status = .succeeded) : (ledger.step w a).Standing refund.id := by
  cases step_calls hcall with
  | kept hkept =>
    refine (h.answers _ _ _ hkept hs).step he hr hc horder fun event eventType refund ha => ?_
    subst ha
    have hnone := hapart.1 _ (Table.mem_entries_of_lookup hkept)
    cases hnone
  | @answered _ _ paymentIntentId _ s' hlookup hans =>
    have hacct := step_refundCreate hlookup hans
    obtain ⟨-, ⟨hkey, hreach, hkept⟩ | ⟨r, hr', hstatus⟩⟩ := StripeAccount.createRefund_ok
      (show w.stripe.createRefund _ = (.ok refund, s') from hans)
    · -- an answer that was given before
      simp only [World.AnswerStands, hlookup] at hstands
      rw [show w.stripe.answers.lookup call.paymentId = _ from hkey] at hstands
      exact (hstands hs hreach hkept).step he hr hc horder fun _ _ _ ha => by cases ha
    · exact ⟨r, hacct ▸ hr', Or.inl (hstatus.trans hs)⟩

/-- A payment in cash stays so, unless what is said of an intent is applied to it. -/
theorem PaymentChange.stays_cash (hpc : PaymentChange stripeAccount w k a p q)
    (hcash : p.method = some .cash ∧ p.paymentStatus = .paid)
    (hsync : ∀ y, w.intentSync? stripeAccount a = some y → y.payment ≠ p) :
    q.method = some .cash ∧ q.paymentStatus = .paid := by
  cases hpc with
  | same => exact hcash
  | attemptStarted hrefund hpaid ha => exact absurd hcash.2 hpaid
  | paidInCash hpaid => exact absurd hcash.2 hpaid
  | synced y hy hk => exact absurd rfl (hsync y hy)
  | cashRefunded ha hcall hk hpid => exact hcash
  | refundRequested ha hcall hk hpid => exact hcash
  | refundFailed ha hcall hk hpid => exact hcash
  | refundSynced y hy hk =>
    obtain ⟨hmethod, hstatus, -⟩ := refundSynced_collected w.env y.payment y.refund
    rw [hmethod, hstatus]
    exact hcash

/-- A payment that was paid in cash on every order it is found on, and that no snapshot of an intent
is applied to, is so after the step. -/
theorem paidInCash_step (hlt : paymentId.step < w.steps)
    (hcash : ∀ k o p, w.db.order? k = some o → o.payment = some p → p.id = paymentId →
      p.method = some .cash ∧ p.paymentStatus = .paid)
    (hsync : ∀ y, w.intentSync? stripeAccount a = some y → y.payment.method = some .cash →
      y.payment.id ≠ paymentId) :
    paymentId.step < (ledger.step w a).steps ∧
      ∀ k o p, (ledger.step w a).db.order? k = some o → o.payment = some p → p.id = paymentId →
        p.method = some .cash ∧ p.paymentStatus = .paid := by
  refine ⟨by rw [step_steps]; exact Nat.lt_succ_of_lt hlt, fun k o' q ho' hq hqid => ?_⟩
  rcases step_order_inv ho' with ho | ⟨-, _, _, _, _, _, rfl⟩ | ⟨o, rows, ho, hch⟩
  · exact hcash k o' q ho hq hqid
  · cases hq
  · obtain ⟨p, hp | hnew, hid, hpc⟩ := hch.payment hq
    · have hwas := hcash k o p ho hp (hid.symm.trans hqid)
      refine hpc.stays_cash hwas fun y hy hyp => ?_
      subst hyp
      exact hsync y hy hwas.1 (hid.symm.trans hqid)
    · rw [← hqid, hid, hnew.id_eq] at hlt
      exact absurd hlt (Nat.lt_irrefl _)

theorem World.RefundsHeld.cash_step (h : w.RefundsHeld) (hr : w.RefundsKnown)
    (hapart : w.RefundsApart a) {callId : Id} {call : RefundCall}
    (hcall : (ledger.step w a).calls.lookup callId = some (.refundCash call)) :
    call.paymentId.step < (ledger.step w a).steps ∧
      ∀ k o p, (ledger.step w a).db.order? k = some o → o.payment = some p →
        p.id = call.paymentId → p.method = some .cash ∧ p.paymentStatus = .paid := by
  cases step_calls hcall with
  | kept hkept =>
    obtain ⟨hlt, hcash⟩ := h.cash _ _ hkept
    refine paidInCash_step hlt hcash fun y hy hmethod hid => ?_
    have hkept' := hapart.2
    rw [hy] at hkept'
    have hother := (hkept' hmethod).2 _ (Table.mem_entries_of_lookup hkept)
    rw [hid] at hother
    simp [InFlight.refundsCash] at hother
  | cashStarted ho htarget =>
    obtain ⟨p, hp, -, hpaid, -, rfl, ⟨hmethod, -⟩ | ⟨-, attempt, -, -, hnone⟩⟩ :=
      refundPaymentTarget_ok htarget
    · rcases OrderRecord.payment_or_new hp with hp | ⟨_, _, _, _, _, rfl⟩
      · have howns := hr.payments _ _ _ ho hp
        refine paidInCash_step howns.old (fun k o₁ p₁ ho₁ hp₁ hid => ?_) fun y hy => by cases hy
        obtain rfl := howns.only _ _ _ ho₁ hp₁ hid
        obtain rfl := Option.some.inj (ho.symm.trans ho₁)
        obtain rfl := Option.some.inj (hp.symm.trans hp₁)
        exact ⟨hmethod, hpaid⟩
      · cases hmethod
    · cases hnone

theorem World.RefundsHeld.step (h : w.RefundsHeld) (he : w.EventsOrdered) (hr : w.RefundsKnown)
    (hc : w.Honest a) (horder : w.InOrder a) (hapart : w.RefundsApart a)
    (hstands : w.AnswerStands a) : (ledger.step w a).RefundsHeld where
  payments _ _ _ ho hp hmethod hrefunded :=
    h.payments_step he hr hc horder hapart ho hp hmethod hrefunded
  answers _ _ _ hcall hs := h.answers_step he hr hc horder hapart hstands hcall hs
  cash _ _ hcall := h.cash_step hr hapart hcall

theorem refundsHeld_init : (World.init StripeAccount.empty).RefundsHeld where
  payments := fun _ _ _ h => by cases h
  answers := fun _ _ _ h => by cases h
  cash := fun _ _ h => by cases h

/-- **What is recorded as refunded is refunded at Stripe** in every run in which refund webhooks are
processed in the order of their events and apart from refund requests, and no retry is answered a
success that Stripe has taken back: a card payment that is `REFUNDED` has a refund at Stripe that
succeeded, unless an event about that refund is still to be processed. -/
theorem refunded_at_stripe (as : List (Action StripeMove))
    (h : ledger.Meets (fun w a => w.Honest a ∧ w.InOrder a ∧ w.RefundsApart a ∧ w.AnswerStands a)
      (World.init .empty) as) (k : Id) (o : OrderRecord) (p : PaymentWithAttempts)
    (ho : (ledger.run (World.init .empty) as).db.order? k = some o) (hp : o.payment = some p)
    (hmethod : p.method = some .card) (hrefunded : p.refundStatus = .refunded) :
    ∃ id r, (ledger.run (World.init .empty) as).stripe.refunds.lookup id = some r ∧
      r.metadata.paymentId = some p.id ∧
      (r.status = .succeeded ∨ ∃ event refund,
        (event, refund) ∈ (ledger.run (World.init .empty) as).stripe.emitted ∧ refund.id = id ∧
          (ledger.run (World.init .empty) as).db.receipts.lookup event = none) := by
  have hinv := Machine.run_invariant (I := fun w : World StripeAccount =>
      w.Linked ∧ w.RefundsKnown ∧ w.EventsOrdered ∧ w.RefundsHeld)
    (fun w a ⟨hl, hr, he, hh⟩ ⟨hc, horder, hapart, hstands⟩ =>
      ⟨hl.step hc, hr.step hl hc, he.step hr hc horder,
        hh.step he hr hc horder hapart hstands⟩)
    ⟨linked_init, refundsKnown_init, eventsOrdered_init, refundsHeld_init⟩ h
  obtain ⟨id, r, hlookup, hpayment, r', hlookup', hcase⟩ :=
    hinv.2.2.2.payments k o p ho hp (by rw [hmethod]; decide) hrefunded
  obtain rfl := Option.some.inj (hlookup.symm.trans hlookup')
  refine ⟨id, r, hlookup, hpayment, ?_⟩
  rcases hcase with hs | ⟨event, refund, hu, hid⟩
  · exact Or.inl hs
  · exact Or.inr ⟨event, refund, hu.1, hid, hu.2⟩

end

namespace Shop

/-- The order is paid by card, shipped, and refunded at once. -/
def refundedAfterShipping : List (Action StripeMove) :=
  confirmed ++ [payByCard, .stripe (.intentStatus 0 .succeeded), event 0 (intent 0 3 .succeeded),
    transition .fulfilled, refundsAtOnce, refund, .resume ⟨8, 0⟩, .resume ⟨8, 0⟩, .resume ⟨8, 0⟩,
    refundEvent 1 1 .succeeded]

/-- The refund fails at Stripe, which is told, and is asked for again. -/
def refundedAgain : List (Action StripeMove) :=
  refundedAfterShipping ++ [.stripe (.refundStatus 1 .failed), refundEvent 2 1 .failed, refund,
    .resume ⟨15, 0⟩, .resume ⟨15, 0⟩, .resume ⟨15, 0⟩]

end Shop

/-- The refund of a shipped order. -/
theorem refunded_at_stripe_shop :
    ∃ id r, (ledger.run (World.init .empty) Shop.refundedAfterShipping).stripe.refunds.lookup id =
        some r ∧ r.metadata.paymentId = some Shop.paymentId ∧
      (r.status = .succeeded ∨ ∃ event refund,
        (event, refund) ∈ (ledger.run (World.init .empty)
          Shop.refundedAfterShipping).stripe.emitted ∧ refund.id = id ∧
          (ledger.run (World.init .empty) Shop.refundedAfterShipping).db.receipts.lookup event =
            none) := by
  obtain ⟨p, hpay, hmethod, hrefunded⟩ : ∃ p ∈ (ledger.run (World.init .empty)
      Shop.refundedAfterShipping).db.payment? Shop.orderId Shop.paymentId,
      p.method = some .card ∧ p.refundStatus = .refunded := by decide
  obtain ⟨o, ho, hp, hid⟩ := Database.payment?_eq_some.mp hpay
  have h := refunded_at_stripe Shop.refundedAfterShipping (by decide) Shop.orderId o p ho hp hmethod
    hrefunded
  rwa [hid] at h

/-- A retry of a refund that succeeded and failed later is answered the first success: the payment
is `REFUNDED`, every event has a receipt, and no refund at Stripe has succeeded. -/
theorem refunded_by_replay :
    ledger.Meets (fun w a => w.Honest a ∧ w.InOrder a ∧ w.RefundsApart a) (World.init .empty)
        Shop.refundedAgain ∧
      ((ledger.run (World.init .empty) Shop.refundedAgain).db.payment? Shop.orderId
        Shop.paymentId).map (fun p => (p.method, p.refundStatus)) = some (some .card, .refunded) ∧
      (∀ e ∈ (ledger.run (World.init .empty) Shop.refundedAgain).stripe.refunds.entries,
        e.2.status = .failed) ∧
      ∀ e ∈ (ledger.run (World.init .empty) Shop.refundedAgain).stripe.emitted,
        (ledger.run (World.init .empty) Shop.refundedAgain).db.receipts.lookup e.1 ≠ none := by
  decide

end LedgerLight
