import LedgerLight.System.Intents

/-!
# Refunds at Stripe and the payments they belong to

`createRefund` is asked with the id of a payment as idempotency key, so a payment has one refund at
Stripe at most: the first answer to its key. What Stripe says of a refund names its payment, and
that payment is only ever found on one order.

* `step_refunds` : what a step does to the refunds at Stripe.
* `refundsKnown_run` : the links between refunds and payments (`World.RefundsKnown`) hold in every
  honest run.
-/

namespace LedgerLight

open Infra

/-! ## What a step does to the refunds -/

/-- What a step does to the refunds, to the answers that are kept and to the events. -/
inductive RefundStep (w : World StripeAccount) : Action StripeMove → StripeAccount → Prop
  | same {a acct} (hr : acct.refunds = w.stripe.refunds) (ha : acct.answers = w.stripe.answers)
      (he : acct.emitted = w.stripe.emitted) (hn : w.stripe.nextId ≤ acct.nextId) :
      RefundStep w a acct
  | refused {callId call paymentIntentId e acct}
      (hcall : w.calls.lookup callId = some (.refundCreate call paymentIntentId))
      (hnone : w.stripe.answers.lookup call.paymentId = none)
      (h : acct = w.stripe.answerRefund call.paymentId (.error e)) :
      RefundStep w (.resume callId) acct
  | created {callId call paymentIntentId i acct} (r : StripeRefundObject)
      (hcall : w.calls.lookup callId = some (.refundCreate call paymentIntentId))
      (hnone : w.stripe.answers.lookup call.paymentId = none)
      (hi : w.stripe.intents.lookup paymentIntentId = some i) (hs : i.status = .succeeded)
      (hintent : r.paymentIntentId = paymentIntentId)
      (horder : r.metadata.orderId = some call.orderId)
      (hpayment : r.metadata.paymentId = some call.paymentId)
      (h : acct = (w.stripe.setRefund w.stripe.nextId r).answerRefund call.paymentId
        (.ok (r.snapshot w.stripe.nextId))) :
      RefundStep w (.resume callId) acct
  | moved {acct} (id : RefundId) (r : StripeRefundObject) (status : StripeRefundStatus)
      (hr : w.stripe.refunds.lookup id = some r) (hb : r.status.mayBecome status = true)
      (h : acct = w.stripe.setRefund id { r with status := status }) :
      RefundStep w (.stripe (.refundStatus id status)) acct

section

variable {w : World StripeAccount} {a : Action StripeMove} {acct : StripeAccount}

theorem create_refunds {callId : Id} {call : RefundCall} {paymentIntentId : PaymentIntentId}
    (hcall : w.calls.lookup callId = some (.refundCreate call paymentIntentId)) :
    RefundStep w (.resume callId)
      (refundPaymentCreate stripeAccount call paymentIntentId w.stripe).2 := by
  show RefundStep w _ (w.stripe.createRefund _).2
  unfold StripeAccount.createRefund
  split
  · exact .same rfl rfl rfl le_rfl
  · dsimp only
    cases hkey : w.stripe.answers.lookup call.paymentId with
    | some first => exact .same rfl rfl rfl le_rfl
    | none =>
      dsimp only
      split
      · next hpaid =>
        obtain ⟨i, hi, hs⟩ := (Option.any_eq_true _ _).mp hpaid
        exact .created _ hcall hkey hi (beq_iff_eq.mp hs) rfl rfl rfl rfl
      · exact .refused hcall hkey rfl

/-- **A step creates one refund at most, or changes the status of one.** -/
theorem step_refunds (w : World StripeAccount) (a : Action StripeMove) :
    RefundStep w a (ledger.step w a).stripe := by
  have hs := step_stripe stripeAccount w a
  generalize (ledger.step w a).stripe = acct at hs ⊢
  cases hs with
  | same => exact .same rfl rfl rfl le_rfl
  | created organizationId payment =>
    rcases w.stripe.createPaymentIntent_cases (cardPaymentArgs _ organizationId (w.env.uuid 1)
      payment) with ⟨e, he⟩ | he
    all_goals
      rw [show stripeAccount.createPaymentIntent _ w.stripe = w.stripe.createPaymentIntent _ from
        rfl, he]
    · exact .same rfl rfl rfl le_rfl
    · exact .same rfl rfl rfl (Nat.le_succ _)
  | cancelled paymentIntentId =>
    rcases w.stripe.cancelOrRetrieve_cases paymentIntentId with
      ⟨e, he⟩ | ⟨i, hi, he⟩ | ⟨i, hi, hf, he⟩
    all_goals
      rw [he]
      exact .same rfl rfl rfl le_rfl
  | @retrieved callId orderId paymentId attempt auditContext hcall =>
    rcases w.stripe.retrievePaymentIntent_cases attempt.stripePaymentIntentId with
      ⟨e, he⟩ | ⟨i, hi, he⟩
    all_goals
      rw [show stripeAccount.retrievePaymentIntent _ w.stripe = w.stripe.retrievePaymentIntent _
        from rfl, he]
      exact .same rfl rfl rfl le_rfl
  | refundCreated hcall => exact create_refunds hcall
  | @moved move =>
    show RefundStep w _ (w.stripe.move move)
    cases move with
    | plan plan => exact .same rfl rfl rfl le_rfl
    | intentStatus id status =>
      simp only [StripeAccount.move]
      split
      · exact .same rfl rfl rfl le_rfl
      · split
        · exact .same rfl rfl rfl le_rfl
        · exact .same rfl rfl rfl le_rfl
    | refundStatus id status =>
      simp only [StripeAccount.move]
      split
      · exact .same rfl rfl rfl le_rfl
      · next r hr =>
        split
        · next hb => exact .moved id r status hr hb rfl
        · exact .same rfl rfl rfl le_rfl

theorem RefundStep.nextId_le (h : RefundStep w a acct) : w.stripe.nextId ≤ acct.nextId := by
  cases h with
  | same hr ha he hn => exact hn
  | refused hcall hnone h => rw [h]; exact le_rfl
  | created r hcall hnone hi hs hintent horder hpayment h => rw [h]; exact Nat.le_succ _
  | moved id r status hr hb h => rw [h]; exact Nat.le_succ _

/-- A step leaves the refunds and the events as they are, or sets one refund and announces it. -/
theorem RefundStep.announced (h : RefundStep w a acct) :
    acct.refunds = w.stripe.refunds ∧ acct.emitted = w.stripe.emitted ∨
      ∃ id r, acct.refunds = w.stripe.refunds.insert id r ∧
        acct.emitted = (w.stripe.nextId, r.snapshot id) :: w.stripe.emitted ∧
        acct.nextId = w.stripe.nextId + 1 := by
  cases h with
  | same hr ha he hn => exact Or.inl ⟨hr, he⟩
  | refused hcall hnone h =>
    subst h
    exact Or.inl ⟨rfl, rfl⟩
  | created r hcall hnone hi hs hintent horder hpayment h =>
    subst h
    exact Or.inr ⟨_, r, rfl, rfl, rfl⟩
  | moved id r status hr hb h =>
    subst h
    exact Or.inr ⟨id, _, rfl, rfl, rfl⟩

/-- A refund stays, with its intent and its metadata. -/
theorem RefundStep.lookup_of (h : RefundStep w a acct) {id : RefundId} {r : StripeRefundObject}
    (hlt : id < w.stripe.nextId) (hr : w.stripe.refunds.lookup id = some r) :
    ∃ r', acct.refunds.lookup id = some r' ∧ r'.metadata = r.metadata ∧
      r'.paymentIntentId = r.paymentIntentId := by
  cases h with
  | same hr' ha he hn => exact ⟨r, hr' ▸ hr, rfl, rfl⟩
  | refused hcall hnone h => exact ⟨r, h ▸ hr, rfl, rfl⟩
  | created r' hcall hnone hi hs hintent horder hpayment h =>
    refine ⟨r, ?_, rfl, rfl⟩
    rw [h]
    exact (Table.lookup_insert_ite ..).trans ((if_neg (Nat.ne_of_lt hlt)).trans hr)
  | moved id' r₁ status hr₁ hb h =>
    rw [h]
    by_cases hid : id = id'
    · subst hid
      obtain rfl := Option.some.inj (hr.symm.trans hr₁)
      exact ⟨_, (Table.lookup_insert_ite ..).trans (if_pos rfl), rfl, rfl⟩
    · exact ⟨r, (Table.lookup_insert_ite ..).trans ((if_neg hid).trans hr), rfl, rfl⟩

/-- An answer, once kept, stays. -/
theorem RefundStep.answer_of (h : RefundStep w a acct) {key : Id}
    {answer : Except AppError StripeRefund} (hk : w.stripe.answers.lookup key = some answer) :
    acct.answers.lookup key = some answer := by
  cases h with
  | same hr ha he hn => rw [ha, hk]
  | @refused _ call _ _ _ hcall hnone h =>
    have hne : key ≠ call.paymentId := fun he => by rw [he, hnone] at hk; cases hk
    rw [h]
    exact (Table.lookup_insert_ite ..).trans ((if_neg hne).trans hk)
  | @created _ call _ _ _ r hcall hnone hi hs hintent horder hpayment h =>
    have hne : key ≠ call.paymentId := fun he => by rw [he, hnone] at hk; cases hk
    rw [h]
    exact (Table.lookup_insert_ite ..).trans ((if_neg hne).trans hk)
  | moved id r status hr hb h => rw [h]; exact hk

end

/-! ## Payments and their orders -/

section

variable {S M : Type} {stripe : StripeService S M} {w : World S} {a : Action M} {k orderId : Id}
  {paymentId : Id} {p q : PaymentWithAttempts} {o : OrderRecord}

/-- The payment is found on no other order, now or later: ids are not given out twice. -/
structure World.Owns (w : World S) (orderId paymentId : Id) : Prop where
  old : paymentId.step < w.steps
  only : ∀ k o p, w.db.order? k = some o → o.payment = some p → p.id = paymentId → k = orderId

/-- A payment after a step is one of before with the same id, or it has an id of this step. -/
theorem step_payment_id (ho : ((system stripe).step w a).db.order? k = some o)
    (hq : o.payment = some q) :
    (∃ o₀ p, w.db.order? k = some o₀ ∧ o₀.payment = some p ∧ q.id = p.id) ∨
      q.id = w.env.uuid 0 := by
  rcases step_order_inv ho with ho₀ | ⟨-, _, _, _, _, _, rfl⟩ | ⟨o₀, rows, ho₀, hc⟩
  · exact Or.inl ⟨o, q, ho₀, hq, rfl⟩
  · cases hq
  · obtain ⟨p, hp | hnew, hid, -⟩ := hc.payment hq
    · exact Or.inl ⟨o₀, p, ho₀, hp, hid⟩
    · exact Or.inr (hid.trans hnew.id_eq)

theorem World.Owns.step (h : w.Owns orderId paymentId) :
    ((system stripe).step w a).Owns orderId paymentId := by
  refine ⟨by rw [step_steps]; exact Nat.lt_succ_of_lt h.old, fun k o q ho hq hid => ?_⟩
  rcases step_payment_id ho hq with ⟨o₀, p, ho₀, hp, hpid⟩ | hnew
  · exact h.only k o₀ p ho₀ hp (hpid.symm.trans hid)
  · have hlt := h.old
    rw [← hid, hnew] at hlt
    exact absurd hlt (Nat.lt_irrefl _)

/-- Every payment belongs to the order it is found on. -/
def World.PaymentsOwned (w : World S) : Prop :=
  ∀ k o p, w.db.order? k = some o → o.payment = some p → w.Owns k p.id

theorem World.PaymentsOwned.step (h : w.PaymentsOwned) :
    ((system stripe).step w a).PaymentsOwned := by
  intro k o q ho hq
  rcases step_payment_id ho hq with ⟨o₀, p, ho₀, hp, hid⟩ | hnew
  · rw [hid]
    exact (h k o₀ p ho₀ hp).step
  · -- the payments with an id of this step are on the one order that has changed
    obtain ⟨changed, hchanged⟩ := step_changes_one stripe w a
    have hat : ∀ k o q, ((system stripe).step w a).db.order? k = some o → o.payment = some q →
        q.id = w.env.uuid 0 → k = changed := by
      intro k o q ho hq hid
      by_contra hne
      have hlt := (h k o q (hchanged k o hne ho) hq).old
      rw [hid] at hlt
      exact absurd hlt (Nat.lt_irrefl _)
    refine ⟨by rw [step_steps, hnew]; exact Nat.lt_succ_self _, fun k' o' q' ho' hq' hid => ?_⟩
    rw [hat k o q ho hq hnew, hat k' o' q' ho' hq' (hid.trans hnew)]

/-- Only a refund that is applied changes the refund's id on the payment. -/
theorem PaymentChange.stripeRefundId (hc : PaymentChange stripe w k a p q) :
    q.stripeRefundId = p.stripeRefundId ∨ ∃ y, w.refundSync? a = some y ∧ y.orderId = k ∧
      p = y.payment ∧ q.stripeRefundId = some y.refund.id := by
  cases hc with
  | synced y hsync hid =>
    obtain ⟨u, hu⟩ := syncedPayment_toPayment w.env y.payment y.attempt y.paymentIntent
    exact Or.inl (by rw [hu]; rfl)
  | refundSynced y hsync hid =>
    obtain ⟨u, hu⟩ := refundSynced_toPayment w.env y.payment y.refund
    exact Or.inr ⟨y, hsync, hid, rfl, by rw [hu]⟩
  | _ => exact Or.inl rfl

end

/-! ## Links -/

/-- The refund was made for the payment, of an intent of its order that succeeded. -/
structure World.RefundOf (w : World StripeAccount) (id : RefundId) (r : StripeRefundObject)
    (orderId paymentId : Id) : Prop where
  order : r.metadata.orderId = some orderId
  payment : r.metadata.paymentId = some paymentId
  owns : w.Owns orderId paymentId
  intent : ∃ i, w.stripe.intents.lookup r.paymentIntentId = some i ∧ i.status = .succeeded ∧
    i.metadata.orderId = some orderId
  answer : ∃ first, w.stripe.answers.lookup paymentId = some (.ok first) ∧ first.id = id

/-- The snapshot is of a refund that was made for the payment. -/
def World.Told (w : World StripeAccount) (paymentId : Id) (refund : StripeRefund) : Prop :=
  ∃ r, w.stripe.refunds.lookup refund.id = some r ∧ refund.metadata = r.metadata ∧
    r.metadata.paymentId = some paymentId

/-- What a call in flight keeps about a refund is true. -/
def World.RefundCallLinked (w : World StripeAccount) : InFlight → Prop
  | .refundRequest call paymentIntentId | .refundCreate call paymentIntentId =>
    w.Owns call.orderId call.paymentId ∧
      ∃ i, w.stripe.intents.lookup paymentIntentId = some i ∧
        i.metadata.orderId = some call.orderId
  | .refundApply call refund => w.Told call.paymentId refund
  | _ => True

/-- The database, the calls in flight and the refunds of the account fit together. -/
structure World.RefundsKnown (w : World StripeAccount) : Prop where
  payments : w.PaymentsOwned
  refunds : ∀ id r, w.stripe.refunds.lookup id = some r → id < w.stripe.nextId ∧
    ∃ orderId paymentId, w.RefundOf id r orderId paymentId
  answers : ∀ paymentId first, w.stripe.answers.lookup paymentId = some (.ok first) →
    w.Told paymentId first
  emitted : ∀ event refund, (event, refund) ∈ w.stripe.emitted → event < w.stripe.nextId ∧
    ∃ paymentId, w.Told paymentId refund
  recorded : ∀ k o p id, w.db.order? k = some o → o.payment = some p →
    p.stripeRefundId = some id →
    ∃ r, w.stripe.refunds.lookup id = some r ∧ r.metadata.paymentId = some p.id
  calls : ∀ k call, w.calls.lookup k = some call → w.RefundCallLinked call

section

variable {w : World StripeAccount} {a : Action StripeMove} {k orderId paymentId : Id}
  {refund : StripeRefund}

theorem World.RefundsKnown.refund_of (h : w.RefundsKnown) {id : RefundId} {r : StripeRefundObject}
    (hr : w.stripe.refunds.lookup id = some r) :
    ∃ r', (ledger.step w a).stripe.refunds.lookup id = some r' ∧ r'.metadata = r.metadata ∧
      r'.paymentIntentId = r.paymentIntentId :=
  (step_refunds w a).lookup_of (h.refunds id r hr).1 hr

theorem World.Told.step (ht : w.Told paymentId refund) (h : w.RefundsKnown) :
    (ledger.step w a).Told paymentId refund := by
  obtain ⟨r, hr, hmeta, hid⟩ := ht
  obtain ⟨r', hr', hmeta', -⟩ := h.refund_of (a := a) hr
  exact ⟨r', hr', hmeta.trans hmeta'.symm, by rw [hmeta', hid]⟩

/-- An intent that succeeded stays as it is. -/
theorem World.Linked.succeeded_stays (h : w.Linked) (hc : w.Honest a) {id : PaymentIntentId}
    {i : StripeIntent} (hi : w.stripe.intents.lookup id = some i) (hs : i.status = .succeeded) :
    (ledger.step w a).stripe.intents.lookup id = some i := by
  obtain ⟨i', hi', -, hnext⟩ := h.intent_of (step_intents hc) hi
  rcases hnext with rfl | ⟨hf, -⟩
  · exact hi'
  · rw [hs] at hf
    cases hf

theorem World.RefundOf.step {id : RefundId} {r r' : StripeRefundObject}
    (ho : w.RefundOf id r orderId paymentId) (h : w.Linked) (hc : w.Honest a)
    (hmeta : r'.metadata = r.metadata) (hintent : r'.paymentIntentId = r.paymentIntentId) :
    (ledger.step w a).RefundOf id r' orderId paymentId where
  order := hmeta ▸ ho.order
  payment := hmeta ▸ ho.payment
  owns := ho.owns.step
  intent := by
    obtain ⟨i, hi, hs, horder⟩ := ho.intent
    exact ⟨i, hintent ▸ h.succeeded_stays hc hi hs, hs, horder⟩
  answer := by
    obtain ⟨first, hfirst, hid⟩ := ho.answer
    exact ⟨first, (step_refunds w a).answer_of hfirst, hid⟩

/-- What is applied to a payment is what Stripe says of a refund of that payment. -/
theorem World.RefundsKnown.sync_told (h : w.RefundsKnown) (hc : w.Honest a) {y : RefundSync}
    (hsync : w.refundSync? a = some y) : w.Told y.payment.id y.refund := by
  cases refundSync?_from hsync with
  | applied ho hp hcall hid hpid =>
    rw [hpid]
    exact h.calls _ _ hcall
  | received ho hp hnew htest =>
    obtain ⟨-, key, r, hr, hmeta, hkey⟩ := h.emitted _ _ hc
    refine ⟨r, hr, hmeta, ?_⟩
    rcases Bool.or_eq_true_iff.mp htest with hrecorded | hnamed
    · obtain ⟨r', hr', hid⟩ := h.recorded _ _ _ _ ho hp (beq_iff_eq.mp hrecorded)
      obtain rfl := Option.some.inj (hr.symm.trans hr')
      exact hid
    · rw [← hmeta]
      exact beq_iff_eq.mp hnamed

/-- **A refund is only applied to the payment of the order whose intent was refunded.** -/
theorem World.RefundsKnown.sync (h : w.RefundsKnown) (hc : w.Honest a) {y : RefundSync}
    (hsync : w.refundSync? a = some y) (ho : w.db.order? y.orderId = some y.order)
    (hp : y.order.payment = some y.payment) :
    ∃ id i, w.stripe.intents.lookup id = some i ∧ i.status = .succeeded ∧
      i.metadata.orderId = some y.orderId := by
  obtain ⟨r, hr, -, hpaymentId⟩ := h.sync_told hc hsync
  obtain ⟨-, orderId, paymentId, hof⟩ := h.refunds _ r hr
  obtain ⟨i, hi, hs, horder⟩ := hof.intent
  have hid : y.payment.id = paymentId := Option.some.inj (hpaymentId.symm.trans hof.payment)
  have hown : y.orderId = orderId := hof.owns.only _ _ _ ho hp hid
  exact ⟨r.paymentIntentId, i, hi, hs, hown ▸ horder⟩

/-! ### Every step keeps the links -/

theorem World.RefundsKnown.refunds_step (h : w.RefundsKnown) (hl : w.Linked) (hc : w.Honest a)
    {id : RefundId} {r' : StripeRefundObject}
    (hr' : (ledger.step w a).stripe.refunds.lookup id = some r') :
    id < (ledger.step w a).stripe.nextId ∧
      ∃ orderId paymentId, (ledger.step w a).RefundOf id r' orderId paymentId := by
  have hle := (step_refunds w a).nextId_le
  have hold : ∀ r, w.stripe.refunds.lookup id = some r → r'.metadata = r.metadata →
      r'.paymentIntentId = r.paymentIntentId → id < (ledger.step w a).stripe.nextId ∧
        ∃ orderId paymentId, (ledger.step w a).RefundOf id r' orderId paymentId := by
    intro r hr hmeta hintent
    obtain ⟨hlt, orderId, paymentId, hof⟩ := h.refunds id r hr
    exact ⟨lt_of_lt_of_le hlt hle, orderId, paymentId, hof.step hl hc hmeta hintent⟩
  cases step_refunds w a with
  | same hr ha he hn => exact hold r' (hr ▸ hr') rfl rfl
  | refused hcall hnone hacct =>
    rw [hacct] at hr'
    exact hold r' hr' rfl rfl
  | @created callId call paymentIntentId i _ r hcall hnone hi hs hintent horder hpayment hacct =>
    rw [hacct] at hr'
    replace hr' := (Table.lookup_insert_ite ..).symm.trans hr'
    split at hr'
    · next hid =>
      cases hr'
      obtain ⟨howns, i', hi', horder'⟩ := h.calls _ _ hcall
      obtain rfl := Option.some.inj (hi.symm.trans hi')
      refine ⟨by rw [hacct, hid]; exact Nat.lt_succ_self _, call.orderId, call.paymentId, horder,
        hpayment, howns.step, ⟨i, ?_, hs, horder'⟩, ⟨r'.snapshot w.stripe.nextId, ?_, hid.symm⟩⟩
      · rw [hintent]
        exact hl.succeeded_stays hc hi hs
      · rw [hacct]
        exact AList.lookup_insert _
    · exact hold r' hr' rfl rfl
  | moved id' r status hr hb hacct =>
    rw [hacct] at hr'
    replace hr' := (Table.lookup_insert_ite ..).symm.trans hr'
    split at hr'
    · next hid =>
      cases hr'
      subst hid
      exact hold r hr rfl rfl
    · exact hold r' hr' rfl rfl

theorem World.RefundsKnown.answers_step (h : w.RefundsKnown)
    (hk : (ledger.step w a).stripe.answers.lookup paymentId = some (.ok refund)) :
    (ledger.step w a).Told paymentId refund := by
  cases step_refunds w a with
  | same hr ha he hn => exact (h.answers _ _ (ha ▸ hk)).step h
  | refused hcall hnone hacct =>
    rw [hacct] at hk
    replace hk := (Table.lookup_insert_ite ..).symm.trans hk
    split at hk
    · cases hk
    · exact (h.answers _ _ hk).step h
  | created r hcall hnone hi hs hintent horder hpayment hacct =>
    have hk' := hk
    rw [hacct] at hk'
    replace hk' := (Table.lookup_insert_ite ..).symm.trans hk'
    split at hk'
    · next hid =>
      cases hk'
      refine ⟨r, ?_, rfl, hid ▸ hpayment⟩
      rw [hacct]
      exact AList.lookup_insert _
    · exact (h.answers _ _ hk').step h
  | moved id r status hr hb hacct =>
    rw [hacct] at hk
    exact (h.answers _ _ hk).step h

theorem World.RefundsKnown.emitted_step (h : w.RefundsKnown) {event : StripeEventId}
    (he : (event, refund) ∈ (ledger.step w a).stripe.emitted) :
    event < (ledger.step w a).stripe.nextId ∧
      ∃ paymentId, (ledger.step w a).Told paymentId refund := by
  have hold : (event, refund) ∈ w.stripe.emitted → event < (ledger.step w a).stripe.nextId ∧
      ∃ paymentId, (ledger.step w a).Told paymentId refund := by
    intro hmem
    obtain ⟨hlt, paymentId, htold⟩ := h.emitted _ _ hmem
    exact ⟨lt_of_lt_of_le hlt (step_refunds w a).nextId_le, paymentId, htold.step h⟩
  cases step_refunds w a with
  | same hr ha hemitted hn => exact hold (hemitted ▸ he)
  | refused hcall hnone hacct =>
    rw [hacct] at he
    exact hold he
  | created r hcall hnone hi hs hintent horder hpayment hacct =>
    have he' := he
    rw [hacct] at he'
    rcases List.mem_cons.mp he' with heq | hmem
    · cases heq
      refine ⟨by rw [hacct]; exact Nat.lt_succ_self _, _, r, ?_, rfl, hpayment⟩
      rw [hacct]
      exact AList.lookup_insert _
    · exact hold hmem
  | moved id r status hr hb hacct =>
    have he' := he
    rw [hacct] at he'
    rcases List.mem_cons.mp he' with heq | hmem
    · cases heq
      obtain ⟨-, orderId, paymentId, hof⟩ := h.refunds id r hr
      refine ⟨by rw [hacct]; exact Nat.lt_succ_self _, paymentId, { r with status := status }, ?_,
        rfl, hof.payment⟩
      rw [hacct]
      exact AList.lookup_insert _
    · exact hold hmem

theorem World.RefundsKnown.recorded_step (h : w.RefundsKnown) (hc : w.Honest a) {o' : OrderRecord}
    {q : PaymentWithAttempts} {id : RefundId}
    (ho' : (ledger.step w a).db.order? k = some o') (hq : o'.payment = some q)
    (hid : q.stripeRefundId = some id) :
    ∃ r, (ledger.step w a).stripe.refunds.lookup id = some r ∧
      r.metadata.paymentId = some q.id := by
  have hstable : ∀ key, (∃ r, w.stripe.refunds.lookup id = some r ∧
      r.metadata.paymentId = some key) → ∃ r, (ledger.step w a).stripe.refunds.lookup id = some r ∧
        r.metadata.paymentId = some key := by
    rintro key ⟨r, hr, hkey⟩
    obtain ⟨r', hr', hmeta, -⟩ := h.refund_of (a := a) hr
    exact ⟨r', hr', hmeta ▸ hkey⟩
  rcases step_order_inv ho' with ho | ⟨-, _, _, _, _, _, rfl⟩ | ⟨o, rows, ho, hch⟩
  · exact hstable _ (h.recorded k o' q id ho hq hid)
  · cases hq
  · obtain ⟨p, hp, hpid, hpc⟩ := hch.payment hq
    rcases hpc.stripeRefundId with hsame | ⟨y, hsync, -, rfl, hy⟩
    · rw [hsame] at hid
      rcases hp with hp | ⟨_, _, _, _, _, rfl⟩
      · rw [hpid]
        exact hstable _ (h.recorded k o p id ho hp hid)
      · cases hid
    · rw [hy] at hid
      cases hid
      obtain ⟨r, hr, -, hkey⟩ := h.sync_told hc hsync
      rw [hpid]
      exact hstable _ ⟨r, hr, hkey⟩

/-- The account after a call to `createRefund` is the one its answer came from. -/
theorem step_refundCreate {call : RefundCall} {paymentIntentId : PaymentIntentId}
    {s' : StripeAccount} {answer : Except AppError StripeRefund}
    (hcall : w.calls.lookup k = some (.refundCreate call paymentIntentId))
    (hans : refundPaymentCreate stripeAccount call paymentIntentId w.stripe = (answer, s')) :
    (ledger.step w (.resume k)).stripe = s' := by
  show (w.exec stripeAccount (.resume k)).2.stripe = s'
  rw [World.exec_resume hcall]
  simp only [World.resumeCall, hans]
  cases answer <;> rfl

theorem World.RefundsKnown.calls_step (h : w.RefundsKnown) (hl : w.Linked) (hc : w.Honest a)
    {call : InFlight} (hcall : (ledger.step w a).calls.lookup k = some call) :
    (ledger.step w a).RefundCallLinked call := by
  -- an intent that is kept for a refund stays the order's
  have hkept : ∀ orderId paymentId paymentIntentId, (w.Owns orderId paymentId ∧
      ∃ i, w.stripe.intents.lookup paymentIntentId = some i ∧ i.metadata.orderId = some orderId) →
      (ledger.step w a).Owns orderId paymentId ∧
        ∃ i, (ledger.step w a).stripe.intents.lookup paymentIntentId = some i ∧
          i.metadata.orderId = some orderId := by
    rintro orderId paymentId paymentIntentId ⟨howns, i, hi, horder⟩
    obtain ⟨i', hi', hmeta, -⟩ := hl.intent_of (step_intents hc) hi
    exact ⟨howns.step, i', hi', hmeta ▸ horder⟩
  cases step_calls hcall with
  | kept hcall =>
    have hlinked := h.calls _ _ hcall
    cases call with
    | refundRequest call paymentIntentId => exact hkept _ _ _ hlinked
    | refundCreate call paymentIntentId => exact hkept _ _ _ hlinked
    | refundApply call refund => exact World.Told.step hlinked h
    | _ => trivial
  | confirmStarted ho hp ha => trivial
  | confirmRetrieved hlookup hans => trivial
  | cashStarted ho htarget => trivial
  | cardStarted ho htarget =>
    obtain ⟨p, hp, -, -, -, rfl, hcard⟩ := refundPaymentTarget_ok htarget
    rcases hcard with ⟨-, hnone⟩ | ⟨-, attempt, hmem, -, hid⟩
    · cases hnone
    · cases hid
      rcases OrderRecord.payment_or_new hp with hp | hnew
      · obtain ⟨i, hi, horder, -⟩ := (hl.attempts _ _ _ _ ho hp hmem).intent
        exact hkept _ _ _ ⟨h.payments _ _ _ ho hp, i, hi, horder⟩
      · rw [hnew.attempts_eq] at hmem
        cases hmem
  | requested hlookup => exact hkept _ _ _ (h.calls _ _ hlookup)
  | @answered _ call paymentIntentId refund s' hlookup hans =>
    obtain ⟨hkey, -⟩ := StripeAccount.createRefund_ok
      (show w.stripe.createRefund _ = (.ok refund, s') from hans)
    exact h.answers_step (by rw [step_refundCreate hlookup hans]; exact hkey)
  | refused hlookup => trivial

theorem World.RefundsKnown.step (h : w.RefundsKnown) (hl : w.Linked) (hc : w.Honest a) :
    (ledger.step w a).RefundsKnown where
  payments := h.payments.step
  refunds _ _ hr := h.refunds_step hl hc hr
  answers _ _ hk := h.answers_step hk
  emitted _ _ he := h.emitted_step he
  recorded _ _ _ _ ho hp hid := h.recorded_step hc ho hp hid
  calls _ _ hcall := h.calls_step hl hc hcall

theorem refundsKnown_init : (World.init StripeAccount.empty).RefundsKnown where
  payments := fun _ _ _ h => by cases h
  refunds := fun _ _ h => by cases h
  answers := fun _ _ h => by cases h
  emitted := fun _ _ h => by cases h
  recorded := fun _ _ _ _ h => by cases h
  calls := fun _ _ h => by cases h

/-- **In every honest run the refunds at Stripe belong to the payments they name.** -/
theorem refundsKnown_run {as : List (Action StripeMove)}
    (h : ledger.Meets World.Honest (World.init .empty) as) :
    (ledger.run (World.init .empty) as).Linked ∧ (ledger.run (World.init .empty) as).RefundsKnown :=
  Machine.run_invariant (I := fun w : World StripeAccount => w.Linked ∧ w.RefundsKnown)
    (fun _ _ hw hc => ⟨hw.1.step hc, hw.2.step hw.1 hc⟩) ⟨linked_init, refundsKnown_init⟩ h

end

end LedgerLight
