import LedgerLight.Properties.Amounts
import LedgerLight.Properties.PaidRefundable
import LedgerLight.System.Charges

/-!
# Orders are paid in full

A payment that was made by card is paid because an intent succeeded that was created for it, and the
amount Stripe was asked to collect with that intent is the total of the order.

* `charges_agree` : every request to Stripe has the total of its order, as long as its payment is
  there, and no two requests share an idempotency key.
* `paid_in_full` : for an order that is paid by card, Stripe has collected its total.
-/

namespace LedgerLight

open Infra

/-! ## Intents and the payments they were created for -/

/-- The intent was created for the payment. -/
def World.MadeFor (w : World StripeAccount) (paymentId : Id) (id : PaymentIntentId) : Prop :=
  ∃ i, w.stripe.intents.lookup id = some i ∧ i.metadata.paymentId = some paymentId

/-- An intent that was created for the payment has succeeded. -/
def World.Collected (w : World StripeAccount) (paymentId : Id) : Prop :=
  ∃ id i, w.stripe.intents.lookup id = some i ∧ i.metadata.paymentId = some paymentId ∧
    i.status = .succeeded

/-- A confirmation in flight has an intent of its payment. -/
def World.CallFunded (w : World StripeAccount) : InFlight → Prop
  | .confirmRetrieve _ paymentId attempt _ => w.MadeFor paymentId attempt.stripePaymentIntentId
  | .confirmApply _ paymentId _ paymentIntent _ => w.MadeFor paymentId paymentIntent.id
  | _ => True

/-- The attempts of a payment have intents that were created for it, and if one of them succeeded,
so has such an intent. -/
structure World.Funded (w : World StripeAccount) : Prop where
  attempts : ∀ k o p, w.db.order? k = some o → o.payment = some p → ∀ a ∈ p.attempts,
    w.MadeFor p.id a.stripePaymentIntentId
  succeeded : ∀ k o p, w.db.order? k = some o → o.payment = some p →
    (∃ a ∈ p.attempts, a.status = .succeeded) → w.Collected p.id
  calls : ∀ k call, w.calls.lookup k = some call → w.CallFunded call

section

variable {S M : Type} {stripe : StripeService S M} {w : World S} {a : Action M} {k : Id}
  {p q : PaymentWithAttempts}

theorem mapPaymentIntentState_succeeded {now : Date} {paymentIntent : StripePaymentIntent}
    {p : Payment} (h : (mapPaymentIntentState now paymentIntent p).attemptStatus = .succeeded) :
    paymentIntent.status = .succeeded := by
  unfold mapPaymentIntentState at h
  cases hstatus : paymentIntent.status <;> simp_all

/-- An attempt after a step points at the intent of one of before, unless the step started it. -/
theorem PaymentChange.attempt (hc : PaymentChange stripe w k a p q) {b : PaymentAttempt}
    (hb : b ∈ q.attempts) :
    (∃ c ∈ p.attempts, b.stripePaymentIntentId = c.stripePaymentIntentId) ∨
      ∃ org auditContext, a = .initiateCardPayment org k auditContext := by
  cases hc with
  | attemptStarted hrefund hpaid ha => exact Or.inr ha
  | synced y hsync hid =>
    obtain ⟨c, hmem, hsame⟩ := mem_syncedPayment_attempts hb
    exact Or.inl ⟨c, hmem, hsame.stripePaymentIntentId⟩
  | refundSynced y hsync hid =>
    rw [refundSynced_attempts] at hb
    exact Or.inl ⟨b, hb, rfl⟩
  | _ => exact Or.inl ⟨b, hb, rfl⟩

/-- An attempt that succeeded had succeeded before, or the payment was told of a success. -/
theorem PaymentChange.succeeded (hc : PaymentChange stripe w k a p q)
    (h : ∃ b ∈ q.attempts, b.status = .succeeded) :
    (∃ b ∈ p.attempts, b.status = .succeeded) ∨
      ∃ y, w.intentSync? stripe a = some y ∧ y.payment = p ∧
        y.paymentIntent.status = .succeeded := by
  cases hc with
  | attemptStarted hrefund hpaid ha =>
    obtain ⟨b, hb, hs⟩ := h
    rcases List.mem_cons.mp hb with rfl | hb
    · cases hs
    · exact Or.inl ⟨b, hb, hs⟩
  | synced y hsync hid =>
    obtain ⟨b, hb, hs⟩ := h
    rw [syncedPayment_attempts] at hb
    dsimp only at hb
    split at hb
    · obtain ⟨c, hmem, rfl⟩ := List.mem_map.mp hb
      split at hs
      · exact Or.inr ⟨y, hsync, rfl, mapPaymentIntentState_succeeded hs⟩
      · exact Or.inl ⟨c, hmem, hs⟩
    · exact Or.inl ⟨b, hb, hs⟩
  | refundSynced y hsync hid =>
    rw [refundSynced_attempts] at h
    exact Or.inl h
  | _ => exact Or.inl h

end

section

variable {w : World StripeAccount} {a : Action StripeMove} {k paymentId : Id}

theorem World.MadeFor.step {id : PaymentIntentId} (hm : w.MadeFor paymentId id) (h : w.Linked)
    (hc : w.Honest a) : (ledger.step w a).MadeFor paymentId id := by
  obtain ⟨i, hi, hpay⟩ := hm
  obtain ⟨i', hi', hmeta, -⟩ := h.intent_of (step_intents hc) hi
  exact ⟨i', hi', hmeta ▸ hpay⟩

theorem World.Collected.step (hm : w.Collected paymentId) (h : w.Linked) (hc : w.Honest a) :
    (ledger.step w a).Collected paymentId := by
  obtain ⟨id, i, hi, hpay, hs⟩ := hm
  exact ⟨id, i, h.succeeded_stays hc hi hs, hpay, hs⟩

/-- A payment is only told of intents that were created for it. -/
theorem World.Funded.sync (hf : w.Funded) (h : w.Linked) (hc : w.Honest a) {y : IntentSync}
    (hsync : w.intentSync? stripeAccount a = some y) :
    w.MadeFor y.payment.id y.paymentIntent.id := by
  cases intentSync?_from hsync with
  | cancelled ho hp hs hr hans =>
    have hmem := List.mem_of_mem_head? (getReusableAttempt_eq_some.mp hr).1
    have hmade := hf.attempts _ _ _ ho hp _ hmem
    rcases w.stripe.cancelOrRetrieve_cases y.attempt.stripePaymentIntentId with
      ⟨e, he⟩ | ⟨i, hi, he⟩ | ⟨i, hi, hfinal, he⟩
    all_goals rw [he] at hans
    · cases hans
    · rw [← Except.ok.inj hans]
      exact hmade
    · rw [← Except.ok.inj hans]
      exact hmade
  | @confirmed callId paymentId attemptId auditContext ho hp hcall hfresh =>
    have hconfirm : w.confirmSync? y.orderId paymentId attemptId y.paymentIntent = some y := by
      simpa only [World.intentSync?, hcall] using hsync
    obtain ⟨o, ho', hpay⟩ := Option.bind_eq_some_iff.mp hconfirm
    obtain ⟨p, hp', hy⟩ := Option.bind_eq_some_iff.mp hpay
    obtain ⟨attempt, -, hy⟩ := Option.map_eq_some_iff.mp hy
    obtain rfl : p = y.payment := congrArg IntentSync.payment hy
    rw [(OrderRecord.payment?_eq_some.mp hp').2]
    exact hf.calls _ _ hcall
  | @received event eventType attempt ho hp ha htest hfresh =>
    obtain ⟨i, hi, hmeta, -⟩ := StripeAccount.had_iff.mp hc
    obtain ⟨j, hj, -, hattempt⟩ := (h.attempts _ _ _ _ ho hp ha).intent
    have hid : y.paymentIntent.id = attempt.stripePaymentIntentId := by
      rcases Bool.or_eq_true_iff.mp htest with hintent | hmetadata
      · exact (beq_iff_eq.mp hintent).symm
      · rw [beq_iff_eq, hmeta] at hmetadata
        exact h.intents.single _ _ i j hi hj (hmetadata.trans hattempt.symm)
    rw [hid]
    exact hf.attempts _ _ _ ho hp _ ha

theorem World.Funded.calls_step (hf : w.Funded) (h : w.Linked) (hc : w.Honest a)
    {call : InFlight} (hcall : (ledger.step w a).calls.lookup k = some call) :
    (ledger.step w a).CallFunded call := by
  have hmade : ∀ {paymentId id}, w.MadeFor paymentId id →
      (ledger.step w a).MadeFor paymentId id := fun hm => hm.step h hc
  cases step_calls hcall with
  | kept hold =>
    have hfunded := hf.calls _ _ hold
    cases call with
    | confirmRetrieve orderId paymentId attempt auditContext => exact hmade hfunded
    | confirmApply orderId paymentId attemptId paymentIntent auditContext => exact hmade hfunded
    | _ => trivial
  | confirmStarted ho hp ha =>
    rcases OrderRecord.payment_or_new hp with hp | hnew
    · exact hmade (hf.attempts _ _ _ ho hp _ (List.mem_of_mem_head? ha))
    · rw [hnew.attempts_eq] at ha
      cases ha
  | confirmRetrieved hlookup hans =>
    obtain ⟨i, hi, rfl⟩ := retrievePaymentIntent_ok hans
    exact hmade (hf.calls _ _ hlookup)
  | cashStarted ho htarget => trivial
  | cardStarted ho htarget => trivial
  | requested hold => trivial
  | answered hold hans => trivial
  | refused hold => trivial

theorem World.Funded.attempts_step (hf : w.Funded) (h : w.Linked) (hc : w.Honest a)
    {o' : OrderRecord} {q : PaymentWithAttempts} {b : PaymentAttempt}
    (ho' : (ledger.step w a).db.order? k = some o') (hq : o'.payment = some q)
    (hb : b ∈ q.attempts) : (ledger.step w a).MadeFor q.id b.stripePaymentIntentId := by
  have hold : ∀ o p, w.db.order? k = some o → o.payment = some p → b ∈ p.attempts →
      (ledger.step w a).MadeFor p.id b.stripePaymentIntentId := fun o p ho hp hb =>
    (hf.attempts k o p ho hp b hb).step h hc
  by_cases ha : ∃ org auditContext, a = .initiateCardPayment org k auditContext
  · obtain ⟨org, auditContext, rfl⟩ := ha
    cases step_initiateCardPayment stripeAccount w org k auditContext with
    | failed hdb hret => exact hold o' q (hdb ▸ ho') hq hb
    | resumed ho hp ha hret hput hst =>
      rw [hput.order?, if_pos rfl] at ho'
      cases ho'
      exact hold _ q ho hq hb
    | created o p paymentIntent clientSecret ho hv hst hp hrefund hpaid hr hans hsecret hret
        hput =>
      rw [hput.order?, if_pos rfl] at ho'
      cases ho'
      cases hq
      rcases List.mem_cons.mp hb with rfl | hb
      · -- the new attempt
        obtain ⟨rfl, hacct⟩ := createPaymentIntent_ok hans
        refine ⟨StripeAccount.newIntent (cardPaymentArgs k o.organizationId (w.env.uuid 1)
          p.toPayment), ?_, rfl⟩
        rw [hacct]
        exact AList.lookup_insert _
      · rcases OrderRecord.payment_or_new hp with hp | hnew
        · exact hold o p ho hp hb
        · rw [hnew.attempts_eq] at hb
          cases hb
  · rcases step_order_inv ho' with ho | ⟨-, _, _, _, _, _, rfl⟩ | ⟨o, rows, ho, hch⟩
    · exact hold o' q ho hq hb
    · cases hq
    · obtain ⟨p, hp, hid, hpc⟩ := hch.payment hq
      rcases hpc.attempt hb with ⟨c, hmem, hsame⟩ | hstarted
      · rw [hid, hsame]
        rcases hp with hp | hnew
        · exact (hf.attempts k o p ho hp c hmem).step h hc
        · rw [hnew.attempts_eq] at hmem
          cases hmem
      · exact absurd hstarted ha

theorem World.Funded.succeeded_step (hf : w.Funded) (h : w.Linked) (hc : w.Honest a)
    {o' : OrderRecord} {q : PaymentWithAttempts} (ho' : (ledger.step w a).db.order? k = some o')
    (hq : o'.payment = some q) (hs : ∃ b ∈ q.attempts, b.status = .succeeded) :
    (ledger.step w a).Collected q.id := by
  rcases step_order_inv ho' with ho | ⟨-, _, _, _, _, _, rfl⟩ | ⟨o, rows, ho, hch⟩
  · exact (hf.succeeded k o' q ho hq hs).step h hc
  · cases hq
  · obtain ⟨p, hp, hid, hpc⟩ := hch.payment hq
    rw [hid]
    rcases hpc.succeeded hs with hbefore | ⟨y, hsync, rfl, hpaid⟩
    · rcases hp with hp | hnew
      · exact (hf.succeeded k o p ho hp hbefore).step h hc
      · obtain ⟨b, hb, -⟩ := hbefore
        rw [hnew.attempts_eq] at hb
        cases hb
    · -- the payment was told of a success, and the intent was created for it
      obtain ⟨i, hi, hpay⟩ := hf.sync h hc hsync
      obtain ⟨j, hj, hsucceeded, -⟩ := h.sync hc hsync hpaid
      obtain rfl := Option.some.inj (hi.symm.trans hj)
      exact World.Collected.step ⟨_, i, hi, hpay, hsucceeded⟩ h hc

/-- In every honest run a success of an attempt is one of an intent of its payment. -/
theorem funded_run {as : List (Action StripeMove)}
    (h : ledger.Meets World.Honest (World.init .empty) as) :
    (ledger.run (World.init .empty) as).Funded := by
  refine (Machine.run_invariant (I := fun w : World StripeAccount => w.Linked ∧ w.Funded)
    (fun w a hw hc => ⟨hw.1.step hc, ?_⟩) ⟨linked_init, ?_⟩ h).2
  · exact {
      attempts := fun _ _ _ ho hp _ hb => hw.2.attempts_step hw.1 hc ho hp hb
      succeeded := fun _ _ _ ho hp hs => hw.2.succeeded_step hw.1 hc ho hp hs
      calls := fun _ _ hcall => hw.2.calls_step hw.1 hc hcall }
  · exact {
      attempts := fun _ _ _ h => by cases h
      succeeded := fun _ _ _ h => by cases h
      calls := fun _ _ h => by cases h }

end

/-! ## Intents and the requests they were created by -/

/-- The service over an account, with a log of the requests. -/
abbrev till : Machine (World (StripeLog StripeAccount)) (Action StripeMove) :=
  system stripeAccount.logged

/-- Every intent is the answer to a request, and has its metadata. -/
def StripeLog.Complete (log : StripeLog StripeAccount) : Prop :=
  ∀ id i, log.stripe.intents.lookup id = some i →
    ∃ c ∈ log.created, (∃ paymentIntent, c.2 = .ok paymentIntent ∧ paymentIntent.id = id) ∧
      i.metadata = c.1.metadata

namespace StripeLog.Complete

variable {log : StripeLog StripeAccount} {acct : StripeAccount}

/-- The intents stay, or change their status. -/
theorem kept (h : log.Complete) (hkept : ∀ id i', acct.intents.lookup id = some i' →
    ∃ i, log.stripe.intents.lookup id = some i ∧ i'.metadata = i.metadata) :
    Complete { log with stripe := acct } := by
  intro id i' hi'
  obtain ⟨i, hi, hmeta⟩ := hkept id i' hi'
  obtain ⟨c, hc, hid, hmeta'⟩ := h id i hi
  exact ⟨c, hc, hid, hmeta.trans hmeta'⟩

theorem kept_of_eq (h : log.Complete) (hsame : acct.intents = log.stripe.intents) :
    Complete { log with stripe := acct } :=
  h.kept fun _ i' hi' => ⟨i', hsame ▸ hi', rfl⟩

theorem created (h : log.Complete) (args : CreatePaymentIntentArgs) :
    (stripeAccount.logged.createPaymentIntent args log).2.Complete := by
  have hmore : ∀ {c : CreatePaymentIntentArgs × Except AppError StripePaymentIntent} {answer},
      c ∈ log.created → c ∈ (args, answer) :: log.created := fun hc => List.mem_cons_of_mem _ hc
  intro id i' hi'
  dsimp only [StripeService.logged, stripeAccount] at hi' ⊢
  rcases log.stripe.createPaymentIntent_cases args with ⟨e, he⟩ | he
  all_goals rw [he] at hi' ⊢
  · obtain ⟨c, hc, hrest⟩ := h id i' hi'
    exact ⟨c, hmore hc, hrest⟩
  · rw [StripeAccount.lookup_setIntent] at hi'
    split at hi'
    · next hid =>
      cases hi'
      exact ⟨_, List.mem_cons_self, ⟨_, rfl, hid.symm⟩, rfl⟩
    · obtain ⟨c, hc, hrest⟩ := h id i' hi'
      exact ⟨c, hmore hc, hrest⟩

theorem setIntent {id : PaymentIntentId} {i : StripeIntent} {status : PaymentIntentStatus}
    (h : log.Complete) (hi : log.stripe.intents.lookup id = some i) :
    Complete { log with stripe := log.stripe.setIntent id (i.become status) } := by
  refine h.kept fun id' i' hi' => ?_
  rw [StripeAccount.lookup_setIntent] at hi'
  split at hi'
  · next hid =>
    cases hi'
    exact ⟨i, hid ▸ hi, rfl⟩
  · exact ⟨i', hi', rfl⟩

theorem cancelled (h : log.Complete) (id : PaymentIntentId) :
    (stripeAccount.logged.cancelOrRetrieve id log).2.Complete := by
  have hlog : (stripeAccount.logged.cancelOrRetrieve id log).2 =
      { log with stripe := (stripeAccount.cancelOrRetrieve id log.stripe).2 } := by
    unfold StripeService.cancelOrRetrieve
    dsimp only [StripeService.logged]
    rcases stripeAccount.cancelPaymentIntent id log.stripe with ⟨_ | _, _⟩ <;> rfl
  rw [hlog]
  rcases log.stripe.cancelOrRetrieve_cases id with ⟨e, he⟩ | ⟨i, hi, he⟩ | ⟨i, hi, hf, he⟩
  all_goals rw [he]
  · exact h
  · exact h
  · exact h.setIntent hi

theorem moved (h : log.Complete) (m : StripeMove) :
    (stripeAccount.logged.move m log).Complete := by
  cases m with
  | plan plan => exact h
  | intentStatus id status =>
    show Complete { log with stripe := log.stripe.move (.intentStatus id status) }
    simp only [StripeAccount.move]
    split
    · exact h
    · next i hi =>
      split
      · exact h
      · exact h.setIntent hi
  | refundStatus id status =>
    show Complete { log with stripe := log.stripe.move (.refundStatus id status) }
    refine h.kept_of_eq ?_
    simp only [StripeAccount.move]
    split
    · rfl
    · split <;> rfl

end StripeLog.Complete

theorem complete_step {w : World (StripeLog StripeAccount)} {a : Action StripeMove}
    (h : w.stripe.Complete) : (till.step w a).stripe.Complete := by
  have hs := step_stripe stripeAccount.logged w a
  generalize (till.step w a).stripe = log at hs
  cases hs with
  | same => exact h
  | created organizationId payment => exact h.created _
  | cancelled paymentIntentId => exact h.cancelled paymentIntentId
  | @retrieved callId orderId paymentId attempt auditContext hcall =>
    refine h.kept_of_eq ?_
    rcases w.stripe.stripe.retrievePaymentIntent_cases attempt.stripePaymentIntentId with
      ⟨e, he⟩ | ⟨i, hi, he⟩
    all_goals
      rw [show stripeAccount.retrievePaymentIntent _ w.stripe.stripe =
        w.stripe.stripe.retrievePaymentIntent _ from rfl, he]
  | refundCreated hcall => exact h.kept_of_eq (StripeAccount.createRefund_intents ..).1
  | moved => exact h.moved _

/-! ## Runs -/

section

variable {S M : Type}

/-- Every request has the total of the order whose payment it was made for, as long as that payment
is there, and no two requests share an idempotency key. -/
structure World.ChargesAgree (w : World (StripeLog S)) : Prop where
  totals : ∀ c ∈ w.stripe.created, ∀ k o p, w.db.order? k = some o → o.payment = some p →
    c.1.metadata.paymentId = some p.id → c.1.amountCents = o.totalCents ∧
      c.1.currencyCode = p.currencyCode ∧ c.1.metadata.orderId = some k
  keys : (w.stripe.created.map fun c => c.1.idempotencyKey).Nodup

theorem chargesAgree_of (w : World (StripeLog S)) (hknown : w.ChargesKnown)
    (hagree : w.Every OrderRecord.AmountsAgree) : w.ChargesAgree := by
  refine ⟨fun c hc k o p ho hp hid => ?_, hknown.keys⟩
  obtain ⟨hamount, hcode, horder⟩ := hknown.amounts c hc k o p ho hp hid
  exact ⟨hamount.trans ((hagree k o ho).payment p hp), hcode, horder⟩

end

/-- The payment was made in cash, or an intent succeeded that Stripe was asked to create for the
order's total. -/
def World.PaidInFull (w : World (StripeLog StripeAccount)) : Prop :=
  ∀ k o p, w.db.order? k = some o → o.payment = some p → p.paymentStatus = .paid →
    p.method = some .cash ∨
      ∃ c ∈ w.stripe.created, c.1.amountCents = o.totalCents ∧ c.1.currencyCode = p.currencyCode ∧
        c.1.metadata.orderId = some k ∧
        ∃ paymentIntent i, c.2 = .ok paymentIntent ∧
          w.stripe.stripe.intents.lookup paymentIntent.id = some i ∧ i.status = .succeeded

end LedgerLight
