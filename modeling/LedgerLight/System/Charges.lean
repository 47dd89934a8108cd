import LedgerLight.System.Outside
import LedgerLight.System.Refunds
import LedgerLight.System.Seen

/-!
# What Stripe is asked to collect

A client that keeps the arguments of every `createPaymentIntent`, over any other one. A card payment
asks for the amount of the order's payment, also if its transaction is rolled back afterwards; no
other step asks for anything.

* `step_created` : the requests after a step.
* `chargesKnown_run` : a request has the amount of its payment, as long as that is there.
-/

namespace LedgerLight

open Infra Prog

/-- Stripe's state, and the calls of `createPaymentIntent` with their answers, newest first. -/
structure StripeLog (S : Type) where
  stripe : S
  created : List (CreatePaymentIntentArgs × Except AppError StripePaymentIntent)

section

variable {S M : Type}

/-- The client that keeps the calls. -/
def StripeService.logged (stripe : StripeService S M) : StripeService (StripeLog S) M where
  move m l := { l with stripe := stripe.move m l.stripe }
  createPaymentIntent args l :=
    let answer := stripe.createPaymentIntent args l.stripe
    (answer.1, { stripe := answer.2, created := (args, answer.1) :: l.created })
  retrievePaymentIntent id l :=
    let answer := stripe.retrievePaymentIntent id l.stripe
    (answer.1, { l with stripe := answer.2 })
  cancelPaymentIntent id l :=
    let answer := stripe.cancelPaymentIntent id l.stripe
    (answer.1, { l with stripe := answer.2 })
  createRefund args l :=
    let answer := stripe.createRefund args l.stripe
    (answer.1, { l with stripe := answer.2 })

/-- The services see the client that is logged. -/
def StripeService.unlogged (stripe : StripeService S M) : StripeView stripe.logged stripe where
  see := StripeLog.stripe
  move _ _ := rfl
  createPaymentIntent _ _ := rfl
  retrievePaymentIntent _ _ := rfl
  cancelPaymentIntent _ _ := rfl
  createRefund _ _ := rfl

end

section

variable {S M : Type} {stripe : StripeService S M} {env : Env} {org : CurrentOrg} {orderId : Id}
  {auditContext : AuditContext}

/-! ## One call -/

/-- A card payment does nothing at Stripe, or it asks for the amount of the order's payment. -/
theorem initiateCardPayment_asks (stripe : StripeService S M) (db : Database) (s : S) :
    ((initiateCardPayment stripe env org orderId auditContext).run db s).2 = s ∨
      ∃ o p, db.order? orderId = some o ∧ o.paymentOrLegacy env = some p ∧
        ((initiateCardPayment stripe env org orderId auditContext).run db s).2 =
          (stripe.createPaymentIntent
            (cardPaymentArgs orderId o.organizationId (env.uuid 1) p.toPayment) s).2 := by
  refine Quiet.bind_run_snd (P := fun t => t = s ∨ ∃ o p, db.order? orderId = some o ∧
    o.paymentOrLegacy env = some p ∧ t = (stripe.createPaymentIntent
      (cardPaymentArgs orderId o.organizationId (env.uuid 1) p.toPayment) s).2)
    orderAndPaymentTx_quiet (Or.inl rfl) fun read db' hread => ?_
  obtain ⟨o, payment⟩ := read
  obtain ⟨ho, -, hp, -, -⟩ := orderAndPaymentTx_ok hread
  cases payment with
  | none => exact Or.inl rfl
  | some p =>
    -- from here on there is one call, with this payment
    dsimp only
    refine (CallsOnce.run_snd (f := Database.receipts) (R := fun t t' => t' =
      (stripe.createPaymentIntent (cardPaymentArgs orderId o.organizationId (env.uuid 1)
        p.toPayment) t).2) ?_ db' s).imp_right fun hasked => ⟨o, p, ho, hp.symm, hasked⟩
    refine Quiet.bind_callsOnce quiet_require fun _ => ?_
    refine Quiet.bind_callsOnce quiet_ofExcept fun _ => ?_
    split
    · trivial
    · refine CallsOnce.bind (callsOnce_invoke fun s => rfl) fun paymentIntent => ?_
      split
      · trivial
      · refine Quiet.bind paymentWrite_quiet fun _ => Quiet.bind paymentUpdate_quiet fun _ => ?_
        exact Quiet.bind writePaymentAuditLogTx_quiet fun _ => trivial

/-! ## One step -/

/-- The requests after a step. -/
inductive ChargeStep (w : World (StripeLog S)) : Action M → StripeLog S → Prop
  | same {a log} (h : log.created = w.stripe.created) : ChargeStep w a log
  | asked {org orderId auditContext log o p} (ho : w.db.order? orderId = some o)
      (hp : o.paymentOrLegacy w.env = some p) (answer : Except AppError StripePaymentIntent)
      (h : log.created =
        (cardPaymentArgs orderId o.organizationId (w.env.uuid 1) p.toPayment, answer) ::
          w.stripe.created) :
      ChargeStep w (.initiateCardPayment org orderId auditContext) log

theorem cancelOrRetrieve_created (paymentIntentId : PaymentIntentId) (log : StripeLog S) :
    (stripe.logged.cancelOrRetrieve paymentIntentId log).2.created = log.created := by
  unfold StripeService.cancelOrRetrieve
  dsimp only [StripeService.logged]
  rcases stripe.cancelPaymentIntent paymentIntentId log.stripe with ⟨_ | _, _⟩ <;> rfl

/-- **A step asks for one payment at most**, in the amount of the order's payment. -/
theorem step_created (stripe : StripeService S M) (w : World (StripeLog S)) (a : Action M) :
    ChargeStep w a ((system stripe.logged).step w a).stripe := by
  have hs := step_stripe stripe.logged w a
  generalize hlog : ((system stripe.logged).step w a).stripe = log at hs ⊢
  cases hs with
  | same => exact .same rfl
  | @created org orderId auditContext organizationId payment =>
    rw [← hlog]
    show ChargeStep w _ (World.reveal (w.transact (initiateCardPayment stripe.logged w.env org
      orderId auditContext))).2.stripe
    rw [(World.reveal_db _).2, transact_stripe]
    rcases initiateCardPayment_asks stripe.logged w.db w.stripe with
      hsame | ⟨o, p, ho, hp, hasked⟩
    · rw [hsame]
      exact .same rfl
    · rw [hasked]
      exact .asked ho hp _ rfl
  | cancelled paymentIntentId => exact .same (cancelOrRetrieve_created paymentIntentId _)
  | retrieved hcall => exact .same rfl
  | refundCreated hcall => exact .same rfl
  | moved => exact .same rfl

/-! ## Runs -/

/-- The requests fit the payments: each has its own key, and the amount of its payment. -/
structure World.ChargesKnown (w : World (StripeLog S)) : Prop where
  payments : w.PaymentsOwned
  old : ∀ c ∈ w.stripe.created, ∃ paymentId attemptId,
    c.1.metadata.paymentId = some paymentId ∧ paymentId.step < w.steps ∧
      c.1.idempotencyKey = (paymentId, attemptId) ∧ attemptId.step < w.steps
  keys : (w.stripe.created.map fun c => c.1.idempotencyKey).Nodup
  amounts : ∀ c ∈ w.stripe.created, ∀ k o p, w.db.order? k = some o → o.payment = some p →
    c.1.metadata.paymentId = some p.id → c.1.amountCents = p.amountCents ∧
      c.1.currencyCode = p.currencyCode ∧ c.1.metadata.orderId = some k

/-- What was collected for stays. -/
theorem PaymentChange.amountCents {w : World S} {a : Action M} {k : Id}
    {p q : PaymentWithAttempts} (hc : PaymentChange stripe w k a p q) :
    q.amountCents = p.amountCents ∧ q.currencyCode = p.currencyCode := by
  cases hc with
  | synced y hsync hid =>
    obtain ⟨u, hu⟩ := syncedPayment_toPayment w.env y.payment y.attempt y.paymentIntent
    exact ⟨syncedPayment_amountCents .., by rw [hu]; rfl⟩
  | refundSynced y hsync hid =>
    obtain ⟨u, hu⟩ := refundSynced_toPayment w.env y.payment y.refund
    exact ⟨refundSynced_amountCents .., by rw [hu]; rfl⟩
  | _ => exact ⟨rfl, rfl⟩

/-- A payment after a step is one of before, with its amount, or it has an id of this step. -/
theorem step_payment_amount {w : World S} {a : Action M} {k : Id} {o : OrderRecord}
    {q : PaymentWithAttempts} (ho : ((system stripe).step w a).db.order? k = some o)
    (hq : o.payment = some q) :
    (∃ o₀ p, w.db.order? k = some o₀ ∧ o₀.payment = some p ∧ q.id = p.id ∧
      q.amountCents = p.amountCents ∧ q.currencyCode = p.currencyCode) ∨ q.id = w.env.uuid 0 := by
  rcases step_order_inv ho with ho₀ | ⟨-, _, _, _, _, _, rfl⟩ | ⟨o₀, rows, ho₀, hc⟩
  · exact Or.inl ⟨o, q, ho₀, hq, rfl, rfl, rfl⟩
  · cases hq
  · obtain ⟨p, hp | hnew, hid, hpc⟩ := hc.payment hq
    · exact Or.inl ⟨o₀, p, ho₀, hp, hid, hpc.amountCents⟩
    · exact Or.inr (hid.trans hnew.id_eq)

section

variable {w : World (StripeLog S)} {a : Action M} {k orderId : Id} {o o' : OrderRecord}
  {p q : PaymentWithAttempts}

theorem World.PaymentsOwned.id_ne (h : w.PaymentsOwned) (ho : w.db.order? k = some o)
    (hp : o.payment = some p) : p.id ≠ w.env.uuid 0 := by
  intro hid
  have hlt := (h k o p ho hp).old
  rw [hid] at hlt
  exact absurd hlt (Nat.lt_irrefl _)

/-- The payment that a request is for has its amount after the step. -/
theorem World.PaymentsOwned.asked {org : CurrentOrg} {auditContext : AuditContext}
    (h : w.PaymentsOwned) (ho : w.db.order? orderId = some o)
    (hp : o.paymentOrLegacy w.env = some p)
    (ho' : ((system stripe.logged).step w
      (.initiateCardPayment org orderId auditContext)).db.order? k = some o')
    (hq : o'.payment = some q) (hid : q.id = p.id) :
    k = orderId ∧ q.amountCents = p.amountCents ∧ q.currencyCode = p.currencyCode := by
  rcases OrderRecord.payment_or_new hp with hold | hnew
  · rcases step_payment_amount ho' hq with ⟨o₀, p₀, ho₀, hp₀, hid₀, hamount⟩ | hid₀
    · obtain rfl := (h _ _ _ ho hold).only k o₀ p₀ ho₀ hp₀ (hid₀.symm.trans hid)
      obtain rfl := Option.some.inj (ho.symm.trans ho₀)
      obtain rfl := Option.some.inj (hold.symm.trans hp₀)
      exact ⟨rfl, hamount⟩
    · exact absurd (hid.symm.trans hid₀) (h.id_ne ho hold)
  · -- the payment is new, so it is the one that the step has made
    have hnone : ∀ o₀, w.db.order? k = some o₀ → o₀.payment ≠ some q := fun o₀ ho₀ hq₀ =>
      h.id_ne ho₀ hq₀ (hid.trans hnew.id_eq)
    cases step_initiateCardPayment stripe.logged w org orderId auditContext with
    | failed hdb hret => exact absurd hq (hnone o' (hdb ▸ ho'))
    | resumed hmine hpay ha hret hput hst =>
      rw [hput.order?] at ho'
      split at ho'
      · next hk =>
        cases ho'
        exact absurd hq (hnone _ (hk ▸ hmine))
      · exact absurd hq (hnone o' ho')
    | created o₁ p₁ paymentIntent clientSecret ho₁ hv hst hp₁ hrefund hpaid hr hans hsecret hret
        hput =>
      rw [hput.order?] at ho'
      split at ho'
      · next hk =>
        obtain rfl := Option.some.inj (ho.symm.trans ho₁)
        obtain rfl := Option.some.inj (hp.symm.trans hp₁)
        cases ho'
        cases hq
        exact ⟨hk, rfl, rfl⟩
      · exact absurd hq (hnone o' ho')

theorem World.ChargesKnown.step (h : w.ChargesKnown) :
    ((system stripe.logged).step w a).ChargesKnown := by
  have hold : ∀ c ∈ w.stripe.created, ∀ k o q,
      ((system stripe.logged).step w a).db.order? k = some o → o.payment = some q →
      c.1.metadata.paymentId = some q.id → c.1.amountCents = q.amountCents ∧
        c.1.currencyCode = q.currencyCode ∧ c.1.metadata.orderId = some k := by
    intro c hc k o q ho hq hid
    rcases step_payment_amount ho hq with ⟨o₀, p, ho₀, hp, hidp, hamount, hcode⟩ | hnew
    · rw [hamount, hcode]
      exact h.amounts c hc k o₀ p ho₀ hp (hidp ▸ hid)
    · obtain ⟨paymentId, attemptId, hpay, hlt, -⟩ := h.old c hc
      rw [hpay, hnew, Option.some.injEq] at hid
      rw [hid] at hlt
      exact absurd hlt (Nat.lt_irrefl _)
  have hearlier : ∀ c ∈ w.stripe.created, ∃ paymentId attemptId,
      c.1.metadata.paymentId = some paymentId ∧
        paymentId.step < ((system stripe.logged).step w a).steps ∧
        c.1.idempotencyKey = (paymentId, attemptId) ∧
        attemptId.step < ((system stripe.logged).step w a).steps := by
    intro c hc
    obtain ⟨paymentId, attemptId, hpay, hlt, hkey, hlt'⟩ := h.old c hc
    rw [step_steps]
    exact ⟨paymentId, attemptId, hpay, Nat.lt_succ_of_lt hlt, hkey, Nat.lt_succ_of_lt hlt'⟩
  have hs := step_created stripe w a
  generalize hlog : ((system stripe.logged).step w a).stripe = log at hs
  cases hs with
  | same hcreated =>
    refine ⟨h.payments.step, ?_, ?_, ?_⟩
    all_goals rw [hlog, hcreated]
    · exact hearlier
    · exact h.keys
    · exact hold
  | @asked org orderId auditContext log o p ho hp answer hcreated =>
    refine ⟨h.payments.step, ?_, ?_, ?_⟩
    all_goals rw [hlog, hcreated]
    · intro c hc
      rcases List.mem_cons.mp hc with rfl | hc
      · refine ⟨p.id, w.env.uuid 1, rfl, ?_, rfl, ?_⟩
        · rw [step_steps]
          rcases OrderRecord.payment_or_new hp with hmine | hnew
          · exact Nat.lt_succ_of_lt (h.payments _ _ _ ho hmine).old
          · rw [hnew.id_eq]
            exact Nat.lt_succ_self _
        · rw [step_steps]
          exact Nat.lt_succ_self _
      · exact hearlier c hc
    · rw [List.map_cons, List.nodup_cons]
      refine ⟨fun hmem => ?_, h.keys⟩
      obtain ⟨c, hc, hkey⟩ := List.mem_map.mp hmem
      obtain ⟨paymentId, attemptId, -, -, hkey', hlt⟩ := h.old c hc
      rw [hkey'] at hkey
      obtain rfl : attemptId = w.env.uuid 1 := (Prod.ext_iff.mp hkey).2
      exact absurd hlt (Nat.lt_irrefl _)
    · intro c hc k o' q ho' hq hid
      rcases List.mem_cons.mp hc with rfl | hc
      · obtain ⟨rfl, hamount, hcode⟩ := h.payments.asked ho hp ho' hq (Option.some.inj hid).symm
        exact ⟨hamount.symm, hcode.symm, rfl⟩
      · exact hold c hc k o' q ho' hq hid

end

/-- **In every run a request has the amount of its payment**, as long as the payment is there. -/
theorem chargesKnown_run (stripe : StripeService S M) (s : S) (as : List (Action M)) :
    ((system stripe.logged).run (World.init { stripe := s, created := [] }) as).ChargesKnown := by
  refine Machine.run_invariant' (fun _ _ hw => hw.step) ?_ as
  exact {
    payments := fun _ _ _ h => by cases h
    old := fun _ h => by cases h
    keys := List.nodup_nil
    amounts := fun _ h => by cases h }

end

end LedgerLight
