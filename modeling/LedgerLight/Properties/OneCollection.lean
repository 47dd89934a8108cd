import LedgerLight.System.Refunds

/-!
# One intent collects for an order

An intent whose client secret is known may succeed at any time, until it succeeded or was cancelled.
Only the newest attempt in progress is ever cancelled at Stripe: a failed one is taken for over,
although its intent waits for another payment method.

* `one_collection` : if no request starts a new attempt, takes cash, deletes, cancels or refunds
  while an earlier intent can still be paid, an order has one intent that is paid or can be, and the
  order of an intent that can be is confirmed and unpaid.
* `collected_twice` : runs in which a retry and a deleted order leave an intent that can be paid.
-/

namespace LedgerLight

open Infra

/-! ## Intents that collect -/

/-- The intent was created for the order, its secret is known, and it can still succeed. -/
def World.Payable (w : World StripeAccount) (orderId : Id) (id : PaymentIntentId) : Prop :=
  ∃ i ∈ w.stripe.intents.lookup id, i.metadata.orderId = some orderId ∧ i.status.final = false ∧
    clientSecretOf id ∈ w.returned

/-- The intent was created for the order and succeeded. -/
def World.Succeeded (w : World StripeAccount) (orderId : Id) (id : PaymentIntentId) : Prop :=
  ∃ i ∈ w.stripe.intents.lookup id, i.metadata.orderId = some orderId ∧ i.status = .succeeded

/-- The intent collected for the order, or can. -/
def World.Collects (w : World StripeAccount) (orderId : Id) (id : PaymentIntentId) : Prop :=
  w.Succeeded orderId id ∨ w.Payable orderId id

instance (w : World StripeAccount) (orderId : Id) (id : PaymentIntentId) :
    Decidable (w.Payable orderId id) :=
  inferInstanceAs (Decidable (∃ i ∈ w.stripe.intents.lookup id, _))

instance (w : World StripeAccount) (orderId : Id) (id : PaymentIntentId) :
    Decidable (w.Succeeded orderId id) :=
  inferInstanceAs (Decidable (∃ i ∈ w.stripe.intents.lookup id, _))

instance (w : World StripeAccount) (orderId : Id) (id : PaymentIntentId) :
    Decidable (w.Collects orderId id) :=
  inferInstanceAs (Decidable (_ ∨ _))

/-! ## Requests that give up on an order's intents -/

namespace World

variable (w : World StripeAccount)

/-- `initiateCardPayment` passes its guards, finds no attempt to resume and reaches Stripe. -/
def StartsAttempt (org : CurrentOrg) (orderId : Id) : Prop :=
  ∃ o ∈ w.db.order? orderId, o.visibleTo org = true ∧ o.status = .confirmed ∧
    w.stripe.plan.unreachable = false ∧ ∃ p ∈ o.paymentOrLegacy w.env,
      (p.refundStatus = .none ∨ p.refundStatus = .failed) ∧ p.paymentStatus ≠ .paid ∧
        getReusableAttempt p = none

/-- `markCashPaid` passes its guards. -/
def TakesCash (org : CurrentOrg) (orderId : Id) : Prop :=
  ∃ o ∈ w.db.order? orderId, o.visibleTo org = true ∧ o.status = .confirmed ∧
    ∃ p ∈ o.paymentOrLegacy w.env, p.refundStatus ≠ .requested ∧ p.refundStatus ≠ .pending ∧
      p.paymentStatus ≠ .paid ∧ p.paymentStatus ≠ .pending

/-- `deleteOrder` finds the order. -/
def Deletes (org : CurrentOrg) (orderId : Id) : Prop :=
  ∃ o ∈ w.db.order? orderId, o.organizationId = org.organizationId ∧ o.accessibleTo org = true

/-- `transitionStatus` cancels a confirmed order: what Stripe answers about the attempt in progress,
if there is one. -/
def cancels? (org : CurrentOrg) (orderId : Id) : Option (Option StripePaymentIntent) :=
  (w.db.order? orderId).bind fun o =>
    if o.visibleTo org = true ∧ o.status = .confirmed then
      (o.paymentOrLegacy w.env).bind fun p =>
        if p.paymentStatus ≠ .paid ∧ (p.refundStatus = .none ∨ p.refundStatus = .failed) then
          match getReusableAttempt p with
          | none => some none
          | some attempt =>
            match (stripeAccount.cancelOrRetrieve attempt.stripePaymentIntentId w.stripe).1 with
            | .ok paymentIntent => some (some paymentIntent)
            | .error _ => none
        else none
    else none

/-- The confirmed order that the last part of a cash refund cancels. -/
def refundsCash? (callId : Id) : Option Id :=
  match w.calls.lookup callId with
  | some (.refundCash call) =>
    (w.db.order? call.orderId).bind fun o =>
      if o.visibleTo call.org = true ∧ o.status = .confirmed then
        (o.payment? call.paymentId).map fun _ => call.orderId
      else none
  | _ => none

/-- A request that starts a new attempt of an order, takes cash for it, deletes it or cancels it
finds no earlier intent of the order that can be paid, and a new attempt none that was. The intent
that Stripe just cancelled for the request does not count. -/
def RetiresIntents : Action StripeMove → Prop
  | .initiateCardPayment org orderId _ =>
    w.StartsAttempt org orderId → ∀ id ∈ w.stripe.intents.keys, ¬ w.Collects orderId id
  | .markCashPaid org orderId _ =>
    w.TakesCash org orderId → ∀ id ∈ w.stripe.intents.keys, ¬ w.Payable orderId id
  | .deleteOrder org orderId =>
    w.Deletes org orderId → ∀ id ∈ w.stripe.intents.keys, ¬ w.Payable orderId id
  | .transitionStatus org orderId .cancelled _ =>
    ∀ answer ∈ w.cancels? org orderId, ∀ id ∈ w.stripe.intents.keys, w.Payable orderId id →
      ∃ paymentIntent ∈ answer, paymentIntent.id = id ∧ paymentIntent.status.final = true
  | .resume callId =>
    ∀ orderId ∈ w.refundsCash? callId, ∀ id ∈ w.stripe.intents.keys, ¬ w.Payable orderId id
  | _ => True

instance (org : CurrentOrg) (orderId : Id) : Decidable (w.StartsAttempt org orderId) :=
  inferInstanceAs (Decidable (∃ o ∈ w.db.order? orderId, _))

instance (org : CurrentOrg) (orderId : Id) : Decidable (w.TakesCash org orderId) :=
  inferInstanceAs (Decidable (∃ o ∈ w.db.order? orderId, _))

instance (org : CurrentOrg) (orderId : Id) : Decidable (w.Deletes org orderId) :=
  inferInstanceAs (Decidable (∃ o ∈ w.db.order? orderId, _))

instance (a : Action StripeMove) : Decidable (w.RetiresIntents a) := by
  unfold RetiresIntents
  obtain ⟨⟩ := a
  case transitionStatus org orderId toStatus auditContext =>
    obtain ⟨⟩ := toStatus <;> infer_instance
  all_goals infer_instance

end World

/-- The order is confirmed, with a payment that is not `PAID`. -/
def OrderRecord.Collecting (o : OrderRecord) : Prop :=
  o.status = .confirmed ∧ ∃ p, o.payment = some p ∧ p.paymentStatus ≠ .paid

/-- At most one intent of an order collects, and the order of an intent that can be paid is
confirmed and unpaid. -/
structure World.OneCollects (w : World StripeAccount) : Prop where
  single : ∀ k id id', w.Collects k id → w.Collects k id' → id = id'
  payable : ∀ k id, w.Payable k id → ∃ o, w.db.order? k = some o ∧ o.Collecting

section

variable {w : World StripeAccount} {a : Action StripeMove} {k : Id} {id : PaymentIntentId}

theorem World.Payable.mem_keys (h : w.Payable k id) : id ∈ w.stripe.intents.keys := by
  obtain ⟨i, hi, -⟩ := h
  exact AList.lookup_isSome.mp (by rw [Option.mem_def.mp hi]; rfl)

theorem World.Collects.mem_keys (h : w.Collects k id) : id ∈ w.stripe.intents.keys := by
  rcases h with ⟨i, hi, -⟩ | hpay
  · exact AList.lookup_isSome.mp (by rw [Option.mem_def.mp hi]; rfl)
  · exact hpay.mem_keys

/-- An intent that can be paid has not succeeded. -/
theorem World.Payable.not_succeeded (h : w.Payable k id) : ¬ w.Succeeded k id := by
  rintro ⟨i, hi, -, hs⟩
  obtain ⟨j, hj, -, hf, -⟩ := h
  obtain rfl := Option.some.inj (hi.symm.trans hj)
  rw [hs] at hf
  cases hf

/-- Once an intent of the order succeeded, none can be paid any more. -/
theorem World.OneCollects.not_payable (h : w.OneCollects) {id' : PaymentIntentId}
    (hs : w.Succeeded k id') : ¬ w.Payable k id := by
  intro hpay
  obtain rfl := h.single k id id' (Or.inr hpay) (Or.inl hs)
  exact hpay.not_succeeded hs

/-! ### What a step does to them -/

/-- A secret that is known after a step was known before, unless the step created its intent. -/
theorem returned_step (hl : w.Linked) (hid : clientSecretOf id ∈ (ledger.step w a).returned) :
    clientSecretOf id ∈ w.returned ∨ id = w.stripe.nextId ∧
      ∃ org orderId auditContext, a = .initiateCardPayment org orderId auditContext ∧
        w.StartsAttempt org orderId ∧
          ∃ o, (ledger.step w a).db.order? orderId = some o ∧ o.Collecting := by
  cases a with
  | initiateCardPayment org orderId auditContext =>
    cases step_initiateCardPayment stripeAccount w org orderId auditContext with
    | failed hdb hret => exact Or.inl (hret ▸ hid)
    | resumed ho hp ha hret hput hs =>
      rw [hret, List.mem_cons] at hid
      rcases hid with heq | hmem
      · exact Or.inl (heq ▸ (hl.attempts _ _ _ _ ho hp ha).returned)
      · exact Or.inl hmem
    | created o p paymentIntent clientSecret ho hv hs hp hrefund hpaid hr hans hsecret hret hput =>
      have hreach : w.stripe.plan.unreachable = false := by
        by_contra hne
        have herr : stripeAccount.createPaymentIntent (cardPaymentArgs orderId o.organizationId
            (w.env.uuid 1) p.toPayment) w.stripe =
            (.error (.stripe "Could not connect to Stripe"), w.stripe) :=
          if_pos (by simpa using hne)
        rw [herr] at hans
        cases hans
      obtain ⟨rfl, -⟩ := createPaymentIntent_ok hans
      cases hsecret
      rw [hret, List.mem_cons] at hid
      rcases hid with heq | hmem
      · obtain rfl := clientSecretOf_injective heq
        refine Or.inr ⟨rfl, org, orderId, auditContext, rfl,
          ⟨o, ho, hv, hs, hreach, p, hp, hrefund, hpaid, hr⟩, _,
          (hput.order? orderId).trans (if_pos rfl), ?_⟩
        exact ⟨hs, _, rfl, by
          show PaymentStatus.pending ≠ .paid
          decide⟩
      · exact Or.inl hmem
  | _ =>
    rw [step_returned (by intro _ _ _ h; cases h)] at hid
    exact Or.inl hid

/-- **An intent that can be paid after a step could be before, or the step started its attempt.** -/
theorem World.Payable.of_step (hl : w.Linked) (hc : w.Honest a)
    (h : (ledger.step w a).Payable k id) :
    w.Payable k id ∨ id = w.stripe.nextId ∧ ∃ org auditContext,
      a = .initiateCardPayment org k auditContext ∧ w.StartsAttempt org k ∧
        ∃ o, (ledger.step w a).db.order? k = some o ∧ o.Collecting := by
  obtain ⟨i', hi', horder, hf, hsecret⟩ := h
  have hfresh : id = w.stripe.nextId → clientSecretOf id ∉ w.returned := fun hid hmem =>
    absurd (hl.intents.secrets id hmem) (hid ▸ Nat.lt_irrefl _)
  rcases (step_intents hc).lookup_inv hi' with
    ⟨i, hi, hnext⟩ | ⟨org, orderId, auditContext, args, rfl, hid, -, rfl, hargs, -⟩
  · left
    have hknown : clientSecretOf id ∈ w.returned := by
      rcases returned_step hl hsecret with hmem | ⟨hid, -⟩
      · exact hmem
      · exact absurd (hl.intents.fresh id i hi) (hid ▸ Nat.lt_irrefl _)
    rcases hnext with rfl | ⟨hf', status, rfl, -⟩
    · exact ⟨_, hi, horder, hf, hknown⟩
    · exact ⟨i, hi, horder, hf', hknown⟩
  · -- the intent of a new attempt
    obtain rfl : orderId = k := Option.some.inj (hargs.symm.trans horder)
    rcases returned_step hl hsecret with hmem | ⟨-, _, _, _, heq, hstarts, hcollecting⟩
    · exact absurd hmem (hfresh hid)
    · cases heq
      exact Or.inr ⟨hid, org, auditContext, rfl, hstarts, hcollecting⟩

/-- **An intent that collects after a step did before, or the step started its attempt.** -/
theorem World.Collects.of_step (hl : w.Linked) (hc : w.Honest a)
    (h : (ledger.step w a).Collects k id) :
    w.Collects k id ∨ id = w.stripe.nextId ∧ ∃ org auditContext,
      a = .initiateCardPayment org k auditContext ∧ w.StartsAttempt org k := by
  rcases h with ⟨i', hi', horder, hs⟩ | hpay
  · rcases (step_intents hc).lookup_inv hi' with
      ⟨i, hi, hnext⟩ | ⟨_, _, _, args, -, -, -, rfl, -, -⟩
    · rcases hnext with rfl | ⟨hf, status, rfl, hsecret⟩
      · exact Or.inl (Or.inl ⟨_, hi, horder, hs⟩)
      · -- it succeeds in this step, so its secret is known
        exact Or.inl (Or.inr ⟨i, hi, horder, hf, hsecret hs⟩)
    · cases hs
  · rcases hpay.of_step hl hc with hold | ⟨hid, org, auditContext, ha, hstarts, -⟩
    · exact Or.inl (Or.inr hold)
    · exact Or.inr ⟨hid, org, auditContext, ha, hstarts⟩

/-! ### Every step keeps it -/

/-- **An order goes on collecting while an earlier intent of it can be paid.** -/
theorem Change.collecting {o o' : OrderRecord} {rows : List (Id × AuditAction)}
    (hc : Change stripeAccount w k a o o' rows (ledger.step w a).stripe)
    (ho : w.db.order? k = some o) (hl : w.Linked) (hr : w.RefundsKnown) (hh : w.Honest a)
    (hretire : w.RetiresIntents a) (h : w.OneCollects) (hcollecting : o.Collecting)
    (hpay : w.Payable k id) (hpay' : (ledger.step w a).Payable k id) : o'.Collecting := by
  obtain ⟨hs, p, hp, hunpaid⟩ := hcollecting
  have hlegacy : o.paymentOrLegacy w.env = some p := OrderRecord.paymentOrLegacy_of_payment hp
  generalize hacct : (ledger.step w a).stripe = acct at hc
  cases hc with
  | itemAdded hpending =>
    rw [hs] at hpending
    cases hpending
  | itemDeleted hi => exact ⟨hs, p, hp, hunpaid⟩
  | metadata => exact ⟨hs, p, hp, hunpaid⟩
  | backfilled =>
    rw [OrderRecord.backfilled_of_payment hp]
    exact ⟨hs, p, hp, hunpaid⟩
  | attemptStarted hconf hlegacy' hrefund hpaid hnone hans hsecret hv =>
    refine ⟨hs, _, rfl, ?_⟩
    show PaymentStatus.pending ≠ .paid
    decide
  | paidInCash hconf hp' hreq hpend hpaid hprogress hv =>
    exact absurd hpay (hretire ⟨o, ho, hv, hconf, _, hp', hreq, hpend, hpaid, hprogress⟩ id
      hpay.mem_keys)
  | refundRequested hcall hid hp' hpid =>
    obtain rfl := Option.some.inj (hp.symm.trans hp')
    exact ⟨hs, _, rfl, hunpaid⟩
  | refundFailed hcall hid hp' hpid =>
    obtain rfl := Option.some.inj (hp.symm.trans hp')
    exact ⟨hs, _, rfl, hunpaid⟩
  | @cashRefunded callId call _ _ hcall hid hp' hpid hv =>
    subst hid
    have hcash : w.refundsCash? callId = some call.orderId := by
      simp [World.refundsCash?, hcall, ho, hv, hs, OrderRecord.payment?_eq_some.mpr ⟨hp', hpid⟩]
    exact absurd hpay (hretire _ hcash id hpay.mem_keys)
  | synced y hsync hid hp' =>
    subst hid
    refine ⟨hs, _, rfl, ?_⟩
    rw [syncedPayment_paymentStatus]
    by_cases hpaid : y.paymentIntent.status = .succeeded
    · -- an intent of the order succeeded, so none can be paid
      obtain ⟨i, hi, hsucc, horder⟩ := hl.sync hh hsync hpaid
      exact absurd hpay (h.not_payable ⟨i, hi, horder, hsucc⟩)
    · unfold mapPaymentIntentState
      cases hstatus : y.paymentIntent.status <;> first | exact absurd hstatus hpaid | simp
  | refundSynced y hsync hid hp' =>
    subst hid
    obtain ⟨id', i, hi, hsucc, horder⟩ := hr.sync hh hsync ho hp'
    exact absurd hpay (h.not_payable ⟨i, hi, horder, hsucc⟩)
  | @transition org toStatus auditContext _ _ _ _ hfound hv ht =>
    cases ht with
    | confirmed hpending => rw [hs] at hpending; cases hpending
    | fulfilled hconf hp' hpaid hrefund =>
      obtain rfl := Option.some.inj (hlegacy.symm.trans hp')
      exact absurd hpaid hunpaid
    | cancelledPending hpending => rw [hs] at hpending; cases hpending
    | cancelledConfirmed hconf hp' hpaid hrefund hnone =>
      -- no attempt is in progress, so nothing is asked of Stripe
      have hcancels : w.cancels? org k = some none := by
        simp [World.cancels?, ho, hv, hconf, hp', hpaid, hrefund, hnone]
      obtain ⟨_, hanswer, -⟩ := hretire _ hcancels id hpay.mem_keys hpay
      cases hanswer
    | @cancelledSynced q attempt paymentIntent _ hconf hp' hpaid hrefund hsome hans =>
      have hlegacy' : o.paymentOrLegacy w.env = some q := OrderRecord.paymentOrLegacy_of_payment hp'
      have hcancels : w.cancels? org k = some (some paymentIntent) := by
        simp [World.cancels?, ho, hv, hconf, hlegacy', hpaid, hrefund, hsome, hans]
      obtain ⟨_, hanswer, hid, hf⟩ := hretire _ hcancels id hpay.mem_keys hpay
      cases hanswer
      -- after Stripe's answer the intent is as the answer says
      obtain ⟨i, hi, -, hopen, -⟩ := hpay'
      obtain ⟨j, hj, rfl⟩ := StripeAccount.cancelOrRetrieve_ok hans
      rw [hacct, ← hid] at hi
      obtain rfl := Option.some.inj (hj.symm.trans hi)
      exact absurd (hf.symm.trans hopen) Bool.noConfusion
    | reopenedUnpaid hcancelled hp' => rw [hs] at hcancelled; cases hcancelled
    | reopened hcancelled hp' hpaid hrefund hans => rw [hs] at hcancelled; cases hcancelled

/-- The order of an intent that could be paid before the step and can be after it. -/
theorem World.OneCollects.payable_step (h : w.OneCollects) (hl : w.Linked) (hr : w.RefundsKnown)
    (hh : w.Honest a) (hretire : w.RetiresIntents a) (hpay : w.Payable k id)
    (hpay' : (ledger.step w a).Payable k id) :
    ∃ o', (ledger.step w a).db.order? k = some o' ∧ o'.Collecting := by
  obtain ⟨o, ho, hcollecting⟩ := h.payable k id hpay
  cases step_effect stripeAccount w a with
  | keep hkeep => exact ⟨o, (hkeep.order? k).trans ho, hcollecting⟩
  | create hfresh hput =>
    have hne : k ≠ w.env.uuid 0 := fun he => by rw [← he, ho] at hfresh; cases hfresh
    exact ⟨o, by rw [hput.order?, if_neg hne, ho], hcollecting⟩
  | @change orderId o₁ o' rows ho₁ hch hput =>
    by_cases hk : k = orderId
    · subst hk
      obtain rfl := Option.some.inj (ho.symm.trans ho₁)
      exact ⟨o', by rw [hput.order?, if_pos rfl],
        hch.collecting ho hl hr hh hretire h hcollecting hpay hpay'⟩
    · exact ⟨o, by rw [hput.order?, if_neg hk, ho], hcollecting⟩
  | @delete org orderId o₁ ha ho₁ hi hacc hrest hrows =>
    subst ha
    by_cases hk : k = orderId
    · subst hk
      obtain rfl := Option.some.inj (ho.symm.trans ho₁)
      exact absurd hpay (hretire ⟨o, ho, hi, hacc⟩ id hpay.mem_keys)
    · exact ⟨o, by rw [hrest, if_neg hk, ho], hcollecting⟩

theorem World.OneCollects.step (h : w.OneCollects) (hl : w.Linked) (hr : w.RefundsKnown)
    (hh : w.Honest a) (hretire : w.RetiresIntents a) : (ledger.step w a).OneCollects := by
  constructor
  case single =>
    intro k id id' hid hid'
    -- a new attempt is only started where nothing collects
    have hnew : ∀ id id', w.Collects k id → (∃ org auditContext,
        a = .initiateCardPayment org k auditContext ∧ w.StartsAttempt org k) → id = id' := by
      rintro id id' hold ⟨org, auditContext, rfl, hstarts⟩
      exact absurd hold (hretire hstarts id hold.mem_keys)
    rcases hid.of_step hl hh with hold | ⟨rfl, hstarts⟩ <;>
      rcases hid'.of_step hl hh with hold' | ⟨rfl, hstarts'⟩
    · exact h.single k id id' hold hold'
    · exact hnew _ _ hold hstarts'
    · exact (hnew _ _ hold' hstarts).symm
    · rfl
  case payable =>
    intro k id hpay'
    rcases hpay'.of_step hl hh with hpay | ⟨-, _, _, -, -, hnew⟩
    · exact h.payable_step hl hr hh hretire hpay hpay'
    · exact hnew

theorem oneCollects_init : (World.init StripeAccount.empty).OneCollects where
  single := by
    rintro k id id' (⟨i, hi, -⟩ | ⟨i, hi, -⟩) - <;> cases hi
  payable := by
    rintro k id ⟨i, hi, -⟩
    cases hi

/-- **One intent collects for an order** in every run in which a request that starts a new attempt,
takes cash, deletes, cancels or refunds finds no earlier intent that can still be paid: at most one
intent of an order succeeded or can be paid, and an intent that can be paid belongs to an order that
is there, `CONFIRMED` and not `PAID`. -/
theorem one_collection (as : List (Action StripeMove))
    (h : ledger.Meets (fun w a => w.Honest a ∧ w.RetiresIntents a) (World.init .empty) as)
    (k : Id) (id : PaymentIntentId) :
    (∀ id', (ledger.run (World.init .empty) as).Collects k id →
        (ledger.run (World.init .empty) as).Collects k id' → id = id') ∧
      ((ledger.run (World.init .empty) as).Payable k id →
        ∃ o p, (ledger.run (World.init .empty) as).db.order? k = some o ∧ o.status = .confirmed ∧
          o.payment = some p ∧ p.paymentStatus ≠ .paid) := by
  have hinv := Machine.run_invariant
    (I := fun w : World StripeAccount => w.Linked ∧ w.RefundsKnown ∧ w.OneCollects)
    (fun w a hw hc => ⟨hw.1.step hc.1, hw.2.1.step hw.1 hc.1,
      hw.2.2.step hw.1 hw.2.1 hc.1 hc.2⟩)
    ⟨linked_init, refundsKnown_init, oneCollects_init⟩ h
  refine ⟨fun id' => hinv.2.2.single k id id', fun hpay => ?_⟩
  obtain ⟨o, ho, hs, p, hp, hunpaid⟩ := hinv.2.2.payable k id hpay
  exact ⟨o, p, ho, hs, hp, hunpaid⟩

namespace Shop

/-- The second attempt is started after the intent of the first one was cancelled. -/
def retriedAfterCancel : List (Action StripeMove) :=
  confirmed ++ [payByCard, .stripe (.intentStatus 0 .canceled), event 1 (intent 0 3 .canceled),
    payByCard]

/-- The first attempt fails. -/
def failed : List (Action StripeMove) :=
  confirmed ++ [payByCard, event 1 (intent 0 3 .requiresPaymentMethod)]

end Shop

/-- A retry after a cancelled intent: the new intent is the only one. -/
theorem one_collection_shop :
    (ledger.run (World.init .empty) Shop.retriedAfterCancel).Payable Shop.orderId 1 ∧
      (∀ id', (ledger.run (World.init .empty) Shop.retriedAfterCancel).Collects Shop.orderId id' →
        1 = id') ∧
      ∃ o p, (ledger.run (World.init .empty) Shop.retriedAfterCancel).db.order? Shop.orderId =
        some o ∧ o.status = .confirmed ∧ o.payment = some p ∧ p.paymentStatus ≠ .paid :=
  have hpay : (ledger.run (World.init .empty) Shop.retriedAfterCancel).Payable Shop.orderId 1 := by
    decide
  have h := one_collection Shop.retriedAfterCancel (by decide) Shop.orderId 1
  ⟨hpay, fun id' => h.1 id' (Or.inr hpay), h.2 hpay⟩

/-- A failed attempt leaves an intent that can be paid: next to the intent of a second attempt, or
of an order that is paid in cash, cancelled or deleted. -/
theorem collected_twice :
    (ledger.Meets World.Honest (World.init .empty) Shop.retried ∧
      (ledger.run (World.init .empty) Shop.retried).Payable Shop.orderId 0 ∧
      (ledger.run (World.init .empty) Shop.retried).Payable Shop.orderId 1) ∧
    (∀ a ∈ [Action.markCashPaid Shop.org Shop.orderId {}, Shop.transition .cancelled,
        .deleteOrder Shop.org Shop.orderId],
      ledger.Meets World.Honest (World.init .empty) (Shop.failed ++ [a]) ∧
      (ledger.run (World.init .empty) (Shop.failed ++ [a])).Payable Shop.orderId 0 ∧
      ∀ o ∈ (ledger.run (World.init .empty) (Shop.failed ++ [a])).db.order? Shop.orderId,
        ∀ p ∈ o.payment, o.status ≠ .confirmed ∨ p.paymentStatus = .paid) := by
  decide

end

end LedgerLight
