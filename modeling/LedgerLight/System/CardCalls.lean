import LedgerLight.Infra.Answers
import LedgerLight.System.Outside

/-!
# Concurrent card payments

Calls of `initiateCardPayment` for one order, statement by statement and in any order. A call decides
by what its first statement reads: it is refused, it answers the attempt that is in progress, or it
asks Stripe for an intent and starts an attempt.

* `cardCalls` : the calls and what happens at Stripe, as a machine.
* `CardCall.decides` : what the first statement decides.
* `CardCall.starts` : a call that starts an attempt goes through.
-/

namespace LedgerLight

open Infra ReadCommitted

variable {S M : Type}

/-- A call of `initiateCardPayment`, with the clock and the ids it reads. -/
structure CardCall where
  env : Env
  org : CurrentOrg
  auditContext : AuditContext := {}

/-- What is committed: the database, and the answers that were given. -/
abbrev Answered := Database × List CreateCardPaymentResponseDto

namespace CardCall

/-- The id of the attempt that the call may start. -/
def attemptId (c : CardCall) : Id := c.env.uuid 1

def prog (stripe : StripeService S M) (orderId : Id) (c : CardCall) :
    Prog Answered RowKey S AppError Unit :=
  (initiateCardPayment stripe c.env c.org orderId c.auditContext).answering

end CardCall

/-- The database while the calls run. -/
abbrev CardSessions (S : Type) := Store Answered RowKey S AppError CardCall

/-- The calls for one order, in any order of their statements. -/
def cardCalls (stripe : StripeService S M) (orderId : Id) :
    Machine (CardSessions S) (Move CardCall M) :=
  transactions (CardCall.prog stripe orderId) stripe.move

/-- Stripe answers every `createPaymentIntent` with a new intent and its secret. `intents` are the
intents that it has created. -/
structure StripeService.AnswersNew (stripe : StripeService S M)
    (intents : S → List PaymentIntentId) : Prop where
  create : ∀ args s, ∃ paymentIntent s' clientSecret,
    stripe.createPaymentIntent args s = (.ok paymentIntent, s') ∧
      paymentIntent.clientSecret = some clientSecret ∧ clientSecret ≠ "" ∧
      paymentIntent.id ∉ intents s ∧ intents s' = paymentIntent.id :: intents s
  move : ∀ move s, intents (stripe.move move s) = intents s

/-- The answer is this attempt. -/
def CreateCardPaymentResponseDto.Answers (dto : CreateCardPaymentResponseDto) (a : PaymentAttempt) :
    Prop :=
  dto.attemptId = a.id ∧ dto.clientSecret = a.clientSecret

section

variable {stripe : StripeService S M} {k : Id} {c : CardCall} {o : OrderRecord}
  {p : PaymentWithAttempts} {db : Database} {s s' : S} {paymentIntent : StripePaymentIntent}
  {clientSecret : ClientSecret}

theorem Database.findAttempt?_eq_none {test : PaymentAttempt → Bool} :
    db.findAttempt? test = none ↔ ∀ k o p, db.order? k = some o → o.payment = some p →
      ∀ a ∈ p.attempts, test a = false := by
  unfold Database.findAttempt?
  constructor
  · intro h k o p ho hp a ha
    by_contra htest
    have hfound : (o.findAttempt? test).isSome = true := by
      simp only [OrderRecord.findAttempt?, hp, Option.bind_some, Option.isSome_map,
        List.find?_isSome]
      exact ⟨a, ha, Bool.not_eq_false _ ▸ htest⟩
    cases hrow : db.orders.findRow? fun _ o => (o.findAttempt? test).isSome with
    | none => simp [Table.pred_of_findRow?_eq_none hrow ho] at hfound
    | some row =>
      have hsome := Table.pred_of_findRow? hrow
      rw [hrow, Option.bind_some, Option.map_eq_none_iff] at h
      rw [h] at hsome
      cases hsome
  · intro h
    cases hfind : db.findAttempt? test with
    | none => exact hfind
    | some found =>
      obtain ⟨o, ho, hp, ha, htest⟩ := Database.findAttempt?_eq_some hfind
      rw [h _ _ _ ho hp _ ha] at htest
      cases htest

/-- The read of an order with a payment: what follows it goes on with the two. -/
theorem orderAndPaymentTx_read {α : Type} (env : Env) (org : CurrentOrg) (k : Id)
    (rest : OrderRecord × Option PaymentWithAttempts → Tx S α) :
    ∃ next, (orderAndPaymentTx env org k >>= rest) = .read next ∧
      ∀ (d : Database) o p, d.order? k = some o → o.payment = some p →
        next d = if o.visibleTo org = true then rest (o, some p)
          else .fail (.notFound "Order not found for organization") := by
  refine ⟨_, rfl, fun d o p ho hp => ?_⟩
  by_cases hv : o.visibleTo org = true
  · have hfound : (d.order? k).filter (OrderRecord.visibleTo org) = some o := by
      rw [ho, Option.filter_some_pos hv]
    have hlegacy : (paymentOrLegacyTx env k o : Tx S _) = pure (some p) := by
      unfold paymentOrLegacyTx
      rw [hp]
    simp only [hfound, if_pos hv]
    show Prog.bind (paymentOrLegacyTx env k o >>= fun payment => pure (o, payment)) rest = _
    rw [hlegacy]
    rfl
  · have hnone : (d.order? k).filter (OrderRecord.visibleTo org) = none := by
      rw [ho, Option.filter_some, if_neg hv]
    simp only [hnone, if_neg hv]
    rfl

/-- What the first statement decides. -/
theorem CardCall.decides (stripe : StripeService S M) (k : Id) (c : CardCall) :
    ∃ next, c.prog stripe k = .read next ∧
      ∀ (d : Answered) o p, d.1.order? k = some o → o.payment = some p →
        (∃ e, next d = .fail e) ∨
        (∃ a dto, getReusableAttempt p = some a ∧ dto.Answers a ∧
          next d = (Prog.done dto).answering) ∨
        o.visibleTo c.org = true ∧ o.status = .confirmed ∧
          assertPaymentAcceptsCollection p = .ok () ∧ getReusableAttempt p = none := by
  obtain ⟨next, hprog, hnext⟩ := orderAndPaymentTx_read (S := S) c.env c.org k _
  refine ⟨fun d => (next d.1).answering, congrArg Prog.answering hprog, fun d o p ho hp => ?_⟩
  simp only [hnext d.1 o p ho hp]
  by_cases hv : o.visibleTo c.org = true
  · rw [if_pos hv]
    simp only [Prog.require]
    by_cases hs : o.status = .confirmed
    · rw [if_pos hs]
      cases haccepts : assertPaymentAcceptsCollection p with
      | error e => exact Or.inl ⟨e, rfl⟩
      | ok u =>
        cases hr : getReusableAttempt p with
        | none => exact Or.inr (Or.inr ⟨hv, hs, rfl, rfl⟩)
        | some a => exact Or.inr (Or.inl ⟨a, _, rfl, ⟨rfl, rfl⟩, rfl⟩)
    · rw [if_neg hs]
      exact Or.inl ⟨_, rfl⟩
  · rw [if_neg hv]
    exact Or.inl ⟨_, rfl⟩

/-- A call that finds no attempt goes through if Stripe answers with an intent, and both ids are
new. -/
theorem initiateCardPayment_of_payment {env : Env} {org : CurrentOrg} {auditContext : AuditContext}
    (ho : db.order? k = some o) (hv : o.visibleTo org = true) (hs : o.status = .confirmed)
    (hp : o.payment = some p) (haccepts : assertPaymentAcceptsCollection p = .ok ())
    (hr : getReusableAttempt p = none)
    (hcreate : stripe.createPaymentIntent (cardPaymentArgs k o.organizationId (env.uuid 1)
      p.toPayment) s = (.ok paymentIntent, s'))
    (hsecret : paymentIntent.clientSecret = some clientSecret) (hne : clientSecret ≠ "")
    (hid : db.findAttempt? (fun a => a.id == env.uuid 1) = none)
    (hintent : db.findAttempt? (fun a => a.stripePaymentIntentId == paymentIntent.id) = none) :
    ∃ dto db', (initiateCardPayment stripe env org k auditContext).run db s =
      (.ok (dto, db'), s') ∧ dto.attemptId = env.uuid 1 ∧ dto.clientSecret = clientSecret := by
  have hread : (orderAndPaymentTx env org k).run db s = (.ok ((o, some p), db), s) := by
    refine Prog.runAuto_ok.mp ?_
    rw [orderAndPaymentTx_runAuto ho hp, if_pos hv]
  have hfresh : (db.findAttempt? fun b =>
      b.id == env.uuid 1 || b.stripePaymentIntentId == paymentIntent.id) = none := by
    rw [Database.findAttempt?_eq_none] at hid hintent ⊢
    intro k o p ho hp a ha
    rw [hid k o p ho hp a ha, hintent k o p ho hp a ha]
    rfl
  -- the two writes
  let attempt := newAttempt env p.toPayment paymentIntent.id clientSecret
  let q : PaymentWithAttempts := { p with attempts := attempt :: p.attempts }
  have hattempt : (attemptCreate k p.id attempt).run db s' =
      (.ok (q, db.setOrder k { o with payment := some q }), s') := by
    have hfree : (db.findAttempt? fun b => b.id == attempt.id ||
        b.stripePaymentIntentId == attempt.stripePaymentIntentId).isSome = false := by
      show (db.findAttempt? fun b => b.id == env.uuid 1 ||
        b.stripePaymentIntentId == paymentIntent.id).isSome = false
      rw [hfresh]
      rfl
    exact paymentWrite_ok.mpr ⟨o, p, ho, hp, rfl, hfree, rfl, rfl, rfl⟩
  have hpayment : (paymentUpdate env k p.id startedAttempt).run
      (db.setOrder k { o with payment := some q }) s' =
        (.ok (Payment.updated env startedAttempt q, _), s') :=
    paymentUpdate_of_payment (db.order?_setOrder_self k { o with payment := some q }) rfl rfl
  -- the call, statement by statement
  unfold initiateCardPayment
  rw [Prog.run_bind_of hread]
  dsimp only
  rw [Prog.run_bind_of ((Prog.run_require_ok (u := ())).mpr ⟨hs, rfl, rfl⟩),
    Prog.run_bind_of ((Prog.run_ofExcept_ok (a := ())).mpr ⟨haccepts, rfl, rfl⟩), hr]
  dsimp only
  rw [Prog.run_bind_of (Prog.run_invoke_ok.mpr ⟨congrArg Prod.fst hcreate, rfl,
    (congrArg Prod.snd hcreate).symm⟩), hsecret, Option.filter_some_pos (by simpa using hne)]
  dsimp only
  rw [Prog.run_bind_of hattempt, Prog.run_bind_of hpayment]
  exact ⟨_, _, rfl, rfl, rfl⟩

/-- The attempt `a` has been started over those of `p`, and every answer is this attempt. -/
structure Answered.Started (k : Id) (p : PaymentWithAttempts) (a : PaymentAttempt) (d : Answered) :
    Prop where
  attempt : ∃ o q, d.1.order? k = some o ∧ o.payment = some q ∧ q.attempts = a :: p.attempts ∧
    getReusableAttempt q = some a
  answers : ∀ dto ∈ d.2, dto.Answers a

/-- A call that decides to start an attempt asks Stripe once, and if nothing else is committed
before it, it commits the attempt. -/
theorem CardCall.starts {intents : S → List PaymentIntentId} (hnew : stripe.AnswersNew intents)
    {known : List PaymentIntentId} {next : Answered → Prog Answered RowKey S AppError Unit}
    (hprog : c.prog stripe k = .read next) (ho : db.order? k = some o)
    (hv : o.visibleTo c.org = true) (hs : o.status = .confirmed) (hp : o.payment = some p)
    (haccepts : assertPaymentAcceptsCollection p = .ok ()) (hr : getReusableAttempt p = none)
    (hid : db.findAttempt? (fun a => a.id == c.attemptId) = none)
    (hknown : ∀ id, id ∉ known → db.findAttempt? (fun a => a.stripePaymentIntentId == id) = none) :
    (next (db, [])).CallsOnce (fun _ => ()) (fun s s' => ∃ id, intents s' = id :: intents s) ∧
      ∀ s, intents s = known → ∃ d' s', (next (db, [])).run (db, []) s = (.ok ((), d'), s') ∧
        ∃ a, Answered.Started k p a d' := by
  have hcalls : (initiateCardPayment stripe c.env c.org k c.auditContext).CallsOnce
      Database.receipts fun s s' => ∃ id, intents s' = id :: intents s := by
    refine initiateCardPayment_callsOnce fun organizationId payment s => ?_
    obtain ⟨paymentIntent, s', clientSecret, hcreate, -, -, -, hintents⟩ := hnew.create
      (cardPaymentArgs k organizationId (c.env.uuid 1) payment) s
    rw [hcreate]
    exact ⟨_, hintents⟩
  have hcallsRead := hcalls.answering
  rw [← CardCall.prog, hprog] at hcallsRead
  refine ⟨hcallsRead (db, []), fun s hs₀ => ?_⟩
  obtain ⟨paymentIntent, s', clientSecret, hcreate, hsecret, hne, hfresh, -⟩ := hnew.create
    (cardPaymentArgs k o.organizationId (c.env.uuid 1) p.toPayment) s
  rw [hs₀] at hfresh
  have hthrough : ∃ dto db', (initiateCardPayment stripe c.env c.org k c.auditContext).run db s =
      (.ok (dto, db'), s') ∧ dto.attemptId = c.env.uuid 1 ∧ dto.clientSecret = clientSecret :=
    initiateCardPayment_of_payment ho hv hs hp haccepts hr hcreate hsecret hne hid (hknown _ hfresh)
  obtain ⟨dto, db', hrun, hattempt, hanswer⟩ := hthrough
  have hanswered : (c.prog stripe k).run (db, []) s = (.ok ((), db', [dto]), s') :=
    Prog.run_answering hrun
  rw [hprog] at hanswered
  refine ⟨_, s', hanswered, newAttempt c.env p.toPayment paymentIntent.id clientSecret, ?_, ?_⟩
  · obtain ⟨o₁, p₁, ho₁, -, -, hp₁, -, -, hdone⟩ := initiateCardPayment_ok hrun
    obtain rfl := Option.some.inj (ho.symm.trans ho₁)
    obtain rfl := Option.some.inj ((OrderRecord.paymentOrLegacy_of_payment hp).symm.trans hp₁)
    rcases hdone with ⟨attempt, hreused, -⟩ | ⟨paymentIntent₁, -, hcreate₁, -, hput⟩
    · rw [hr] at hreused
      cases hreused
    · rw [hcreate] at hcreate₁
      cases hcreate₁
      rw [hanswer] at hput
      exact ⟨_, _, hput.order?_self, rfl, rfl,
        getReusableAttempt_eq_some.mpr ⟨rfl, rfl, Or.inl rfl⟩⟩
  · intro dto' hdto
    rw [List.mem_singleton.mp hdto]
    exact ⟨hattempt, hanswer⟩

end

end LedgerLight
