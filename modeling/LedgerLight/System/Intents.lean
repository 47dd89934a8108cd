import LedgerLight.System.Honest
import LedgerLight.System.Outside

/-!
# Intents and the attempts that point at them

Over a Stripe account, every attempt of a payment has an intent at Stripe that was created for its
order, and what a step does to the intents is little: one may change its status, one may be created.

* `step_intents` : what a step does to the intents.
* `linked_run` : the links between attempts and intents (`World.Linked`) hold in every honest run.
-/

namespace LedgerLight

open Infra

namespace StripeAccount

/-- A cancellation cancels the intent, or answers its state, or fails; and an intent that is not
cancelled is left as it was. -/
theorem cancelOrRetrieve_cases (acct : StripeAccount) (id : PaymentIntentId) :
    (∃ e, stripeAccount.cancelOrRetrieve id acct = (.error e, acct)) ∨
      (∃ i, acct.intents.lookup id = some i ∧
        stripeAccount.cancelOrRetrieve id acct = (.ok (i.snapshot id), acct)) ∨
      ∃ i, acct.intents.lookup id = some i ∧ i.status.final = false ∧
        stripeAccount.cancelOrRetrieve id acct =
          (.ok ((i.become .canceled).snapshot id), acct.setIntent id (i.become .canceled)) := by
  have hcancel : (∃ e, acct.cancelPaymentIntent id = (.error e, acct)) ∨
      ∃ i, acct.intents.lookup id = some i ∧ i.status.final = false ∧
        acct.cancelPaymentIntent id =
          (.ok ((i.become .canceled).snapshot id), acct.setIntent id (i.become .canceled)) := by
    unfold cancelPaymentIntent
    split
    · exact Or.inl ⟨_, rfl⟩
    · cases hi : acct.intents.lookup id with
      | none => exact Or.inl ⟨_, rfl⟩
      | some i =>
        dsimp only
        split
        · exact Or.inl ⟨_, rfl⟩
        · next hopen =>
          have hf : i.status.final = false := by
            rw [← Bool.not_eq_true]
            exact fun hf => hopen (Or.inr (Or.inl hf))
          exact Or.inr ⟨i, rfl, hf, rfl⟩
  show (∃ e, StripeService.cancelOrRetrieve stripeAccount id acct = _) ∨ _
  unfold StripeService.cancelOrRetrieve
  rw [show stripeAccount.cancelPaymentIntent id acct = acct.cancelPaymentIntent id from rfl]
  rcases hcancel with ⟨e, he⟩ | ⟨i, hi, hf, he⟩
  · rw [he]
    rcases retrievePaymentIntent_cases acct id with ⟨e', he'⟩ | ⟨i, hi, he'⟩
    · exact Or.inl ⟨e', he'⟩
    · exact Or.inr (Or.inl ⟨i, hi, he'⟩)
  · rw [he]
    exact Or.inr (Or.inr ⟨i, hi, hf, rfl⟩)

/-- What is answered of an intent is how the intent is from then on. -/
theorem cancelOrRetrieve_ok {acct acct' : StripeAccount} {id : PaymentIntentId}
    {paymentIntent : StripePaymentIntent}
    (h : stripeAccount.cancelOrRetrieve id acct = (.ok paymentIntent, acct')) :
    ∃ i, acct'.intents.lookup id = some i ∧ paymentIntent = i.snapshot id := by
  rcases acct.cancelOrRetrieve_cases id with ⟨e, he⟩ | ⟨i, hi, he⟩ | ⟨i, hi, hf, he⟩
  all_goals
    rw [he] at h
    cases h
  · exact ⟨i, hi, rfl⟩
  · exact ⟨i.become .canceled, by rw [lookup_setIntent, if_pos rfl], rfl⟩

end StripeAccount

/-! ## What a step does to the intents -/

/-- What a step does to the intents. Only an intent whose secret is known succeeds. -/
inductive IntentStep (w : World StripeAccount) : Action StripeMove → StripeAccount → Prop
  | same {a acct} (hi : acct.intents = w.stripe.intents) (hn : w.stripe.nextId ≤ acct.nextId) :
      IntentStep w a acct
  | moved {a acct id i status} (hi : w.stripe.intents.lookup id = some i)
      (hf : i.status.final = false)
      (hpaid : status = .succeeded → clientSecretOf id ∈ w.returned)
      (h : acct.intents = w.stripe.intents.insert id (i.become status))
      (hn : acct.nextId = w.stripe.nextId) : IntentStep w a acct
  | created {org orderId auditContext acct} (args : CreatePaymentIntentArgs)
      (horder : args.metadata.orderId = some orderId)
      (hattempt : args.metadata.paymentAttemptId = some (w.env.uuid 1))
      (h : acct.intents = w.stripe.intents.insert w.stripe.nextId (StripeAccount.newIntent args))
      (hn : acct.nextId = w.stripe.nextId + 1) :
      IntentStep w (.initiateCardPayment org orderId auditContext) acct

section

variable {w : World StripeAccount} {a : Action StripeMove} {acct : StripeAccount} {m : StripeMove}

theorem move_intents (hc : w.Honest (.stripe m)) :
    IntentStep w (.stripe m) (w.stripe.move m) := by
  cases m with
  | plan plan => exact .same rfl le_rfl
  | intentStatus id status =>
    simp only [StripeAccount.move]
    split
    · exact .same rfl le_rfl
    · next i hi =>
      split
      · exact .same rfl le_rfl
      · next hf => exact .moved hi (by simpa using hf) hc rfl rfl
  | refundStatus id status =>
    simp only [StripeAccount.move]
    split
    · exact .same rfl le_rfl
    · split
      · exact .same rfl (Nat.le_succ _)
      · exact .same rfl le_rfl

/-- **A step changes the status of one intent at most, or creates one.** -/
theorem step_intents (hc : w.Honest a) : IntentStep w a (ledger.step w a).stripe := by
  have hs := step_stripe stripeAccount w a
  generalize (ledger.step w a).stripe = acct at hs ⊢
  cases hs with
  | same => exact .same rfl le_rfl
  | created organizationId payment =>
    rcases w.stripe.createPaymentIntent_cases (cardPaymentArgs _ organizationId (w.env.uuid 1)
      payment) with ⟨e, he⟩ | he
    all_goals
      rw [show stripeAccount.createPaymentIntent _ w.stripe = w.stripe.createPaymentIntent _ from
        rfl, he]
    · exact .same rfl le_rfl
    · exact .created _ rfl rfl rfl rfl
  | cancelled paymentIntentId =>
    rcases w.stripe.cancelOrRetrieve_cases paymentIntentId with
      ⟨e, he⟩ | ⟨i, hi, he⟩ | ⟨i, hi, hf, he⟩
    all_goals rw [he]
    · exact .same rfl le_rfl
    · exact .same rfl le_rfl
    · exact .moved hi hf (fun h => by cases h) rfl rfl
  | @retrieved callId orderId paymentId attempt auditContext hcall =>
    rcases w.stripe.retrievePaymentIntent_cases attempt.stripePaymentIntentId with
      ⟨e, he⟩ | ⟨i, hi, he⟩
    all_goals
      rw [show stripeAccount.retrievePaymentIntent _ w.stripe = w.stripe.retrievePaymentIntent _
        from rfl, he]
      exact .same rfl le_rfl
  | refundCreated hcall =>
    exact .same (StripeAccount.createRefund_intents ..).1 (StripeAccount.createRefund_intents ..).2
  | moved => exact move_intents hc

theorem IntentStep.nextId_le (h : IntentStep w a acct) : w.stripe.nextId ≤ acct.nextId := by
  cases h with
  | same hi hn => exact hn
  | moved hi hf hpaid h hn => exact le_of_eq hn.symm
  | created args horder hattempt h hn => exact hn.symm ▸ Nat.le_succ _

/-- An intent after a step was there before, with its status or a new one, or it is the new one. -/
theorem IntentStep.lookup_inv (h : IntentStep w a acct) {id : PaymentIntentId} {i' : StripeIntent}
    (hi' : acct.intents.lookup id = some i') :
    (∃ i, w.stripe.intents.lookup id = some i ∧
      (i' = i ∨ i.status.final = false ∧ ∃ status, i' = i.become status ∧
        (status = .succeeded → clientSecretOf id ∈ w.returned))) ∨
      ∃ org orderId auditContext args, a = .initiateCardPayment org orderId auditContext ∧
        id = w.stripe.nextId ∧ acct.nextId = w.stripe.nextId + 1 ∧
        i' = StripeAccount.newIntent args ∧ args.metadata.orderId = some orderId ∧
        args.metadata.paymentAttemptId = some (w.env.uuid 1) := by
  cases h with
  | same hi hn =>
    rw [hi] at hi'
    exact Or.inl ⟨i', hi', Or.inl rfl⟩
  | moved hi hf hpaid h hn =>
    rw [h, Table.lookup_insert_ite] at hi'
    split at hi'
    · next hid =>
      cases hi'
      subst hid
      exact Or.inl ⟨_, hi, Or.inr ⟨hf, _, rfl, hpaid⟩⟩
    · exact Or.inl ⟨i', hi', Or.inl rfl⟩
  | created args horder hattempt h hn =>
    rw [h, Table.lookup_insert_ite] at hi'
    split at hi'
    · next hid =>
      cases hi'
      exact Or.inr ⟨_, _, _, args, rfl, hid, hn, rfl, horder, hattempt⟩
    · exact Or.inl ⟨i', hi', Or.inl rfl⟩

/-- An intent stays, with its metadata. -/
theorem IntentStep.lookup_of (h : IntentStep w a acct) {id : PaymentIntentId} {i : StripeIntent}
    (hlt : id < w.stripe.nextId) (hi : w.stripe.intents.lookup id = some i) :
    ∃ i', acct.intents.lookup id = some i' ∧ i'.metadata = i.metadata ∧
      (i' = i ∨ i.status.final = false ∧ ∃ status, i' = i.become status) := by
  cases h with
  | same h hn => exact ⟨i, h ▸ hi, rfl, Or.inl rfl⟩
  | @moved _ _ id' i₁ status hi₁ hf hpaid h hn =>
    rw [h, Table.lookup_insert_ite]
    by_cases hid : id = id'
    · subst hid
      obtain rfl := Option.some.inj (hi.symm.trans hi₁)
      rw [if_pos rfl]
      exact ⟨_, rfl, rfl, Or.inr ⟨hf, status, rfl⟩⟩
    · rw [if_neg hid]
      exact ⟨i, hi, rfl, Or.inl rfl⟩
  | created args horder hattempt h hn =>
    rw [h, Table.lookup_insert_ite, if_neg (Nat.ne_of_lt hlt)]
    exact ⟨i, hi, rfl, Or.inl rfl⟩

end

/-! ## Links -/

/-- The attempt points at an intent that was created for it, with a secret that is known. -/
structure World.AttemptOf (w : World StripeAccount) (orderId : Id) (a : PaymentAttempt) :
    Prop where
  intent : ∃ i, w.stripe.intents.lookup a.stripePaymentIntentId = some i ∧
    i.metadata.orderId = some orderId ∧ i.metadata.paymentAttemptId = some a.id
  secret : a.clientSecret = clientSecretOf a.stripePaymentIntentId
  returned : a.clientSecret ∈ w.returned

/-- The snapshot is of an intent that was created for the order. -/
structure World.SnapshotOf (w : World StripeAccount) (orderId : Id)
    (paymentIntent : StripePaymentIntent) : Prop where
  had : w.stripe.Had paymentIntent
  order : paymentIntent.metadata.orderId = some orderId

/-- What a call in flight keeps about an intent is true. -/
def World.CallLinked (w : World StripeAccount) : InFlight → Prop
  | .confirmRetrieve orderId _ attempt _ => w.AttemptOf orderId attempt
  | .confirmApply orderId _ _ paymentIntent _ => w.SnapshotOf orderId paymentIntent
  | _ => True

/-- The intents of the account are the ones that were created here. -/
structure World.IntentsKnown (w : World StripeAccount) : Prop where
  fresh : ∀ id i, w.stripe.intents.lookup id = some i → id < w.stripe.nextId
  secrets : ∀ id, clientSecretOf id ∈ w.returned → id < w.stripe.nextId
  order : ∀ id i, w.stripe.intents.lookup id = some i → ∃ orderId, i.metadata.orderId = some orderId
  attempt : ∀ id i, w.stripe.intents.lookup id = some i →
    ∃ attemptId, i.metadata.paymentAttemptId = some attemptId ∧ attemptId.step < w.steps
  /-- An intent that succeeded once has succeeded. -/
  past : ∀ id i, w.stripe.intents.lookup id = some i → .succeeded ∉ i.past
  single : ∀ id id' i i', w.stripe.intents.lookup id = some i →
    w.stripe.intents.lookup id' = some i' →
    i.metadata.paymentAttemptId = i'.metadata.paymentAttemptId → id = id'

/-- The database, the calls in flight and the account fit together. -/
structure World.Linked (w : World StripeAccount) : Prop where
  intents : w.IntentsKnown
  attempts : ∀ k o p a, w.db.order? k = some o → o.payment = some p → a ∈ p.attempts →
    w.AttemptOf k a
  calls : ∀ k call, w.calls.lookup k = some call → w.CallLinked call

section

variable {w w' : World StripeAccount} {a : Action StripeMove} {k : Id}

/-- What an intent, once there, keeps: its metadata, and every status it had. -/
theorem World.Linked.intent_of (h : w.Linked) (hs : IntentStep w a w'.stripe)
    {id : PaymentIntentId} {i : StripeIntent} (hi : w.stripe.intents.lookup id = some i) :
    ∃ i', w'.stripe.intents.lookup id = some i' ∧ i'.metadata = i.metadata ∧
      (i' = i ∨ i.status.final = false ∧ ∃ status, i' = i.become status) :=
  hs.lookup_of (h.intents.fresh _ _ hi) hi

theorem World.AttemptOf.stable {b : PaymentAttempt} (hb : w.AttemptOf k b) (h : w.Linked)
    (hs : IntentStep w a w'.stripe) (hret : ∀ x ∈ w.returned, x ∈ w'.returned) :
    w'.AttemptOf k b := by
  obtain ⟨i, hi, horder, hattempt⟩ := hb.intent
  obtain ⟨i', hi', hmeta, -⟩ := h.intent_of hs hi
  exact ⟨⟨i', hi', by rw [hmeta, horder], by rw [hmeta, hattempt]⟩, hb.secret,
    hret _ hb.returned⟩

theorem World.AttemptOf.same {b c : PaymentAttempt} (hb : w.AttemptOf k b)
    (hsame : b.SameIntent c) : w.AttemptOf k c := by
  obtain ⟨i, hi, horder, hattempt⟩ := hb.intent
  refine ⟨⟨i, ?_, horder, ?_⟩, ?_, ?_⟩
  · rw [hsame.stripePaymentIntentId, hi]
  · rw [hsame.id, hattempt]
  · rw [hsame.clientSecret, hsame.stripePaymentIntentId, hb.secret]
  · rw [hsame.clientSecret]
    exact hb.returned

theorem World.SnapshotOf.stable {paymentIntent : StripePaymentIntent}
    (hp : w.SnapshotOf k paymentIntent) (h : w.Linked) (hs : IntentStep w a w'.stripe) :
    w'.SnapshotOf k paymentIntent := by
  obtain ⟨i, hi, hmeta, hsecret, hstatus⟩ := StripeAccount.had_iff.mp hp.had
  obtain ⟨i', hi', hmeta', hnext⟩ := h.intent_of hs hi
  refine ⟨StripeAccount.had_iff.mpr ⟨i', hi', hmeta.trans hmeta'.symm, hsecret, ?_⟩, hp.order⟩
  rcases hnext with rfl | ⟨-, status, rfl⟩
  · exact hstatus
  · -- the status it had is a past one now
    rcases hstatus with hnow | hpast
    · exact Or.inr (List.mem_cons.mpr (Or.inl hnow))
    · exact Or.inr (List.mem_cons.mpr (Or.inr hpast))

theorem World.CallLinked.stable {call : InFlight} (hcall : w.CallLinked call) (h : w.Linked)
    (hs : IntentStep w a w'.stripe) (hret : ∀ x ∈ w.returned, x ∈ w'.returned) :
    w'.CallLinked call := by
  cases call with
  | confirmRetrieve orderId paymentId attempt auditContext =>
    exact World.AttemptOf.stable hcall h hs hret
  | confirmApply orderId paymentId attemptId paymentIntent auditContext =>
    exact World.SnapshotOf.stable hcall h hs
  | _ => trivial

/-! ### Every step keeps the links -/

theorem step_returned_subset (w : World StripeAccount) (a : Action StripeMove) :
    ∀ x ∈ w.returned, x ∈ (ledger.step w a).returned := by
  intro x hx
  cases a with
  | initiateCardPayment org orderId auditContext =>
    cases step_initiateCardPayment stripeAccount w org orderId auditContext with
    | failed hdb hret => rw [hret]; exact hx
    | resumed ho hp ha hret hput hs => rw [hret]; exact List.mem_cons_of_mem _ hx
    | created o p paymentIntent clientSecret ho hv hs hp hrefund hpaid hr hans hsecret hret hput =>
      rw [hret]
      exact List.mem_cons_of_mem _ hx
  | _ =>
    rw [step_returned (by intro _ _ _ h; cases h)]
    exact hx

/-- A new intent at Stripe has the next id and its own secret. -/
theorem createPaymentIntent_ok {acct acct' : StripeAccount} {args : CreatePaymentIntentArgs}
    {paymentIntent : StripePaymentIntent}
    (h : stripeAccount.createPaymentIntent args acct = (.ok paymentIntent, acct')) :
    paymentIntent = (StripeAccount.newIntent args).snapshot acct.nextId ∧
      acct' = { acct.setIntent acct.nextId (StripeAccount.newIntent args) with
                nextId := acct.nextId + 1 } := by
  rcases acct.createPaymentIntent_cases args with ⟨e, he⟩ | he
  all_goals
    rw [show stripeAccount.createPaymentIntent args acct = acct.createPaymentIntent args from rfl,
      he] at h
    cases h
  exact ⟨rfl, rfl⟩

theorem retrievePaymentIntent_ok {acct acct' : StripeAccount} {id : PaymentIntentId}
    {paymentIntent : StripePaymentIntent}
    (h : stripeAccount.retrievePaymentIntent id acct = (.ok paymentIntent, acct')) :
    ∃ i, acct.intents.lookup id = some i ∧ paymentIntent = i.snapshot id := by
  rcases acct.retrievePaymentIntent_cases id with ⟨e, he⟩ | ⟨i, hi, he⟩
  all_goals
    rw [show stripeAccount.retrievePaymentIntent id acct = acct.retrievePaymentIntent id from rfl,
      he] at h
    cases h
  exact ⟨i, hi, rfl⟩

/-- A secret that a step makes known is the secret of an intent. -/
theorem World.Linked.secret_lt (h : w.Linked) {id : PaymentIntentId}
    (hid : clientSecretOf id ∈ (ledger.step w a).returned) (hs : IntentStep w a
      (ledger.step w a).stripe) : id < (ledger.step w a).stripe.nextId := by
  have hold : clientSecretOf id ∈ w.returned → id < (ledger.step w a).stripe.nextId := fun hmem =>
    lt_of_lt_of_le (h.intents.secrets id hmem) hs.nextId_le
  cases a with
  | initiateCardPayment org orderId auditContext =>
    cases step_initiateCardPayment stripeAccount w org orderId auditContext with
    | failed hdb hret => exact hold (hret ▸ hid)
    | resumed ho hp ha hret hput hst =>
      rw [hret, List.mem_cons] at hid
      rcases hid with heq | hmem
      · exact hold (heq ▸ (h.attempts _ _ _ _ ho hp ha).returned)
      · exact hold hmem
    | created o p paymentIntent clientSecret ho hv hst hp hrefund hpaid hr hans hsecret hret hput =>
      obtain ⟨rfl, hacct⟩ := createPaymentIntent_ok hans
      cases hsecret
      rw [hret, List.mem_cons] at hid
      rcases hid with heq | hmem
      · rw [clientSecretOf_injective heq, hacct]
        exact Nat.lt_succ_self _
      · exact hold hmem
  | _ =>
    rw [step_returned (by intro _ _ _ h; cases h)] at hid
    exact hold hid

theorem World.IntentsKnown.step (h : w.Linked) (hc : w.Honest a) :
    (ledger.step w a).IntentsKnown := by
  have hs := step_intents hc
  have hk := h.intents
  constructor
  case fresh =>
    intro id i' hi'
    rcases hs.lookup_inv hi' with ⟨i, hi, -⟩ | ⟨_, _, _, args, -, rfl, hn, -⟩
    · exact lt_of_lt_of_le (hk.fresh id i hi) hs.nextId_le
    · rw [hn]
      exact Nat.lt_succ_self _
  case secrets => exact fun id hid => h.secret_lt hid hs
  case order =>
    intro id i' hi'
    rcases hs.lookup_inv hi' with ⟨i, hi, hnext⟩ | ⟨_, orderId, _, args, -, -, -, rfl, horder, -⟩
    · rcases hnext with rfl | ⟨-, status, rfl, -⟩
      · exact hk.order id _ hi
      · exact hk.order id i hi
    · exact ⟨orderId, horder⟩
  case attempt =>
    intro id i' hi'
    rw [step_steps]
    rcases hs.lookup_inv hi' with ⟨i, hi, hnext⟩ | ⟨_, _, _, args, -, -, -, rfl, -, hattempt⟩
    · obtain ⟨attemptId, hid, hlt⟩ := hk.attempt id i hi
      refine ⟨attemptId, ?_, Nat.lt_succ_of_lt hlt⟩
      rcases hnext with rfl | ⟨-, status, rfl, -⟩ <;> exact hid
    · exact ⟨_, hattempt, Nat.lt_succ_self _⟩
  case past =>
    intro id i' hi'
    rcases hs.lookup_inv hi' with ⟨i, hi, hnext⟩ | ⟨_, _, _, args, -, -, -, rfl, -, -⟩
    · rcases hnext with rfl | ⟨hf, status, rfl, -⟩
      · exact hk.past id _ hi
      · intro hmem
        rcases List.mem_cons.mp hmem with heq | hmem
        · rw [← heq] at hf
          cases hf
        · exact hk.past id i hi hmem
    · exact List.not_mem_nil
  case single =>
    -- an intent that was there has the attempt of an earlier step
    have hold : ∀ id i', (ledger.step w a).stripe.intents.lookup id = some i' →
        (∃ i, w.stripe.intents.lookup id = some i ∧ i'.metadata = i.metadata) ∨
          id = w.stripe.nextId ∧ i'.metadata.paymentAttemptId = some (w.env.uuid 1) := by
      intro id i' hi'
      rcases hs.lookup_inv hi' with ⟨i, hi, hnext⟩ | ⟨_, _, _, args, -, rfl, -, rfl, -, hattempt⟩
      · refine Or.inl ⟨i, hi, ?_⟩
        rcases hnext with rfl | ⟨-, status, rfl, -⟩ <;> rfl
      · exact Or.inr ⟨rfl, hattempt⟩
    have hne : ∀ id i, w.stripe.intents.lookup id = some i →
        i.metadata.paymentAttemptId ≠ some (w.env.uuid 1) := by
      intro id i hi heq
      obtain ⟨attemptId, hid, hlt⟩ := hk.attempt id i hi
      rw [hid, Option.some.injEq] at heq
      rw [heq] at hlt
      exact absurd hlt (Nat.lt_irrefl _)
    intro id id' i' i'' hi' hi'' heq
    rcases hold id i' hi' with ⟨i, hi, hm⟩ | ⟨hid, hm⟩ <;>
      rcases hold id' i'' hi'' with ⟨j, hj, hm'⟩ | ⟨hid', hm'⟩
    · exact hk.single id id' i j hi hj (hm ▸ hm' ▸ heq)
    · rw [hm, hm'] at heq
      exact absurd heq (hne id i hi)
    · rw [hm, hm'] at heq
      exact absurd heq.symm (hne id' j hj)
    · rw [hid, hid']

/-- The attempts of an order after a step have their intents. -/
theorem World.Linked.attempts_step (h : w.Linked) (hc : w.Honest a) {o' : OrderRecord}
    {q : PaymentWithAttempts} {b : PaymentAttempt}
    (ho' : (ledger.step w a).db.order? k = some o') (hq : o'.payment = some q)
    (hb : b ∈ q.attempts) : (ledger.step w a).AttemptOf k b := by
  have hs := step_intents hc
  have hret := step_returned_subset w a
  have hstable : ∀ b, w.AttemptOf k b → (ledger.step w a).AttemptOf k b := fun b hb =>
    hb.stable h hs hret
  have hold : ∀ o p, w.db.order? k = some o → o.payment = some p → b ∈ p.attempts →
      (ledger.step w a).AttemptOf k b := fun o p ho hp hb => hstable b (h.attempts k o p b ho hp hb)
  by_cases ha : ∃ org orderId auditContext, a = .initiateCardPayment org orderId auditContext
  · obtain ⟨org, orderId, auditContext, rfl⟩ := ha
    cases step_initiateCardPayment stripeAccount w org orderId auditContext with
    | failed hdb hret => exact hold o' q (hdb ▸ ho') hq hb
    | resumed ho hp ha hret' hput hst =>
      rw [hput.order?] at ho'
      split at ho'
      · next hk =>
        cases ho'
        exact hold _ q (hk ▸ ho) hq hb
      · exact hold o' q ho' hq hb
    | created o p paymentIntent clientSecret ho hv hst hp hrefund hpaid hr hans hsecret hret'
        hput =>
      rw [hput.order?] at ho'
      split at ho'
      · next hk =>
        cases ho'
        cases hq
        subst hk
        rcases List.mem_cons.mp hb with rfl | hb
        · -- the new attempt
          obtain ⟨rfl, hacct⟩ := createPaymentIntent_ok hans
          cases hsecret
          refine ⟨⟨StripeAccount.newIntent (cardPaymentArgs k o.organizationId (w.env.uuid 1)
            p.toPayment), ?_, rfl, rfl⟩, rfl, ?_⟩
          · rw [hacct]
            exact AList.lookup_insert _
          · rw [hret']
            exact List.mem_cons_self
        · rcases OrderRecord.payment_or_new hp with hp | hnew
          · exact hold _ _ ho hp hb
          · rw [hnew.attempts_eq] at hb
            cases hb
      · exact hold o' q ho' hq hb
  · rcases step_order_inv ho' with ho | ⟨-, _, _, _, _, _, rfl⟩ | ⟨o, rows, ho, hch⟩
    · exact hold o' q ho hq hb
    · cases hq
    · rcases hch.attempts hq hb with ⟨p, c, hp, hmem, hsame⟩ | ⟨org, auditContext, heq⟩
      · exact (hstable c (h.attempts k o p c ho hp hmem)).same hsame
      · exact absurd ⟨org, k, auditContext, heq⟩ ha

/-- What the calls after a step keep about intents is true. -/
theorem World.Linked.calls_step (h : w.Linked) (hc : w.Honest a) {call : InFlight}
    (hcall : (ledger.step w a).calls.lookup k = some call) : (ledger.step w a).CallLinked call := by
  have hs := step_intents hc
  have hret := step_returned_subset w a
  cases step_calls hcall with
  | kept hcall => exact (h.calls _ _ hcall).stable h hs hret
  | confirmStarted ho hp ha =>
    rcases OrderRecord.payment_or_new hp with hp | hnew
    · exact (h.attempts _ _ _ _ ho hp (List.mem_of_mem_head? ha)).stable h hs hret
    · rw [hnew.attempts_eq] at ha
      cases ha
  | confirmRetrieved hlookup hans =>
    have hattempt : w.AttemptOf _ _ := h.calls _ _ hlookup
    obtain ⟨i, hi, horder, -⟩ := hattempt.intent
    obtain ⟨j, hj, rfl⟩ := retrievePaymentIntent_ok hans
    obtain rfl := Option.some.inj (hi.symm.trans hj)
    exact World.SnapshotOf.stable ⟨StripeAccount.had_snapshot hi, horder⟩ h hs
  | cashStarted ho htarget => trivial
  | cardStarted ho htarget => trivial
  | requested hcall => trivial
  | answered hcall hans => trivial
  | refused hcall => trivial

theorem World.Linked.step (h : w.Linked) (hc : w.Honest a) : (ledger.step w a).Linked where
  intents := World.IntentsKnown.step h hc
  attempts _ _ _ _ ho' hq hb := h.attempts_step hc ho' hq hb
  calls _ _ hcall := h.calls_step hc hcall

theorem linked_init : (World.init StripeAccount.empty).Linked where
  intents :=
    { fresh := fun _ _ h => by cases h
      secrets := fun _ h => by cases h
      order := fun _ _ h => by cases h
      attempt := fun _ _ h => by cases h
      past := fun _ _ h => by cases h
      single := fun _ _ _ _ h => by cases h }
  attempts := fun _ _ _ _ h => by cases h
  calls := fun _ _ h => by cases h

/-- **In every honest run the attempts point at intents that were created for them.** -/
theorem linked_run {as : List (Action StripeMove)}
    (h : ledger.Meets World.Honest (World.init .empty) as) :
    (ledger.run (World.init .empty) as).Linked :=
  Machine.run_invariant (fun _ _ hw hc => hw.step hc) linked_init h

/-- An intent that was said to have succeeded has succeeded. -/
theorem World.SnapshotOf.succeeded {paymentIntent : StripePaymentIntent}
    (hp : w.SnapshotOf k paymentIntent) (h : w.Linked) (hpaid : paymentIntent.status = .succeeded) :
    ∃ i, w.stripe.intents.lookup paymentIntent.id = some i ∧ i.status = .succeeded ∧
      i.metadata.orderId = some k := by
  obtain ⟨i, hi, hmeta, -, hstatus⟩ := StripeAccount.had_iff.mp hp.had
  rw [hpaid] at hstatus
  rcases hstatus with hnow | hpast
  · exact ⟨i, hi, hnow.symm, hmeta ▸ hp.order⟩
  · exact absurd hpast (h.intents.past _ i hi)

/-- **A payment is only told of a success of an intent of its order.** -/
theorem World.Linked.sync (h : w.Linked) (hc : w.Honest a) {y : IntentSync}
    (hsync : w.intentSync? stripeAccount a = some y) (hpaid : y.paymentIntent.status = .succeeded) :
    ∃ i, w.stripe.intents.lookup y.paymentIntent.id = some i ∧ i.status = .succeeded ∧
      i.metadata.orderId = some y.orderId := by
  cases intentSync?_from hsync with
  | cancelled ho hp hs hr hans =>
    have hmem := List.mem_of_mem_head? (getReusableAttempt_eq_some.mp hr).1
    obtain ⟨i, hi, horder, -⟩ := (h.attempts _ _ _ _ ho hp hmem).intent
    rcases w.stripe.cancelOrRetrieve_cases y.attempt.stripePaymentIntentId with
      ⟨e, he⟩ | ⟨j, hj, he⟩ | ⟨j, hj, hf, he⟩
    · rw [he] at hans
      cases hans
    · rw [he] at hans
      obtain rfl := Option.some.inj (hi.symm.trans hj)
      have heq := Except.ok.inj hans
      rw [← heq] at hpaid ⊢
      exact ⟨i, hi, hpaid, horder⟩
    · -- a cancelled intent has not succeeded
      rw [he] at hans
      rw [← Except.ok.inj hans] at hpaid
      cases hpaid
  | confirmed ho hp hcall hf =>
    exact World.SnapshotOf.succeeded (h.calls _ _ hcall) h hpaid
  | @received _ _ attempt ho hp ha htest hf =>
    obtain ⟨i, hi, hmeta, -⟩ := StripeAccount.had_iff.mp hc
    obtain ⟨j, hj, horder, hattempt⟩ := (h.attempts _ _ _ _ ho hp ha).intent
    have hid : y.paymentIntent.id = attempt.stripePaymentIntentId := by
      rcases Bool.or_eq_true_iff.mp htest with hintent | hmetadata
      · exact (beq_iff_eq.mp hintent).symm
      · rw [beq_iff_eq, hmeta] at hmetadata
        exact h.intents.single _ _ i j hi hj (hmetadata.trans hattempt.symm)
    rw [hid] at hi
    obtain rfl := Option.some.inj (hi.symm.trans hj)
    exact World.SnapshotOf.succeeded ⟨hc, hmeta ▸ horder⟩ h hpaid

end

end LedgerLight
