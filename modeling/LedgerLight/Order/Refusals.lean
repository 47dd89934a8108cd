import LedgerLight.Infra.Failures
import LedgerLight.Order.Spec

/-!
# When a transition is refused

`transitionStatus` on an order that the member sees, in every case: which orders its guards let
through, and what can still stop one that they do.

* `OrderRecord.CanMove` : the guards, as a condition on the order.
* `transitionStatus_failsWith` : it fails with a Bad Request before it calls Stripe or writes, on an
  order that cannot move, and with Stripe's error on one that can.
-/

namespace LedgerLight

open Infra

/-- Neither paid nor being refunded nor refunded. -/
structure PaymentWithAttempts.Open (p : PaymentWithAttempts) : Prop where
  paymentStatus : p.paymentStatus ≠ .paid
  refundStatus : p.refundStatus = .none ∨ p.refundStatus = .failed

/-- The guards of `transitionStatus` let the order go on to a status. -/
def OrderRecord.CanMove (env : Env) (o : OrderRecord) : OrderStatus → Prop
  | .confirmed => o.status = .pending
  | .fulfilled => o.status = .confirmed ∧ ∃ p, o.paymentOrLegacy env = some p ∧
      p.paymentStatus = .paid ∧ p.refundStatus = .none
  | .cancelled => o.status = .pending ∨ o.status = .confirmed ∧
      ∃ p, o.paymentOrLegacy env = some p ∧ p.Open
  | .pending => o.status = .cancelled ∧ ∀ p, o.paymentOrLegacy env = some p → p.Open

section

variable {S M : Type} {stripe : StripeService S M} {env : Env} {db db' : Database} {s s' : S}
  {orderId organizationId paymentId : Id} {org : CurrentOrg} {o o' : OrderRecord} {p : PaymentWithAttempts}
  {auditContext : AuditContext} {rows : List (Id × AuditAction)} {toStatus : OrderStatus}
  {E : AppError → S → Prop}

theorem Transition.canMove (h : Transition stripe env o s toStatus o' rows s') :
    o.CanMove env toStatus := by
  cases h with
  | confirmed hs hp => exact hs
  | fulfilled hs hp hpaid hrefund => exact ⟨hs, _, hp, hpaid, hrefund⟩
  | cancelledPending hs => exact Or.inl hs
  | cancelledConfirmed hs hp hpaid hrefund hr => exact Or.inr ⟨hs, _, hp, hpaid, hrefund⟩
  | cancelledSynced hs hp hpaid hrefund hr hans =>
    exact Or.inr ⟨hs, _, OrderRecord.paymentOrLegacy_of_payment hp, hpaid, hrefund⟩
  | reopenedUnpaid hs hp => exact ⟨hs, fun p hp' => by rw [hp] at hp'; cases hp'⟩
  | reopened hs hp hpaid hrefund hans =>
    refine ⟨hs, fun p hp' => ?_⟩
    rw [hp] at hp'
    cases hp'
    exact ⟨hpaid, hrefund⟩

theorem PaymentWithAttempts.open_iff :
    p.Open ↔ ¬ (p.paymentStatus = .paid ∨ p.refundStatus = .refunded) ∧
      p.refundStatus ∉ activeRefundStatuses := by
  constructor
  · rintro ⟨hpaid, hrefund⟩
    unfold activeRefundStatuses
    rcases hrefund with h | h <;> simp [h, hpaid]
  · rintro ⟨hpaid, hactive⟩
    obtain ⟨hunpaid, hrefund⟩ := refundStatus_of_guards hpaid hactive
    exact ⟨hunpaid, hrefund⟩

/-! ## Statements that do not fail -/

theorem orderUpdate_failsWith {f : OrderRecord → OrderRecord} (ho : db.order? orderId = some o)
    (hi : o.organizationId = organizationId) :
    (orderUpdate env orderId organizationId f).FailsWith db s E :=
  Prog.failsWith_of_ok (orderUpdate_ok.mpr ⟨o, ho, hi, rfl, rfl, rfl⟩)

theorem writePaymentAuditLogTx_failsWith {payment : Payment} {action : AuditAction}
    {beforeJson afterJson : Option AuditJson} :
    (writePaymentAuditLogTx payment action beforeJson afterJson auditContext).FailsWith db s E :=
  Prog.failsWith_of_ok (a := ()) (auditLogCreate_ok.mpr ⟨rfl, rfl⟩)

theorem paymentWrite_failsWith {locked : List RowKey} {f : PaymentWithAttempts → PaymentWithAttempts}
    (ho : db.order? orderId = some o) (hp : o.payment = some p) (hid : p.id = paymentId) :
    (paymentWrite locked orderId paymentId (fun _ => false) f).FailsWith db s E :=
  Prog.failsWith_of_ok (paymentWrite_ok.mpr ⟨o, p, ho, hp, hid, rfl, rfl, rfl, rfl⟩)

theorem getPaymentByIdTx_failsWith (ho : db.order? orderId = some o) (hp : o.payment = some p)
    (hid : p.id = paymentId) : (getPaymentByIdTx orderId paymentId).FailsWith db s E :=
  Prog.failsWith_of_ok (getPaymentByIdTx_ok.mpr ⟨⟨o, ho, hp, hid⟩, rfl, rfl⟩)

theorem ensureTransitionPaymentTx_failsWith (ho : db.order? orderId = some o) :
    (ensureTransitionPaymentTx env orderId o).FailsWith db s E := by
  unfold ensureTransitionPaymentTx
  cases hp : o.payment with
  | some p =>
    exact Prog.failsWith_of_ok
      (Prog.run_map_ok.mpr ⟨p, rfl, getPaymentByIdTx_ok.mpr ⟨⟨o, ho, hp, rfl⟩, rfl, rfl⟩⟩)
  | none =>
    refine Prog.FailsWith.after ((paymentFindByOrder_ok ho).mpr ⟨rfl, rfl, rfl⟩) ?_
    rw [hp]
    dsimp only
    split
    · exact Prog.failsWith_of_ok (Prog.run_pure_ok.mpr ⟨rfl, rfl, rfl⟩)
    · exact Prog.failsWith_of_ok
        (Prog.run_map_ok.mpr ⟨_, rfl, paymentCreate_ok.mpr ⟨o, ho, hp, rfl, rfl, rfl⟩⟩)

theorem createPaymentForConfirmedOrderTx_failsWith {amountCents : Int} {orderCreatedAt : Date}
    (ho : db.order? orderId = some o) :
    (createPaymentForConfirmedOrderTx env orderId organizationId amountCents orderCreatedAt
      auditContext).FailsWith db s E := by
  refine Prog.FailsWith.after ((paymentFindByOrder_ok ho).mpr ⟨rfl, rfl, rfl⟩) ?_
  cases hp : o.payment with
  | some q => exact Prog.failsWith_of_ok (Prog.run_pure_ok.mpr ⟨rfl, rfl, rfl⟩)
  | none =>
    refine Prog.FailsWith.after (paymentCreate_ok.mpr ⟨o, ho, hp, rfl, rfl, rfl⟩) ?_
    refine Prog.FailsWith.bind writePaymentAuditLogTx_failsWith fun _ _ _ _ => ?_
    exact Prog.failsWith_of_ok (Prog.run_pure_ok.mpr ⟨rfl, rfl, rfl⟩)

theorem withSyncedAttempt_id {attempt : PaymentAttempt} {next : PaymentTransitionResult} :
    (withSyncedAttempt env p attempt next).id = p.id := by
  unfold withSyncedAttempt
  split <;> rfl

theorem applyPaymentIntentStateTx_failsWith {attempt : PaymentAttempt}
    {paymentIntent : StripePaymentIntent} (ho : db.order? orderId = some o)
    (hp : o.payment = some p) :
    (applyPaymentIntentStateTx env orderId p attempt paymentIntent auditContext).FailsWith db s
      E := by
  unfold applyPaymentIntentStateTx
  dsimp only
  split
  · exact Prog.failsWith_of_ok (Prog.run_pure_ok.mpr ⟨rfl, rfl, rfl⟩)
  · refine Prog.FailsWith.bind (Prog.failsWith_doWhen fun _ => ?_) fun u d₁ s₁ hattempt => ?_
    · refine Prog.FailsWith.bind (paymentWrite_failsWith ho hp rfl) fun _ _ _ _ => ?_
      exact Prog.failsWith_of_ok (Prog.run_pure_ok.mpr ⟨rfl, rfl, rfl⟩)
    · obtain ⟨hput, rfl⟩ := withSyncedAttempt_put (Database.Puts.refl ho) hp hattempt
      refine Prog.FailsWith.bind
        (paymentWrite_failsWith hput.order?_self rfl withSyncedAttempt_id) fun _ _ _ _ => ?_
      split
      · split
        · refine Prog.FailsWith.bind writePaymentAuditLogTx_failsWith fun _ _ _ _ => ?_
          exact Prog.failsWith_of_ok (Prog.run_pure_ok.mpr ⟨rfl, rfl, rfl⟩)
        · exact Prog.failsWith_of_ok (Prog.run_pure_ok.mpr ⟨rfl, rfl, rfl⟩)
      · exact Prog.failsWith_of_ok (Prog.run_pure_ok.mpr ⟨rfl, rfl, rfl⟩)

/-! ## Transitions -/

/-- What can stop a transition of the order `o`: its guards, before anything is written or Stripe is
called, or Stripe, which neither cancels nor shows the intent of the attempt in progress. -/
def TransitionFails (stripe : StripeService S M) (env : Env) (o : OrderRecord) (s : S)
    (toStatus : OrderStatus) (e : AppError) (s' : S) : Prop :=
  (¬ o.CanMove env toStatus ∧ s' = s ∧ ∃ message, e = .badRequest message) ∨
    o.CanMove env toStatus ∧ ∃ p attempt, o.payment = some p ∧
      getReusableAttempt p = some attempt ∧
      stripe.cancelOrRetrieve attempt.stripePaymentIntentId s = (.error e, s')

/-- A guard that fails. -/
theorem TransitionFails.guard {message : String} (h : ¬ o.CanMove env toStatus) :
    TransitionFails stripe env o s toStatus (.badRequest message) s :=
  Or.inl ⟨h, rfl, message, rfl⟩

theorem cancelPaymentIntentForSync_failsWith {attempt : PaymentAttempt}
    (hmove : o.CanMove env toStatus) (hp : o.paymentOrLegacy env = some p)
    (hr : getReusableAttempt p = some attempt) :
    (cancelPaymentIntentForSync stripe attempt.stripePaymentIntentId).FailsWith db s
      (TransitionFails stripe env o s toStatus) := by
  refine Prog.failsWith_invoke fun e he => Or.inr ⟨hmove, p, attempt, ?_, hr, Prod.ext he rfl⟩
  exact OrderRecord.payment_of_reusable hp hr

theorem cancelActiveCardAttemptTx_failsWith (hmove : o.CanMove env toStatus)
    (hp : o.paymentOrLegacy env = some p) (ho : db.order? orderId = some o')
    (hp' : o'.payment = some p) :
    (cancelActiveCardAttemptTx stripe env orderId p.id auditContext).FailsWith db s
      (TransitionFails stripe env o s toStatus) := by
  refine Prog.FailsWith.after (getPaymentByIdTx_ok.mpr ⟨⟨o', ho, hp', rfl⟩, rfl, rfl⟩) ?_
  cases hr : getReusableAttempt p with
  | none => exact Prog.failsWith_of_ok (Prog.run_pure_ok.mpr ⟨rfl, rfl, rfl⟩)
  | some attempt =>
    dsimp only
    refine Prog.FailsWith.bind (cancelPaymentIntentForSync_failsWith hmove hp hr)
      fun paymentIntent d₁ s₁ hcancel => ?_
    obtain ⟨-, rfl, rfl⟩ := Prog.run_invoke_ok.mp hcancel
    refine Prog.FailsWith.bind (applyPaymentIntentStateTx_failsWith ho hp')
      fun dto d₂ s₂ happly => ?_
    obtain ⟨-, hput, rfl⟩ := applyPaymentIntentStateTx_ok (Database.Puts.refl ho) hp' happly
    exact getPaymentByIdTx_failsWith hput.order?_self rfl (syncedPayment_id ..)

theorem cancelReusableAttempt_failsWith (hmove : o.CanMove env toStatus)
    (hp : o.paymentOrLegacy env = some p) :
    (cancelReusableAttempt stripe (getReusableAttempt p)).FailsWith db s
      (TransitionFails stripe env o s toStatus) := by
  cases hr : getReusableAttempt p with
  | none => exact Prog.failsWith_of_ok (Prog.run_pure_ok.mpr ⟨rfl, rfl, rfl⟩)
  | some attempt =>
    refine Prog.FailsWith.bind (cancelPaymentIntentForSync_failsWith hmove hp hr)
      fun _ _ _ _ => ?_
    exact Prog.failsWith_of_ok (Prog.run_pure_ok.mpr ⟨rfl, rfl, rfl⟩)

theorem cancelReusableAttempt_db {attempt? : Option PaymentAttempt} {u : Unit}
    (h : (cancelReusableAttempt stripe attempt?).run db s = (.ok (u, db'), s')) : db' = db := by
  cases attempt? with
  | none => exact (Prog.run_pure_ok.mp h).2.1
  | some attempt =>
    obtain ⟨paymentIntent, d₁, s₁, hinvoke, hdone⟩ := Prog.run_bind_ok.mp h
    obtain ⟨-, rfl, -⟩ := Prog.run_invoke_ok.mp hinvoke
    exact (Prog.run_pure_ok.mp hdone).2.1

theorem deletePaymentForReopenTx_failsWith (hmove : o.CanMove env toStatus)
    (hp : o.paymentOrLegacy env = some p) (ho : db.order? orderId = some o')
    (hp' : o'.payment = some p) :
    (deletePaymentForReopenTx stripe orderId p.id auditContext).FailsWith db s
      (TransitionFails stripe env o s toStatus) := by
  refine Prog.FailsWith.after (getPaymentByIdTx_ok.mpr ⟨⟨o', ho, hp', rfl⟩, rfl, rfl⟩) ?_
  refine Prog.FailsWith.bind (cancelReusableAttempt_failsWith hmove hp) fun u d₁ s₁ hcancel => ?_
  obtain rfl := cancelReusableAttempt_db hcancel
  refine Prog.FailsWith.after
    (paymentWrite_ok.mpr ⟨o', p, ho, hp', rfl, rfl, rfl, rfl, rfl⟩) ?_
  refine Prog.FailsWith.after (a := ())
    (paymentDelete_ok.mpr ⟨_, _, Database.order?_setOrder_self .., rfl, rfl, rfl, rfl⟩) ?_
  exact writePaymentAuditLogTx_failsWith

theorem transitionConfirmed_failsWith (ho : db.order? orderId = some o) :
    (transitionConfirmed env orderId o auditContext).FailsWith db s E := by
  refine Prog.FailsWith.bind (orderUpdate_failsWith ho rfl) fun o₁ d₁ s₁ hupdate => ?_
  obtain ⟨-, rfl, hput, rfl⟩ := orderUpdate_put (Database.Puts.refl ho) hupdate
  refine Prog.FailsWith.bind (createPaymentForConfirmedOrderTx_failsWith hput.order?_self)
    fun _ _ _ _ => ?_
  exact Prog.failsWith_of_ok (Prog.run_pure_ok.mpr ⟨rfl, rfl, rfl⟩)

theorem transitionFulfilled_failsWith (ho : db.order? orderId = some o)
    (hs : o.status = .confirmed) :
    (transitionFulfilled env orderId o).FailsWith db s
      (TransitionFails stripe env o s .fulfilled) := by
  refine Prog.FailsWith.bind (ensureTransitionPaymentTx_failsWith ho)
    fun payment? d₁ s₁ hpayment => ?_
  obtain ⟨rfl, hput, rfl⟩ := ensureTransitionPaymentTx_ok ho hpayment
  obtain ⟨p, hp⟩ := OrderRecord.paymentOrLegacy_isSome_of_confirmed env hs
  rw [hp]
  refine Prog.FailsWith.bind (Prog.failsWith_require fun hunpaid => .guard ?_)
    fun u d₂ s₂ hguard => ?_
  · rintro ⟨-, q, hq, hpaid⟩
    rw [hp] at hq
    cases hq
    exact hunpaid hpaid
  · obtain ⟨-, rfl, rfl⟩ := Prog.run_require_ok.mp hguard
    refine Prog.FailsWith.bind (orderUpdate_failsWith hput.order?_self rfl) fun _ _ _ _ => ?_
    exact Prog.failsWith_of_ok (Prog.run_pure_ok.mpr ⟨rfl, rfl, rfl⟩)

theorem retirePaymentTx_order {u : Unit} (ho : db.order? orderId = some o)
    (hc : o.status = .confirmed)
    (h : (retirePaymentTx stripe env orderId o auditContext).run db s = (.ok (u, db'), s')) :
    ∃ o', db'.order? orderId = some o' ∧ o'.organizationId = o.organizationId := by
  obtain ⟨payment?, d₁, s₁, run_payment, h₁⟩ := Prog.run_bind_ok.mp h
  obtain ⟨rfl, hput, rfl⟩ := ensureTransitionPaymentTx_ok ho run_payment
  obtain ⟨p, hp⟩ := OrderRecord.paymentOrLegacy_isSome_of_confirmed env hc
  simp only [hp] at h₁
  obtain ⟨u₂, d₂, s₂, run_paid, h₂⟩ := Prog.run_bind_ok.mp h₁
  obtain ⟨-, rfl, rfl⟩ := Prog.run_require_ok.mp run_paid
  obtain ⟨u₃, d₃, s₃, run_active, h₃⟩ := Prog.run_bind_ok.mp h₂
  obtain ⟨-, rfl, rfl⟩ := Prog.run_require_ok.mp run_active
  obtain ⟨q, d₄, s₄, run_cancel, h₄⟩ := Prog.run_bind_ok.mp h₃
  obtain ⟨-, rfl, rfl⟩ := Prog.run_pure_ok.mp h₄
  rcases cancelActiveCardAttemptTx_ok hput hp run_cancel with
    ⟨-, hput', -⟩ | ⟨attempt, paymentIntent, -, -, hput'⟩
  · exact ⟨_, hput'.order?_self, rfl⟩
  · exact ⟨_, hput'.order?_self, rfl⟩

theorem transitionCancelled_failsWith (ho : db.order? orderId = some o) :
    (transitionCancelled stripe env orderId o auditContext).FailsWith db s
      (TransitionFails stripe env o s .cancelled) := by
  refine Prog.FailsWith.bind (Prog.failsWith_doWhen fun hc => ?_) fun u d₁ s₁ hretire => ?_
  · refine Prog.FailsWith.bind (ensureTransitionPaymentTx_failsWith ho)
      fun payment? d₂ s₂ hpayment => ?_
    obtain ⟨rfl, hput, rfl⟩ := ensureTransitionPaymentTx_ok ho hpayment
    obtain ⟨p, hp⟩ := OrderRecord.paymentOrLegacy_isSome_of_confirmed env hc
    have hclosed (h : ¬ p.Open) : ¬ o.CanMove env .cancelled := by
      rintro (hpending | ⟨-, q, hq, hopen⟩)
      · rw [hc] at hpending
        cases hpending
      · rw [hp] at hq
        cases hq
        exact h hopen
    rw [hp]
    refine Prog.FailsWith.bind (Prog.failsWith_require fun hpaid => .guard ?_)
      fun u₃ d₃ s₃ hguard => ?_
    · exact hclosed fun hopen => hpaid (PaymentWithAttempts.open_iff.mp hopen).1
    obtain ⟨hpaid, rfl, rfl⟩ := Prog.run_require_ok.mp hguard
    refine Prog.FailsWith.bind (Prog.failsWith_require fun hactive => .guard ?_)
      fun u₄ d₄ s₄ hguard' => ?_
    · exact hclosed fun hopen => hactive (PaymentWithAttempts.open_iff.mp hopen).2
    obtain ⟨hactive, rfl, rfl⟩ := Prog.run_require_ok.mp hguard'
    have hopen := PaymentWithAttempts.open_iff.mpr ⟨hpaid, hactive⟩
    refine Prog.FailsWith.bind (cancelActiveCardAttemptTx_failsWith (Or.inr ⟨hc, p, hp, hopen⟩) hp
      hput.order?_self hp) fun _ _ _ _ => ?_
    exact Prog.failsWith_of_ok (Prog.run_pure_ok.mpr ⟨rfl, rfl, rfl⟩)
  · have ho₁ : ∃ o', d₁.order? orderId = some o' ∧ o'.organizationId = o.organizationId := by
      rcases Prog.run_doWhen_ok.mp hretire with ⟨hc, hretire⟩ | ⟨-, rfl, -⟩
      · exact retirePaymentTx_order ho hc hretire
      · exact ⟨o, ho, rfl⟩
    obtain ⟨o', ho', hi⟩ := ho₁
    refine Prog.FailsWith.bind (orderUpdate_failsWith ho' hi) fun _ _ _ _ => ?_
    exact Prog.failsWith_of_ok (Prog.run_pure_ok.mpr ⟨rfl, rfl, rfl⟩)

theorem transitionPending_failsWith (ho : db.order? orderId = some o)
    (hs : o.status = .cancelled) :
    (transitionPending stripe env orderId o auditContext).FailsWith db s
      (TransitionFails stripe env o s .pending) := by
  refine Prog.FailsWith.bind ?_ fun u d₁ s₁ hvoid => ?_
  · refine Prog.FailsWith.bind (ensureTransitionPaymentTx_failsWith ho)
      fun payment? d₂ s₂ hpayment => ?_
    obtain ⟨rfl, hput, rfl⟩ := ensureTransitionPaymentTx_ok ho hpayment
    cases hp : o.paymentOrLegacy env with
    | none => exact Prog.failsWith_of_ok (Prog.run_pure_ok.mpr ⟨rfl, rfl, rfl⟩)
    | some p =>
      refine Prog.FailsWith.bind (Prog.failsWith_require fun hpaid => .guard ?_)
        fun u₃ d₃ s₃ hguard => ?_
      · exact fun hmove => hpaid (PaymentWithAttempts.open_iff.mp (hmove.2 p hp)).1
      obtain ⟨hpaid, rfl, rfl⟩ := Prog.run_require_ok.mp hguard
      refine Prog.FailsWith.bind (Prog.failsWith_require fun hactive => .guard ?_)
        fun u₄ d₄ s₄ hguard' => ?_
      · exact fun hmove => hactive (PaymentWithAttempts.open_iff.mp (hmove.2 p hp)).2
      obtain ⟨hactive, rfl, rfl⟩ := Prog.run_require_ok.mp hguard'
      have hmove : o.CanMove env .pending := by
        refine ⟨hs, fun q hq => ?_⟩
        rw [hp] at hq
        cases hq
        exact PaymentWithAttempts.open_iff.mpr ⟨hpaid, hactive⟩
      exact deletePaymentForReopenTx_failsWith hmove hp hput.order?_self hp
  · obtain ⟨payment?, d₂, s₂, hpayment, h₁⟩ := Prog.run_bind_ok.mp hvoid
    obtain ⟨rfl, hput, rfl⟩ := ensureTransitionPaymentTx_ok ho hpayment
    have ho₁ : ∃ o', d₁.order? orderId = some o' ∧ o'.organizationId = o.organizationId := by
      cases hp : o.paymentOrLegacy env with
      | none =>
        simp only [hp] at h₁
        obtain ⟨-, rfl, -⟩ := Prog.run_pure_ok.mp h₁
        exact ⟨_, hput.order?_self, rfl⟩
      | some p =>
        simp only [hp] at h₁
        obtain ⟨u₃, d₃, s₃, run_paid, h₃⟩ := Prog.run_bind_ok.mp h₁
        obtain ⟨-, rfl, rfl⟩ := Prog.run_require_ok.mp run_paid
        obtain ⟨u₄, d₄, s₄, run_active, h₄⟩ := Prog.run_bind_ok.mp h₃
        obtain ⟨-, rfl, rfl⟩ := Prog.run_require_ok.mp run_active
        obtain ⟨hput', -⟩ := deletePaymentForReopenTx_ok hput hp h₄
        exact ⟨_, hput'.order?_self, rfl⟩
    obtain ⟨o', ho', hi⟩ := ho₁
    refine Prog.FailsWith.bind (orderUpdate_failsWith ho' hi) fun _ _ _ _ => ?_
    exact Prog.failsWith_of_ok (Prog.run_pure_ok.mpr ⟨rfl, rfl, rfl⟩)

theorem OrderRecord.CanMove.allowed (h : o.CanMove env toStatus) :
    toStatus ∈ allowedTransitions o.status := by
  cases toStatus with
  | confirmed => rw [h]; decide
  | fulfilled => rw [h.1]; decide
  | cancelled => rcases h with h | ⟨h, -⟩ <;> rw [h] <;> decide
  | pending => rw [h.1]; decide

theorem transitionTo_failsWith (ho : db.order? orderId = some o)
    (hallowed : toStatus ∈ allowedTransitions o.status) :
    (transitionTo stripe env orderId o auditContext toStatus).FailsWith db s
      (TransitionFails stripe env o s toStatus) := by
  cases toStatus with
  | confirmed => exact transitionConfirmed_failsWith ho
  | fulfilled =>
    refine transitionFulfilled_failsWith ho ?_
    cases hs : o.status <;> simp_all [allowedTransitions]
  | cancelled => exact transitionCancelled_failsWith ho
  | pending =>
    refine transitionPending_failsWith ho ?_
    cases hs : o.status <;> simp_all [allowedTransitions]

/-- A member who sees an order still sees it after a transition. -/
theorem Transition.visible (h : Transition stripe env o s toStatus o' rows s')
    (hv : o.visibleTo org = true) : o'.visibleTo org = true := by
  cases h <;> exact hv

theorem transitionStatus_failsWith (ho : db.order? orderId = some o)
    (hv : o.visibleTo org = true) :
    (transitionStatus stripe env org orderId toStatus auditContext).FailsWith db s
      (TransitionFails stripe env o s toStatus) := by
  have hfound : (db.order? orderId).filter (·.visibleTo org) = some o := by
    rw [ho, Option.filter_some_pos hv]
  refine Prog.FailsWith.after (orderFindFirst_ok.mpr ⟨hfound.symm, rfl, rfl⟩) ?_
  refine Prog.FailsWith.bind
    (Prog.failsWith_require fun hdenied => .guard fun hmove => hdenied hmove.allowed)
    fun u d₁ s₁ hguard => ?_
  obtain ⟨hallowed, rfl, rfl⟩ := Prog.run_require_ok.mp hguard
  refine Prog.FailsWith.bind (transitionTo_failsWith ho hallowed) fun u d₂ s₂ hswitch => ?_
  obtain ⟨o', rows, htrans, hput⟩ := transitionTo_ok ho hallowed hswitch
  have hagain : (d₂.order? orderId).filter (·.visibleTo org) = some o' := by
    rw [hput.order?_self, Option.filter_some_pos (htrans.visible hv)]
  refine Prog.FailsWith.after (orderFindFirst_ok.mpr ⟨hagain.symm, rfl, rfl⟩) ?_
  exact Prog.failsWith_of_ok (Prog.run_pure_ok.mpr ⟨rfl, rfl, rfl⟩)

/-- A transition that an order's guards let through succeeds unless Stripe stops it. -/
theorem transitionStatus_of_canMove (ho : db.order? orderId = some o)
    (hv : o.visibleTo org = true) (hmove : o.CanMove env toStatus) :
    (∃ o' db' s', (transitionStatus stripe env org orderId toStatus auditContext).run db s =
        (.ok (o', db'), s')) ∨
      ∃ e s' p attempt, (transitionStatus stripe env org orderId toStatus auditContext).run db s =
          (.error e, s') ∧ o.payment = some p ∧ getReusableAttempt p = some attempt ∧
        stripe.cancelOrRetrieve attempt.stripePaymentIntentId s = (.error e, s') := by
  rcases (transitionStatus_failsWith ho hv).ends with hok | ⟨e, s', hrun, hfails⟩
  · exact Or.inl hok
  · rcases hfails with ⟨hno, -⟩ | ⟨-, p, attempt, hp, hr, hstripe⟩
    · exact absurd hmove hno
    · exact Or.inr ⟨e, s', p, attempt, hrun, hp, hr, hstripe⟩

/-- A transition that an order's guards refuse changes nothing. -/
theorem transitionStatus_of_not_canMove (ho : db.order? orderId = some o)
    (hv : o.visibleTo org = true) (hmove : ¬ o.CanMove env toStatus) :
    ∃ message, (transitionStatus stripe env org orderId toStatus auditContext).run db s =
      (.error (.badRequest message), s) := by
  have h : (transitionStatus stripe env org orderId toStatus auditContext).FailsWith db s
      (TransitionFails stripe env o s toStatus) := transitionStatus_failsWith ho hv
  rcases h.ends with ⟨o', db', s', hok⟩ | ⟨e, s', hrun, hfails⟩
  · obtain ⟨o₁, rows, ho₁, -, htrans, -⟩ := transitionStatus_ok hok
    obtain rfl := Option.some.inj (ho.symm.trans ho₁)
    exact absurd htrans.canMove hmove
  · rcases hfails with ⟨-, rfl, message, rfl⟩ | ⟨hyes, -⟩
    · exact ⟨message, hrun⟩
    · exact absurd hyes hmove

end

end LedgerLight
