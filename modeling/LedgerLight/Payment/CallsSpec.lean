import LedgerLight.Payment.Calls
import LedgerLight.Payment.Spec

/-!
# What confirmations, refunds and webhooks do

The lemmas of `LedgerLight.Payment.Spec` for the functions of `LedgerLight.Payment.Calls`.
-/

namespace LedgerLight

open Infra

/-! ## Rows before and after -/

/-- The payment after `markRefundRequestedTx`. -/
def requestedPayment (env : Env) (refundReason : String) (p : PaymentWithAttempts) :
    PaymentWithAttempts :=
  Payment.updated env (refundRequested env refundReason) p

/-- The audit rows of `markRefundRequestedTx`. -/
def requestedRows (p : PaymentWithAttempts) : List (Id × AuditAction) :=
  if p.refundStatus = .requested then [] else [(p.id, .paymentRefundRequested)]

/-- The payment after the transaction of a cash refund. -/
def cashRefundedPayment (env : Env) (refundReason : String) (p : PaymentWithAttempts) :
    PaymentWithAttempts :=
  Payment.updated env (cashRefunded env) (requestedPayment env refundReason p)

/-- The attempt a PaymentIntent event is about, with its order and payment. -/
def Database.webhookAttempt? (db : Database) (paymentIntent : StripePaymentIntent) :
    Option (Id × PaymentWithAttempts × PaymentAttempt) :=
  (db.findAttempt? (attemptOfIntent paymentIntent)).bind fun found =>
    (freshAttempt? found.2.1 found.2.2.id).map fun attempt => (found.1, found.2.1, attempt)

section

variable {S M : Type} {env : Env} {db db' : Database} {s s' : S} {orderId paymentId : Id}
  {org : CurrentOrg} {o : OrderRecord} {p q : PaymentWithAttempts} {r : Option PaymentWithAttempts}
  {auditContext : AuditContext} {rows : List (Id × AuditAction)}

/-! ## confirmCardPayment -/

theorem confirmCardPaymentTarget_ok {a : PaymentAttempt} :
    confirmCardPaymentTarget r = .ok (p, a) ↔ r = some p ∧ p.attempts.head? = some a := by
  unfold confirmCardPaymentTarget
  cases r with
  | none => simp
  | some q => cases ha : q.attempts.head? <;> grind

theorem confirmCardPaymentApply_ok {attemptId : Id} {paymentIntent : StripePaymentIntent}
    {dto : PaymentDto}
    (h : (confirmCardPaymentApply env orderId paymentId attemptId paymentIntent
      auditContext).run db s = (.ok (dto, db'), s')) :
    ∃ o p attempt, db.order? orderId = some o ∧ o.payment = some p ∧ p.id = paymentId ∧
      freshAttempt? p attemptId = some attempt ∧
      db.Puts orderId { o with payment := some (syncedPayment env p attempt paymentIntent) }
        (syncedRows env p paymentIntent) db' ∧ s' = s := by
  obtain ⟨p, d, t, hget, h₁⟩ := Prog.run_bind_ok.mp h
  obtain ⟨⟨o, ho, hp, hid⟩, rfl, rfl⟩ := getPaymentByIdTx_ok.mp hget
  cases hf : freshAttempt? p attemptId with
  | none => simp only [hf] at h₁; exact (Prog.run_fail_ok.mp h₁).elim
  | some attempt =>
    simp only [hf] at h₁
    obtain ⟨-, hput, rfl⟩ := applyPaymentIntentStateTx_ok (Database.Puts.refl ho) hp h₁
    rw [List.append_nil] at hput
    exact ⟨o, p, attempt, ho, hp, hid, hf, hput, rfl⟩

/-! ## refundPayment -/

theorem refundPaymentTarget_ok {refundReason : String} {call : RefundCall}
    {intent? : Option PaymentIntentId}
    (h : refundPaymentTarget org orderId refundReason auditContext o r = .ok (call, intent?)) :
    ∃ p, r = some p ∧ (o.status = .confirmed ∨ o.status = .fulfilled) ∧ p.paymentStatus = .paid ∧
      (p.refundStatus = .none ∨ p.refundStatus = .failed) ∧
      call = { org := org, orderId := orderId, organizationId := o.organizationId,
               paymentId := p.id, refundReason := refundReason, auditContext := auditContext } ∧
      (p.method = some .cash ∧ intent? = none ∨
        p.method ≠ some .cash ∧ ∃ attempt, attempt ∈ p.attempts ∧ attempt.status = .succeeded ∧
          intent? = some attempt.stripePaymentIntentId) := by
  unfold refundPaymentTarget at h
  cases r with
  | none => cases h
  | some p =>
    dsimp only at h
    cases hc : assertPaymentCanRefund o.toOrder p with
    | error e => rw [hc] at h; cases h
    | ok u =>
      rw [hc] at h
      obtain ⟨hstatus, hpaid, hrefund⟩ := assertPaymentCanRefund_ok.mp hc
      simp only [Bind.bind, Except.bind] at h
      refine ⟨p, rfl, hstatus, hpaid, hrefund, ?_⟩
      split at h
      · next hm => cases h; exact ⟨rfl, Or.inl ⟨hm, rfl⟩⟩
      · next hm =>
        cases hf : p.attempts.find? fun a => a.status == .succeeded with
        | none => rw [hf] at h; cases h
        | some attempt =>
          rw [hf] at h
          cases h
          exact ⟨rfl, Or.inr ⟨hm, attempt, List.mem_of_find?_eq_some hf,
            by simpa using List.find?_some hf, rfl⟩⟩

theorem refundPaymentGuard_runAuto {refundReason : String} (ho : db.order? orderId = some o)
    (hp : o.payment = some p) :
    (refundPaymentGuard env org orderId refundReason auditContext).runAuto db s =
      (if o.visibleTo org = true then
        refundPaymentTarget org orderId refundReason auditContext o (some p)
      else .error (.notFound "Order not found for organization"), db, s) := by
  rw [refundPaymentGuard, Prog.runAuto_bind, orderAndPaymentTx_runAuto ho hp]
  by_cases hv : o.visibleTo org = true
  · simp only [if_pos hv]
    cases refundPaymentTarget org orderId refundReason auditContext o (some p) <;> rfl
  · simp only [if_neg hv]

theorem refundPaymentTarget_conflict (org : CurrentOrg) (orderId : Id) (refundReason : String)
    (auditContext : AuditContext) (hs : o.status = .confirmed ∨ o.status = .fulfilled)
    (hpaid : p.paymentStatus = .paid)
    (hrefund : p.refundStatus ≠ .none ∧ p.refundStatus ≠ .failed) :
    ∃ message, refundPaymentTarget org orderId refundReason auditContext o (some p) =
      .error (.conflict message) := by
  unfold refundPaymentTarget assertPaymentCanRefund activeRefundStatuses
  have hstatus : ¬ (o.status ≠ .confirmed ∧ o.status ≠ .fulfilled) := by
    rintro ⟨hc, hf⟩
    exact hs.elim hc hf
  dsimp only
  rw [if_neg hstatus, if_neg (not_not.mpr hpaid)]
  cases hst : p.refundStatus with
  | none => exact absurd hst hrefund.1
  | failed => exact absurd hst hrefund.2
  | requested => exact ⟨_, rfl⟩
  | pending => exact ⟨_, rfl⟩
  | refunded => exact ⟨_, rfl⟩
/-- A call on a paid order that has no refund passes its guard, and goes by how the order was paid.
-/
theorem refundPaymentTarget_paid (org : CurrentOrg) (orderId : Id) (refundReason : String)
    (auditContext : AuditContext) (hs : o.status = .confirmed ∨ o.status = .fulfilled)
    (hpaid : p.paymentStatus = .paid)
    (hrefund : p.refundStatus = .none ∨ p.refundStatus = .failed) :
    refundPaymentTarget org orderId refundReason auditContext o (some p) =
      let call : RefundCall :=
        { org := org, orderId := orderId, organizationId := o.organizationId,
          paymentId := p.id, refundReason := refundReason, auditContext := auditContext }
      if p.method = some .cash then .ok (call, none)
      else
        match p.attempts.find? fun a => a.status == .succeeded with
        | none => .error (.badRequest "Card refunds require a successful payment attempt")
        | some attempt => .ok (call, some attempt.stripePaymentIntentId) := by
  have hguard : assertPaymentCanRefund o.toOrder p = .ok () :=
    assertPaymentCanRefund_ok.mpr ⟨hs, hpaid, hrefund⟩
  unfold refundPaymentTarget
  dsimp only
  rw [hguard]
  simp only [Bind.bind, Except.bind]
  split
  · rfl
  · cases p.attempts.find? fun a => a.status == .succeeded <;> rfl

theorem markRefundRequestedTx_ok {refundReason : String} {db'' : Database}
    (hput : db.Puts orderId o rows db') (hp : o.payment = some p)
    (h : (markRefundRequestedTx env orderId p refundReason auditContext).run db' s =
      (.ok (q, db''), s')) :
    q = requestedPayment env refundReason p ∧
      db.Puts orderId { o with payment := some q } (requestedRows p ++ rows) db'' ∧ s' = s := by
  obtain ⟨q', d, t, hpay, h₁⟩ := Prog.run_bind_ok.mp h
  obtain ⟨u, d₁, t₁, haudit, h₂⟩ := Prog.run_bind_ok.mp h₁
  obtain ⟨rfl, hput₁, rfl⟩ := paymentUpdate_put hput hp hpay
  obtain ⟨rfl, rfl, rfl⟩ := Prog.run_pure_ok.mp h₂
  unfold requestedRows
  rcases Prog.run_doWhen_ok.mp haudit with ⟨hc, hlog⟩ | ⟨hc, rfl, rfl⟩
  · obtain ⟨hput₂, rfl⟩ := writePaymentAuditLogTx_ok hput₁ hlog
    rw [if_neg hc]
    exact ⟨rfl, hput₂, rfl⟩
  · rw [if_pos (not_not.mp hc)]
    exact ⟨rfl, hput₁, rfl⟩

theorem paymentUpdate_of_payment {f : Payment → Payment} (ho : db.order? orderId = some o)
    (hp : o.payment = some p) (hid : p.id = paymentId) :
    (paymentUpdate env orderId paymentId f).run db s =
      (.ok (Payment.updated env f p,
        db.setOrder orderId { o with payment := some (Payment.updated env f p) }), s) :=
  paymentWrite_ok.mpr ⟨o, p, ho, hp, hid, rfl, rfl, rfl, rfl⟩

theorem markRefundRequestedTx_of_payment {refundReason : String} (ho : db.order? orderId = some o)
    (hp : o.payment = some p) :
    ∃ db', (markRefundRequestedTx env orderId p refundReason auditContext).run db s =
      (.ok (requestedPayment env refundReason p, db'), s) := by
  have hupdate : (paymentUpdate env orderId p.id (refundRequested env refundReason)).run db s =
      (.ok (requestedPayment env refundReason p,
        db.setOrder orderId { o with payment := some (requestedPayment env refundReason p) }), s) :=
    paymentUpdate_of_payment ho hp rfl
  unfold markRefundRequestedTx
  rw [Prog.run_bind_of hupdate]
  by_cases hr : p.refundStatus = .requested
  · rw [Prog.doWhen, if_neg (not_not.mpr hr)]
    exact ⟨_, rfl⟩
  · rw [Prog.doWhen, if_pos hr]
    exact ⟨_, rfl⟩

/-- The request of a refund that passed the guard does not fail. -/
theorem refundPaymentRequest_of_payment {call : RefundCall}
    (ho : db.order? call.orderId = some o) (hp : o.payment = some p) (hid : p.id = call.paymentId) :
    ∃ db', (refundPaymentRequest env call).run db s = (.ok ((), db'), s) := by
  have hget : (getPaymentByIdTx call.orderId call.paymentId).run db s = (.ok (p, db), s) :=
    getPaymentByIdTx_ok.mpr ⟨⟨o, ho, hp, hid⟩, rfl, rfl⟩
  have hmark : ∃ db', (markRefundRequestedTx env call.orderId p call.refundReason
      call.auditContext).run db s = (.ok (requestedPayment env call.refundReason p, db'), s) :=
    markRefundRequestedTx_of_payment ho hp
  obtain ⟨db', hmark⟩ := hmark
  unfold refundPaymentRequest
  rw [Prog.run_bind_of hget, Prog.run_bind_of hmark]
  exact ⟨db', rfl⟩

theorem refundPaymentRequest_ok {call : RefundCall} {u : Unit}
    (h : (refundPaymentRequest env call).run db s = (.ok (u, db'), s')) :
    ∃ o p, db.order? call.orderId = some o ∧ o.payment = some p ∧ p.id = call.paymentId ∧
      db.Puts call.orderId { o with payment := some (requestedPayment env call.refundReason p) }
        (requestedRows p) db' ∧ s' = s := by
  obtain ⟨p, d, t, hget, h₁⟩ := Prog.run_bind_ok.mp h
  obtain ⟨⟨o, ho, hp, hid⟩, rfl, rfl⟩ := getPaymentByIdTx_ok.mp hget
  obtain ⟨q, d₁, t₁, hmark, h₂⟩ := Prog.run_bind_ok.mp h₁
  obtain ⟨rfl, hput, rfl⟩ := markRefundRequestedTx_ok (Database.Puts.refl ho) hp hmark
  obtain ⟨-, rfl, rfl⟩ := Prog.run_pure_ok.mp h₂
  rw [List.append_nil] at hput
  exact ⟨o, p, ho, hp, hid, hput, rfl⟩

theorem refundPaymentCash_ok {call : RefundCall} {dto : PaymentDto}
    (h : (refundPaymentCash env call).run db s = (.ok (dto, db'), s')) :
    ∃ o p, db.order? call.orderId = some o ∧ o.visibleTo call.org = true ∧ o.payment = some p ∧
      p.id = call.paymentId ∧
      db.Puts call.orderId (o.afterRefund env (cashRefundedPayment env call.refundReason p))
        ((p.id, .paymentRefunded) :: requestedRows p) db' ∧ s' = s := by
  obtain ⟨o, d, t, horder, h₁⟩ := Prog.run_bind_ok.mp h
  obtain ⟨ho, hv, rfl, rfl⟩ := getOrderWithPaymentTx_ok.mp horder
  obtain ⟨p, d₁, t₁, hget, h₂⟩ := Prog.run_bind_ok.mp h₁
  obtain ⟨⟨o', ho', hp, hid⟩, rfl, rfl⟩ := getPaymentByIdTx_ok.mp hget
  obtain rfl : o = o' := Option.some.inj (ho.symm.trans ho')
  obtain ⟨q, d₂, t₂, hmark, h₃⟩ := Prog.run_bind_ok.mp h₂
  obtain ⟨rfl, hput, rfl⟩ := markRefundRequestedTx_ok (Database.Puts.refl ho) hp hmark
  obtain ⟨q', d₃, t₃, hpay, h₄⟩ := Prog.run_bind_ok.mp h₃
  obtain ⟨rfl, hput₁, rfl⟩ := paymentUpdate_put hput rfl hpay
  obtain ⟨u₄, d₄, t₄, hcancel, h₅⟩ := Prog.run_bind_ok.mp h₄
  obtain ⟨hput₂, rfl⟩ := afterRefund_put hput₁ ⟨fun hs => ⟨rfl, hs⟩, And.right⟩ hcancel
  obtain ⟨u₅, d₅, t₅, hlog, h₆⟩ := Prog.run_bind_ok.mp h₅
  obtain ⟨hput₃, rfl⟩ := writePaymentAuditLogTx_ok hput₂ hlog
  obtain ⟨rfl, rfl, rfl⟩ := Prog.run_pure_ok.mp h₆
  rw [List.append_nil] at hput₃
  exact ⟨o, p, ho, hv, hp, hid, hput₃, rfl⟩

/-- A cash refund that passed the guard does not fail. -/
theorem refundPaymentCash_of_payment {call : RefundCall} (ho : db.order? call.orderId = some o)
    (hv : o.visibleTo call.org = true) (hp : o.payment = some p) (hid : p.id = call.paymentId) :
    ∃ dto db', (refundPaymentCash env call).run db s = (.ok (dto, db'), s) := by
  have horder : (getOrderWithPaymentTx call.org call.orderId).run db s = (.ok (o, db), s) :=
    getOrderWithPaymentTx_ok.mpr ⟨ho, hv, rfl, rfl⟩
  have hget : (getPaymentByIdTx call.orderId call.paymentId).run db s = (.ok (p, db), s) :=
    getPaymentByIdTx_ok.mpr ⟨⟨o, ho, hp, hid⟩, rfl, rfl⟩
  have hmark : ∃ db', (markRefundRequestedTx env call.orderId p call.refundReason
      call.auditContext).run db s = (.ok (requestedPayment env call.refundReason p, db'), s) :=
    markRefundRequestedTx_of_payment ho hp
  obtain ⟨db₁, hmark⟩ := hmark
  obtain ⟨-, hput, -⟩ := markRefundRequestedTx_ok (Database.Puts.refl ho) hp hmark
  have hupdate : (paymentUpdate env call.orderId p.id (cashRefunded env)).run db₁ s =
      (.ok (cashRefundedPayment env call.refundReason p, db₁.setOrder call.orderId
        { o with payment := some (cashRefundedPayment env call.refundReason p) }), s) :=
    paymentUpdate_of_payment
      (o := { o with payment := some (requestedPayment env call.refundReason p) })
      hput.order?_self rfl rfl
  unfold refundPaymentCash
  rw [Prog.run_bind_of horder, Prog.run_bind_of hget, Prog.run_bind_of hmark,
    Prog.run_bind_of hupdate]
  by_cases hs : o.status = .confirmed
  · have hcancel : (orderUpdate env call.orderId o.organizationId (cancelledByRefund env)).run
        (db₁.setOrder call.orderId
          { o with payment := some (cashRefundedPayment env call.refundReason p) }) s = _ :=
      orderUpdate_ok.mpr ⟨_, Database.order?_setOrder_self .., rfl, rfl, rfl, rfl⟩
    rw [Prog.doWhen, if_pos hs, Prog.bind_bind, Prog.run_bind_of hcancel]
    exact ⟨_, _, rfl⟩
  · rw [Prog.doWhen, if_neg hs]
    exact ⟨_, _, rfl⟩

/-- The failure of a refund is always written. -/
theorem refundPaymentFail_of_payment {call : RefundCall} {failureMessage : String}
    (ho : db.order? call.orderId = some o) (hp : o.payment = some p) (hid : p.id = call.paymentId) :
    ∃ dto db', (refundPaymentFail env call failureMessage).run db s = (.ok (dto, db'), s) := by
  have hget : (getPaymentByIdTx call.orderId call.paymentId).run db s = (.ok (p, db), s) :=
    getPaymentByIdTx_ok.mpr ⟨⟨o, ho, hp, hid⟩, rfl, rfl⟩
  have hupdate : (paymentUpdate env call.orderId p.id (refundFailed env failureMessage)).run db s =
      (.ok (Payment.updated env (refundFailed env failureMessage) p, _), s) :=
    paymentUpdate_of_payment ho hp rfl
  unfold refundPaymentFail
  rw [Prog.run_bind_of hget, Prog.run_bind_of hupdate]
  exact ⟨_, _, rfl⟩

theorem refundPaymentFail_ok {call : RefundCall} {failureMessage : String} {dto : PaymentDto}
    (h : (refundPaymentFail env call failureMessage).run db s = (.ok (dto, db'), s')) :
    ∃ o p, db.order? call.orderId = some o ∧ o.payment = some p ∧ p.id = call.paymentId ∧
      db.Puts call.orderId
        { o with payment := some (Payment.updated env (refundFailed env failureMessage) p) }
        [(p.id, .paymentRefundFailed)] db' ∧ s' = s := by
  obtain ⟨p, d, t, hget, h₁⟩ := Prog.run_bind_ok.mp h
  obtain ⟨⟨o, ho, hp, hid⟩, rfl, rfl⟩ := getPaymentByIdTx_ok.mp hget
  obtain ⟨q, d₁, t₁, hpay, h₂⟩ := Prog.run_bind_ok.mp h₁
  obtain ⟨rfl, hput, rfl⟩ := paymentUpdate_put (Database.Puts.refl ho) hp hpay
  obtain ⟨u₂, d₂, t₂, hlog, h₃⟩ := Prog.run_bind_ok.mp h₂
  obtain ⟨hput₁, rfl⟩ := writePaymentAuditLogTx_ok hput hlog
  obtain ⟨rfl, rfl, rfl⟩ := Prog.run_pure_ok.mp h₃
  exact ⟨o, p, ho, hp, hid, hput₁, rfl⟩

theorem refundPaymentApply_ok {call : RefundCall} {refund : StripeRefund} {dto : PaymentDto}
    (h : (refundPaymentApply env call refund).run db s = (.ok (dto, db'), s')) :
    ∃ o p, db.order? call.orderId = some o ∧ o.visibleTo call.org = true ∧ o.payment = some p ∧
      p.id = call.paymentId ∧
      db.Puts call.orderId (o.afterRefund env (refundSynced env p refund))
        (refundSyncedRows env p refund) db' ∧ s' = s := by
  obtain ⟨o, d, t, horder, h₁⟩ := Prog.run_bind_ok.mp h
  obtain ⟨ho, hv, rfl, rfl⟩ := getOrderWithPaymentTx_ok.mp horder
  obtain ⟨p, d₁, t₁, hget, h₂⟩ := Prog.run_bind_ok.mp h₁
  obtain ⟨⟨o', ho', hp, hid⟩, rfl, rfl⟩ := getPaymentByIdTx_ok.mp hget
  obtain rfl : o = o' := Option.some.inj (ho.symm.trans ho')
  obtain ⟨-, hput, rfl⟩ := applyRefundStateTx_ok (Database.Puts.refl ho) hp h₂
  rw [List.append_nil] at hput
  exact ⟨o, p, ho, hv, hp, hid, hput, rfl⟩

/-! ## Whole calls -/

/-- The payment that a call works with is the order's own after the first read. -/
theorem Database.Puts.order_of_backfilled {o₁ : OrderRecord}
    (hput : db.Puts orderId (o.backfilled env) [] db') (ho₁ : db'.order? orderId = some o₁) :
    o₁ = o.backfilled env :=
  Option.some.inj (ho₁.symm.trans hput.order?_self)

theorem confirmCardPayment_ok {stripe : StripeService S M} {dto : PaymentDto}
    (h : (confirmCardPayment stripe env org orderId auditContext).run db s =
      (.ok (dto, db'), s')) :
    ∃ o p attempt paymentIntent, db.order? orderId = some o ∧ o.visibleTo org = true ∧
      o.paymentOrLegacy env = some p ∧
      db.Puts orderId { o with payment := some (syncedPayment env p attempt paymentIntent) }
        (syncedRows env p paymentIntent) db' := by
  obtain ⟨⟨p, latest⟩, d, t, hread, h₁⟩ := Prog.run_bind_ok.mp h
  obtain ⟨⟨o, r⟩, d₁, t₁, hfind, hcheck⟩ := Prog.run_bind_ok.mp hread
  obtain ⟨ho, hv, hr, hput, rfl⟩ := orderAndPaymentTx_ok hfind
  obtain ⟨htarget, rfl, rfl⟩ := Prog.run_ofExcept_ok.mp hcheck
  dsimp only at ho hv hr hput htarget
  subst hr
  obtain ⟨hp, -⟩ := confirmCardPaymentTarget_ok.mp htarget
  obtain ⟨paymentIntent, d₂, t₂, hstripe, h₂⟩ := Prog.run_bind_ok.mp h₁
  obtain ⟨-, rfl, rfl⟩ := Prog.run_invoke_ok.mp hstripe
  rw [Prog.run_transaction] at h₂
  obtain ⟨o₁, p₁, attempt, ho₁, hp₁, -, -, hput₁, rfl⟩ := confirmCardPaymentApply_ok h₂
  obtain rfl := hput.order_of_backfilled ho₁
  obtain rfl : p = p₁ := Option.some.inj (hp.symm.trans hp₁)
  have hput₂ := hput.trans hput₁
  rw [List.append_nil] at hput₂
  exact ⟨o, p, attempt, paymentIntent, ho, hv, hp, hput₂⟩

/-- A refund leaves an order where it is. -/
theorem OrderRecord.afterRefund_locationId : (o.afterRefund env p).locationId = o.locationId := by
  unfold afterRefund
  split <;> rfl

theorem refundPaymentCard_ok {stripe : StripeService S M} {call : RefundCall}
    {paymentIntentId : PaymentIntentId} {dto : PaymentDto}
    (h : (refundPaymentCard stripe env call paymentIntentId).run db s = (.ok (dto, db'), s')) :
    ∃ o o' rows, db.order? call.orderId = some o ∧ o'.locationId = o.locationId ∧
      db.Puts call.orderId o' rows db' := by
  obtain ⟨u, d, t, hrequest, h₁⟩ := Prog.run_bind_ok.mp h
  rw [Prog.run_transaction] at hrequest
  obtain ⟨o, p, ho, -, -, hput, rfl⟩ := refundPaymentRequest_ok hrequest
  obtain ⟨refund?, d₁, t₁, hstripe, h₂⟩ := Prog.run_bind_ok.mp h₁
  obtain ⟨-, rfl, -⟩ := Prog.run_attempt_ok.mp hstripe
  cases refund? with
  | ok refund =>
    replace h₂ := (Prog.run_transaction ..).symm.trans h₂
    obtain ⟨o₁, p₁, ho₁, -, -, -, hput₁, -⟩ := refundPaymentApply_ok h₂
    obtain rfl := Option.some.inj (ho₁.symm.trans hput.order?_self)
    exact ⟨o, _, _, ho, OrderRecord.afterRefund_locationId, hput.trans hput₁⟩
  | error e =>
    replace h₂ := (Prog.run_transaction ..).symm.trans h₂
    obtain ⟨o₁, p₁, ho₁, -, -, hput₁, -⟩ := refundPaymentFail_ok h₂
    obtain rfl := Option.some.inj (ho₁.symm.trans hput.order?_self)
    refine ⟨o, _, _, ho, ?_, hput.trans hput₁⟩
    rfl

/-- The call on an order that has its payment: the guard, then the refund in cash or by card. -/
theorem refundPayment_runAuto (stripe : StripeService S M) (env : Env) (s : S)
    (refundReason : String) (auditContext : AuditContext)
    (ho : db.order? orderId = some o) (hp : o.payment = some p) (hv : o.visibleTo org = true) :
    (refundPayment stripe env org orderId refundReason auditContext).runAuto db s =
      match refundPaymentTarget org orderId refundReason auditContext o (some p) with
      | .error e => (.error e, db, s)
      | .ok (call, none) => (Prog.transaction (refundPaymentCash env call)).runAuto db s
      | .ok (call, some paymentIntentId) =>
        (refundPaymentCard stripe env call paymentIntentId).runAuto db s := by
  rw [refundPayment, Prog.runAuto_bind, refundPaymentGuard_runAuto ho hp, if_pos hv]
  rcases refundPaymentTarget org orderId refundReason auditContext o (some p) with
    e | ⟨call, _ | paymentIntentId⟩ <;> rfl

theorem refundPayment_ok {stripe : StripeService S M} {refundReason : String} {dto : PaymentDto}
    (h : (refundPayment stripe env org orderId refundReason auditContext).run db s =
      (.ok (dto, db'), s')) :
    ∃ o o' rows, db.order? orderId = some o ∧ o.visibleTo org = true ∧
      o'.locationId = o.locationId ∧ db.Puts orderId o' rows db' := by
  obtain ⟨⟨call, intent?⟩, d, t, hguard, h₁⟩ := Prog.run_bind_ok.mp h
  obtain ⟨⟨o, r⟩, d₁, t₁, hfind, hcheck⟩ := Prog.run_bind_ok.mp hguard
  obtain ⟨ho, hv, hr, hput, rfl⟩ := orderAndPaymentTx_ok hfind
  obtain ⟨htarget, rfl, rfl⟩ := Prog.run_ofExcept_ok.mp hcheck
  dsimp only at ho hv hr hput htarget
  subst hr
  obtain ⟨p, -, -, -, -, rfl, -⟩ := refundPaymentTarget_ok htarget
  dsimp only at h₁
  cases intent? with
  | none =>
    replace h₁ := (Prog.run_transaction ..).symm.trans h₁
    obtain ⟨o₁, p₁, ho₁, -, -, -, hput₁, -⟩ := refundPaymentCash_ok h₁
    obtain rfl := hput.order_of_backfilled ho₁
    exact ⟨o, _, _, ho, hv, OrderRecord.afterRefund_locationId, hput.trans hput₁⟩
  | some paymentIntentId =>
    obtain ⟨o₁, o', rows, ho₁, hsame, hput₁⟩ := refundPaymentCard_ok h₁
    obtain rfl := hput.order_of_backfilled ho₁
    exact ⟨o, o', _, ho, hv, hsame, hput.trans hput₁⟩

/-! ## Webhooks -/

theorem createWebhookReceiptTx_ok {event : StripeEventId} {eventType : String} {b : Bool}
    (h : (createWebhookReceiptTx env event eventType).run db s = (.ok (b, db'), s')) :
    db.Keeps db' ∧ db'.orders = db.orders ∧ b = (db.receipts.lookup event).isNone ∧ s' = s := by
  obtain ⟨received, d, t, hread, h₁⟩ := Prog.run_bind_ok.mp h
  obtain ⟨rfl, rfl, rfl⟩ := Prog.run_select_ok.mp hread
  split at h₁
  · next hr =>
    obtain ⟨rfl, rfl, rfl⟩ := Prog.run_pure_ok.mp h₁
    exact ⟨Database.Keeps.refl _, rfl, by simpa [Option.isNone_iff_eq_none] using hr, rfl⟩
  · next hr =>
    obtain ⟨u, d₁, t₁, hinsert, h₂⟩ := Prog.run_bind_ok.mp h₁
    obtain ⟨-, rfl, rfl⟩ := Prog.run_exec_ok.mp hinsert
    obtain ⟨rfl, rfl, rfl⟩ := Prog.run_pure_ok.mp h₂
    exact ⟨Database.keeps_setReceipt .., rfl, by simpa using hr, rfl⟩

theorem markWebhookReceiptProcessedTx_ok {event : StripeEventId} {u : Unit}
    (h : (markWebhookReceiptProcessedTx env event).run db s = (.ok (u, db'), s')) :
    db.Keeps db' ∧ s' = s := by
  obtain ⟨-, rfl, rfl⟩ := Prog.run_exec_ok.mp h
  split
  · exact ⟨Database.Keeps.refl _, rfl⟩
  · exact ⟨Database.keeps_setReceipt .., rfl⟩

/-- An event that was received before does nothing; another one syncs, and keeps its receipt. -/
theorem webhook_ok {sync : Tx S Unit} {event : StripeEventId} {eventType : String} {u : Unit}
    (h : (createWebhookReceiptTx env event eventType >>= fun shouldProcess =>
      Prog.doWhen (shouldProcess = true) (sync >>= fun _ =>
        markWebhookReceiptProcessedTx env event)).run db s = (.ok (u, db'), s')) :
    ((db.receipts.lookup event).isSome = true ∧ db.Keeps db' ∧ s' = s) ∨
      ((db.receipts.lookup event).isSome = false ∧ ∃ u₁ d d₁, db.Keeps d ∧ d.orders = db.orders ∧
        sync.run d s = (.ok (u₁, d₁), s') ∧ d₁.Keeps db') := by
  obtain ⟨shouldProcess, d, t, hreceipt, h₁⟩ := Prog.run_bind_ok.mp h
  obtain ⟨hkeep, horders, rfl, rfl⟩ := createWebhookReceiptTx_ok hreceipt
  rcases Prog.run_doWhen_ok.mp h₁ with ⟨hc, hrun⟩ | ⟨hc, rfl, rfl⟩
  · obtain ⟨u₁, d₁, t₁, hsync, hmark⟩ := Prog.run_bind_ok.mp hrun
    obtain ⟨hkeep', rfl⟩ := markWebhookReceiptProcessedTx_ok hmark
    exact Or.inr ⟨by simpa using hc, u₁, d, d₁, hkeep, horders, hsync, hkeep'⟩
  · exact Or.inl ⟨by simpa [Option.isSome_iff_ne_none] using hc, hkeep, rfl⟩

/-- The attempt an event syncs: none if the event was received before. -/
def Database.syncOfEvent? (db : Database) (event : StripeEventId)
    (paymentIntent : StripePaymentIntent) : Option (Id × PaymentWithAttempts × PaymentAttempt) :=
  if (db.receipts.lookup event).isSome then none else db.webhookAttempt? paymentIntent

theorem handleWebhookPaymentIntent_ok {event : StripeEventId} {eventType : String}
    {paymentIntent : StripePaymentIntent} {u : Unit}
    (h : (handleWebhookPaymentIntent env event eventType paymentIntent).run db s =
      (.ok (u, db'), s')) :
    s' = s ∧ ((db.syncOfEvent? event paymentIntent = none ∧ db.Keeps db') ∨
      ∃ orderId o p attempt, db.syncOfEvent? event paymentIntent = some (orderId, p, attempt) ∧
        db.order? orderId = some o ∧ o.payment = some p ∧
        db.Puts orderId { o with payment := some (syncedPayment env p attempt paymentIntent) }
          (syncedRows env p paymentIntent) db') := by
  unfold Database.syncOfEvent? Database.webhookAttempt?
  rcases webhook_ok h with ⟨hseen, hkeep, rfl⟩ |
    ⟨hnew, u₁, d, d₁, hkeep, horders, hsync, hkeep'⟩
  · rw [if_pos hseen]
    exact ⟨rfl, Or.inl ⟨rfl, hkeep⟩⟩
  · rw [if_neg (by simp [hnew])]
    have hfind : d.findAttempt? (attemptOfIntent paymentIntent) =
        db.findAttempt? (attemptOfIntent paymentIntent) := by
      simp only [Database.findAttempt?, horders]
    obtain ⟨found, d₂, t₂, hread, h₂⟩ := Prog.run_bind_ok.mp hsync
    obtain ⟨rfl, rfl, rfl⟩ := Prog.run_select_ok.mp hread
    rw [hfind] at h₂
    cases hf : db.findAttempt? (attemptOfIntent paymentIntent) with
    | none =>
      rw [hf] at h₂
      obtain ⟨-, rfl, rfl⟩ := Prog.run_pure_ok.mp h₂
      exact ⟨rfl, Or.inl ⟨rfl, hkeep.trans hkeep'⟩⟩
    | some found =>
      obtain ⟨orderId, p, a⟩ := found
      rw [hf] at h₂
      obtain ⟨o, ho, hp, -, -⟩ := Database.findAttempt?_eq_some hf
      have ho' : d₂.order? orderId = some o := by rw [hkeep.order?, ho]
      obtain ⟨p', d₃, t₃, hget, h₃⟩ := Prog.run_bind_ok.mp h₂
      obtain ⟨⟨o₁, ho₁, hp₁, -⟩, rfl, rfl⟩ := getPaymentByIdTx_ok.mp hget
      obtain rfl : o = o₁ := Option.some.inj (ho'.symm.trans ho₁)
      obtain rfl : p = p' := Option.some.inj (hp.symm.trans hp₁)
      simp only [Option.bind_some]
      cases hfresh : freshAttempt? p a.id with
      | none =>
        simp only [hfresh] at h₃
        obtain ⟨-, rfl, rfl⟩ := Prog.run_pure_ok.mp h₃
        exact ⟨rfl, Or.inl ⟨rfl, hkeep.trans hkeep'⟩⟩
      | some attempt =>
        simp only [hfresh] at h₃
        obtain ⟨dto, d₄, t₄, happly, h₄⟩ := Prog.run_bind_ok.mp h₃
        obtain ⟨-, hput, rfl⟩ := applyPaymentIntentStateTx_ok (Database.Puts.refl ho') hp happly
        obtain ⟨-, rfl, rfl⟩ := Prog.run_pure_ok.mp h₄
        rw [List.append_nil] at hput
        exact ⟨rfl, Or.inr ⟨orderId, o, p, attempt, rfl, ho, hp,
          (Database.Puts.of_keeps hkeep hput).then_keeps hkeep'⟩⟩

/-- The payment a refund event syncs: none if the event was received before. -/
def Database.refundOfEvent? (db : Database) (event : StripeEventId) (refund : StripeRefund) :
    Option (Id × OrderRecord × PaymentWithAttempts) :=
  if (db.receipts.lookup event).isSome then none else db.findPayment? (paymentOfRefund refund)

theorem handleWebhookRefund_ok {event : StripeEventId} {eventType : String}
    {refund : StripeRefund} {u : Unit}
    (h : (handleWebhookRefund env event eventType refund).run db s = (.ok (u, db'), s')) :
    s' = s ∧ ((db.refundOfEvent? event refund = none ∧ db.Keeps db') ∨
      ∃ orderId o p, db.refundOfEvent? event refund = some (orderId, o, p) ∧
        db.order? orderId = some o ∧ o.payment = some p ∧
        db.Puts orderId (o.afterRefund env (refundSynced env p refund))
          (refundSyncedRows env p refund) db') := by
  unfold Database.refundOfEvent?
  rcases webhook_ok h with ⟨hseen, hkeep, rfl⟩ |
    ⟨hnew, u₁, d, d₁, hkeep, horders, hsync, hkeep'⟩
  · rw [if_pos hseen]
    exact ⟨rfl, Or.inl ⟨rfl, hkeep⟩⟩
  · rw [if_neg (by simp [hnew])]
    have hfind : d.findPayment? (paymentOfRefund refund) =
        db.findPayment? (paymentOfRefund refund) := by
      simp only [Database.findPayment?, horders]
    obtain ⟨found, d₂, t₂, hread, h₂⟩ := Prog.run_bind_ok.mp hsync
    obtain ⟨rfl, rfl, rfl⟩ := Prog.run_select_ok.mp hread
    rw [hfind] at h₂
    cases hf : db.findPayment? (paymentOfRefund refund) with
    | none =>
      rw [hf] at h₂
      obtain ⟨-, rfl, rfl⟩ := Prog.run_pure_ok.mp h₂
      exact ⟨rfl, Or.inl ⟨rfl, hkeep.trans hkeep'⟩⟩
    | some found =>
      obtain ⟨orderId, o, p⟩ := found
      rw [hf] at h₂
      obtain ⟨ho, hp, -⟩ := Database.findPayment?_eq_some hf
      have ho' : d₂.order? orderId = some o := by rw [hkeep.order?, ho]
      obtain ⟨dto, d₃, t₃, happly, h₃⟩ := Prog.run_bind_ok.mp h₂
      obtain ⟨-, hput, rfl⟩ := applyRefundStateTx_ok (Database.Puts.refl ho') hp happly
      obtain ⟨-, rfl, rfl⟩ := Prog.run_pure_ok.mp h₃
      rw [List.append_nil] at hput
      exact ⟨rfl, Or.inr ⟨orderId, o, p, rfl, ho, hp,
        (Database.Puts.of_keeps hkeep hput).then_keeps hkeep'⟩⟩

/-! ## Reading a payment -/

/-- The payment that is read is there, or backfilled, or none is due. -/
theorem paymentOrLegacyTx_runAuto (ho : db.order? orderId = some o) :
    ∃ db', (paymentOrLegacyTx env orderId o).runAuto db s =
      (.ok (o.paymentOrLegacy env), db', s) := by
  cases hp : o.payment with
  | some payment =>
    refine ⟨db, ?_⟩
    rw [OrderRecord.paymentOrLegacy_of_payment hp]
    simp only [paymentOrLegacyTx, hp]
    rfl
  | none =>
    have hread : (db.order? orderId).bind (·.payment) = none := by rw [ho, Option.bind_some, hp]
    simp only [paymentOrLegacyTx, hp, ensureLegacyPaymentForOrderTx, Prog.runAuto_bind,
      paymentFindByOrder, Prog.select, Prog.runAuto, hread, OrderRecord.paymentOrLegacy,
      Option.none_or]
    split
    · exact ⟨db, rfl⟩
    · refine ⟨db.modifyOrder orderId fun o' => { o' with payment := some (legacyPayment env
        o.organizationId o.status o.totalCents o.createdAt o.placedAt) }, ?_⟩
      simp [paymentCreate, Prog.returning, Functor.map, Prog.runAuto, ho, hp, Prog.bind]

/-- A visible order is read with its payment. -/
theorem orderAndPaymentTx_visible (ho : db.order? orderId = some o)
    (hv : o.visibleTo org = true) :
    ∃ db', (orderAndPaymentTx env org orderId).run db s =
      (.ok ((o, o.paymentOrLegacy env), db'), s) := by
  obtain ⟨db', hpayment⟩ : ∃ db', (paymentOrLegacyTx env orderId o).runAuto db s =
    (.ok (o.paymentOrLegacy env), db', s) := paymentOrLegacyTx_runAuto ho
  refine ⟨db', Prog.run_bind_ok.mpr ⟨o, db, s, getOrderWithPaymentTx_ok.mpr ⟨ho, hv, rfl, rfl⟩, ?_⟩⟩
  exact Prog.run_bind_ok.mpr
    ⟨_, db', s, Prog.runAuto_ok.mp hpayment, Prog.run_pure_ok.mpr ⟨rfl, rfl, rfl⟩⟩

/-- **What a member reads of a payment** depends on the order alone. -/
theorem getPaymentByOrderId_answer :
    ((getPaymentByOrderId env org orderId : Tx S PaymentDto).runAuto db s).1 =
      match (db.order? orderId).filter (·.visibleTo org) with
      | none => .error (.notFound "Order not found for organization")
      | some o =>
        match o.paymentOrLegacy env with
        | none => .error (.notFound "Payment not found for order")
        | some payment => .ok (toPaymentDto orderId payment) := by
  rw [getPaymentByOrderId, Prog.runAuto_bind]
  cases hfound : (db.order? orderId).filter (·.visibleTo org) with
  | none =>
    rw [orderAndPaymentTx, Prog.runAuto_bind, getOrderWithPaymentTx, Prog.runAuto_bind]
    simp only [Prog.runAuto_select, Prog.runAuto_fail, hfound]
  | some o =>
    obtain ⟨ho, hv⟩ := Option.filter_eq_some_iff.mp hfound
    obtain ⟨db', hread⟩ : ∃ db', (orderAndPaymentTx env org orderId).run db s =
      (.ok ((o, o.paymentOrLegacy env), db'), s) := orderAndPaymentTx_visible ho hv
    rw [Prog.runAuto_ok.mpr hread]
    dsimp only
    cases o.paymentOrLegacy env with
    | none => rfl
    | some payment => rfl

end

end LedgerLight
