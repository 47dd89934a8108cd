import LedgerLight.Payment.Service

/-!
# What the payment service does

One lemma for every function of `LedgerLight.Payment.Service`: what it found and what it left, when
it ended well. A payment before and after is related by plain functions on rows (`syncedPayment`,
`refundSynced`, …), so nothing above this module unfolds a transaction.
-/

namespace LedgerLight

open Infra

/-! ## Rows before and after -/

/-- The payment a service call works with: the order's own, or the one it backfills. -/
def OrderRecord.paymentOrLegacy (env : Env) (o : OrderRecord) : Option PaymentWithAttempts :=
  o.payment.or <|
    if withoutLegacyPayment o.status o.placedAt then none
    else some (legacyPayment env o.organizationId o.status o.totalCents o.createdAt o.placedAt)

def OrderRecord.backfilled (env : Env) (o : OrderRecord) : OrderRecord :=
  { o with payment := o.paymentOrLegacy env }

/-- The payment with one attempt brought to Stripe's state. -/
def withSyncedAttempt (env : Env) (p : PaymentWithAttempts) (attempt : PaymentAttempt)
    (next : PaymentTransitionResult) : PaymentWithAttempts :=
  if attemptChangedBy attempt next then
    { p with attempts := updateAttempt env attempt.id next.onAttempt p.attempts }
  else p

/-- The payment after `applyPaymentIntentStateTx`. -/
def syncedPayment (env : Env) (p : PaymentWithAttempts) (attempt : PaymentAttempt)
    (paymentIntent : StripePaymentIntent) : PaymentWithAttempts :=
  let next := mapPaymentIntentState env.now paymentIntent p.toPayment
  if ¬ paymentChangedBy p.toPayment next ∧ ¬ attemptChangedBy attempt next then p
  else Payment.updated env next.onPayment (withSyncedAttempt env p attempt next)

/-- The audit rows of `applyPaymentIntentStateTx`. -/
def syncedRows (env : Env) (p : PaymentWithAttempts) (paymentIntent : StripePaymentIntent) :
    List (Id × AuditAction) :=
  let next := mapPaymentIntentState env.now paymentIntent p.toPayment
  if p.paymentStatus = next.paymentStatus then []
  else (paymentStatusAction next.paymentStatus).toList.map fun action => (p.id, action)

/-- The payment after `applyRefundStateTx`. -/
def refundSynced (env : Env) (p : PaymentWithAttempts) (refund : StripeRefund) :
    PaymentWithAttempts :=
  let next := mapRefundState env.now refund p.toPayment
  if refundChangedBy p.toPayment next refund then
    Payment.updated env (fun q => { next.onPayment q with stripeRefundId := some refund.id }) p
  else p

/-- The audit rows of `applyRefundStateTx`. -/
def refundSyncedRows (env : Env) (p : PaymentWithAttempts) (refund : StripeRefund) :
    List (Id × AuditAction) :=
  let next := mapRefundState env.now refund p.toPayment
  if p.refundStatus = next.refundStatus then []
  else
    match next.refundStatus with
    | .refunded => [(p.id, .paymentRefunded)]
    | .failed => [(p.id, .paymentRefundFailed)]
    | _ => []

/-- The order after a refund gave it the payment `p`: refunded, a confirmed order is cancelled. -/
def OrderRecord.afterRefund (env : Env) (o : OrderRecord) (p : PaymentWithAttempts) :
    OrderRecord :=
  if p.refundStatus = .refunded ∧ o.status = .confirmed then
    Order.updated env id (cancelledByRefund env { o with payment := some p })
  else { o with payment := some p }

/-- The payment after `initiateCardPayment` started an attempt. -/
def withAttempt (env : Env) (p : PaymentWithAttempts) (attempt : PaymentAttempt) :
    PaymentWithAttempts :=
  Payment.updated env startedAttempt { p with attempts := attempt :: p.attempts }

section

variable {S M : Type} {env : Env} {db db' : Database} {s s' : S} {orderId paymentId : Id}
  {org : CurrentOrg} {o : OrderRecord} {p q : PaymentWithAttempts} {r : Option PaymentWithAttempts}
  {auditContext : AuditContext} {rows : List (Id × AuditAction)}

theorem OrderRecord.paymentOrLegacy_of_payment (h : o.payment = some p) :
    o.paymentOrLegacy env = some p := by
  simp [OrderRecord.paymentOrLegacy, h]

theorem OrderRecord.backfilled_of_payment (h : o.payment = some p) : o.backfilled env = o := by
  simp only [OrderRecord.backfilled, OrderRecord.paymentOrLegacy_of_payment h, ← h]

theorem OrderRecord.eta_payment (h : o.payment = some p) : { o with payment := some p } = o := by
  rw [← h]

/-! ## What a sync does to a payment -/

/-- Whether or not the row was written, it has what Stripe says. -/
theorem syncedPayment_toPayment (env : Env) (p : PaymentWithAttempts) (attempt : PaymentAttempt)
    (paymentIntent : StripePaymentIntent) :
    ∃ u, (syncedPayment env p attempt paymentIntent).toPayment =
      { (mapPaymentIntentState env.now paymentIntent p.toPayment).onPayment p.toPayment with
        updatedAt := u } := by
  unfold syncedPayment
  generalize mapPaymentIntentState env.now paymentIntent p.toPayment = next
  dsimp only
  split
  · next hsame =>
    have hp : ¬ paymentChangedBy p.toPayment next := hsame.1
    simp only [paymentChangedBy, not_or, not_not] at hp
    obtain ⟨hstatus, hfailure, hpaidAt, hmethod⟩ := hp
    refine ⟨p.updatedAt, ?_⟩
    simp only [PaymentTransitionResult.onPayment, ← hstatus, ← hfailure, ← hpaidAt, ← hmethod]
  · refine ⟨env.now, ?_⟩
    unfold withSyncedAttempt
    split <;> rfl

theorem syncedPayment_attempts (env : Env) (p : PaymentWithAttempts) (attempt : PaymentAttempt)
    (paymentIntent : StripePaymentIntent) :
    (syncedPayment env p attempt paymentIntent).attempts =
      let next := mapPaymentIntentState env.now paymentIntent p.toPayment
      if attemptChangedBy attempt next then
        updateAttempt env attempt.id next.onAttempt p.attempts
      else p.attempts := by
  unfold syncedPayment withSyncedAttempt
  generalize mapPaymentIntentState env.now paymentIntent p.toPayment = next
  dsimp only
  split
  · next hsame => rw [if_neg hsame.2]
  · split <;> rfl

section

variable (env : Env) (p : PaymentWithAttempts) (attempt : PaymentAttempt)
  (paymentIntent : StripePaymentIntent)

@[simp] theorem syncedPayment_id : (syncedPayment env p attempt paymentIntent).id = p.id := by
  obtain ⟨u, hu⟩ := syncedPayment_toPayment env p attempt paymentIntent
  rw [hu]
  rfl

@[simp] theorem syncedPayment_method :
    (syncedPayment env p attempt paymentIntent).method = some .card := by
  obtain ⟨u, hu⟩ := syncedPayment_toPayment env p attempt paymentIntent
  rw [hu]
  rfl

@[simp] theorem syncedPayment_paymentStatus :
    (syncedPayment env p attempt paymentIntent).paymentStatus =
      (mapPaymentIntentState env.now paymentIntent p.toPayment).paymentStatus := by
  obtain ⟨u, hu⟩ := syncedPayment_toPayment env p attempt paymentIntent
  rw [hu]
  rfl

@[simp] theorem syncedPayment_paidAt :
    (syncedPayment env p attempt paymentIntent).paidAt =
      (mapPaymentIntentState env.now paymentIntent p.toPayment).paidAt := by
  obtain ⟨u, hu⟩ := syncedPayment_toPayment env p attempt paymentIntent
  rw [hu]
  rfl

@[simp] theorem syncedPayment_refundStatus :
    (syncedPayment env p attempt paymentIntent).refundStatus = p.refundStatus := by
  obtain ⟨u, hu⟩ := syncedPayment_toPayment env p attempt paymentIntent
  rw [hu]
  rfl

@[simp] theorem syncedPayment_refundedAt :
    (syncedPayment env p attempt paymentIntent).refundedAt = p.refundedAt := by
  obtain ⟨u, hu⟩ := syncedPayment_toPayment env p attempt paymentIntent
  rw [hu]
  rfl

@[simp] theorem syncedPayment_amountCents :
    (syncedPayment env p attempt paymentIntent).amountCents = p.amountCents := by
  obtain ⟨u, hu⟩ := syncedPayment_toPayment env p attempt paymentIntent
  rw [hu]
  rfl

end

theorem refundSynced_toPayment (env : Env) (p : PaymentWithAttempts) (refund : StripeRefund) :
    ∃ u, (refundSynced env p refund).toPayment =
      { (mapRefundState env.now refund p.toPayment).onPayment p.toPayment with
        stripeRefundId := some refund.id, updatedAt := u } := by
  unfold refundSynced
  generalize mapRefundState env.now refund p.toPayment = next
  dsimp only
  split
  · exact ⟨env.now, rfl⟩
  · next hsame =>
    simp only [refundChangedBy, not_or, not_not] at hsame
    obtain ⟨hstatus, hfailure, hrefundedAt, hfailedAt, hid⟩ := hsame
    refine ⟨p.updatedAt, ?_⟩
    simp only [RefundTransitionResult.onPayment, ← hstatus, ← hfailure, ← hrefundedAt, ← hfailedAt,
      ← hid]

section

variable (env : Env) (p : PaymentWithAttempts) (refund : StripeRefund)

@[simp] theorem refundSynced_id : (refundSynced env p refund).id = p.id := by
  obtain ⟨u, hu⟩ := refundSynced_toPayment env p refund
  rw [hu]
  rfl

@[simp] theorem refundSynced_amountCents :
    (refundSynced env p refund).amountCents = p.amountCents := by
  obtain ⟨u, hu⟩ := refundSynced_toPayment env p refund
  rw [hu]
  rfl

@[simp] theorem refundSynced_collected :
    (refundSynced env p refund).method = p.method ∧
      (refundSynced env p refund).paymentStatus = p.paymentStatus ∧
      (refundSynced env p refund).paidAt = p.paidAt := by
  obtain ⟨u, hu⟩ := refundSynced_toPayment env p refund
  rw [hu]
  exact ⟨rfl, rfl, rfl⟩

@[simp] theorem refundSynced_refundStatus :
    (refundSynced env p refund).refundStatus =
      (mapRefundState env.now refund p.toPayment).refundStatus := by
  obtain ⟨u, hu⟩ := refundSynced_toPayment env p refund
  rw [hu]
  rfl

@[simp] theorem refundSynced_refundedAt :
    (refundSynced env p refund).refundedAt =
      (mapRefundState env.now refund p.toPayment).refundedAt := by
  obtain ⟨u, hu⟩ := refundSynced_toPayment env p refund
  rw [hu]
  rfl

end

@[simp] theorem refundSynced_attempts (env : Env) (p : PaymentWithAttempts)
    (refund : StripeRefund) : (refundSynced env p refund).attempts = p.attempts := by
  unfold refundSynced
  dsimp only
  split <;> rfl

/-! ## Reads -/

theorem getOrderWithPaymentTx_ok :
    (getOrderWithPaymentTx org orderId).run db s = (.ok (o, db'), s') ↔
      db.order? orderId = some o ∧ o.visibleTo org = true ∧ db' = db ∧ s' = s := by
  unfold getOrderWithPaymentTx
  constructor
  · intro h
    obtain ⟨found, d, t, hread, h₁⟩ := Prog.run_bind_ok.mp h
    obtain ⟨rfl, rfl, rfl⟩ := Prog.run_select_ok.mp hread
    cases hf : (d.order? orderId).filter (OrderRecord.visibleTo org) with
    | none => simp only [hf] at h₁; exact (Prog.run_fail_ok.mp h₁).elim
    | some o' =>
      simp only [hf] at h₁
      obtain ⟨rfl, rfl, rfl⟩ := Prog.run_pure_ok.mp h₁
      obtain ⟨ho, hv⟩ := Option.filter_eq_some_iff.mp hf
      exact ⟨ho, hv, rfl, rfl⟩
  · rintro ⟨ho, hv, rfl, rfl⟩
    have hf : (db'.order? orderId).filter (OrderRecord.visibleTo org) = some o := by
      rw [ho, Option.filter_some_pos hv]
    rw [Prog.run_bind_ok]
    exact ⟨some o, db', s', Prog.run_select_ok.mpr ⟨hf.symm, rfl, rfl⟩,
      Prog.run_pure_ok.mpr ⟨rfl, rfl, rfl⟩⟩

theorem getPaymentByIdTx_ok :
    (getPaymentByIdTx orderId paymentId).run db s = (.ok (p, db'), s') ↔
      (∃ o, db.order? orderId = some o ∧ o.payment = some p ∧ p.id = paymentId) ∧
        db' = db ∧ s' = s := by
  unfold getPaymentByIdTx
  rw [← Database.payment?_eq_some]
  constructor
  · intro h
    obtain ⟨found, d, t, hread, h₁⟩ := Prog.run_bind_ok.mp h
    obtain ⟨rfl, rfl, rfl⟩ := Prog.run_select_ok.mp hread
    cases hf : d.payment? orderId paymentId with
    | none => simp only [hf] at h₁; exact (Prog.run_fail_ok.mp h₁).elim
    | some q =>
      simp only [hf] at h₁
      obtain ⟨rfl, rfl, rfl⟩ := Prog.run_pure_ok.mp h₁
      exact ⟨rfl, rfl, rfl⟩
  · rintro ⟨hf, rfl, rfl⟩
    rw [Prog.run_bind_ok]
    exact ⟨some p, db', s', Prog.run_select_ok.mpr ⟨hf.symm, rfl, rfl⟩,
      Prog.run_pure_ok.mpr ⟨rfl, rfl, rfl⟩⟩

theorem paymentFindByOrder_ok (ho : db.order? orderId = some o) :
    (paymentFindByOrder orderId).run db s = (.ok (r, db'), s') ↔
      r = o.payment ∧ db' = db ∧ s' = s := by
  rw [paymentFindByOrder, Prog.run_select_ok, ho, Option.bind_some]

theorem writePaymentAuditLogTx_ok {payment : Payment} {action : AuditAction}
    {beforeJson afterJson : Option AuditJson} {u : Unit} (hput : db.Puts orderId o rows db')
    {db'' : Database} (h : (writePaymentAuditLogTx payment action beforeJson afterJson
      auditContext).run db' s = (.ok (u, db''), s')) :
    db.Puts orderId o ((payment.id, action) :: rows) db'' ∧ s' = s := by
  obtain ⟨rfl, rfl⟩ := auditLogCreate_ok.mp h
  exact ⟨hput.log
    { organizationId := payment.organizationId, actorUserId := auditContext.actorUserId,
      entityType := .payment, entityId := payment.id, action := action,
      beforeJson := beforeJson, afterJson := afterJson, requestId := auditContext.requestId,
      ip := auditContext.ip, userAgent := auditContext.userAgent }, rfl⟩

/-! ## Payment rows -/

theorem createPaymentForConfirmedOrderTx_ok {organizationId : Id} {amountCents : Int}
    {orderCreatedAt : Date} (ho : db.order? orderId = some o)
    (h : (createPaymentForConfirmedOrderTx env orderId organizationId amountCents orderCreatedAt
      auditContext).run db s = (.ok (p, db'), s')) :
    p = o.payment.getD (newPayment env organizationId amountCents orderCreatedAt) ∧
      db.Puts orderId { o with payment := some p }
        (if o.payment = none then [(p.id, .paymentCreated)] else []) db' ∧ s' = s := by
  obtain ⟨existing, d, t, hfind, h₁⟩ := Prog.run_bind_ok.mp h
  obtain ⟨rfl, rfl, rfl⟩ := (paymentFindByOrder_ok ho).mp hfind
  cases hp : o.payment with
  | some q =>
    simp only [hp] at h₁
    obtain ⟨rfl, rfl, rfl⟩ := Prog.run_pure_ok.mp h₁
    rw [OrderRecord.eta_payment hp]
    exact ⟨rfl, Database.Puts.refl ho, rfl⟩
  | none =>
    simp only [hp] at h₁
    obtain ⟨q, d₁, t₁, hcreate, h₂⟩ := Prog.run_bind_ok.mp h₁
    obtain ⟨o', ho', -, rfl, rfl, rfl⟩ := paymentCreate_ok.mp hcreate
    obtain rfl : o = o' := Option.some.inj (ho.symm.trans ho')
    obtain ⟨u, d₂, t₂, hlog, h₃⟩ := Prog.run_bind_ok.mp h₂
    obtain ⟨hput, rfl⟩ := writePaymentAuditLogTx_ok (Database.Puts.set ..) hlog
    obtain ⟨rfl, rfl, rfl⟩ := Prog.run_pure_ok.mp h₃
    exact ⟨rfl, hput, rfl⟩

theorem ensureLegacyPaymentForOrderTx_ok (ho : db.order? orderId = some o)
    (h : (ensureLegacyPaymentForOrderTx env orderId o.organizationId o.status o.totalCents
      o.createdAt o.placedAt).run db s = (.ok (r, db'), s')) :
    r = o.paymentOrLegacy env ∧ db.Puts orderId (o.backfilled env) [] db' ∧ s' = s := by
  obtain ⟨existing, d, t, hfind, h₁⟩ := Prog.run_bind_ok.mp h
  obtain ⟨rfl, rfl, rfl⟩ := (paymentFindByOrder_ok ho).mp hfind
  cases hp : o.payment with
  | some q =>
    simp only [hp] at h₁
    obtain ⟨rfl, rfl, rfl⟩ := Prog.run_pure_ok.mp h₁
    rw [OrderRecord.backfilled_of_payment hp, OrderRecord.paymentOrLegacy_of_payment hp]
    exact ⟨rfl, Database.Puts.refl ho, rfl⟩
  | none =>
    simp only [hp] at h₁
    split at h₁
    · next hl =>
      obtain ⟨rfl, rfl, rfl⟩ := Prog.run_pure_ok.mp h₁
      have hn : o.paymentOrLegacy env = none := by simp [OrderRecord.paymentOrLegacy, hp, hl]
      refine ⟨hn.symm, ?_, rfl⟩
      rw [OrderRecord.backfilled, hn, ← hp]
      exact Database.Puts.refl ho
    · next hl =>
      have hn : o.paymentOrLegacy env = some (legacyPayment env o.organizationId o.status
          o.totalCents o.createdAt o.placedAt) := by
        simp [OrderRecord.paymentOrLegacy, hp, hl]
      obtain ⟨q, rfl, hcreate⟩ := Prog.run_map_ok.mp h₁
      obtain ⟨o', ho', -, rfl, rfl, rfl⟩ := paymentCreate_ok.mp hcreate
      obtain rfl : o = o' := Option.some.inj (ho.symm.trans ho')
      refine ⟨hn.symm, ?_, rfl⟩
      rw [OrderRecord.backfilled, hn]
      exact Database.Puts.set ..

theorem paymentOrLegacyTx_ok (ho : db.order? orderId = some o)
    (h : (paymentOrLegacyTx env orderId o).run db s = (.ok (r, db'), s')) :
    r = o.paymentOrLegacy env ∧ db.Puts orderId (o.backfilled env) [] db' ∧ s' = s := by
  unfold paymentOrLegacyTx at h
  cases hp : o.payment with
  | some q =>
    simp only [hp] at h
    obtain ⟨rfl, rfl, rfl⟩ := Prog.run_pure_ok.mp h
    rw [OrderRecord.backfilled_of_payment hp, OrderRecord.paymentOrLegacy_of_payment hp]
    exact ⟨rfl, Database.Puts.refl ho, rfl⟩
  | none =>
    simp only [hp] at h
    exact ensureLegacyPaymentForOrderTx_ok ho h

theorem orderAndPaymentTx_ok {read : OrderRecord × Option PaymentWithAttempts}
    (h : (orderAndPaymentTx env org orderId).run db s = (.ok (read, db'), s')) :
    db.order? orderId = some read.1 ∧ read.1.visibleTo org = true ∧
      read.2 = read.1.paymentOrLegacy env ∧ db.Puts orderId (read.1.backfilled env) [] db' ∧
      s' = s := by
  obtain ⟨order, d, t, hget, h₁⟩ := Prog.run_bind_ok.mp h
  obtain ⟨ho, hv, rfl, rfl⟩ := getOrderWithPaymentTx_ok.mp hget
  obtain ⟨payment, d₁, t₁, hfind, h₂⟩ := Prog.run_bind_ok.mp h₁
  obtain ⟨rfl, hput, rfl⟩ := paymentOrLegacyTx_ok ho hfind
  obtain ⟨rfl, rfl, rfl⟩ := Prog.run_pure_ok.mp h₂
  exact ⟨ho, hv, rfl, hput, rfl⟩

/-! ## Writes to a payment -/

theorem paymentWrite_put {locked : List RowKey} {violated : Database → Bool}
    {f : PaymentWithAttempts → PaymentWithAttempts} (hput : db.Puts orderId o rows db')
    (hp : o.payment = some p) {db'' : Database}
    (h : (paymentWrite locked orderId paymentId violated f).run db' s = (.ok (q, db''), s')) :
    q = f p ∧ db.Puts orderId { o with payment := some q } rows db'' ∧ s' = s := by
  obtain ⟨o', p', ho', hp', -, -, rfl, rfl, rfl⟩ := paymentWrite_ok.mp h
  obtain rfl : o = o' := Option.some.inj (hput.order?_self.symm.trans ho')
  obtain rfl : p = p' := Option.some.inj (hp.symm.trans hp')
  exact ⟨rfl, hput.trans (Database.Puts.set ..), rfl⟩

theorem paymentUpdate_put {f : Payment → Payment} (hput : db.Puts orderId o rows db')
    (hp : o.payment = some p) {db'' : Database}
    (h : (paymentUpdate env orderId paymentId f).run db' s = (.ok (q, db''), s')) :
    q = Payment.updated env f p ∧ db.Puts orderId { o with payment := some q } rows db'' ∧
      s' = s :=
  paymentWrite_put hput hp h

theorem attemptUpdate_put {attemptId : Id} {f : PaymentAttempt → PaymentAttempt}
    (hput : db.Puts orderId o rows db') (hp : o.payment = some p) {db'' : Database}
    (h : (attemptUpdate env orderId paymentId attemptId f).run db' s = (.ok (q, db''), s')) :
    q = { p with attempts := updateAttempt env attemptId f p.attempts } ∧
      db.Puts orderId { o with payment := some q } rows db'' ∧ s' = s :=
  paymentWrite_put hput hp h

theorem orderUpdate_put {organizationId : Id} {f : OrderRecord → OrderRecord} {o' : OrderRecord}
    (hput : db.Puts orderId o rows db') {db'' : Database}
    (h : (orderUpdate env orderId organizationId f).run db' s = (.ok (o', db''), s')) :
    o.organizationId = organizationId ∧ o' = Order.updated env id (f o) ∧
      db.Puts orderId o' rows db'' ∧ s' = s := by
  obtain ⟨o₁, ho₁, hi, rfl, rfl, rfl⟩ := orderUpdate_ok.mp h
  obtain rfl : o = o₁ := Option.some.inj (hput.order?_self.symm.trans ho₁)
  exact ⟨hi, rfl, hput.trans (Database.Puts.set ..), rfl⟩

theorem attemptCreate_put {a : PaymentAttempt} (hput : db.Puts orderId o rows db')
    (hp : o.payment = some p) {db'' : Database}
    (h : (attemptCreate orderId paymentId a).run db' s = (.ok (q, db''), s')) :
    q = { p with attempts := a :: p.attempts } ∧
      db.Puts orderId { o with payment := some q } rows db'' ∧ s' = s :=
  paymentWrite_put hput hp h

/-! ## Applying Stripe's state -/

/-- The write to the attempt, which is only made if the attempt changes. -/
theorem withSyncedAttempt_put {attempt : PaymentAttempt} {next : PaymentTransitionResult} {u : Unit}
    {db'' : Database} (hput : db.Puts orderId o rows db') (hp : o.payment = some p)
    (h : (Prog.doWhen (attemptChangedBy attempt next)
        (do let _ ← attemptUpdate env orderId p.id attempt.id next.onAttempt)).run db' s =
      (.ok (u, db''), s')) :
    db.Puts orderId { o with payment := some (withSyncedAttempt env p attempt next) } rows db'' ∧
      s' = s := by
  unfold withSyncedAttempt
  rcases Prog.run_doWhen_ok.mp h with ⟨hc, hrun⟩ | ⟨hc, rfl, rfl⟩
  · obtain ⟨q', d', t', hupd, hdone⟩ := Prog.run_bind_ok.mp hrun
    obtain ⟨-, rfl, rfl⟩ := Prog.run_pure_ok.mp hdone
    obtain ⟨rfl, hput', rfl⟩ := attemptUpdate_put hput hp hupd
    rw [if_pos hc]
    exact ⟨hput', rfl⟩
  · rw [if_neg hc, OrderRecord.eta_payment hp]
    exact ⟨hput, rfl⟩

theorem applyPaymentIntentStateTx_ok {attempt : PaymentAttempt}
    {paymentIntent : StripePaymentIntent} {dto : PaymentDto} {db'' : Database}
    (hput : db.Puts orderId o rows db') (hp : o.payment = some p)
    (h : (applyPaymentIntentStateTx env orderId p attempt paymentIntent auditContext).run db' s =
      (.ok (dto, db''), s')) :
    dto = toPaymentDto orderId (syncedPayment env p attempt paymentIntent) ∧
      db.Puts orderId { o with payment := some (syncedPayment env p attempt paymentIntent) }
        (syncedRows env p paymentIntent ++ rows) db'' ∧ s' = s := by
  unfold applyPaymentIntentStateTx at h
  unfold syncedPayment syncedRows
  generalize mapPaymentIntentState env.now paymentIntent p.toPayment = next at h ⊢
  dsimp only at h ⊢
  split at h
  · next hsame =>
    obtain ⟨rfl, rfl, rfl⟩ := Prog.run_pure_ok.mp h
    have hst : p.paymentStatus = next.paymentStatus := by
      by_contra hne
      exact hsame.1 (Or.inl hne)
    rw [if_pos hsame, if_pos hst, OrderRecord.eta_payment hp]
    exact ⟨rfl, hput, rfl⟩
  · next hchanged =>
    rw [if_neg hchanged]
    obtain ⟨u, d₁, t₁, hattempt, h₁⟩ := Prog.run_bind_ok.mp h
    obtain ⟨q, d₂, t₂, hpay, h₂⟩ := Prog.run_bind_ok.mp h₁
    obtain ⟨hput₁, rfl⟩ := withSyncedAttempt_put hput hp hattempt
    obtain ⟨hq, hput₂, rfl⟩ := paymentUpdate_put hput₁ rfl hpay
    have hnext : q.paymentStatus = next.paymentStatus := by rw [hq]; rfl
    rw [hnext] at h₂
    subst hq
    split at h₂
    · next hst =>
      rw [if_neg hst]
      cases hact : paymentStatusAction next.paymentStatus with
      | none =>
        simp only [hact] at h₂
        obtain ⟨rfl, rfl, rfl⟩ := Prog.run_pure_ok.mp h₂
        exact ⟨rfl, hput₂, rfl⟩
      | some action =>
        simp only [hact] at h₂
        obtain ⟨u', d₃, t₃, hlog, h₃⟩ := Prog.run_bind_ok.mp h₂
        obtain ⟨hput₃, rfl⟩ := writePaymentAuditLogTx_ok hput₂ hlog
        obtain ⟨rfl, rfl, rfl⟩ := Prog.run_pure_ok.mp h₃
        exact ⟨rfl, hput₃, rfl⟩
    · next hst =>
      rw [if_pos (not_not.mp hst)]
      obtain ⟨rfl, rfl, rfl⟩ := Prog.run_pure_ok.mp h₂
      exact ⟨rfl, hput₂, rfl⟩

theorem afterRefund_put {organizationId : Id} {u : Unit} {db'' : Database} {c : Prop} [Decidable c]
    (hput : db.Puts orderId { o with payment := some q } rows db')
    (hcond : c ↔ q.refundStatus = .refunded ∧ o.status = .confirmed)
    (h : (Prog.doWhen c
        (do let _ ← orderUpdate env orderId organizationId (cancelledByRefund env))).run db' s =
      (.ok (u, db''), s')) :
    db.Puts orderId (o.afterRefund env q) rows db'' ∧ s' = s := by
  unfold OrderRecord.afterRefund
  rcases Prog.run_doWhen_ok.mp h with ⟨hc, hrun⟩ | ⟨hc, rfl, rfl⟩
  · obtain ⟨o', d, t, hupd, hdone⟩ := Prog.run_bind_ok.mp hrun
    obtain ⟨-, rfl, rfl⟩ := Prog.run_pure_ok.mp hdone
    obtain ⟨-, rfl, hput', rfl⟩ := orderUpdate_put hput hupd
    rw [if_pos (hcond.mp hc)]
    exact ⟨hput', rfl⟩
  · rw [if_neg fun h' => hc (hcond.mpr h')]
    exact ⟨hput, rfl⟩

theorem updateRefundTx_put {next : RefundTransitionResult} {refund : StripeRefund}
    {db'' : Database} (hput : db.Puts orderId o rows db') (hp : o.payment = some p)
    (h : (updateRefundTx env orderId p next refund).run db' s = (.ok (q, db''), s')) :
    q = (if refundChangedBy p.toPayment next refund then
        Payment.updated env (fun r => { next.onPayment r with stripeRefundId := some refund.id }) p
        else p) ∧
      db.Puts orderId { o with payment := some q } rows db'' ∧ s' = s := by
  unfold updateRefundTx at h
  split at h
  · next hc =>
    rw [if_pos hc]
    exact paymentWrite_put hput hp h
  · next hc =>
    obtain ⟨rfl, rfl, rfl⟩ := Prog.run_pure_ok.mp h
    rw [if_neg hc, OrderRecord.eta_payment hp]
    exact ⟨rfl, hput, rfl⟩

theorem applyRefundStateTx_ok {refund : StripeRefund} {dto : PaymentDto} {db'' : Database}
    (hput : db.Puts orderId o rows db') (hp : o.payment = some p)
    (h : (applyRefundStateTx env orderId o p refund auditContext).run db' s =
      (.ok (dto, db''), s')) :
    dto = toPaymentDto orderId (refundSynced env p refund) ∧
      db.Puts orderId (o.afterRefund env (refundSynced env p refund))
        (refundSyncedRows env p refund ++ rows) db'' ∧ s' = s := by
  unfold applyRefundStateTx at h
  unfold refundSynced refundSyncedRows
  generalize mapRefundState env.now refund p.toPayment = next at h ⊢
  dsimp only at h ⊢
  obtain ⟨q, d₁, t₁, hpay, h₁⟩ := Prog.run_bind_ok.mp h
  obtain ⟨u₁, d₂, t₂, horder, h₂⟩ := Prog.run_bind_ok.mp h₁
  obtain ⟨u₂, d₃, t₃, hrefunded, h₃⟩ := Prog.run_bind_ok.mp h₂
  obtain ⟨u₃, d₄, t₄, hfailed, h₄⟩ := Prog.run_bind_ok.mp h₃
  obtain ⟨rfl, rfl, rfl⟩ := Prog.run_pure_ok.mp h₄
  -- the payment row
  obtain ⟨hq, hput₁, rfl⟩ := updateRefundTx_put hput hp hpay
  have hnext : q.refundStatus = next.refundStatus := by
    rw [hq]
    split
    · rfl
    · next hc =>
      by_contra hne
      exact hc (Or.inl hne)
  rw [← hq]
  -- the order row
  obtain ⟨hput₂, rfl⟩ := afterRefund_put hput₁ Iff.rfl horder
  -- the audit rows
  rw [hnext] at hrefunded hfailed
  rcases Prog.run_doWhen_ok.mp hrefunded with ⟨⟨hne, hr⟩, hlog⟩ | ⟨hn, rfl, rfl⟩
  · obtain ⟨hput₃, rfl⟩ := writePaymentAuditLogTx_ok hput₂ hlog
    rcases Prog.run_doWhen_ok.mp hfailed with ⟨⟨-, hf⟩, -⟩ | ⟨-, rfl, rfl⟩
    · rw [hr] at hf
      cases hf
    · rw [if_neg hne, hr]
      exact ⟨rfl, hput₃, rfl⟩
  · rcases Prog.run_doWhen_ok.mp hfailed with ⟨⟨hne, hf⟩, hlog⟩ | ⟨hn', rfl, rfl⟩
    · obtain ⟨hput₃, rfl⟩ := writePaymentAuditLogTx_ok hput₂ hlog
      rw [if_neg hne, hf]
      exact ⟨rfl, hput₃, rfl⟩
    · refine ⟨rfl, ?_, rfl⟩
      split
      · exact hput₂
      · next hne =>
        cases hs : next.refundStatus with
        | refunded => exact absurd ⟨hne, hs⟩ hn
        | failed => exact absurd ⟨hne, hs⟩ hn'
        | none => exact hput₂
        | requested => exact hput₂
        | pending => exact hput₂

/-! ## Retiring a card attempt -/

theorem cancelActiveCardAttemptTx_ok {stripe : StripeService S M} {db'' : Database}
    (hput : db.Puts orderId o rows db') (hp : o.payment = some p)
    (h : (cancelActiveCardAttemptTx stripe env orderId p.id auditContext).run db' s =
      (.ok (q, db''), s')) :
    (getReusableAttempt p = none ∧ db.Puts orderId o rows db'' ∧ s' = s) ∨
      ∃ attempt paymentIntent, getReusableAttempt p = some attempt ∧
        stripe.cancelOrRetrieve attempt.stripePaymentIntentId s = (.ok paymentIntent, s') ∧
        db.Puts orderId { o with payment := some (syncedPayment env p attempt paymentIntent) }
          (syncedRows env p paymentIntent ++ rows) db'' := by
  obtain ⟨p', d, t, hget, h₁⟩ := Prog.run_bind_ok.mp h
  obtain ⟨⟨o', ho', hp', -⟩, rfl, rfl⟩ := getPaymentByIdTx_ok.mp hget
  obtain rfl : o = o' := Option.some.inj (hput.order?_self.symm.trans ho')
  obtain rfl : p = p' := Option.some.inj (hp.symm.trans hp')
  cases hr : getReusableAttempt p with
  | none =>
    simp only [hr] at h₁
    obtain ⟨-, rfl, rfl⟩ := Prog.run_pure_ok.mp h₁
    exact Or.inl ⟨rfl, hput, rfl⟩
  | some attempt =>
    simp only [hr] at h₁
    obtain ⟨paymentIntent, d₁, t₁, hcancel, h₂⟩ := Prog.run_bind_ok.mp h₁
    obtain ⟨hans, rfl, rfl⟩ := Prog.run_invoke_ok.mp hcancel
    obtain ⟨dto, d₂, t₂, happly, h₃⟩ := Prog.run_bind_ok.mp h₂
    obtain ⟨-, hput', rfl⟩ := applyPaymentIntentStateTx_ok hput hp happly
    obtain ⟨-, rfl, rfl⟩ := getPaymentByIdTx_ok.mp h₃
    exact Or.inr ⟨attempt, paymentIntent, rfl, Prod.ext hans rfl, hput'⟩

theorem deletePaymentForReopenTx_ok {stripe : StripeService S M} {u : Unit} {db'' : Database}
    (hput : db.Puts orderId o rows db') (hp : o.payment = some p)
    (h : (deletePaymentForReopenTx stripe orderId p.id auditContext).run db' s =
      (.ok (u, db''), s')) :
    db.Puts orderId { o with payment := none } ((p.id, .paymentReopenVoided) :: rows) db'' ∧
      ((getReusableAttempt p = none ∧ s' = s) ∨
        ∃ attempt paymentIntent, getReusableAttempt p = some attempt ∧
          stripe.cancelOrRetrieve attempt.stripePaymentIntentId s = (.ok paymentIntent, s')) := by
  obtain ⟨p', d, t, hget, h₁⟩ := Prog.run_bind_ok.mp h
  obtain ⟨⟨o', ho', hp', -⟩, rfl, rfl⟩ := getPaymentByIdTx_ok.mp hget
  obtain rfl : o = o' := Option.some.inj (hput.order?_self.symm.trans ho')
  obtain rfl : p = p' := Option.some.inj (hp.symm.trans hp')
  obtain ⟨u₁, d₁, t₁, hcancel, h₂⟩ := Prog.run_bind_ok.mp h₁
  obtain ⟨q₁, d₂, t₂, hattempts, h₃⟩ := Prog.run_bind_ok.mp h₂
  obtain ⟨u₂, d₃, t₃, hdelete, h₄⟩ := Prog.run_bind_ok.mp h₃
  have hs : d₁ = d ∧ ((getReusableAttempt p = none ∧ t₁ = t) ∨
      ∃ attempt paymentIntent, getReusableAttempt p = some attempt ∧
        stripe.cancelOrRetrieve attempt.stripePaymentIntentId t = (.ok paymentIntent, t₁)) := by
    cases hr : getReusableAttempt p with
    | none =>
      rw [hr] at hcancel
      obtain ⟨-, rfl, rfl⟩ := Prog.run_pure_ok.mp hcancel
      exact ⟨rfl, Or.inl ⟨rfl, rfl⟩⟩
    | some attempt =>
      rw [hr] at hcancel
      obtain ⟨pi, d', t', hinv, hdone⟩ := Prog.run_bind_ok.mp hcancel
      obtain ⟨hans, rfl, rfl⟩ := Prog.run_invoke_ok.mp hinv
      obtain ⟨-, rfl, rfl⟩ := Prog.run_pure_ok.mp hdone
      exact ⟨rfl, Or.inr ⟨attempt, pi, rfl, Prod.ext hans rfl⟩⟩
  obtain ⟨rfl, hs⟩ := hs
  obtain ⟨rfl, hput₂, rfl⟩ := paymentWrite_put hput hp hattempts
  obtain ⟨o₂, p₂, ho₂, -, -, rfl, rfl⟩ := paymentDelete_ok.mp hdelete
  obtain rfl := Option.some.inj (hput₂.order?_self.symm.trans ho₂)
  obtain ⟨hput₃, rfl⟩ := writePaymentAuditLogTx_ok (hput₂.trans (Database.Puts.set ..)) h₄
  exact ⟨hput₃, hs⟩

/-! ## Collecting a payment -/

theorem initiateCardPayment_ok {stripe : StripeService S M} {dto : CreateCardPaymentResponseDto}
    (h : (initiateCardPayment stripe env org orderId auditContext).run db s =
      (.ok (dto, db'), s')) :
    ∃ o p, db.order? orderId = some o ∧ o.visibleTo org = true ∧ o.status = .confirmed ∧
      o.paymentOrLegacy env = some p ∧ (p.refundStatus = .none ∨ p.refundStatus = .failed) ∧
      p.paymentStatus ≠ .paid ∧
      ((∃ attempt, getReusableAttempt p = some attempt ∧ dto.clientSecret = attempt.clientSecret ∧
          db.Puts orderId (o.backfilled env) [] db' ∧ s' = s) ∨
        ∃ paymentIntent, getReusableAttempt p = none ∧
          stripe.createPaymentIntent (cardPaymentArgs orderId o.organizationId (env.uuid 1)
            p.toPayment) s = (.ok paymentIntent, s') ∧
          paymentIntent.clientSecret = some dto.clientSecret ∧
          db.Puts orderId { o with payment := some (withAttempt env p
            (newAttempt env p.toPayment paymentIntent.id dto.clientSecret)) }
            [(p.id, .paymentAttemptStarted)] db') := by
  obtain ⟨⟨o, payment?⟩, d, t, hread, h₁⟩ := Prog.run_bind_ok.mp h
  obtain ⟨ho, hv, hp, hput, rfl⟩ := orderAndPaymentTx_ok hread
  dsimp only at ho hv hp hput h₁
  subst hp
  cases hp : o.paymentOrLegacy env with
  | none => simp only [hp] at h₁; exact (Prog.run_fail_ok.mp h₁).elim
  | some p =>
    simp only [hp] at h₁
    obtain ⟨u₁, d₁, t₁, run_status, h₂⟩ := Prog.run_bind_ok.mp h₁
    obtain ⟨hstatus, rfl, rfl⟩ := Prog.run_require_ok.mp run_status
    obtain ⟨u₂, d₂, t₂, run_accept, h₃⟩ := Prog.run_bind_ok.mp h₂
    obtain ⟨haccept, rfl, rfl⟩ := Prog.run_ofExcept_ok.mp run_accept
    obtain ⟨hrefund, hpaid⟩ := assertPaymentAcceptsCollection_ok.mp haccept
    refine ⟨o, p, ho, hv, hstatus, hp, hrefund, hpaid, ?_⟩
    cases hr : getReusableAttempt p with
    | some attempt =>
      simp only [hr] at h₃
      obtain ⟨rfl, rfl, rfl⟩ := Prog.run_pure_ok.mp h₃
      exact Or.inl ⟨attempt, rfl, rfl, hput, rfl⟩
    | none =>
      simp only [hr] at h₃
      obtain ⟨paymentIntent, d₃, t₃, hcreate, h₄⟩ := Prog.run_bind_ok.mp h₃
      obtain ⟨hans, rfl, rfl⟩ := Prog.run_invoke_ok.mp hcreate
      cases hsec : paymentIntent.clientSecret.filter (· ≠ "") with
      | none => simp only [hsec] at h₄; exact (Prog.run_fail_ok.mp h₄).elim
      | some clientSecret =>
        simp only [hsec] at h₄
        obtain ⟨q₁, d₄, t₄, hattempt, h₅⟩ := Prog.run_bind_ok.mp h₄
        obtain ⟨q₂, d₅, t₅, hpay, h₆⟩ := Prog.run_bind_ok.mp h₅
        obtain ⟨u₆, d₆, t₆, hlog, h₇⟩ := Prog.run_bind_ok.mp h₆
        obtain ⟨rfl, hput₁, rfl⟩ := attemptCreate_put hput hp hattempt
        obtain ⟨rfl, hput₂, rfl⟩ := paymentUpdate_put hput₁ rfl hpay
        obtain ⟨hput₃, rfl⟩ := writePaymentAuditLogTx_ok hput₂ hlog
        obtain ⟨rfl, rfl, rfl⟩ := Prog.run_pure_ok.mp h₇
        exact Or.inr ⟨paymentIntent, rfl, Prod.ext hans rfl, (Option.filter_eq_some_iff.mp hsec).1,
          hput₃⟩

theorem markCashPaid_ok {dto : PaymentDto}
    (h : (markCashPaid env org orderId auditContext).run db s = (.ok (dto, db'), s')) :
    ∃ o p, db.order? orderId = some o ∧ o.visibleTo org = true ∧ o.status = .confirmed ∧
      o.paymentOrLegacy env = some p ∧ p.refundStatus ≠ .requested ∧ p.refundStatus ≠ .pending ∧
      p.paymentStatus ≠ .paid ∧ p.paymentStatus ≠ .pending ∧
      db.Puts orderId
        { o with payment := some (Payment.updated env (paidInCash env p.toPayment) p) }
        [(p.id, .paymentPaid)] db' ∧ s' = s := by
  obtain ⟨⟨o, payment?⟩, d, t, hread, h₁⟩ := Prog.run_bind_ok.mp h
  obtain ⟨ho, hv, hp, hput, rfl⟩ := orderAndPaymentTx_ok hread
  dsimp only at ho hv hp hput h₁
  subst hp
  cases hp : o.paymentOrLegacy env with
  | none => simp only [hp] at h₁; exact (Prog.run_fail_ok.mp h₁).elim
  | some p =>
    simp only [hp] at h₁
    obtain ⟨u₁, d₁, t₁, run_status, h₂⟩ := Prog.run_bind_ok.mp h₁
    obtain ⟨hstatus, rfl, rfl⟩ := Prog.run_require_ok.mp run_status
    obtain ⟨u₂, d₂, t₂, run_refund, h₃⟩ := Prog.run_bind_ok.mp h₂
    obtain ⟨hrefund, rfl, rfl⟩ := Prog.run_ofExcept_ok.mp run_refund
    obtain ⟨hreq, hpend⟩ := assertRefundInactive_ok.mp hrefund
    obtain ⟨u₃, d₃, t₃, run_paid, h₄⟩ := Prog.run_bind_ok.mp h₃
    obtain ⟨hpaid, rfl, rfl⟩ := Prog.run_require_ok.mp run_paid
    obtain ⟨u₄, d₄, t₄, run_progress, h₅⟩ := Prog.run_bind_ok.mp h₄
    obtain ⟨hprogress, rfl, rfl⟩ := Prog.run_require_ok.mp run_progress
    obtain ⟨q, d₅, t₅, hpay, h₆⟩ := Prog.run_bind_ok.mp h₅
    obtain ⟨u₆, d₆, t₆, hlog, h₇⟩ := Prog.run_bind_ok.mp h₆
    obtain ⟨rfl, hput₁, rfl⟩ := paymentUpdate_put hput hp hpay
    obtain ⟨hput₂, rfl⟩ := writePaymentAuditLogTx_ok hput₁ hlog
    obtain ⟨rfl, rfl, rfl⟩ := Prog.run_pure_ok.mp h₇
    exact ⟨o, p, ho, hv, hstatus, hp, hreq, hpend, hpaid, hprogress, hput₂, rfl⟩

/-! ## Reads outside a transaction -/

theorem paymentCreate_failsClean :
    (paymentCreate orderId p : Tx S PaymentWithAttempts).FailsClean :=
  Prog.failsClean_returning fun _ _ => ⟨p, rfl⟩

theorem orderAndPaymentTx_failsClean :
    (orderAndPaymentTx env org orderId : Tx S _).FailsClean := by
  refine Prog.ReadOnly.bind_failsClean ?_ fun order => ?_
  · unfold getOrderWithPaymentTx
    refine Prog.ReadOnly.bind (fun _ => trivial) fun found => ?_
    cases found <;> trivial
  · refine Prog.FailsClean.bind_pure ?_
    unfold paymentOrLegacyTx
    cases order.payment with
    | some p => exact Prog.ReadOnly.failsClean trivial
    | none =>
      refine Prog.ReadOnly.bind_failsClean (fun _ => trivial) fun existing => ?_
      cases existing with
      | some p => exact Prog.ReadOnly.failsClean trivial
      | none =>
        dsimp only
        split
        · exact Prog.ReadOnly.failsClean trivial
        · exact Prog.FailsClean.bind_pure paymentCreate_failsClean

/-- An order with its payment is only read. -/
theorem orderAndPaymentTx_runAuto (ho : db.order? orderId = some o) (hp : o.payment = some p) :
    (orderAndPaymentTx env org orderId).runAuto db s =
      (if o.visibleTo org = true then .ok (o, some p)
      else .error (.notFound "Order not found for organization"), db, s) := by
  rw [orderAndPaymentTx, Prog.runAuto_bind]
  have hget : (getOrderWithPaymentTx org orderId : Tx S OrderRecord).runAuto db s =
      (if o.visibleTo org = true then .ok o
      else .error (.notFound "Order not found for organization"), db, s) := by
    rw [getOrderWithPaymentTx, Prog.runAuto_bind]
    simp only [Prog.runAuto_select, ho]
    by_cases hv : o.visibleTo org = true
    · rw [Option.filter_some_pos hv, if_pos hv]
      rfl
    · rw [Option.filter_some_neg (by simpa using hv), if_neg hv]
      rfl
  rw [hget]
  by_cases hv : o.visibleTo org = true
  · simp only [if_pos hv, paymentOrLegacyTx, hp]
    rfl
  · simp only [if_neg hv]

end

end LedgerLight
