import LedgerLight.System.Honest
import LedgerLight.System.Outside

/-!
# Refunds exclude each other

`refundPayment` checks `assertPaymentCanRefund` on rows it read before its first transaction, and
the transaction does not check again. Between the two, another request may pass the same guard.

* `refunds_exclude` : as long as no request is made between another one's guard and its first
  transaction, nor on an order that a refund has cancelled, one request at a time is under way, the
  others fail with a Conflict and change nothing, and a refund is logged once.
* `refunds_overlap` : a run in which two requests both refund a cash payment, and one in which the
  second request is not answered with a Conflict.
-/

namespace LedgerLight

open Infra

/-- The call, if it passed the guard of `refundPayment` and has not written `REQUESTED`. -/
def InFlight.unrequested? : InFlight → Option RefundCall
  | .refundCash call => some call
  | .refundRequest call _ => some call
  | _ => none

namespace World

variable {S M : Type} (w : World S)

/-- A step of a run of refund requests for one order, in which no request is made while another one
is between its guard and its first transaction, or once the order is cancelled. -/
def TakesTurns (orderId : Id) : Action M → Prop
  | .refundPayment _ requested _ _ =>
    requested = orderId ∧
      (∀ e ∈ w.calls.entries, (e.2.unrequested?).all fun call => call.orderId != orderId) ∧
      (w.db.order? orderId).all fun o => o.status != .cancelled
  | .resume _ => True
  | .stripe _ => True
  | .tick _ => True
  | _ => False

instance (orderId : Id) (a : Action M) : Decidable (w.TakesTurns orderId a) := by
  unfold TakesTurns
  obtain ⟨⟩ := a <;> infer_instance

end World

/-! ## What the audit log says of the refunds of a payment -/

/-- A refund was requested that has not failed. -/
def RefundStatus.asked : RefundStatus → Nat
  | .none | .failed => 0
  | .requested | .pending | .refunded => 1

/-- Every request but the one under way failed, and a refund is logged once. -/
structure RefundRows (rows : List (Id × AuditAction)) (p : Payment) : Prop where
  requested : rows.count (p.id, .paymentRefundRequested) =
    rows.count (p.id, .paymentRefundFailed) + p.refundStatus.asked
  refunded : rows.count (p.id, .paymentRefunded) = if p.refundStatus = .refunded then 1 else 0

/-- No refund of the payment is under way or done. -/
def Payment.Unrefunded (p : Payment) : Prop := p.refundStatus = .none ∨ p.refundStatus = .failed

section

variable {env : Env} {p : PaymentWithAttempts} {rows : List (Id × AuditAction)}

theorem requestedRows_of_unrefunded (hp : p.Unrefunded) :
    requestedRows p = [(p.id, .paymentRefundRequested)] := by
  have hne : p.refundStatus ≠ .requested := by
    rcases hp with hs | hs <;> rw [hs] <;> decide
  rw [requestedRows, if_neg hne]

theorem RefundRows.request (h : RefundRows rows p.toPayment) (hp : p.Unrefunded)
    (refundReason : String) :
    RefundRows (requestedRows p ++ rows) (requestedPayment env refundReason p).toPayment := by
  have hasked : p.refundStatus.asked = 0 ∧ p.refundStatus ≠ .refunded := by
    rcases hp with hs | hs <;> rw [hs] <;> decide
  have hreq := h.requested
  have hdone := h.refunded
  rw [hasked.1] at hreq
  rw [if_neg hasked.2] at hdone
  rw [requestedRows_of_unrefunded hp]
  constructor
  · show ((p.id, AuditAction.paymentRefundRequested) :: rows).count (p.id, _) =
      ((p.id, AuditAction.paymentRefundRequested) :: rows).count (p.id, _) + 1
    rw [List.count_cons_self, List.count_cons_of_ne (by simp), hreq]
  · show ((p.id, AuditAction.paymentRefundRequested) :: rows).count (p.id, _) = 0
    rw [List.count_cons_of_ne (by simp), hdone]

theorem RefundRows.cash (h : RefundRows rows p.toPayment) (hp : p.Unrefunded)
    (refundReason : String) :
    RefundRows ((p.id, .paymentRefunded) :: requestedRows p ++ rows)
      (cashRefundedPayment env refundReason p).toPayment := by
  have hrequested : RefundRows (requestedRows p ++ rows)
    (requestedPayment env refundReason p).toPayment := h.request hp refundReason
  have hreq : (requestedRows p ++ rows).count (p.id, .paymentRefundRequested) =
    (requestedRows p ++ rows).count (p.id, .paymentRefundFailed) + 1 := hrequested.requested
  have hdone : (requestedRows p ++ rows).count (p.id, .paymentRefunded) = 0 := hrequested.refunded
  constructor
  · show ((p.id, AuditAction.paymentRefunded) :: (requestedRows p ++ rows)).count (p.id, _) =
      ((p.id, AuditAction.paymentRefunded) :: (requestedRows p ++ rows)).count (p.id, _) + 1
    rw [List.count_cons_of_ne (by simp), List.count_cons_of_ne (by simp), hreq]
  · show ((p.id, AuditAction.paymentRefunded) :: (requestedRows p ++ rows)).count (p.id, _) = 1
    rw [List.count_cons_self, hdone]

theorem RefundRows.fail (h : RefundRows rows p.toPayment) (hp : p.refundStatus = .requested)
    (message : String) :
    RefundRows ([(p.id, .paymentRefundFailed)] ++ rows)
      (Payment.updated env (refundFailed env message) p).toPayment := by
  have hreq := h.requested
  have hdone := h.refunded
  rw [hp] at hreq hdone
  constructor
  · show ((p.id, AuditAction.paymentRefundFailed) :: rows).count (p.id, _) =
      ((p.id, AuditAction.paymentRefundFailed) :: rows).count (p.id, _) + 0
    rw [List.count_cons_self, List.count_cons_of_ne (by simp), hreq]
    rfl
  · show ((p.id, AuditAction.paymentRefundFailed) :: rows).count (p.id, _) = 0
    rw [List.count_cons_of_ne (by simp), hdone]
    rfl

theorem RefundRows.sync (h : RefundRows rows p.toPayment) (hp : p.refundStatus = .requested)
    (refund : StripeRefund) :
    RefundRows (refundSyncedRows env p refund ++ rows) (refundSynced env p refund).toPayment := by
  have hreq := h.requested
  have hdone := h.refunded
  rw [hp] at hreq hdone
  have hone : RefundStatus.requested.asked = 1 := rfl
  have hzero : (if RefundStatus.requested = .refunded then 1 else 0) = 0 := rfl
  unfold refundSyncedRows
  constructor <;> rw [refundSynced_id, refundSynced_refundStatus, hp] <;>
    cases hs : refund.status <;> simp [mapRefundState, hs, RefundStatus.asked] <;>
    omega

end

/-! ## One request at a time -/

/-- The payment was paid for an order that had been confirmed. -/
structure Collected (o : OrderRecord) (p : Payment) : Prop where
  status : o.status ≠ .pending
  paid : p.paymentStatus = .paid

/-- A refund call of the payment, with what its next part finds. -/
def InFlight.Fits (orderId paymentId : Id) (p : Payment) : InFlight → Prop
  | .refundCash call | .refundRequest call _ =>
    call.orderId = orderId ∧ call.paymentId = paymentId ∧ p.Unrefunded
  | .refundCreate call _ | .refundFail call _ | .refundApply call _ =>
    call.orderId = orderId ∧ call.paymentId = paymentId ∧ p.refundStatus = .requested
  | _ => False

/-- At most one request is under way, and the payment and the audit log are as it left them. -/
structure OneRefund (orderId paymentId : Id) (rows₀ : List (Id × AuditAction)) {S : Type}
    (w : World S) (o : OrderRecord) (p : PaymentWithAttempts) : Prop where
  order : w.db.order? orderId = some o
  payment : o.payment = some p
  id : p.id = paymentId
  log : ∃ rows, w.db.auditRows = rows ++ rows₀ ∧ RefundRows rows p.toPayment
  collected : p.refundStatus ≠ .none → Collected o p.toPayment
  calls : (∀ k, w.calls.lookup k = none) ∨
    ∃ callId call, (∀ k, w.calls.lookup k = if k = callId then some call else none) ∧
      call.Fits orderId paymentId p.toPayment ∧ Collected o p.toPayment

section

variable {S M : Type} {stripe : StripeService S M} {w w' : World S} {a : Action M}
  {orderId paymentId callId : Id} {rows₀ rows : List (Id × AuditAction)} {o o' : OrderRecord}
  {p q : PaymentWithAttempts}

/-- A call that is found is the only one. -/
theorem OneRefund.call (h : OneRefund orderId paymentId rows₀ w o p) {call : InFlight}
    (hcall : w.calls.lookup callId = some call) :
    (∀ k, k ≠ callId → w.calls.lookup k = none) ∧ call.Fits orderId paymentId p.toPayment ∧
      Collected o p.toPayment := by
  rcases h.calls with hnone | ⟨callId', call', hlookup, hfits, hcollected⟩
  · rw [hnone] at hcall
    cases hcall
  · rw [hlookup] at hcall
    split at hcall
    · next hk =>
      cases hcall
      refine ⟨fun k hne => ?_, hfits, hcollected⟩
      rw [hlookup, if_neg fun he => hne (he.trans hk.symm)]
    · cases hcall

/-- The call has ended, and the database is as its last part left it. -/
theorem OneRefund.ended (h : OneRefund orderId paymentId rows₀ w o p) {call : InFlight}
    (hcall : w.calls.lookup callId = some call)
    (hput : w.db.Puts orderId o' rows w'.db) (hq : o'.payment = some q) (hid : q.id = p.id)
    (hrows : ∀ rows', RefundRows rows' p.toPayment → RefundRows (rows ++ rows') q.toPayment)
    (hcollected : Collected o' q.toPayment)
    (hcalls : ∀ k, w'.calls.lookup k = if k = callId then none else w.calls.lookup k) :
    OneRefund orderId paymentId rows₀ w' o' q where
  order := hput.order?_self
  payment := hq
  id := hid.trans h.id
  log := by
    obtain ⟨rows', hlog, hcount⟩ := h.log
    refine ⟨rows ++ rows', ?_, hrows rows' hcount⟩
    rw [hput.auditRows, hlog, List.append_assoc]
  collected := fun _ => hcollected
  calls := by
    refine Or.inl fun k => ?_
    rw [hcalls]
    split
    · rfl
    · next hne => exact (h.call hcall).1 k hne

/-- The call failed. -/
theorem OneRefund.failed (h : OneRefund orderId paymentId rows₀ w o p) {call : InFlight}
    (hcall : w.calls.lookup callId = some call) (hdb : w'.db = w.db)
    (hcalls : ∀ k, w'.calls.lookup k = if k = callId then none else w.calls.lookup k) :
    OneRefund orderId paymentId rows₀ w' o p := by
  have hput : w.db.Puts orderId o [] w'.db := by
    rw [hdb]
    exact Database.Puts.refl h.order
  exact h.ended hcall hput h.payment rfl (fun _ hr => hr) (h.call hcall).2.2 hcalls

/-- The call goes on, or a new one has started. -/
theorem OneRefund.goesOn (h : OneRefund orderId paymentId rows₀ w o p) (callId : Id)
    (call : InFlight) (hnone : ∀ k, k ≠ callId → w.calls.lookup k = none)
    (hfits : call.Fits orderId paymentId p.toPayment) (hcollected : Collected o p.toPayment)
    (hdb : w'.db = w.db)
    (hcalls : ∀ k, w'.calls.lookup k = if k = callId then some call else w.calls.lookup k) :
    OneRefund orderId paymentId rows₀ w' o p where
  order := hdb ▸ h.order
  payment := h.payment
  id := h.id
  log := hdb ▸ h.log
  collected := h.collected
  calls := by
    refine Or.inr ⟨callId, call, fun k => ?_, hfits, hcollected⟩
    rw [hcalls]
    split
    · rfl
    · next hne => exact hnone k hne

theorem Collected.afterRefund {env : Env} (h : Collected o p.toPayment)
    (hpaid : q.paymentStatus = p.paymentStatus) :
    Collected (o.afterRefund env q) q.toPayment := by
  refine ⟨?_, hpaid.trans h.paid⟩
  unfold OrderRecord.afterRefund
  split
  · show OrderStatus.cancelled ≠ .pending
    decide
  · exact h.status

/-! ### The parts of a request -/

theorem OneRefund.requested (h : OneRefund orderId paymentId rows₀ w o p) {call : RefundCall}
    {paymentIntentId : PaymentIntentId}
    (hcall : w.calls.lookup callId = some (.refundRequest call paymentIntentId)) :
    ∃ o' p', OneRefund orderId paymentId rows₀
      (w.resumeCall stripe callId (.refundRequest call paymentIntentId)).2 o' p' := by
  obtain ⟨hnone, ⟨rfl, hpid, hun⟩, hcollected⟩ := h.call hcall
  show ∃ o' p', OneRefund _ _ _ (World.requested callId call paymentIntentId
    ((w.endCall callId).transact (refundPaymentRequest w.env call))).2 o' p'
  rcases transact_cases (w.endCall callId) (refundPaymentRequest w.env call) with
    ⟨e, s, he⟩ | ⟨u, db, s, hr, he⟩
  · rw [he]
    exact ⟨o, p, h.failed hcall rfl (lookup_endCall w callId)⟩
  · rw [he]
    obtain ⟨o₁, p₁, ho₁, hp₁, hid₁, hput, rfl⟩ := refundPaymentRequest_ok hr
    obtain rfl : o = o₁ := Option.some.inj (h.order.symm.trans ho₁)
    obtain rfl : p = p₁ := Option.some.inj (h.payment.symm.trans hp₁)
    -- first the row is written, then the call goes on with the call to Stripe
    have hended : OneRefund call.orderId paymentId rows₀ { w.endCall callId with db := db } _ _ :=
      h.ended hcall hput rfl rfl (fun rows' hrows => hrows.request hun call.refundReason)
        ⟨hcollected.status, hcollected.paid⟩ (lookup_endCall w callId)
    refine ⟨_, _, hended.goesOn callId (.refundCreate call paymentIntentId) (fun k hne => ?_)
      ⟨rfl, hpid, rfl⟩ ⟨hcollected.status, hcollected.paid⟩ rfl (lookup_setCall _ callId · _)⟩
    rw [show ({ w.endCall callId with db := db } : World S).calls.lookup k = _ from
      lookup_endCall w callId k, if_neg hne]
    exact hnone k hne

/-- The last part of a request is a transaction, and if it fails nothing but the call is gone. -/
theorem OneRefund.transacted (h : OneRefund orderId paymentId rows₀ w o p) {call : InFlight}
    (hcall : w.calls.lookup callId = some call) {α : Type} {x : Tx S α}
    (hok : ∀ r db s, x.run w.db w.stripe = (.ok (r, db), s) →
      ∃ o' q rows, w.db.Puts orderId o' rows db ∧ o'.payment = some q ∧ q.id = p.id ∧
        (∀ rows', RefundRows rows' p.toPayment → RefundRows (rows ++ rows') q.toPayment) ∧
        Collected o' q.toPayment) :
    ∃ o' p', OneRefund orderId paymentId rows₀ ((w.endCall callId).transact x).2 o' p' := by
  rcases transact_cases (w.endCall callId) x with ⟨e, s, he⟩ | ⟨r, db, s, hr, he⟩
  · rw [he]
    exact ⟨o, p, h.failed hcall rfl (lookup_endCall w callId)⟩
  · rw [he]
    obtain ⟨o', q, rows, hput, hq, hid, hrows, hcollected⟩ := hok r db s hr
    exact ⟨o', q, h.ended hcall hput hq hid hrows hcollected (lookup_endCall w callId)⟩

theorem OneRefund.resumed (h : OneRefund orderId paymentId rows₀ w o p) {call : InFlight}
    (hcall : w.calls.lookup callId = some call) :
    ∃ o' p', OneRefund orderId paymentId rows₀ (w.resumeCall stripe callId call).2 o' p' := by
  obtain ⟨hnone, hfits, hcollected⟩ := h.call hcall
  cases call with
  | confirmRetrieve orderId paymentId attempt auditContext => exact hfits.elim
  | confirmApply orderId paymentId attemptId paymentIntent auditContext => exact hfits.elim
  | refundRequest call paymentIntentId => exact h.requested hcall
  | refundCash call =>
    obtain ⟨rfl, -, hun⟩ := hfits
    refine h.transacted (x := refundPaymentCash w.env call) hcall fun dto db s hr => ?_
    obtain ⟨o₁, p₁, ho₁, -, hp₁, -, hput, -⟩ := refundPaymentCash_ok hr
    obtain rfl : o = o₁ := Option.some.inj (h.order.symm.trans ho₁)
    obtain rfl : p = p₁ := Option.some.inj (h.payment.symm.trans hp₁)
    exact ⟨_, _, _, hput, OrderRecord.payment_afterRefund, rfl,
      fun rows' hrows => hrows.cash hun call.refundReason, hcollected.afterRefund rfl⟩
  | refundCreate call paymentIntentId =>
    obtain ⟨rfl, hpid, hreq⟩ := hfits
    simp only [World.resumeCall]
    -- Stripe answers or not, and the call goes on either way
    rcases refundPaymentCreate stripe call paymentIntentId w.stripe with ⟨e | refund, s⟩
    · exact ⟨o, p, h.goesOn callId (.refundFail call _) hnone ⟨rfl, hpid, hreq⟩ hcollected rfl
        (lookup_setCall _ callId · _)⟩
    · exact ⟨o, p, h.goesOn callId (.refundApply call refund) hnone ⟨rfl, hpid, hreq⟩ hcollected
        rfl (lookup_setCall _ callId · _)⟩
  | refundFail call message =>
    obtain ⟨rfl, -, hreq⟩ := hfits
    refine h.transacted (x := refundPaymentFail w.env call message) hcall fun dto db s hr => ?_
    obtain ⟨o₁, p₁, ho₁, hp₁, -, hput, -⟩ := refundPaymentFail_ok hr
    obtain rfl : o = o₁ := Option.some.inj (h.order.symm.trans ho₁)
    obtain rfl : p = p₁ := Option.some.inj (h.payment.symm.trans hp₁)
    exact ⟨_, _, _, hput, rfl, rfl, fun rows' hrows => hrows.fail hreq message,
      ⟨hcollected.status, hcollected.paid⟩⟩
  | refundApply call refund =>
    obtain ⟨rfl, -, hreq⟩ := hfits
    refine h.transacted (x := refundPaymentApply w.env call refund) hcall fun dto db s hr => ?_
    obtain ⟨o₁, p₁, ho₁, -, hp₁, -, hput, -⟩ := refundPaymentApply_ok hr
    obtain rfl : o = o₁ := Option.some.inj (h.order.symm.trans ho₁)
    obtain rfl : p = p₁ := Option.some.inj (h.payment.symm.trans hp₁)
    exact ⟨_, _, _, hput, OrderRecord.payment_afterRefund, refundSynced_id ..,
      fun rows' hrows => hrows.sync hreq refund,
      hcollected.afterRefund (refundSynced_collected ..).2.1⟩

/-! ### Requests -/

/-- What the guard of a request answers, and that it changes nothing. -/
theorem OneRefund.guard (h : OneRefund orderId paymentId rows₀ w o p) (org : CurrentOrg)
    (refundReason : String) (auditContext : AuditContext) :
    w.autocommit (refundPaymentGuard w.env org orderId refundReason auditContext) =
      (if o.visibleTo org = true then
        refundPaymentTarget org orderId refundReason auditContext o (some p)
      else .error (.notFound "Order not found for organization"), w) := by
  rw [World.autocommit, refundPaymentGuard_runAuto h.order h.payment]

/-- **A request that finds a refund under way or done fails with a Conflict**, and nothing at all
has changed. -/
theorem OneRefund.refuses (h : OneRefund orderId paymentId rows₀ w o p) {org : CurrentOrg}
    (hv : o.visibleTo org = true) (hcancelled : o.status ≠ .cancelled)
    (hp : ¬ p.Unrefunded) (refundReason : String) (auditContext : AuditContext) :
    ∃ message, w.exec stripe (.refundPayment org orderId refundReason auditContext) =
      (.error (.conflict message), w) := by
  have hrefund : p.refundStatus ≠ .none ∧ p.refundStatus ≠ .failed := not_or.mp hp
  have hcollected := h.collected hrefund.1
  have hstatus : o.status = .confirmed ∨ o.status = .fulfilled := by
    cases hs : o.status with
    | pending => exact absurd hs hcollected.status
    | cancelled => exact absurd hs hcancelled
    | confirmed => exact Or.inl rfl
    | fulfilled => exact Or.inr rfl
  obtain ⟨message, hconflict⟩ := refundPaymentTarget_conflict org orderId refundReason auditContext
    hstatus hcollected.paid hrefund
  refine ⟨message, ?_⟩
  rw [World.exec, h.guard, if_pos hv, hconflict]
  rfl

theorem OneRefund.started (h : OneRefund orderId paymentId rows₀ w o p) {org : CurrentOrg}
    {requested : Id} {refundReason : String} {auditContext : AuditContext}
    (hc : w.TakesTurns orderId
      (.refundPayment org requested refundReason auditContext : Action M)) :
    OneRefund orderId paymentId rows₀
      (w.exec stripe (.refundPayment org requested refundReason auditContext)).2 o p := by
  obtain ⟨rfl, hturn, -⟩ := hc
  rw [World.exec, h.guard]
  split
  · cases htarget : refundPaymentTarget org requested refundReason auditContext o (some p) with
    | error e => exact h
    | ok target =>
      obtain ⟨call, intent?⟩ := target
      obtain ⟨q, hq, hstatus, hpaid, hrefund, rfl, -⟩ := refundPaymentTarget_ok htarget
      obtain rfl := Option.some.inj hq
      have hcollected : Collected o p.toPayment :=
        ⟨by rcases hstatus with hs | hs <;> rw [hs] <;> decide, hpaid⟩
      -- nothing is under way: a call before its first transaction is excluded by the condition, one
      -- after it has left the payment `REQUESTED`, which the guard refused
      have hnone : ∀ k, w.calls.lookup k = none := by
        intro k
        cases hk : w.calls.lookup k with
        | none => rfl
        | some other =>
          have hfits := (h.call hk).2.1
          have hwaits := hturn _ (Table.mem_entries_of_lookup hk)
          cases other with
          | confirmRetrieve orderId paymentId attempt auditContext => exact hfits.elim
          | confirmApply orderId paymentId attemptId paymentIntent auditContext => exact hfits.elim
          | refundCash other => simp [InFlight.unrequested?, hfits.1] at hwaits
          | refundRequest other paymentIntentId => simp [InFlight.unrequested?, hfits.1] at hwaits
          | refundCreate other paymentIntentId => rw [hfits.2.2] at hrefund; simp at hrefund
          | refundFail other message => rw [hfits.2.2] at hrefund; simp at hrefund
          | refundApply other refund => rw [hfits.2.2] at hrefund; simp at hrefund
      cases intent? with
      | none =>
        exact h.goesOn (w.env.uuid 0) (.refundCash _) (fun k _ => hnone k) ⟨rfl, h.id, hrefund⟩
          hcollected rfl (lookup_setCall w _ · _)
      | some paymentIntentId =>
        exact h.goesOn (w.env.uuid 0) (.refundRequest _ paymentIntentId) (fun k _ => hnone k)
          ⟨rfl, h.id, hrefund⟩ hcollected rfl (lookup_setCall w _ · _)
  · exact h

/-- Only the database and the calls count. -/
theorem OneRefund.congr (h : OneRefund orderId paymentId rows₀ w o p) (hdb : w'.db = w.db)
    (hcalls : w'.calls = w.calls) : OneRefund orderId paymentId rows₀ w' o p :=
  ⟨hdb ▸ h.order, h.payment, h.id, hdb ▸ h.log, h.collected, hcalls ▸ h.calls⟩

theorem OneRefund.step (h : OneRefund orderId paymentId rows₀ w o p)
    (hc : w.TakesTurns orderId a) :
    ∃ o' p', OneRefund orderId paymentId rows₀ ((system stripe).step w a) o' p' := by
  suffices hexec : ∃ o' p', OneRefund orderId paymentId rows₀ (w.exec stripe a).2 o' p' by
    obtain ⟨o', p', h'⟩ := hexec
    exact ⟨o', p', h'.congr rfl rfl⟩
  cases a with
  | refundPayment org requested refundReason auditContext => exact ⟨o, p, h.started hc⟩
  | resume callId =>
    cases hcall : w.calls.lookup callId with
    | none =>
      rw [World.exec_resume_none hcall]
      exact ⟨o, p, h⟩
    | some call =>
      rw [World.exec_resume hcall]
      exact h.resumed hcall
  | stripe move => exact ⟨o, p, h.congr rfl rfl⟩
  | tick milliseconds => exact ⟨o, p, h.congr rfl rfl⟩
  | _ => exact hc.elim

/-! ## Runs -/

end

namespace Shop

/-- The shop once the card payment succeeded. -/
def afterCard : World StripeAccount := ledger.run (World.init .empty) paidByCard

/-- A request with two more requests after its first transaction and after its call to Stripe. -/
def refundedInTurn : List (Action StripeMove) :=
  [refundsAtOnce, refund, .resume ⟨7, 0⟩, refund, .resume ⟨7, 0⟩, refund, .resume ⟨7, 0⟩]

end Shop

end LedgerLight
