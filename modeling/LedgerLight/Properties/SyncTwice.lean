import LedgerLight.Payment.Spec

/-!
# Stripe's state applied twice

Confirming a card and the webhooks bring Stripe's state into the payment again and again. A state
that was brought in is a fixed point of the mapping, whatever time it is; the one exception is a
refund that failed, which gets the time of every application.

* `mapPaymentIntentState_fixed` : the mapping gives a payment that has its outcome this outcome.
* `sync_twice` : the second application of an intent changes nothing.
* `mapRefundState_fixed` : the mapping of a refund that has not failed.
* `refund_sync_twice` : the second application of a refund changes nothing unless it failed.
-/

namespace LedgerLight

open Infra

/-! ## An order that is paid by card -/

namespace Till

def orderId : Id := ⟨1, 0⟩

def env (now : Date) : Env := { now := now, uuid := fun i => ⟨2, i⟩ }

def attempt : PaymentAttempt :=
  { id := ⟨2, 1⟩, stripePaymentIntentId := 7, status := .pending, clientSecret := "secret"
    amountCents := 1700, currencyCode := "CAD", lastFailure := none, createdAt := 2
    updatedAt := 2 }

def payment (status : PaymentStatus) : PaymentWithAttempts :=
  { newPayment (env 2) ⟨0, 0⟩ 1700 1 with
    method := some .card, paymentStatus := status, attempts := [attempt] }

def order (status : PaymentStatus) : OrderRecord :=
  { organizationId := ⟨0, 0⟩, customerId := none, locationId := none, status := .confirmed
    subtotalCents := 1700, taxCents := 0, discountCents := 0, totalCents := 1700, createdAt := 1
    updatedAt := 1, placedAt := some 2, cancelledAt := none, items := []
    payment := some (payment status) }

def db (status : PaymentStatus) : Database := Database.empty.setOrder orderId (order status)

/-- The card was declined. -/
def declined : StripePaymentIntent :=
  { id := 7, status := .requiresPaymentMethod, lastPaymentError := some "declined" }

def refund (status : StripeRefundStatus) : StripeRefund := { id := 9, status := status }

end Till

variable {S : Type} {env env' : Env} {db db' : Database} {s s' : S} {orderId : Id}
  {o : OrderRecord} {p : PaymentWithAttempts} {attempt a : PaymentAttempt}
  {paymentIntent : StripePaymentIntent} {refund : StripeRefund}
  {auditContext auditContext' : AuditContext}

/-! ## A card attempt -/

/-- **A payment that has the outcome keeps it**: the mapping reads the time only where the payment
has none. -/
theorem mapPaymentIntentState_fixed {now now' : Date} {q r : Payment}
    (hpaidAt : r.paidAt = (mapPaymentIntentState now paymentIntent q).paidAt) :
    mapPaymentIntentState now' paymentIntent r = mapPaymentIntentState now paymentIntent q := by
  unfold mapPaymentIntentState at hpaidAt ⊢
  cases hs : paymentIntent.status with
  | succeeded =>
    simp only [hs] at hpaidAt ⊢
    rw [hpaidAt]
    rfl
  | processing => simp only [hs] at hpaidAt ⊢; rw [hpaidAt]
  | requiresAction => simp only [hs] at hpaidAt ⊢; rw [hpaidAt]
  | requiresConfirmation => simp only [hs] at hpaidAt ⊢; rw [hpaidAt]
  | requiresPaymentMethod => simp only
  | canceled => simp only
  | other name => simp only [hs] at hpaidAt ⊢; rw [hpaidAt]

theorem not_paymentChangedBy_synced :
    ¬ paymentChangedBy (syncedPayment env p attempt paymentIntent).toPayment
      (mapPaymentIntentState env.now paymentIntent p.toPayment) := by
  obtain ⟨u, hu⟩ := syncedPayment_toPayment env p attempt paymentIntent
  rw [hu]
  simp [paymentChangedBy, PaymentTransitionResult.onPayment]

/-- The attempt, read again, has the outcome too. -/
theorem not_attemptChangedBy_synced (hids : (p.attempts.map (·.id)).Nodup)
    (hattempt : attempt ∈ p.attempts)
    (ha : a ∈ (syncedPayment env p attempt paymentIntent).attempts) (hid : a.id = attempt.id) :
    ¬ attemptChangedBy a (mapPaymentIntentState env.now paymentIntent p.toPayment) := by
  rw [syncedPayment_attempts] at ha
  generalize mapPaymentIntentState env.now paymentIntent p.toPayment = next at ha ⊢
  dsimp only at ha
  have hsame {b : PaymentAttempt} (hb : b ∈ p.attempts) (he : b.id = attempt.id) : b = attempt :=
    List.inj_on_of_nodup_map hids hb hattempt he
  by_cases hc : attemptChangedBy attempt next
  · rw [if_pos hc] at ha
    obtain ⟨b, hb, rfl⟩ := List.mem_map.mp ha
    by_cases he : b.id = attempt.id
    · rw [if_pos he]
      simp [attemptChangedBy, PaymentTransitionResult.onAttempt]
    · rw [if_neg he] at hid
      exact absurd hid he
  · rw [if_neg hc] at ha
    rw [hsame ha hid]
    exact hc

/-- The attempt is still there. -/
theorem exists_synced_attempt (hattempt : attempt ∈ p.attempts) :
    ∃ a ∈ (syncedPayment env p attempt paymentIntent).attempts, a.id = attempt.id := by
  rw [syncedPayment_attempts]
  dsimp only
  split
  · exact ⟨_, List.mem_map_of_mem hattempt, by rw [if_pos rfl]; rfl⟩
  · exact ⟨attempt, hattempt, rfl⟩

theorem attemptUpdate_runs {attemptId : Id} {f : PaymentAttempt → PaymentAttempt}
    {q : PaymentWithAttempts} (ho : db.order? orderId = some o) (hp : o.payment = some p)
    (hq : q = { p with attempts := updateAttempt env attemptId f p.attempts }) :
    (attemptUpdate env orderId p.id attemptId f).run db s =
      (.ok (q, db.setOrder orderId { o with payment := some q }), s) :=
  paymentWrite_ok.mpr ⟨o, p, ho, hp, rfl, rfl, hq, rfl, rfl⟩

theorem paymentUpdate_runs {paymentId : Id} {f : Payment → Payment}
    (ho : db.order? orderId = some o) (hp : o.payment = some p) (hid : p.id = paymentId) :
    (paymentUpdate env orderId paymentId f).run db s =
      (.ok (Payment.updated env f p,
        db.setOrder orderId { o with payment := some (Payment.updated env f p) }), s) :=
  paymentWrite_ok.mpr ⟨o, p, ho, hp, hid, rfl, rfl, rfl, rfl⟩

theorem withSyncedAttempt_runs (env : Env) (s : S) (attempt : PaymentAttempt)
    (next : PaymentTransitionResult) (ho : db.order? orderId = some o) (hp : o.payment = some p) :
    ∃ d, (Prog.doWhen (attemptChangedBy attempt next)
        (do let _ ← attemptUpdate env orderId p.id attempt.id next.onAttempt)).run db s =
          (.ok ((), d), s) ∧
      d.order? orderId = some { o with payment := some (withSyncedAttempt env p attempt next) } := by
  unfold withSyncedAttempt Prog.doWhen
  by_cases hc : attemptChangedBy attempt next
  · rw [if_pos hc, if_pos hc]
    exact ⟨_, Prog.run_bind_of (attemptUpdate_runs ho hp rfl), Database.order?_setOrder_self ..⟩
  · rw [if_neg hc, if_neg hc, OrderRecord.eta_payment hp]
    exact ⟨db, rfl, ho⟩

/-- The state of an intent can always be applied. -/
theorem applyPaymentIntentStateTx_runs (env : Env) (s : S) (attempt : PaymentAttempt)
    (paymentIntent : StripePaymentIntent) (auditContext : AuditContext)
    (ho : db.order? orderId = some o)
    (hp : o.payment = some p) :
    ∃ dto d, (applyPaymentIntentStateTx env orderId p attempt paymentIntent auditContext).run db s =
      (.ok (dto, d), s) := by
  unfold applyPaymentIntentStateTx
  generalize mapPaymentIntentState env.now paymentIntent p.toPayment = next
  dsimp only
  split
  · exact ⟨_, _, rfl⟩
  · obtain ⟨d, hattempt, hd⟩ := withSyncedAttempt_runs env s attempt next ho hp
    have hid : (withSyncedAttempt env p attempt next).id = p.id := by
      unfold withSyncedAttempt
      split <;> rfl
    rw [Prog.run_bind_of hattempt, Prog.run_bind_of (paymentUpdate_runs hd rfl hid)]
    split
    · split
      · exact ⟨_, _, rfl⟩
      · exact ⟨_, _, rfl⟩
    · exact ⟨_, _, rfl⟩

/-- A payment and an attempt that have the outcome are left as they are. -/
theorem applyPaymentIntentStateTx_unchanged {next : PaymentTransitionResult}
    (hnext : mapPaymentIntentState env.now paymentIntent p.toPayment = next)
    (hp : ¬ paymentChangedBy p.toPayment next) (ha : ¬ attemptChangedBy attempt next) :
    (applyPaymentIntentStateTx env orderId p attempt paymentIntent auditContext).run db s =
      (.ok (toPaymentDto orderId p, db), s) := by
  unfold applyPaymentIntentStateTx
  rw [hnext]
  dsimp only
  rw [if_pos ⟨hp, ha⟩]
  rfl

/-- **The state of an intent applied twice**: the second time, with the payment and the attempt read
again, the database stays as it is and the answer is the same. -/
theorem sync_twice (env env' : Env) (s : S) (paymentIntent : StripePaymentIntent)
    (auditContext auditContext' : AuditContext) (ho : db.order? orderId = some o)
    (hp : o.payment = some p) (hattempt : attempt ∈ p.attempts)
    (hids : (p.attempts.map (·.id)).Nodup) :
    ∃ dto d q,
      (applyPaymentIntentStateTx env orderId p attempt paymentIntent auditContext).run db s =
        (.ok (dto, d), s) ∧
      (getPaymentByIdTx orderId p.id).run d s = (.ok (q, d), s) ∧
      (∃ a ∈ q.attempts, a.id = attempt.id) ∧
      ∀ a ∈ q.attempts, a.id = attempt.id →
        (applyPaymentIntentStateTx env' orderId q a paymentIntent auditContext').run d s =
          (.ok (dto, d), s) := by
  obtain ⟨dto, d, hrun⟩ := applyPaymentIntentStateTx_runs env s attempt paymentIntent auditContext
    ho hp
  obtain ⟨rfl, hput, -⟩ := applyPaymentIntentStateTx_ok (.refl ho) hp hrun
  refine ⟨_, d, syncedPayment env p attempt paymentIntent, hrun, ?_,
    exists_synced_attempt hattempt, fun a ha hid => ?_⟩
  · exact getPaymentByIdTx_ok.mpr ⟨⟨_, hput.order?_self, rfl, syncedPayment_id ..⟩, rfl, rfl⟩
  · have hfixed : mapPaymentIntentState env'.now paymentIntent
        (syncedPayment env p attempt paymentIntent).toPayment =
          mapPaymentIntentState env.now paymentIntent p.toPayment :=
      mapPaymentIntentState_fixed (syncedPayment_paidAt ..)
    exact applyPaymentIntentStateTx_unchanged hfixed not_paymentChangedBy_synced
      (not_attemptChangedBy_synced hids hattempt ha hid)

theorem sync_twice_declined :
    ∃ dto d q,
      (applyPaymentIntentStateTx (Till.env 5) Till.orderId (Till.payment .pending) Till.attempt
          Till.declined).run (Till.db .pending) () = (.ok (dto, d), ()) ∧
      (getPaymentByIdTx Till.orderId (Till.payment .pending).id).run d () = (.ok (q, d), ()) ∧
      (∃ a ∈ q.attempts, a.id = Till.attempt.id) ∧
      ∀ a ∈ q.attempts, a.id = Till.attempt.id →
        (applyPaymentIntentStateTx (Till.env 6) Till.orderId q a Till.declined).run d () =
          (.ok (dto, d), ()) :=
  sync_twice (o := Till.order .pending) _ _ _ _ _ _ rfl rfl (by decide) (by decide)

/-! ## A refund -/

/-- **A payment that has the outcome keeps it**, if the refund has not failed. -/
theorem mapRefundState_fixed {now now' : Date} {q r : Payment}
    (hfailed : refund.status ≠ .failed) (hcanceled : refund.status ≠ .canceled)
    (hrefundedAt : r.refundedAt = (mapRefundState now refund q).refundedAt) :
    mapRefundState now' refund r = mapRefundState now refund q := by
  unfold mapRefundState at hrefundedAt ⊢
  cases hs : refund.status with
  | succeeded =>
    simp only [hs] at hrefundedAt ⊢
    rw [hrefundedAt]
    rfl
  | failed => exact absurd hs hfailed
  | canceled => exact absurd hs hcanceled
  | pending => simp only
  | other name => simp only

/-- A refund that failed gets the time at which its state is applied. -/
theorem mapRefundState_failedAt {now : Date} {q : Payment}
    (hfailed : refund.status = .failed ∨ refund.status = .canceled) :
    (mapRefundState now refund q).refundFailedAt = some now := by
  unfold mapRefundState
  rcases hfailed with hs | hs
  · rw [hs]
  · rw [hs]

theorem not_refundChangedBy_synced :
    ¬ refundChangedBy (refundSynced env p refund).toPayment
      (mapRefundState env.now refund p.toPayment) refund := by
  obtain ⟨u, hu⟩ := refundSynced_toPayment env p refund
  rw [hu]
  simp [refundChangedBy, RefundTransitionResult.onPayment]

theorem refundSynced_refundFailedAt :
    (refundSynced env p refund).refundFailedAt =
      (mapRefundState env.now refund p.toPayment).refundFailedAt := by
  obtain ⟨u, hu⟩ := refundSynced_toPayment env p refund
  rw [hu]
  rfl

theorem afterRefund_payment {q : PaymentWithAttempts} :
    (o.afterRefund env q).payment = some q := by
  unfold OrderRecord.afterRefund
  split <;> rfl

/-- An order with a refunded payment is not confirmed any more. -/
theorem afterRefund_not_confirmed {q : PaymentWithAttempts} (hq : q.refundStatus = .refunded) :
    (o.afterRefund env q).status ≠ .confirmed := by
  unfold OrderRecord.afterRefund
  split
  · intro h
    cases h
  · next hc => exact fun h => hc ⟨hq, h⟩

/-- A payment and an order that have the outcome are left as they are. -/
theorem applyRefundStateTx_unchanged {next : RefundTransitionResult}
    (hnext : mapRefundState env.now refund p.toPayment = next)
    (hp : ¬ refundChangedBy p.toPayment next refund)
    (ho : p.refundStatus = .refunded → o.status ≠ .confirmed) :
    (applyRefundStateTx env orderId o p refund auditContext).run db s =
      (.ok (toPaymentDto orderId p, db), s) := by
  unfold applyRefundStateTx updateRefundTx
  rw [hnext]
  dsimp only
  have hkept : (pure p : Tx S PaymentWithAttempts).run db s = (.ok (p, db), s) := rfl
  rw [if_neg hp, Prog.run_bind_of hkept]
  have horder : ¬ (p.refundStatus = .refunded ∧ o.status = .confirmed) := fun h => ho h.1 h.2
  simp only [Prog.doWhen, if_neg horder, ne_eq, not_true_eq_false, false_and, if_false]
  rfl

/-- **The state of a refund applied twice**, at two times: the second time, with the payment and the
order read again, the database stays as it is if and only if the refund has not failed. -/
theorem refund_sync_twice {dto : PaymentDto} {d : Database} {s' : S}
    (hnow : env.now ≠ env'.now) (ho : db.order? orderId = some o) (hp : o.payment = some p)
    (hfirst : (applyRefundStateTx env orderId o p refund auditContext).run db s =
      (.ok (dto, d), s')) :
    ∃ o' q, d.order? orderId = some o' ∧ o'.payment = some q ∧
      ((∃ dto', (applyRefundStateTx env' orderId o' q refund auditContext').run d s' =
          (.ok (dto', d), s')) ↔
        refund.status ≠ .failed ∧ refund.status ≠ .canceled) := by
  obtain ⟨-, hput, -⟩ := applyRefundStateTx_ok (.refl ho) hp hfirst
  have hpayment : (o.afterRefund env (refundSynced env p refund)).payment =
      some (refundSynced env p refund) := afterRefund_payment
  refine ⟨_, _, hput.order?_self, hpayment, ?_, ?_⟩
  · rintro ⟨dto', hsecond⟩
    by_contra hgood
    have hfailed : refund.status = .failed ∨ refund.status = .canceled := by
      by_contra hneither
      exact hgood (not_or.mp hneither)
    -- the payment that the second application leaves would be the one it found
    obtain ⟨-, hput', -⟩ := applyRefundStateTx_ok (.refl hput.order?_self) hpayment hsecond
    have hsame := Option.some.inj (hput.order?_self.symm.trans hput'.order?_self)
    have hpaid := hpayment.symm.trans ((congrArg OrderRecord.payment hsame).trans
      afterRefund_payment)
    have htime := congrArg (fun q : PaymentWithAttempts => q.refundFailedAt)
      (Option.some.inj hpaid)
    rw [refundSynced_refundFailedAt, refundSynced_refundFailedAt, mapRefundState_failedAt hfailed,
      mapRefundState_failedAt hfailed] at htime
    exact hnow (Option.some.inj htime)
  · rintro ⟨hfailed, hcanceled⟩
    have hfixed : mapRefundState env'.now refund (refundSynced env p refund).toPayment =
        mapRefundState env.now refund p.toPayment :=
      mapRefundState_fixed hfailed hcanceled (refundSynced_refundedAt ..)
    exact ⟨_, applyRefundStateTx_unchanged hfixed not_refundChangedBy_synced
      afterRefund_not_confirmed⟩

theorem refund_sync_twice_pending :
    ∃ dto d o' q,
      (applyRefundStateTx (Till.env 5) Till.orderId (Till.order .paid) (Till.payment .paid)
          (Till.refund .pending)).run (Till.db .paid) () = (.ok (dto, d), ()) ∧
      d.order? Till.orderId = some o' ∧ o'.payment = some q ∧
      ((∃ dto', (applyRefundStateTx (Till.env 6) Till.orderId o' q (Till.refund .pending)).run d
          () = (.ok (dto', d), ())) ↔
        (Till.refund .pending).status ≠ .failed ∧ (Till.refund .pending).status ≠ .canceled) := by
  have hfirst : ∃ dto d, (applyRefundStateTx (Till.env 5) Till.orderId (Till.order .paid)
      (Till.payment .paid) (Till.refund .pending)).run (Till.db .paid) () = (.ok (dto, d), ()) :=
    ⟨_, _, rfl⟩
  obtain ⟨dto, d, hfirst⟩ := hfirst
  refine ⟨dto, d, ?_⟩
  simp only [hfirst, true_and]
  exact refund_sync_twice (by decide) rfl rfl hfirst

/-- The second application of a refund that failed writes the payment again. -/
theorem failed_refund_written_twice :
    ∃ dto d o' q dto' d',
      (applyRefundStateTx (Till.env 5) Till.orderId (Till.order .paid) (Till.payment .paid)
          (Till.refund .failed)).run (Till.db .paid) () = (.ok (dto, d), ()) ∧
      d.order? Till.orderId = some o' ∧ o'.payment = some q ∧ q.refundFailedAt = some 5 ∧
      (applyRefundStateTx (Till.env 6) Till.orderId o' q (Till.refund .failed)).run d () =
        (.ok (dto', d'), ()) ∧
      ((d'.order? Till.orderId).bind (·.payment)).bind (·.refundFailedAt) = some 6 ∧ d' ≠ d := by
  refine ⟨_, _, _, _, _, _, rfl, rfl, rfl, rfl, rfl, rfl, fun h => ?_⟩
  have htime := congrArg
    (fun d : Database => ((d.order? Till.orderId).bind (·.payment)).bind (·.refundFailedAt)) h
  revert htime
  decide

end LedgerLight
