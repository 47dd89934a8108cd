import LedgerLight.Order.Spec
import LedgerLight.System.Honest

/-!
# Reopening an order whose card payment was collected

Reopening a cancelled order deletes its payment. Before that it cancels the intent of an attempt in
progress; where Stripe refuses it reads the intent, and does not look at what it read.

* `transitionPending_runs` : the guards and an answer of Stripe are all that reopening needs.
* `reopening_keeps_iff` : when a payment that Stripe answers to have collected is kept.
* `reopened_collected` : an order whose payment went with the money at Stripe.
-/

namespace LedgerLight

open Infra Prog

variable {S M : Type} {stripe : StripeService S M} {env : Env} {db db' : Database} {s s' : S}
  {org : CurrentOrg} {orderId : Id} {o : OrderRecord} {p : PaymentWithAttempts}
  {auditContext : AuditContext}

/-- Stripe answers of the intent of the attempt in progress, when it is asked to cancel it or for
its state, that it was collected or is being collected. -/
def CollectedAtStripe (stripe : StripeService S M) (p : PaymentWithAttempts) (s : S) : Prop :=
  ∃ attempt paymentIntent, getReusableAttempt p = some attempt ∧
    (stripe.cancelOrRetrieve attempt.stripePaymentIntentId s).1 = .ok paymentIntent ∧
    (paymentIntent.status = .succeeded ∨ paymentIntent.status = .processing)

/-- What reopening an order gives, and the database it leaves. -/
def reopen (stripe : StripeService S M) (env : Env) (org : CurrentOrg) (orderId : Id)
    (auditContext : AuditContext) (db : Database) (s : S) : Except AppError OrderRecord × Database :=
  let result :=
    (transaction (transitionStatus stripe env org orderId .pending auditContext)).runAuto db s
  (result.1, result.2.1)

/-- The payment goes only if Stripe has not answered that it was collected; otherwise reopening
fails and leaves everything as it was. -/
def KeepsCollected (stripe : StripeService S M) (env : Env) (org : CurrentOrg) (orderId : Id)
    (auditContext : AuditContext) (db : Database) (s : S) (p : PaymentWithAttempts) : Prop :=
  let result := reopen stripe env org orderId auditContext db s
  (result.2.payment? orderId p.id = none → ¬ CollectedAtStripe stripe p s) ∧
    (CollectedAtStripe stripe p s → (∃ e, result.1 = .error e) ∧ result.2 = db)

/-! ## What is enough to reopen an order -/

theorem cancelReusableAttempt_runs {attempt : PaymentAttempt} {paymentIntent : StripePaymentIntent}
    (hans : stripe.cancelOrRetrieve attempt.stripePaymentIntentId s = (.ok paymentIntent, s')) :
    (cancelReusableAttempt stripe (some attempt)).run db s = (.ok ((), db), s') := by
  have hinvoke : (cancelPaymentIntentForSync stripe attempt.stripePaymentIntentId).run db s =
      (.ok (paymentIntent, db), s') :=
    run_invoke_ok.mpr ⟨congrArg Prod.fst hans, rfl, (congrArg Prod.snd hans).symm⟩
  rw [cancelReusableAttempt, run_bind_of hinvoke]
  rfl

theorem attemptDeleteMany_runs (ho : db.order? orderId = some o) (hp : o.payment = some p) :
    (attemptDeleteMany orderId p.id : Tx S _).run db s =
      (.ok ({ p with attempts := [] },
        db.setOrder orderId { o with payment := some { p with attempts := [] } }), s) :=
  paymentWrite_ok.mpr ⟨o, p, ho, hp, rfl, rfl, rfl, rfl, rfl⟩

theorem paymentDelete_runs (ho : db.order? orderId = some o) (hp : o.payment = some p) :
    (paymentDelete orderId p.id : Tx S _).run db s =
      (.ok ((), db.setOrder orderId { o with payment := none }), s) :=
  paymentDelete_ok.mpr ⟨o, p, ho, hp, rfl, rfl, rfl⟩

theorem deletePaymentForReopenTx_runs {attempt : PaymentAttempt}
    {paymentIntent : StripePaymentIntent} (ho : db.order? orderId = some o)
    (hp : o.payment = some p) (hr : getReusableAttempt p = some attempt)
    (hans : stripe.cancelOrRetrieve attempt.stripePaymentIntentId s = (.ok paymentIntent, s')) :
    ∃ d, (deletePaymentForReopenTx stripe orderId p.id auditContext).run db s =
        (.ok ((), d), s') ∧ d.order? orderId = some { o with payment := none } := by
  have hget : (getPaymentByIdTx orderId p.id).run db s = (.ok (p, db), s) :=
    getPaymentByIdTx_ok.mpr ⟨⟨o, ho, hp, rfl⟩, rfl, rfl⟩
  have hattempts := attemptDeleteMany_runs (s := s') ho hp
  have hdelete := paymentDelete_runs (S := S) (s := s')
    (Database.order?_setOrder_self db orderId { o with payment := some { p with attempts := [] } })
    rfl
  unfold deletePaymentForReopenTx
  rw [run_bind_of hget, hr, run_bind_of (cancelReusableAttempt_runs hans), run_bind_of hattempts,
    run_bind_of hdelete]
  exact ⟨_, rfl, Database.order?_setOrder_self ..⟩

theorem voidPaymentTx_runs (env : Env) (auditContext : AuditContext) {attempt : PaymentAttempt}
    {paymentIntent : StripePaymentIntent}
    (ho : db.order? orderId = some o) (hp : o.payment = some p)
    (hr : getReusableAttempt p = some attempt)
    (hans : stripe.cancelOrRetrieve attempt.stripePaymentIntentId s = (.ok paymentIntent, s'))
    (hrefund : p.refundStatus = .none ∨ p.refundStatus = .failed) :
    ∃ d, (voidPaymentTx stripe env orderId o auditContext).run db s = (.ok ((), d), s') ∧
      d.order? orderId = some { o with payment := none } := by
  have hensure : (ensureTransitionPaymentTx env orderId o).run db s = (.ok (some p, db), s) := by
    unfold ensureTransitionPaymentTx
    rw [hp]
    exact run_map_ok.mpr ⟨p, rfl, getPaymentByIdTx_ok.mpr ⟨⟨o, ho, hp, rfl⟩, rfl, rfl⟩⟩
  have hpending : p.paymentStatus = .pending := (getReusableAttempt_eq_some.mp hr).2.1
  have hpaid : ¬ (p.paymentStatus = .paid ∨ p.refundStatus = .refunded) := by
    rcases hrefund with h | h
    · simp [hpending, h]
    · simp [hpending, h]
  have hactive : p.refundStatus ∉ activeRefundStatuses := by
    rcases hrefund with h | h
    · simp [activeRefundStatuses, h]
    · simp [activeRefundStatuses, h]
  unfold voidPaymentTx
  rw [run_bind_of hensure]
  dsimp only
  rw [run_bind_of (run_require_of hpaid),
    run_bind_of (run_require_of hactive)]
  exact deletePaymentForReopenTx_runs ho hp hr hans

/-- **The guards and an answer of Stripe** are all that reopening needs. -/
theorem transitionPending_runs (env : Env) (auditContext : AuditContext) {attempt : PaymentAttempt}
    {paymentIntent : StripePaymentIntent}
    (ho : db.order? orderId = some o) (hv : o.visibleTo org = true) (hs : o.status = .cancelled)
    (hp : o.payment = some p) (hr : getReusableAttempt p = some attempt)
    (hans : stripe.cancelOrRetrieve attempt.stripePaymentIntentId s = (.ok paymentIntent, s'))
    (hrefund : p.refundStatus = .none ∨ p.refundStatus = .failed) :
    ∃ o' d, (transitionStatus stripe env org orderId .pending auditContext).run db s =
      (.ok (o', d), s') := by
  have hfind : (orderFindFirst org orderId : Tx S _).run db s = (.ok (some o, db), s) :=
    orderFindFirst_ok.mpr ⟨by rw [ho, Option.filter_some_pos hv], rfl, rfl⟩
  have hallowed : OrderStatus.pending ∈ allowedTransitions o.status := by
    rw [hs]
    exact List.mem_singleton_self _
  obtain ⟨d, hvoid, hd⟩ := voidPaymentTx_runs env auditContext ho hp hr
    hans hrefund
  have hupdate : (orderUpdate env orderId o.organizationId reopenedOrder).run d s' =
      (.ok (Order.updated env id (reopenedOrder { o with payment := none }), d.setOrder orderId
        (Order.updated env id (reopenedOrder { o with payment := none }))), s') :=
    orderUpdate_ok.mpr ⟨_, hd, rfl, rfl, rfl, rfl⟩
  have hswitch : ∃ d', (transitionTo stripe env orderId o auditContext .pending).run db s =
      (.ok ((), d'), s') ∧ d'.order? orderId =
        some (Order.updated env id (reopenedOrder { o with payment := none })) := by
    rw [transitionTo, transitionPending, run_bind_of hvoid, run_bind_of hupdate]
    exact ⟨_, rfl, Database.order?_setOrder_self ..⟩
  obtain ⟨d', hswitch, hd'⟩ := hswitch
  have hagain : (Order.updated env id (reopenedOrder { o with payment := none })).visibleTo org =
      true := hv
  unfold transitionStatus
  rw [run_bind_of hfind]
  dsimp only
  rw [run_bind_of (run_require_of hallowed), run_bind_of hswitch]
  have hread : (orderFindFirst org orderId : Tx S _).run d' s' =
      (.ok (some (Order.updated env id (reopenedOrder { o with payment := none })), d'), s') :=
    orderFindFirst_ok.mpr ⟨by rw [hd', Option.filter_some_pos hagain], rfl, rfl⟩
  rw [run_bind_of hread]
  exact ⟨_, _, rfl⟩

/-! ## What reopening keeps -/

/-- The guards that a reopened order passed. -/
theorem refundStatus_of_reopened {o' : OrderRecord} (ho : db.order? orderId = some o)
    (hp : o.payment = some p)
    (h : (transitionStatus stripe env org orderId .pending auditContext).run db s =
      (.ok (o', db'), s')) :
    o.visibleTo org = true ∧ (p.refundStatus = .none ∨ p.refundStatus = .failed) := by
  obtain ⟨o₁, rows, ho₁, hv, htrans, -⟩ := transitionStatus_ok h
  obtain rfl := Option.some.inj (ho.symm.trans ho₁)
  have hlegacy : o.paymentOrLegacy env = some p := OrderRecord.paymentOrLegacy_of_payment hp
  cases htrans with
  | reopenedUnpaid _ hnone =>
    rw [hlegacy] at hnone
    cases hnone
  | reopened _ hq _ hrefund _ =>
    obtain rfl := Option.some.inj (hlegacy.symm.trans hq)
    exact ⟨hv, hrefund⟩

/-- **A payment that Stripe answers to have collected is kept** by reopening if and only if a guard
stops it before: the order is not in the scope, or the payment was refunded or is being refunded. -/
theorem reopening_keeps_iff (stripe : StripeService S M) (env : Env) (org : CurrentOrg)
    (auditContext : AuditContext) (s : S) (ho : db.order? orderId = some o)
    (hs : o.status = .cancelled) (hp : o.payment = some p) :
    KeepsCollected stripe env org orderId auditContext db s p ↔
      ¬ (CollectedAtStripe stripe p s ∧ o.visibleTo org = true ∧
        (p.refundStatus = .none ∨ p.refundStatus = .failed)) := by
  have hauto := runAuto_transaction
    (transitionStatus stripe env org orderId .pending auditContext) db s
  unfold KeepsCollected reopen
  constructor
  · rintro ⟨-, hkept⟩ ⟨hcollected, hv, hrefund⟩
    obtain ⟨⟨e, he⟩, -⟩ := hkept hcollected
    obtain ⟨attempt, paymentIntent, hr, hans, -⟩ := hcollected
    obtain ⟨o', d, hrun⟩ := transitionPending_runs env auditContext
      ho hv hs hp hr (Prod.ext hans rfl) hrefund
    rw [hrun] at hauto
    rw [hauto] at he
    cases he
  · intro hgood
    have hfails (hcollected : CollectedAtStripe stripe p s) :
        ∃ e s', (transitionStatus stripe env org orderId .pending auditContext).run db s =
          (.error e, s') := by
      rcases hrun : (transitionStatus stripe env org orderId .pending auditContext).run db s with
        ⟨e | ⟨o', d⟩, s'⟩
      · exact ⟨e, s', rfl⟩
      · exact absurd ⟨hcollected, refundStatus_of_reopened ho hp hrun⟩ hgood
    refine ⟨fun hgone hcollected => ?_, fun hcollected => ?_⟩
    · obtain ⟨e, s', hrun⟩ := hfails hcollected
      rw [hrun] at hauto
      rw [hauto] at hgone
      have hthere := Database.payment?_eq_some.mpr ⟨o, ho, hp, rfl⟩
      exact Option.some_ne_none _ (hthere.symm.trans hgone)
    · obtain ⟨e, s', hrun⟩ := hfails hcollected
      rw [hrun] at hauto
      rw [hauto]
      exact ⟨⟨e, rfl⟩, rfl⟩

/-! The order of the shop is cancelled while its card payment is processing; then it succeeds. -/

namespace Shop

def cancelledInFlight : World StripeAccount :=
  ledger.run (World.init .empty) (confirmed ++
    [payByCard, .stripe (.intentStatus 0 .processing), transition .cancelled,
      .stripe (.intentStatus 0 .succeeded)])

/-- The order as the cancellation left it. -/
def orderInFlight : OrderRecord := (cancelledInFlight.db.order? Shop.orderId).get rfl

def paymentInFlight : PaymentWithAttempts := orderInFlight.payment.get rfl

def later : Env := { now := 9, uuid := fun i => ⟨9, i⟩ }

end Shop

/-- Stripe answers that the payment was collected, and reopening deletes it. -/
theorem reopened_collected :
    CollectedAtStripe stripeAccount Shop.paymentInFlight Shop.cancelledInFlight.stripe ∧
      (reopen stripeAccount Shop.later Shop.org Shop.orderId {} Shop.cancelledInFlight.db
        Shop.cancelledInFlight.stripe).2.payment? Shop.orderId Shop.paymentInFlight.id = none ∧
      ¬ KeepsCollected stripeAccount Shop.later Shop.org Shop.orderId {} Shop.cancelledInFlight.db
        Shop.cancelledInFlight.stripe Shop.paymentInFlight := by
  have hcollected : CollectedAtStripe stripeAccount Shop.paymentInFlight
      Shop.cancelledInFlight.stripe := ⟨_, _, rfl, rfl, Or.inl rfl⟩
  have hgone : (reopen stripeAccount Shop.later Shop.org Shop.orderId {}
      Shop.cancelledInFlight.db Shop.cancelledInFlight.stripe).2.payment? Shop.orderId
        Shop.paymentInFlight.id = none := rfl
  exact ⟨hcollected, hgone, fun h => h.1 hgone hcollected⟩

theorem reopening_keeps_iff_shop :
    KeepsCollected stripeAccount Shop.later Shop.org Shop.orderId {} Shop.cancelledInFlight.db
        Shop.cancelledInFlight.stripe Shop.paymentInFlight ↔
      ¬ (CollectedAtStripe stripeAccount Shop.paymentInFlight Shop.cancelledInFlight.stripe ∧
        Shop.orderInFlight.visibleTo Shop.org = true ∧
        (Shop.paymentInFlight.refundStatus = .none ∨ Shop.paymentInFlight.refundStatus = .failed)) :=
  reopening_keeps_iff stripeAccount Shop.later Shop.org {} Shop.cancelledInFlight.stripe
    (Option.some_get _).symm rfl (Option.some_get _).symm

end LedgerLight
