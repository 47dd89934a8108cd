import LedgerLight.Order.Lines
import LedgerLight.Payment.Spec

/-!
# What the order service does

One lemma for every function of `LedgerLight.Order.Service`. `Transition` lists what
`transitionStatus` can do to an order, with the guards it passed.
-/

namespace LedgerLight

open Infra

section

variable {S M : Type} {env : Env} {db db' : Database} {s s' : S} {orderId : Id} {org : CurrentOrg}
  {o o' : OrderRecord} {p : PaymentWithAttempts} {r : Option PaymentWithAttempts}
  {auditContext : AuditContext} {rows : List (Id × AuditAction)}

/-! ## Creating an order -/

/-- A restricted member with locations creates orders at one of them. -/
theorem inScope_of_created {locationId : Option Id} {message : String}
    (h : (if hasRestrictedLocations org then
        ensureLocationAccessible org locationId false message
      else .ok ()) = .ok ()) (hne : org.allowedLocationIds ≠ []) :
    getLocationScopeWhere org locationId = true := by
  unfold hasRestrictedLocations ensureLocationAccessible at h
  unfold getLocationScopeWhere
  cases hall : org.hasAllLocations with
  | true => rfl
  | false =>
    cases locationId with
    | none => simp [hall, hne] at h
    | some l => by_cases hl : l ∈ org.allowedLocationIds <;> simp_all

theorem createOrder_ok {data : CreateOrderDto} {created : Id × OrderRecord}
    (h : (createOrder env org data).run db s = (.ok (created, db'), s')) :
    ∃ byId items totals,
      data.orderItems ≠ [] ∧
      computeLineItems env org.organizationId byId 1 data.orderItems [] {} = .ok (items, totals) ∧
      created = (env.uuid 0, newOrder env org data totals items) ∧
      (org.allowedLocationIds ≠ [] → getLocationScopeWhere org data.locationId = true) ∧
      db.order? (env.uuid 0) = none ∧
      db.Puts (env.uuid 0) (newOrder env org data totals items) [] db' ∧ s' = s := by
  obtain ⟨hdata, hnew, items, totals, hlines, rfl, rfl, rfl⟩ := createOrder_eq_ok.mp h
  exact ⟨_, items, totals, hdata.items, hlines, rfl, inScope_of_created hdata.scope, hnew,
    Database.Puts.set .., rfl⟩

/-! ## Status transitions -/

/-- What `transitionStatus` does to the order `o`, to the audit log and to Stripe. -/
inductive Transition (stripe : StripeService S M) (env : Env) (o : OrderRecord) (s : S) :
    OrderStatus → OrderRecord → List (Id × AuditAction) → S → Prop
  | confirmed {p : PaymentWithAttempts} (hs : o.status = .pending)
      (hp : p = o.payment.getD (newPayment env o.organizationId o.totalCents o.createdAt)) :
      Transition stripe env o s .confirmed
        { Order.updated env id (confirmedOrder (o.placedAt.getD env.now) o) with payment := some p }
        (if o.payment = none then [(p.id, .paymentCreated)] else []) s
  | fulfilled {p : PaymentWithAttempts} (hs : o.status = .confirmed)
      (hp : o.paymentOrLegacy env = some p) (hpaid : p.paymentStatus = .paid)
      (hrefund : p.refundStatus = .none) :
      Transition stripe env o s .fulfilled
        (Order.updated env id (fulfilledOrder (o.backfilled env))) [] s
  | cancelledPending (hs : o.status = .pending) :
      Transition stripe env o s .cancelled (Order.updated env id (cancelledOrder env o)) [] s
  /-- No card attempt is in progress. -/
  | cancelledConfirmed {p : PaymentWithAttempts} (hs : o.status = .confirmed)
      (hp : o.paymentOrLegacy env = some p) (hpaid : p.paymentStatus ≠ .paid)
      (hrefund : p.refundStatus = .none ∨ p.refundStatus = .failed)
      (hr : getReusableAttempt p = none) :
      Transition stripe env o s .cancelled
        (Order.updated env id (cancelledOrder env (o.backfilled env))) [] s
  /-- A card attempt is in progress: its intent is cancelled or read, and the payment follows. -/
  | cancelledSynced {p : PaymentWithAttempts} {attempt : PaymentAttempt}
      {paymentIntent : StripePaymentIntent} {s' : S} (hs : o.status = .confirmed)
      (hp : o.payment = some p) (hpaid : p.paymentStatus ≠ .paid)
      (hrefund : p.refundStatus = .none ∨ p.refundStatus = .failed)
      (hr : getReusableAttempt p = some attempt)
      (hans : stripe.cancelOrRetrieve attempt.stripePaymentIntentId s = (.ok paymentIntent, s')) :
      Transition stripe env o s .cancelled
        (Order.updated env id (cancelledOrder env
          { o with payment := some (syncedPayment env p attempt paymentIntent) }))
        (syncedRows env p paymentIntent) s'
  | reopenedUnpaid (hs : o.status = .cancelled) (hp : o.paymentOrLegacy env = none) :
      Transition stripe env o s .pending
        (Order.updated env id (reopenedOrder { o with payment := none })) [] s
  | reopened {p : PaymentWithAttempts} {s' : S} (hs : o.status = .cancelled)
      (hp : o.paymentOrLegacy env = some p) (hpaid : p.paymentStatus ≠ .paid)
      (hrefund : p.refundStatus = .none ∨ p.refundStatus = .failed)
      (hans : (getReusableAttempt p = none ∧ s' = s) ∨
        ∃ attempt paymentIntent, getReusableAttempt p = some attempt ∧
          stripe.cancelOrRetrieve attempt.stripePaymentIntentId s = (.ok paymentIntent, s')) :
      Transition stripe env o s .pending
        (Order.updated env id (reopenedOrder { o with payment := none }))
        [(p.id, .paymentReopenVoided)] s'

theorem orderFindFirst_ok {found : Option OrderRecord} :
    (orderFindFirst org orderId).run db s = (.ok (found, db'), s') ↔
      found = (db.order? orderId).filter (·.visibleTo org) ∧ db' = db ∧ s' = s :=
  Prog.run_select_ok

theorem ensureTransitionPaymentTx_ok (ho : db.order? orderId = some o)
    (h : (ensureTransitionPaymentTx env orderId o).run db s = (.ok (r, db'), s')) :
    r = o.paymentOrLegacy env ∧ db.Puts orderId (o.backfilled env) [] db' ∧ s' = s := by
  unfold ensureTransitionPaymentTx at h
  cases hp : o.payment with
  | some p =>
    simp only [hp] at h
    obtain ⟨q, rfl, hget⟩ := Prog.run_map_ok.mp h
    obtain ⟨⟨o', ho', hq, -⟩, rfl, rfl⟩ := getPaymentByIdTx_ok.mp hget
    obtain rfl : o = o' := Option.some.inj (ho.symm.trans ho')
    rw [OrderRecord.backfilled_of_payment hq, OrderRecord.paymentOrLegacy_of_payment hq]
    exact ⟨rfl, Database.Puts.refl ho, rfl⟩
  | none =>
    simp only [hp] at h
    exact ensureLegacyPaymentForOrderTx_ok ho h

theorem OrderRecord.paymentOrLegacy_isSome_of_confirmed (env : Env) (hs : o.status = .confirmed) :
    ∃ p, o.paymentOrLegacy env = some p := by
  cases hp : o.payment with
  | some p => exact ⟨p, OrderRecord.paymentOrLegacy_of_payment hp⟩
  | none => exact ⟨_, by simp [OrderRecord.paymentOrLegacy, hp, withoutLegacyPayment, hs]; rfl⟩

/-- A payment with a card attempt in progress is the order's own: a backfilled one has none. -/
theorem OrderRecord.payment_of_reusable {attempt : PaymentAttempt}
    (hp : o.paymentOrLegacy env = some p) (hr : getReusableAttempt p = some attempt) :
    o.payment = some p := by
  unfold OrderRecord.paymentOrLegacy at hp
  cases hq : o.payment with
  | some q => rw [hq, Option.some_or] at hp; exact hp
  | none =>
    rw [hq, Option.none_or] at hp
    split at hp
    · cases hp
    · cases hp
      obtain ⟨hhead, -⟩ := getReusableAttempt_eq_some.mp hr
      cases hhead

theorem transitionConfirmed_ok {stripe : StripeService S M} {u : Unit}
    (ho : db.order? orderId = some o) (hs : o.status = .pending)
    (h : (transitionConfirmed env orderId o auditContext).run db s = (.ok (u, db'), s')) :
    ∃ o' rows, Transition stripe env o s .confirmed o' rows s' ∧ db.Puts orderId o' rows db' := by
  obtain ⟨o₁, d₁, t₁, run_order, h₁⟩ := Prog.run_bind_ok.mp h
  obtain ⟨-, rfl, hput, rfl⟩ := orderUpdate_put (Database.Puts.refl ho) run_order
  obtain ⟨p, d₂, t₂, run_payment, h₂⟩ := Prog.run_bind_ok.mp h₁
  obtain ⟨hp, hput₂, rfl⟩ := createPaymentForConfirmedOrderTx_ok hput.order?_self run_payment
  obtain ⟨-, rfl, rfl⟩ := Prog.run_pure_ok.mp h₂
  have hput₃ := hput.trans hput₂
  rw [List.append_nil] at hput₃
  exact ⟨_, _, .confirmed hs hp, hput₃⟩

theorem transitionFulfilled_ok {stripe : StripeService S M} {u : Unit}
    (ho : db.order? orderId = some o) (hs : o.status = .confirmed)
    (h : (transitionFulfilled env orderId o).run db s = (.ok (u, db'), s')) :
    ∃ o' rows, Transition stripe env o s .fulfilled o' rows s' ∧ db.Puts orderId o' rows db' := by
  obtain ⟨payment?, d₁, t₁, run_payment, h₁⟩ := Prog.run_bind_ok.mp h
  obtain ⟨rfl, hput, rfl⟩ := ensureTransitionPaymentTx_ok ho run_payment
  obtain ⟨p, hp⟩ := OrderRecord.paymentOrLegacy_isSome_of_confirmed env hs
  simp only [hp] at h₁
  obtain ⟨u₂, d₂, t₂, run_paid, h₂⟩ := Prog.run_bind_ok.mp h₁
  obtain ⟨⟨hpaid, hrefund⟩, rfl, rfl⟩ := Prog.run_require_ok.mp run_paid
  obtain ⟨o₃, d₃, t₃, run_order, h₃⟩ := Prog.run_bind_ok.mp h₂
  obtain ⟨-, rfl, hput₂, rfl⟩ := orderUpdate_put hput run_order
  obtain ⟨-, rfl, rfl⟩ := Prog.run_pure_ok.mp h₃
  exact ⟨_, _, .fulfilled hs hp hpaid hrefund, hput₂⟩

/-- The guards of `CANCELLED` and `PENDING` on the payment, as what they leave. -/
theorem refundStatus_of_guards (hpaid : ¬ (p.paymentStatus = .paid ∨ p.refundStatus = .refunded))
    (hactive : p.refundStatus ∉ activeRefundStatuses) :
    p.paymentStatus ≠ .paid ∧ (p.refundStatus = .none ∨ p.refundStatus = .failed) := by
  refine ⟨fun h => hpaid (Or.inl h), ?_⟩
  unfold activeRefundStatuses at hactive
  cases hr : p.refundStatus <;> simp_all

theorem transitionCancelled_ok {stripe : StripeService S M} {u : Unit}
    (ho : db.order? orderId = some o) (hs : o.status = .pending ∨ o.status = .confirmed)
    (h : (transitionCancelled stripe env orderId o auditContext).run db s = (.ok (u, db'), s')) :
    ∃ o' rows, Transition stripe env o s .cancelled o' rows s' ∧ db.Puts orderId o' rows db' := by
  obtain ⟨u₁, d₁, t₁, run_retire, h₁⟩ := Prog.run_bind_ok.mp h
  obtain ⟨o₂, d₂, t₂, run_order, h₂⟩ := Prog.run_bind_ok.mp h₁
  obtain ⟨-, rfl, rfl⟩ := Prog.run_pure_ok.mp h₂
  rcases Prog.run_doWhen_ok.mp run_retire with ⟨hc, hretire⟩ | ⟨hc, rfl, rfl⟩
  · obtain ⟨payment?, d₃, t₃, run_payment, h₃⟩ := Prog.run_bind_ok.mp hretire
    obtain ⟨rfl, hput, rfl⟩ := ensureTransitionPaymentTx_ok ho run_payment
    obtain ⟨p, hp⟩ := OrderRecord.paymentOrLegacy_isSome_of_confirmed env hc
    simp only [hp] at h₃
    obtain ⟨u₄, d₄, t₄, run_paid, h₄⟩ := Prog.run_bind_ok.mp h₃
    obtain ⟨hpaid, rfl, rfl⟩ := Prog.run_require_ok.mp run_paid
    obtain ⟨u₅, d₅, t₅, run_active, h₅⟩ := Prog.run_bind_ok.mp h₄
    obtain ⟨hactive, rfl, rfl⟩ := Prog.run_require_ok.mp run_active
    obtain ⟨hunpaid, hrefund⟩ := refundStatus_of_guards hpaid hactive
    obtain ⟨q, d₆, t₆, run_cancel, h₆⟩ := Prog.run_bind_ok.mp h₅
    obtain ⟨-, rfl, rfl⟩ := Prog.run_pure_ok.mp h₆
    rcases cancelActiveCardAttemptTx_ok hput hp run_cancel with
      ⟨hr, hput', rfl⟩ | ⟨attempt, paymentIntent, hr, hans, hput'⟩
    · obtain ⟨-, rfl, hput₂, rfl⟩ := orderUpdate_put hput' run_order
      exact ⟨_, _, .cancelledConfirmed hc hp hunpaid hrefund hr, hput₂⟩
    · obtain ⟨-, rfl, hput₂, rfl⟩ := orderUpdate_put hput' run_order
      rw [List.append_nil] at hput₂
      exact ⟨_, _, .cancelledSynced hc (OrderRecord.payment_of_reusable hp hr) hunpaid hrefund hr
        hans, hput₂⟩
  · obtain ⟨-, rfl, hput, rfl⟩ := orderUpdate_put (Database.Puts.refl ho) run_order
    exact ⟨_, _, .cancelledPending (hs.resolve_right hc), hput⟩

theorem transitionPending_ok {stripe : StripeService S M} {u : Unit}
    (ho : db.order? orderId = some o) (hs : o.status = .cancelled)
    (h : (transitionPending stripe env orderId o auditContext).run db s = (.ok (u, db'), s')) :
    ∃ o' rows, Transition stripe env o s .pending o' rows s' ∧ db.Puts orderId o' rows db' := by
  obtain ⟨u₁, d₁, t₁, run_void, h₁⟩ := Prog.run_bind_ok.mp h
  obtain ⟨o₂, d₂, t₂, run_order, h₂⟩ := Prog.run_bind_ok.mp h₁
  obtain ⟨-, rfl, rfl⟩ := Prog.run_pure_ok.mp h₂
  obtain ⟨payment?, d₃, t₃, run_payment, h₃⟩ := Prog.run_bind_ok.mp run_void
  obtain ⟨rfl, hput, rfl⟩ := ensureTransitionPaymentTx_ok ho run_payment
  cases hp : o.paymentOrLegacy env with
  | none =>
    simp only [hp] at h₃
    obtain ⟨-, rfl, rfl⟩ := Prog.run_pure_ok.mp h₃
    obtain ⟨-, rfl, hput₂, rfl⟩ := orderUpdate_put hput run_order
    rw [OrderRecord.backfilled, hp] at hput₂
    exact ⟨_, _, .reopenedUnpaid hs hp, hput₂⟩
  | some p =>
    simp only [hp] at h₃
    obtain ⟨u₄, d₄, t₄, run_paid, h₄⟩ := Prog.run_bind_ok.mp h₃
    obtain ⟨hpaid, rfl, rfl⟩ := Prog.run_require_ok.mp run_paid
    obtain ⟨u₅, d₅, t₅, run_active, h₅⟩ := Prog.run_bind_ok.mp h₄
    obtain ⟨hactive, rfl, rfl⟩ := Prog.run_require_ok.mp run_active
    obtain ⟨hunpaid, hrefund⟩ := refundStatus_of_guards hpaid hactive
    obtain ⟨hput', hans⟩ := deletePaymentForReopenTx_ok hput hp h₅
    obtain ⟨-, rfl, hput₂, rfl⟩ := orderUpdate_put hput' run_order
    exact ⟨_, _, .reopened hs hp hunpaid hrefund hans, hput₂⟩

theorem transitionTo_ok {stripe : StripeService S M} {toStatus : OrderStatus} {u : Unit}
    (ho : db.order? orderId = some o) (hallowed : toStatus ∈ allowedTransitions o.status)
    (h : (transitionTo stripe env orderId o auditContext toStatus).run db s =
      (.ok (u, db'), s')) :
    ∃ o' rows, Transition stripe env o s toStatus o' rows s' ∧ db.Puts orderId o' rows db' := by
  cases toStatus with
  | confirmed =>
    refine transitionConfirmed_ok ho ?_ h
    cases hs : o.status <;> simp_all [allowedTransitions]
  | fulfilled =>
    refine transitionFulfilled_ok ho ?_ h
    cases hs : o.status <;> simp_all [allowedTransitions]
  | cancelled =>
    refine transitionCancelled_ok ho ?_ h
    cases hs : o.status <;> simp_all [allowedTransitions]
  | pending =>
    refine transitionPending_ok ho ?_ h
    cases hs : o.status <;> simp_all [allowedTransitions]

theorem transitionStatus_ok {stripe : StripeService S M} {toStatus : OrderStatus}
    (h : (transitionStatus stripe env org orderId toStatus auditContext).run db s =
      (.ok (o', db'), s')) :
    ∃ o rows, db.order? orderId = some o ∧ o.visibleTo org = true ∧
      Transition stripe env o s toStatus o' rows s' ∧ db.Puts orderId o' rows db' := by
  obtain ⟨found, d₁, t₁, run_find, h₁⟩ := Prog.run_bind_ok.mp h
  obtain ⟨rfl, rfl, rfl⟩ := orderFindFirst_ok.mp run_find
  cases hf : (d₁.order? orderId).filter (·.visibleTo org) with
  | none => simp only [hf] at h₁; exact (Prog.run_fail_ok.mp h₁).elim
  | some o =>
    simp only [hf] at h₁
    obtain ⟨ho, hv⟩ := Option.filter_eq_some_iff.mp hf
    obtain ⟨u₂, d₂, t₂, run_allowed, h₂⟩ := Prog.run_bind_ok.mp h₁
    obtain ⟨hallowed, rfl, rfl⟩ := Prog.run_require_ok.mp run_allowed
    obtain ⟨u₃, d₃, t₃, run_switch, h₃⟩ := Prog.run_bind_ok.mp h₂
    obtain ⟨o₃, rows, htrans, hput⟩ := transitionTo_ok ho hallowed run_switch
    obtain ⟨found', d₄, t₄, run_again, h₄⟩ := Prog.run_bind_ok.mp h₃
    obtain ⟨rfl, rfl, rfl⟩ := orderFindFirst_ok.mp run_again
    rw [hput.order?_self] at h₄
    cases hf' : (some o₃).filter (·.visibleTo org) with
    | none => simp only [hf'] at h₄; exact (Prog.run_fail_ok.mp h₄).elim
    | some o₄ =>
      simp only [hf'] at h₄
      obtain ⟨rfl, rfl, rfl⟩ := Prog.run_pure_ok.mp h₄
      obtain rfl := Option.some.inj (Option.filter_eq_some_iff.mp hf').1
      exact ⟨o, rows, ho, hv, htrans, hput⟩

/-! ## Metadata, deletion and items -/

/-- `assertOrderAccessible` lets a member of the organization through. -/
def OrderRecord.accessibleTo (org : CurrentOrg) (o : OrderRecord) : Bool :=
  !hasRestrictedLocations org || o.locationId.any fun l => org.allowedLocationIds.contains l

theorem OrderRecord.accessibleTo_eq :
    o.accessibleTo org = getLocationScopeWhere org o.locationId := by
  unfold accessibleTo hasRestrictedLocations getLocationScopeWhere
  cases o.locationId <;> simp

theorem assertOrderAccessible_ok {u : Unit}
    (h : (assertOrderAccessible org orderId).run db s = (.ok (u, db'), s')) :
    db' = db ∧ s' = s ∧ ∃ o, db.order? orderId = some o ∧ o.accessibleTo org = true := by
  obtain ⟨found, d₁, t₁, run_find, h₁⟩ := Prog.run_bind_ok.mp h
  obtain ⟨rfl, rfl, rfl⟩ := Prog.run_select_ok.mp run_find
  cases hf : (d₁.order? orderId).filter fun o => o.organizationId == org.organizationId with
  | none => simp only [hf] at h₁; exact (Prog.run_fail_ok.mp h₁).elim
  | some o =>
    simp only [hf] at h₁
    obtain ⟨hscope, rfl, rfl⟩ := Prog.run_require_ok.mp h₁
    refine ⟨rfl, rfl, o, (Option.filter_eq_some_iff.mp hf).1, ?_⟩
    unfold OrderRecord.accessibleTo
    cases hr : hasRestrictedLocations org with
    | false => rfl
    | true => simpa [hr] using hscope

theorem scopeGuard_ok {u : Unit}
    (h : (Prog.doWhen (hasRestrictedLocations org = true)
      (assertOrderAccessible org orderId)).run db s = (.ok (u, db'), s')) :
    db' = db ∧ s' = s ∧ ∀ o, db.order? orderId = some o → o.accessibleTo org = true := by
  rcases Prog.run_doWhen_ok.mp h with ⟨-, hrun⟩ | ⟨hfree, rfl, rfl⟩
  · obtain ⟨rfl, rfl, o, ho, hacc⟩ := assertOrderAccessible_ok hrun
    exact ⟨rfl, rfl, fun o' ho' => by rw [← Option.some.inj (ho.symm.trans ho')]; exact hacc⟩
  · exact ⟨rfl, rfl, fun o _ => by simp [OrderRecord.accessibleTo, hfree]⟩

theorem updateOrder_ok {data : UpdateOrderDto}
    (h : (updateOrder env org orderId data).run db s = (.ok (o', db'), s')) :
    ∃ o, db.order? orderId = some o ∧ o.organizationId = org.organizationId ∧
      o.accessibleTo org = true ∧
      (∀ l, data.locationId = some (some l) → getLocationScopeWhere org (some l) = true) ∧
      o' = Order.updated env id (metadataUpdated data o) ∧ db.Puts orderId o' [] db' ∧ s' = s := by
  obtain ⟨d, d₁, t₁, run_read, h₁⟩ := Prog.run_bind_ok.mp h
  obtain ⟨-, rfl, rfl⟩ := Prog.run_select_ok.mp run_read
  obtain ⟨u₂, d₂, t₂, run_customer, h₂⟩ := Prog.run_bind_ok.mp h₁
  obtain ⟨-, rfl, rfl⟩ := Prog.run_require_ok.mp run_customer
  obtain ⟨u₃, d₃, t₃, run_scope, h₃⟩ := Prog.run_bind_ok.mp h₂
  obtain ⟨-, rfl, rfl⟩ := Prog.run_ofExcept_ok.mp run_scope
  obtain ⟨u₄, d₄, t₄, run_location, h₄⟩ := Prog.run_bind_ok.mp h₃
  obtain ⟨hlocation, rfl, rfl⟩ := Prog.run_require_ok.mp run_location
  obtain ⟨u₅, d₅, t₅, run_guard, h₅⟩ := Prog.run_bind_ok.mp h₄
  obtain ⟨rfl, rfl, hacc⟩ := scopeGuard_ok run_guard
  obtain ⟨o, ho, hi, rfl, rfl, rfl⟩ := orderUpdate_ok.mp h₅
  refine ⟨o, ho, hi, hacc o ho, fun l hl => ?_, rfl, Database.Puts.set .., rfl⟩
  rw [hl] at hlocation
  obtain ⟨row, -, hrow⟩ := Option.any_eq_true _ _ |>.mp hlocation
  exact (Bool.and_eq_true _ _ ▸ hrow).2

theorem deleteOrder_ok {u : Unit}
    (h : (deleteOrder org orderId).run db s = (.ok (u, db'), s')) :
    ∃ o, db.order? orderId = some o ∧ o.organizationId = org.organizationId ∧
      o.accessibleTo org = true ∧ db' = { db with orders := db.orders.erase orderId } ∧ s' = s := by
  obtain ⟨u₁, d₁, t₁, run_guard, h₁⟩ := Prog.run_bind_ok.mp h
  obtain ⟨rfl, rfl, hacc⟩ := scopeGuard_ok run_guard
  obtain ⟨o, ho, hi, rfl, rfl⟩ := orderDelete_ok.mp h₁
  exact ⟨o, ho, hi, hacc o ho, rfl, rfl⟩

theorem addOrderItem_ok {data : CreateOrderItemDto}
    (h : (addOrderItem env org orderId data).run db s = (.ok (o', db'), s')) :
    ∃ o product item, db.order? orderId = some o ∧ o.visibleTo org = true ∧ o.status = .pending ∧
      computeLineItem (env.uuid 0) org.organizationId data (some product)
        "Cents must be non-negative" "Invalid product" "Discount exceeds line subtotal" = .ok item ∧
      o' = Order.updated env id (itemAdded item o) ∧ db.Puts orderId o' [] db' ∧ s' = s := by
  obtain ⟨o, product, ho, hv, hs, -, -, hraw, rfl, rfl, rfl⟩ := addOrderItem_eq_ok.mp h
  exact ⟨o, product, _, ho, hv, hs, computeLineItem_eq_ok.mpr ⟨product, rfl, hraw, rfl⟩, rfl,
    Database.Puts.set .., rfl⟩

theorem deleteOrderItem_ok {itemId : Id}
    (h : (deleteOrderItem env org orderId itemId).run db s = (.ok (o', db'), s')) :
    ∃ o item, db.order? orderId = some o ∧ o.organizationId = org.organizationId ∧
      o.accessibleTo org = true ∧ item ∈ o.items ∧ item.id = itemId ∧ 1 < o.items.length ∧
      o' = Order.updated env id (itemDeleted item o) ∧ db.Puts orderId o' [] db' ∧ s' = s := by
  obtain ⟨u₁, d₁, t₁, run_guard, h₁⟩ := Prog.run_bind_ok.mp h
  obtain ⟨rfl, rfl, hacc⟩ := scopeGuard_ok run_guard
  obtain ⟨found, d₂, t₂, run_item, h₂⟩ := Prog.run_bind_ok.mp h₁
  obtain ⟨rfl, rfl, rfl⟩ := Prog.run_select_ok.mp run_item
  cases hf : (itemsOf d₂ org orderId).find? fun i => i.id == itemId with
  | none => simp only [hf] at h₂; exact (Prog.run_fail_ok.mp h₂).elim
  | some item =>
    simp only [hf] at h₂
    obtain ⟨count, d₃, t₃, run_count, h₃⟩ := Prog.run_bind_ok.mp h₂
    obtain ⟨rfl, rfl, rfl⟩ := Prog.run_select_ok.mp run_count
    obtain ⟨u₄, d₄, t₄, run_two, h₄⟩ := Prog.run_bind_ok.mp h₃
    obtain ⟨htwo, rfl, rfl⟩ := Prog.run_require_ok.mp run_two
    obtain ⟨o, ho, hi, -, rfl, rfl, rfl⟩ := orderUpdateDeletingItem_ok.mp h₄
    have hmem := List.mem_of_find?_eq_some hf
    rw [itemsOf, ho, Option.elim_some] at hmem htwo
    have hlength : 1 < o.items.length := lt_of_lt_of_le htwo (List.length_filter_le ..)
    exact ⟨o, item, ho, hi, hacc o ho, (List.mem_filter.mp hmem).1,
      by simpa using List.find?_some hf, hlength, rfl, Database.Puts.set .., rfl⟩

/-! ## Outside a transaction -/

theorem assertOrderAccessible_readOnly :
    (assertOrderAccessible org orderId : Tx S Unit).ReadOnly := by
  refine Prog.ReadOnly.bind (fun _ => trivial) fun found => ?_
  cases found with
  | none => trivial
  | some o => exact Prog.readOnly_require

theorem orderUpdate_failsClean {organizationId : Id} {f : OrderRecord → OrderRecord} :
    (orderUpdate env orderId organizationId f : Tx S OrderRecord).FailsClean := by
  refine Prog.failsClean_returning fun db hfails => ?_
  cases ho : db.order? orderId with
  | none => rw [ho] at hfails; cases hfails
  | some o => exact ⟨_, by rw [Database.modifyOrder_of_order? _ ho, Database.order?_setOrder_self]⟩

theorem updateOrder_failsClean {data : UpdateOrderDto} :
    (updateOrder env org orderId data : Tx S OrderRecord).FailsClean := by
  refine Prog.ReadOnly.bind_failsClean (fun _ => trivial) fun db => ?_
  refine Prog.ReadOnly.bind_failsClean Prog.readOnly_require fun _ => ?_
  refine Prog.ReadOnly.bind_failsClean Prog.readOnly_ofExcept fun _ => ?_
  refine Prog.ReadOnly.bind_failsClean Prog.readOnly_require fun _ => ?_
  refine Prog.ReadOnly.bind_failsClean
    (Prog.readOnly_doWhen assertOrderAccessible_readOnly) fun _ => ?_
  exact orderUpdate_failsClean

theorem deleteOrder_failsClean : (deleteOrder org orderId : Tx S Unit).FailsClean :=
  Prog.ReadOnly.bind_failsClean (Prog.readOnly_doWhen assertOrderAccessible_readOnly) fun _ =>
    Prog.failsClean_exec

end

end LedgerLight
