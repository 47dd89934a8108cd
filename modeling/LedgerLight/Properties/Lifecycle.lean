import LedgerLight.System.Honest

/-!
# The lifecycle of an order

`OrderRecord.Lifecycle` ties an order's status to its two timestamps and its payment. It holds of
every order in every run, whatever Stripe answers, and it is why the lazy backfill never finds
anything to do.

* `lifecycle_change` : every change of an order keeps it.
* `order_lifecycle` : every reachable order has it, and its status moves along
  `allowedTransitions` only.
-/

namespace LedgerLight

open Infra

structure OrderRecord.Lifecycle (o : OrderRecord) : Prop where
  pending : o.status = .pending → o.placedAt = none ∧ o.cancelledAt = none ∧ o.payment = none
  placed : o.status = .confirmed ∨ o.status = .fulfilled →
    o.placedAt.isSome ∧ o.cancelledAt = none
  cancelled : o.status = .cancelled → o.cancelledAt.isSome
  /-- There is a payment exactly when the order was placed. -/
  payment : o.payment.isSome ↔ o.placedAt.isSome
  refunded : ∀ p, o.payment = some p → p.refundStatus = .refunded →
    o.status = .cancelled ∨ o.status = .fulfilled

namespace OrderRecord.Lifecycle

variable {env : Env} {o o' : OrderRecord} {p q : PaymentWithAttempts}

/-- **Nothing is left to backfill.** -/
theorem paymentOrLegacy_eq (h : o.Lifecycle) (env : Env) :
    o.paymentOrLegacy env = o.payment := by
  cases hp : o.payment with
  | some p => exact OrderRecord.paymentOrLegacy_of_payment hp
  | none =>
    have hplaced : o.placedAt = none := by
      have hiff := h.payment
      rw [hp] at hiff
      simpa using hiff
    have hw : withoutLegacyPayment o.status o.placedAt := by
      cases hs : o.status with
      | pending => exact Or.inl rfl
      | cancelled => exact Or.inr ⟨rfl, hplaced⟩
      | confirmed => have hpl := (h.placed (Or.inl hs)).1; rw [hplaced] at hpl; cases hpl
      | fulfilled => have hpl := (h.placed (Or.inr hs)).1; rw [hplaced] at hpl; cases hpl
    simp [OrderRecord.paymentOrLegacy, hp, hw]

theorem backfilled_eq (h : o.Lifecycle) : o.backfilled env = o := by
  rw [OrderRecord.backfilled, h.paymentOrLegacy_eq env]

theorem payment_of_paymentOrLegacy (h : o.Lifecycle) (hp : o.paymentOrLegacy env = some p) :
    o.payment = some p := by
  rw [← h.paymentOrLegacy_eq env, hp]

theorem not_pending (h : o.Lifecycle) (hp : o.payment = some p) : o.status ≠ .pending := by
  intro hs
  rw [(h.pending hs).2.2] at hp
  cases hp

/-- Another payment row in the place of the old one. -/
theorem withPayment (h : o.Lifecycle) (hp : o.payment = some p)
    (hq : q.refundStatus = .refunded → o.status = .cancelled ∨ o.status = .fulfilled) :
    OrderRecord.Lifecycle { o with payment := some q } where
  pending := fun hs => absurd hs (h.not_pending hp)
  placed := h.placed
  cancelled := h.cancelled
  payment := by simpa [hp] using h.payment
  refunded := fun q' hq' => by cases hq'; exact hq

/-- A payment row with the refund status of the old one. -/
theorem withPayment_of_eq (h : o.Lifecycle) (hp : o.payment = some p)
    (hq : q.refundStatus = p.refundStatus) :
    OrderRecord.Lifecycle { o with payment := some q } :=
  h.withPayment hp fun hr => h.refunded p hp (hq ▸ hr)

theorem isPlaced (h : o.Lifecycle) (hp : o.payment = some p) : o.placedAt.isSome :=
  h.payment.mp (hp ▸ rfl)

/-- A cancelled order, whatever its payment. -/
theorem of_cancelled (h : o.payment.isSome ↔ o.placedAt.isSome) :
    (Order.updated env id (cancelledOrder env o)).Lifecycle where
  pending := fun hs => by cases hs
  placed := fun hs => by rcases hs with hs | hs <;> cases hs
  cancelled := fun _ => rfl
  payment := h
  refunded := fun _ _ _ => Or.inl rfl

theorem of_reopened :
    (Order.updated env id (reopenedOrder { o with payment := none })).Lifecycle where
  pending := fun _ => ⟨rfl, rfl, rfl⟩
  placed := fun hs => by rcases hs with hs | hs <;> cases hs
  cancelled := fun hs => by cases hs
  payment := by simp [Order.updated, reopenedOrder]
  refunded := fun p hp => by cases hp

theorem afterRefund (h : o.Lifecycle) (hp : o.payment = some p) :
    (o.afterRefund env q).Lifecycle := by
  unfold OrderRecord.afterRefund
  split
  · exact of_cancelled (o := { o with payment := some q }) ⟨fun _ => h.isPlaced hp, fun _ => rfl⟩
  · next hn =>
    refine h.withPayment hp fun hr => ?_
    cases hs : o.status with
    | pending => exact absurd hs (h.not_pending hp)
    | confirmed => exact absurd ⟨hr, hs⟩ hn
    | cancelled => exact Or.inl rfl
    | fulfilled => exact Or.inr rfl

end OrderRecord.Lifecycle

section

variable {S M : Type} {stripe : StripeService S M} {w : World S} {a : Action M} {k : Id}
  {o o' : OrderRecord} {rows : List (Id × AuditAction)} {s s' : S} {env : Env}

theorem lifecycle_newOrder (org : CurrentOrg) (data : CreateOrderDto) (totals : OrderTotals)
    (items : List OrderItem) : (newOrder env org data totals items).Lifecycle where
  pending := fun _ => ⟨rfl, rfl, rfl⟩
  placed := fun hs => by rcases hs with hs | hs <;> cases hs
  cancelled := fun hs => by cases hs
  payment := by simp [newOrder]
  refunded := fun p hp => by cases hp

theorem lifecycle_transition {toStatus : OrderStatus} (h : o.Lifecycle)
    (ht : Transition stripe env o s toStatus o' rows s') : o'.Lifecycle := by
  cases ht with
  | confirmed hs hp =>
    rw [(h.pending hs).2.2, Option.getD_none] at hp
    exact {
      pending := fun hs => by cases hs
      placed := fun _ => ⟨rfl, rfl⟩
      cancelled := fun hs => by cases hs
      payment := ⟨fun _ => rfl, fun _ => rfl⟩
      refunded := fun q hq hr => by cases hq; rw [hp] at hr; cases hr }
  | fulfilled hs hp hpaid hrefund =>
    rw [h.backfilled_eq]
    exact {
      pending := fun hs => by cases hs
      placed := fun _ => h.placed (Or.inl hs)
      cancelled := fun hs => by cases hs
      payment := h.payment
      refunded := fun _ _ _ => Or.inr rfl }
  | cancelledPending hs => exact .of_cancelled h.payment
  | cancelledConfirmed hs hp hpaid hrefund hr =>
    rw [h.backfilled_eq]
    exact .of_cancelled h.payment
  | cancelledSynced hs hp hpaid hrefund hr hans =>
    exact .of_cancelled ⟨fun _ => h.isPlaced hp, fun _ => rfl⟩
  | reopenedUnpaid hs hp => exact .of_reopened
  | reopened hs hp hpaid hrefund hans => exact .of_reopened

theorem lifecycle_change (h : o.Lifecycle) (hc : Change stripe w k a o o' rows s') :
    o'.Lifecycle := by
  cases hc with
  | itemAdded hs => exact ⟨h.pending, h.placed, h.cancelled, h.payment, h.refunded⟩
  | itemDeleted hi => exact ⟨h.pending, h.placed, h.cancelled, h.payment, h.refunded⟩
  | metadata => exact ⟨h.pending, h.placed, h.cancelled, h.payment, h.refunded⟩
  | transition ho hv ht => exact lifecycle_transition h ht
  | backfilled => rw [h.backfilled_eq]; exact h
  | attemptStarted hs hp hrefund hpaid hr hans hsecret =>
    exact h.withPayment_of_eq (h.payment_of_paymentOrLegacy hp) rfl
  | paidInCash hs hp hreq hpend hpaid hprogress =>
    exact h.withPayment_of_eq (h.payment_of_paymentOrLegacy hp) rfl
  | synced y hsync hid hp =>
    exact h.withPayment_of_eq hp (syncedPayment_refundStatus ..)
  | cashRefunded hcall hid hp hpid => exact h.afterRefund hp
  | refundRequested hcall hid hp hpid => exact h.withPayment hp fun hr => by cases hr
  | refundFailed hcall hid hp hpid => exact h.withPayment hp fun hr => by cases hr
  | refundSynced y hsync hid hp => exact h.afterRefund hp

theorem every_lifecycle (stripe : StripeService S M) (s : S) (as : List (Action M)) :
    ((system stripe).run (World.init s) as).Every OrderRecord.Lifecycle :=
  every_run (fun _ => lifecycle_newOrder) (fun _ _ h hc => lifecycle_change h hc)
    (Machine.meets_true _ _ as)

/-! ## Where the status moves -/

theorem status_transition {toStatus : OrderStatus}
    (ht : Transition stripe env o s toStatus o' rows s') :
    o'.status = toStatus ∧ toStatus ∈ allowedTransitions o.status := by
  cases ht with
  | confirmed hs hp => exact ⟨rfl, by rw [hs]; decide⟩
  | fulfilled hs hp hpaid hrefund => exact ⟨rfl, by rw [hs]; decide⟩
  | cancelledPending hs => exact ⟨rfl, by rw [hs]; decide⟩
  | cancelledConfirmed hs hp hpaid hrefund hr => exact ⟨rfl, by rw [hs]; decide⟩
  | cancelledSynced hs hp hpaid hrefund hr hans => exact ⟨rfl, by rw [hs]; decide⟩
  | reopenedUnpaid hs hp => exact ⟨rfl, by rw [hs]; decide⟩
  | reopened hs hp hpaid hrefund hans => exact ⟨rfl, by rw [hs]; decide⟩

/-- A refund leaves the status alone or cancels a confirmed order. -/
theorem status_afterRefund (o : OrderRecord) (p : PaymentWithAttempts) :
    (o.afterRefund env p).status = o.status ∨
      o.status = .confirmed ∧ (o.afterRefund env p).status = .cancelled := by
  unfold OrderRecord.afterRefund
  split
  · next hc => exact Or.inr ⟨hc.2, rfl⟩
  · exact Or.inl rfl

theorem status_change (hc : Change stripe w k a o o' rows s') :
    o'.status = o.status ∨ o'.status ∈ allowedTransitions o.status := by
  have hrefund : ∀ p, (o.afterRefund w.env p).status = o.status ∨
      (o.afterRefund w.env p).status ∈ allowedTransitions o.status := fun p =>
    (status_afterRefund o p).imp_right fun hs => by rw [hs.1, hs.2]; decide
  cases hc with
  | transition ho hv ht =>
    obtain ⟨hto, hmem⟩ := status_transition ht
    exact Or.inr (hto ▸ hmem)
  | cashRefunded hcall hid hp hpid => exact hrefund _
  | refundSynced y hsync hid hp => exact hrefund _
  | itemAdded hs => exact Or.inl rfl
  | itemDeleted hi => exact Or.inl rfl
  | metadata => exact Or.inl rfl
  | backfilled => exact Or.inl rfl
  | attemptStarted hs hp hrefund hpaid hr hans hsecret => exact Or.inl rfl
  | paidInCash hs hp hreq hpend hpaid hprogress => exact Or.inl rfl
  | synced y hsync hid hp => exact Or.inl rfl
  | refundRequested hcall hid hp hpid => exact Or.inl rfl
  | refundFailed hcall hid hp hpid => exact Or.inl rfl

/-- An order of a run has nothing to backfill, in a transaction of any time. -/
theorem ensureLegacyPaymentForOrderTx_of_lifecycle {db : Database} (h : o.Lifecycle)
    (ho : db.order? k = some o) (env : Env) (t : S) :
    (ensureLegacyPaymentForOrderTx env k o.organizationId o.status o.totalCents o.createdAt
      o.placedAt).run db t = (.ok (o.payment, db), t) := by
  unfold ensureLegacyPaymentForOrderTx
  rw [Prog.run_bind_ok]
  refine ⟨o.payment, db, t, (paymentFindByOrder_ok ho).mpr ⟨rfl, rfl, rfl⟩, ?_⟩
  cases hp : o.payment with
  | some p => exact Prog.run_pure_ok.mpr ⟨rfl, rfl, rfl⟩
  | none =>
    have hlegacy := h.paymentOrLegacy_eq env
    rw [OrderRecord.paymentOrLegacy, hp, Option.none_or] at hlegacy
    have hw : withoutLegacyPayment o.status o.placedAt := by
      by_contra hn
      rw [if_neg hn] at hlegacy
      cases hlegacy
    simp only [if_pos hw]
    exact Prog.run_pure_ok.mpr ⟨rfl, rfl, rfl⟩

/-- **The lifecycle of every reachable order.** It has `OrderRecord.Lifecycle`; the backfill finds
its payment as it is and writes nothing; and the next step, whichever it is, leaves its status alone
or moves it along `allowedTransitions`. -/
theorem order_lifecycle (stripe : StripeService S M) (s : S) (as : List (Action M)) (k : Id)
    (o : OrderRecord) (ho : ((system stripe).run (World.init s) as).db.order? k = some o) :
    o.Lifecycle ∧
      (∀ (env : Env) (t : S),
        (ensureLegacyPaymentForOrderTx env k o.organizationId o.status o.totalCents o.createdAt
          o.placedAt).run ((system stripe).run (World.init s) as).db t =
          (.ok (o.payment, ((system stripe).run (World.init s) as).db), t)) ∧
      ∀ (a : Action M) (o' : OrderRecord),
        ((system stripe).run (World.init s) (as ++ [a])).db.order? k = some o' →
          o'.status = o.status ∨ o'.status ∈ allowedTransitions o.status := by
  have hlife := every_lifecycle stripe s as k o ho
  refine ⟨hlife, fun env t => ensureLegacyPaymentForOrderTx_of_lifecycle hlife ho env t, ?_⟩
  intro a o' ho'
  rw [Machine.run_append] at ho'
  rcases step_order_cases ho ho' with rfl | ⟨rows, s', hc⟩
  · exact Or.inl rfl
  · exact status_change hc

/-- The order of a small shop, confirmed. -/
theorem order_lifecycle_confirmed :
    ∃ o, (ledger.run (World.init .empty) Shop.confirmed).db.order? Shop.orderId = some o ∧
      o.Lifecycle := by
  obtain ⟨o, ho⟩ := Option.isSome_iff_exists.mp (show ((ledger.run (World.init .empty)
    Shop.confirmed).db.order? Shop.orderId).isSome = true by decide)
  exact ⟨o, ho, (order_lifecycle stripeAccount .empty Shop.confirmed Shop.orderId o ho).1⟩

end

end LedgerLight
