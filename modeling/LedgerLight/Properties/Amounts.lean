import LedgerLight.Properties.Lifecycle
import LedgerLight.Properties.Totals

/-!
# The amount to collect

A payment's amount is the order's total when the order is confirmed. It stays so as long as the
items of an order that left `PENDING` stay the same. `addOrderItem` looks for a pending order;
`deleteOrderItem` does not look at the status.

* `amounts_of_pendingDeletes` : if items are only deleted from pending orders, every payment and
  every attempt has the amount of its order.
* `amount_differs` : a run in which an item of a confirmed order is deleted.
-/

namespace LedgerLight

open Infra

/-- The payment and its attempts have the amount of the order. -/
structure OrderRecord.AmountsAgree (o : OrderRecord) : Prop where
  payment : ∀ p, o.payment = some p → p.amountCents = o.totalCents
  attempts : ∀ p, o.payment = some p → ∀ a ∈ p.attempts, a.amountCents = p.amountCents

/-- A step that deletes an item deletes it from a pending order. -/
def World.DeletesFromPending {S M : Type} (w : World S) : Action M → Prop
  | .deleteOrderItem _ orderId _ => (w.db.order? orderId).all fun o => o.status == .pending
  | _ => True

instance {S M : Type} (w : World S) (a : Action M) : Decidable (w.DeletesFromPending a) := by
  unfold World.DeletesFromPending
  split <;> infer_instance

namespace OrderRecord.AmountsAgree

variable {o : OrderRecord} {p q : PaymentWithAttempts}

/-- Without a payment there is nothing to agree with. -/
theorem of_none (h : o.payment = none) : o.AmountsAgree where
  payment := fun p hp => by rw [h] at hp; cases hp
  attempts := fun p hp => by rw [h] at hp; cases hp

/-- Another payment row of the same amount, with attempts of that amount. -/
theorem withPayment (h : o.AmountsAgree) (hp : o.payment = some p)
    (hq : q.amountCents = p.amountCents)
    (hattempts : ∀ a ∈ q.attempts, a.amountCents = p.amountCents) :
    AmountsAgree { o with payment := some q } where
  payment := fun r hr => by cases hr; rw [hq]; exact h.payment p hp
  attempts := fun r hr a ha => by cases hr; rw [hq]; exact hattempts a ha

/-- Another payment row of the same amount, with the same attempts. -/
theorem withPayment_of_eq (h : o.AmountsAgree) (hp : o.payment = some p)
    (hq : q.amountCents = p.amountCents) (hattempts : q.attempts = p.attempts) :
    AmountsAgree { o with payment := some q } :=
  h.withPayment hp hq fun a ha => h.attempts p hp a (hattempts ▸ ha)

theorem afterRefund {env : Env} (h : o.AmountsAgree) (hp : o.payment = some p)
    (hq : q.amountCents = p.amountCents) (hattempts : q.attempts = p.attempts) :
    (o.afterRefund env q).AmountsAgree := by
  have hagree := h.withPayment_of_eq hp hq hattempts
  unfold OrderRecord.afterRefund
  split
  · exact ⟨hagree.payment, hagree.attempts⟩
  · exact hagree

end OrderRecord.AmountsAgree

section

variable {S M : Type} {stripe : StripeService S M} {w : World S} {a : Action M} {k : Id}
  {o o' : OrderRecord} {p : PaymentWithAttempts} {rows : List (Id × AuditAction)} {s s' : S}
  {env : Env}

theorem updateAttempt_amountCents {attemptId : Id} {next : PaymentTransitionResult} {n : Int}
    {attempts : List PaymentAttempt} (h : ∀ b ∈ attempts, b.amountCents = n) :
    ∀ b ∈ updateAttempt env attemptId next.onAttempt attempts, b.amountCents = n := by
  intro b hb
  obtain ⟨c, hc, rfl⟩ := List.mem_map.mp hb
  split <;> exact h c hc

theorem syncedPayment_agree (h : o.AmountsAgree) (hp : o.payment = some p)
    (attempt : PaymentAttempt) (paymentIntent : StripePaymentIntent) :
    ∀ a ∈ (syncedPayment env p attempt paymentIntent).attempts, a.amountCents = p.amountCents := by
  rw [syncedPayment_attempts]
  dsimp only
  split
  · exact updateAttempt_amountCents (h.attempts p hp)
  · exact h.attempts p hp

theorem amounts_transition {toStatus : OrderStatus} (hlife : o.Lifecycle) (h : o.AmountsAgree)
    (ht : Transition stripe env o s toStatus o' rows s') : o'.AmountsAgree := by
  cases ht with
  | confirmed hs hp =>
    rw [(hlife.pending hs).2.2, Option.getD_none] at hp
    exact {
      payment := fun q hq => by cases hq; rw [hp]; rfl
      attempts := fun q hq b hb => by cases hq; rw [hp] at hb; cases hb }
  | fulfilled hs hp hpaid hrefund =>
    rw [hlife.backfilled_eq]
    exact ⟨h.payment, h.attempts⟩
  | cancelledPending hs => exact ⟨h.payment, h.attempts⟩
  | cancelledConfirmed hs hp hpaid hrefund hr =>
    rw [hlife.backfilled_eq]
    exact ⟨h.payment, h.attempts⟩
  | @cancelledSynced p attempt paymentIntent s' hs hp hpaid hrefund hr hans =>
    have hsynced : OrderRecord.AmountsAgree
        { o with payment := some (syncedPayment env p attempt paymentIntent) } :=
      h.withPayment hp (syncedPayment_amountCents ..) (syncedPayment_agree h hp _ _)
    exact ⟨hsynced.payment, hsynced.attempts⟩
  | reopenedUnpaid hs hp => exact .of_none rfl
  | reopened hs hp hpaid hrefund hans => exact .of_none rfl

theorem amounts_change (hlife : o.Lifecycle) (h : o.AmountsAgree)
    (hd : w.DeletesFromPending a) (ho : w.db.order? k = some o)
    (hc : Change stripe w k a o o' rows s') : o'.AmountsAgree := by
  cases hc with
  | itemAdded hs => exact .of_none (hlife.pending hs).2.2
  | itemDeleted hi =>
    have hs : o.status = .pending := by simpa [World.DeletesFromPending, ho] using hd
    exact .of_none (hlife.pending hs).2.2
  | metadata => exact ⟨h.payment, h.attempts⟩
  | transition ho hv ht => exact amounts_transition hlife h ht
  | backfilled => rw [hlife.backfilled_eq]; exact h
  | attemptStarted hs hp hrefund hpaid hr hans hsecret =>
    have hp' := hlife.payment_of_paymentOrLegacy hp
    refine h.withPayment hp' rfl fun b hb => ?_
    rcases List.mem_cons.mp hb with rfl | hb
    · rfl
    · exact h.attempts _ hp' b hb
  | paidInCash hs hp hreq hpend hpaid hprogress =>
    exact h.withPayment_of_eq (hlife.payment_of_paymentOrLegacy hp) rfl rfl
  | synced y hsync hid hp =>
    exact h.withPayment hp (syncedPayment_amountCents ..) (syncedPayment_agree h hp _ _)
  | cashRefunded hcall hid hp hpid => exact h.afterRefund hp rfl rfl
  | refundRequested hcall hid hp hpid => exact h.withPayment_of_eq hp rfl rfl
  | refundFailed hcall hid hp hpid => exact h.withPayment_of_eq hp rfl rfl
  | refundSynced y hsync hid hp =>
    exact h.afterRefund hp (refundSynced_amountCents ..) (refundSynced_attempts ..)

/-! ## Items -/

theorem items_change (hd : w.DeletesFromPending a) (ho : w.db.order? k = some o)
    (hs : o.status ≠ .pending) (hc : Change stripe w k a o o' rows s') : o'.items = o.items := by
  rcases lines_change hc with hsame | ⟨item, hpending, -⟩ | ⟨org, itemId, item, rfl, -⟩
  · exact hsame.items
  · exact absurd hpending hs
  · exact absurd (by simpa [World.DeletesFromPending, ho] using hd) hs

/-! ## Runs -/

theorem every_amountsAgree {as : List (Action M)}
    (h : (system stripe).Meets World.DeletesFromPending (World.init s) as) :
    ((system stripe).run (World.init s) as).Every fun o => o.Lifecycle ∧ o.AmountsAgree :=
  every_run (fun _ _ _ _ _ => ⟨lifecycle_newOrder .., .of_none rfl⟩)
    (fun hd ho h hc => ⟨lifecycle_change h.1 hc, amounts_change h.1 h.2 hd ho hc⟩) h

/-- **The amount to collect is the amount of the order**, in every run that deletes items from
pending orders only; and the items of an order that left `PENDING` stay as they are. -/
theorem amounts_of_pendingDeletes (stripe : StripeService S M) (s : S) (as : List (Action M))
    (h : (system stripe).Meets World.DeletesFromPending (World.init s) as) :
    ((system stripe).run (World.init s) as).Every OrderRecord.AmountsAgree ∧
      ∀ a, ((system stripe).run (World.init s) as).DeletesFromPending a →
        ∀ k o o', ((system stripe).run (World.init s) as).db.order? k = some o →
          o.status ≠ .pending →
          ((system stripe).run (World.init s) (as ++ [a])).db.order? k = some o' →
          o'.items = o.items := by
  refine ⟨fun k o ho => (every_amountsAgree h k o ho).2, fun a hd k o o' ho hs ho' => ?_⟩
  rw [Machine.run_append] at ho'
  rcases step_order_cases ho ho' with rfl | ⟨rows, s', hc⟩
  · rfl
  · exact items_change hd ho hs hc

/-- An item deleted before the confirmation, and a card payment after it. -/
theorem amounts_of_pendingDeletes_shop :
    (ledger.run (World.init .empty) [Shop.catalog, Shop.createOrder,
      .deleteOrderItem Shop.org Shop.orderId ⟨1, 1⟩, Shop.transition .confirmed,
      Shop.payByCard]).Every OrderRecord.AmountsAgree :=
  (amounts_of_pendingDeletes stripeAccount .empty _ (by decide)).1

/-- An item deleted after the confirmation: 1700 stay to be collected for an order of 1500. -/
theorem amount_differs :
    ¬ (ledger.run (World.init .empty)
      (Shop.confirmed ++ [.deleteOrderItem Shop.org Shop.orderId ⟨1, 1⟩])).Every
      OrderRecord.AmountsAgree := by
  intro h
  obtain ⟨o, ho, hdiffers⟩ := (Option.any_eq_true _ _).mp (show ((ledger.run (World.init .empty)
    (Shop.confirmed ++ [.deleteOrderItem Shop.org Shop.orderId ⟨1, 1⟩])).db.order?
      Shop.orderId).any (fun o => o.payment.any fun p => p.amountCents != o.totalCents) = true by
    decide)
  obtain ⟨p, hp, hne⟩ := (Option.any_eq_true _ _).mp hdiffers
  simp [(h _ o ho).payment p hp] at hne

end

end LedgerLight
