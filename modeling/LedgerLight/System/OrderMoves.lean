import LedgerLight.Order.Spec
import LedgerLight.Payment.CallsSpec

/-!
# What a call does to one order

The calls on an order that exists, and the webhooks, write one order, and leave it in its
organization, with its customer, its location and its items. The calls on payments do so too when
they fail half way.

* `Database.Moves` : one order is written, of an organization.
* `confirmCardPayment_moves`, `refundPayment_moves`, `getPaymentByOrderId_moves` : calls that are
  more than one transaction, however they end.
-/

namespace LedgerLight

open Infra Prog

variable {S M : Type}

/-- What a change leaves of an order besides its status, its dates and its payment. A payment is of
the organization that the one before it was of, or of that of its order. -/
structure OrderRecord.Same (o o' : OrderRecord) : Prop where
  organizationId : o'.organizationId = o.organizationId
  customerId : o'.customerId = o.customerId
  locationId : o'.locationId = o.locationId
  items : o'.items = o.items
  payment : ∀ p', o'.payment = some p' → p'.organizationId = o.organizationId ∨
    ∃ p, o.payment = some p ∧ p'.organizationId = p.organizationId

/-- From `db` to `db'` no order differs but one of the organization `x`, which is still the same. -/
inductive Database.Moves (db : Database) (x orderId : Id) : Database → Prop
  | keeps {db' : Database} (keeps : db.Keeps db') : db.Moves x orderId db'
  | puts {o o' : OrderRecord} {rows : List (Id × AuditAction)} {db' : Database}
      (order : db.order? orderId = some o) (organizationId : o.organizationId = x)
      (same : o.Same o') (puts : db.Puts orderId o' rows db') : db.Moves x orderId db'

section

variable {env : Env} {org : CurrentOrg} {db db₁ db₂ : Database} {s : S} {x orderId : Id}
  {o o' o'' : OrderRecord} {p q : PaymentWithAttempts} {auditContext : AuditContext}

namespace OrderRecord

theorem Same.refl (o : OrderRecord) : o.Same o :=
  ⟨rfl, rfl, rfl, rfl, fun p hp => Or.inr ⟨p, hp, rfl⟩⟩

theorem Same.trans (h : o.Same o') (h' : o'.Same o'') : o.Same o'' where
  organizationId := h'.organizationId.trans h.organizationId
  customerId := h'.customerId.trans h.customerId
  locationId := h'.locationId.trans h.locationId
  items := h'.items.trans h.items
  payment := by
    intro p'' hp''
    rcases h'.payment p'' hp'' with he | ⟨p', hp', he⟩
    · exact Or.inl (he.trans h.organizationId)
    · rcases h.payment p' hp' with he' | ⟨p, hp, he'⟩
      · exact Or.inl (he.trans he')
      · exact Or.inr ⟨p, hp, he.trans he'⟩

/-- Another payment of the organization of the payment before. -/
theorem same_of_payment (hp : o.payment = some p) (hq : q.organizationId = p.organizationId) :
    o.Same { o with payment := some q } :=
  ⟨rfl, rfl, rfl, rfl, fun _ hp' => Or.inr ⟨p, hp, Option.some.inj hp' ▸ hq⟩⟩

/-- A change of the status and the dates. -/
theorem same_of_eq (horg : o'.organizationId = o.organizationId)
    (hcustomer : o'.customerId = o.customerId) (hlocation : o'.locationId = o.locationId)
    (hitems : o'.items = o.items) (hpayment : o'.payment = o.payment) : o.Same o' :=
  ⟨horg, hcustomer, hlocation, hitems, fun p hp => Or.inr ⟨p, hpayment ▸ hp, rfl⟩⟩

theorem same_without_payment : o.Same { o with payment := none } :=
  ⟨rfl, rfl, rfl, rfl, fun _ hp => by cases hp⟩

theorem same_backfilled : o.Same (o.backfilled env) := by
  refine ⟨rfl, rfl, rfl, rfl, fun p' hp' => ?_⟩
  replace hp' : o.paymentOrLegacy env = some p' := hp'
  unfold paymentOrLegacy at hp'
  cases hp : o.payment with
  | some p =>
    rw [hp, Option.some_or] at hp'
    exact Or.inr ⟨p', hp', rfl⟩
  | none =>
    rw [hp, Option.none_or] at hp'
    split at hp'
    · cases hp'
    · exact Or.inl (congrArg (·.organizationId) (Option.some.inj hp').symm)

theorem same_afterRefund (hp : o.payment = some p) (hq : q.organizationId = p.organizationId) :
    o.Same (o.afterRefund env q) := by
  unfold afterRefund
  split
  · exact (same_of_payment hp hq).trans (same_of_eq rfl rfl rfl rfl rfl)
  · exact same_of_payment hp hq

end OrderRecord

theorem syncedPayment_organizationId {attempt : PaymentAttempt}
    {paymentIntent : StripePaymentIntent} :
    (syncedPayment env p attempt paymentIntent).organizationId = p.organizationId := by
  unfold syncedPayment withSyncedAttempt
  dsimp only
  split
  · rfl
  · split <;> rfl

theorem refundSynced_organizationId {refund : StripeRefund} :
    (refundSynced env p refund).organizationId = p.organizationId := by
  unfold refundSynced
  dsimp only
  split <;> rfl

/-- A transition leaves an order the same. -/
theorem Transition.same {stripe : StripeService S M} {toStatus : OrderStatus}
    {rows : List (Id × AuditAction)} {s' : S}
    (h : Transition stripe env o s toStatus o' rows s') : o.Same o' := by
  cases h with
  | confirmed _ hp =>
    refine ⟨rfl, rfl, rfl, rfl, fun p' hp' => ?_⟩
    cases Option.some.inj hp'
    rw [hp]
    cases hpay : o.payment with
    | none => exact Or.inl rfl
    | some p => exact Or.inr ⟨p, rfl, rfl⟩
  | fulfilled => exact OrderRecord.same_backfilled.trans (OrderRecord.same_of_eq rfl rfl rfl rfl rfl)
  | cancelledPending => exact OrderRecord.same_of_eq rfl rfl rfl rfl rfl
  | cancelledConfirmed =>
    exact OrderRecord.same_backfilled.trans (OrderRecord.same_of_eq rfl rfl rfl rfl rfl)
  | cancelledSynced _ hp =>
    exact (OrderRecord.same_of_payment hp syncedPayment_organizationId).trans
      (OrderRecord.same_of_eq rfl rfl rfl rfl rfl)
  | reopenedUnpaid =>
    exact OrderRecord.same_without_payment.trans (OrderRecord.same_of_eq rfl rfl rfl rfl rfl)
  | reopened => exact OrderRecord.same_without_payment.trans (OrderRecord.same_of_eq rfl rfl rfl rfl rfl)

namespace Database.Moves

theorem refl (db : Database) (x orderId : Id) : db.Moves x orderId db := .keeps (.refl db)

theorem trans (h : db.Moves x orderId db₁) (h' : db₁.Moves x orderId db₂) :
    db.Moves x orderId db₂ := by
  cases h with
  | keeps keeps =>
    cases h' with
    | keeps keeps' => exact .keeps (keeps.trans keeps')
    | puts order organizationId same puts =>
      exact .puts ((keeps.order? _).symm.trans order) organizationId same (puts.of_keeps keeps)
  | puts order organizationId same puts =>
    cases h' with
    | keeps keeps' => exact .puts order organizationId same (puts.then_keeps keeps')
    | puts order' _ same' puts' =>
      cases puts.order?_self.symm.trans order'
      exact .puts order organizationId (same.trans same') (puts.trans puts')

end Database.Moves

theorem OrderRecord.organizationId_of_visibleTo (hv : o.visibleTo org = true) :
    o.organizationId = org.organizationId := by
  unfold visibleTo at hv
  exact beq_iff_eq.mp (Bool.and_eq_true _ _ ▸ hv).1

/-! ## Calls that are more than one transaction -/

/-- In `d`, which a call has come to from `db`, the order is there and of the organization `x`. -/
structure Database.MovesOwn (db : Database) (x orderId : Id) (d : Database) : Prop where
  moves : db.Moves x orderId d
  own : ∃ o, d.order? orderId = some o ∧ o.organizationId = x

theorem Database.MovesOwn.puts {d d' : Database} {rows : List (Id × AuditAction)}
    (h : db.MovesOwn x orderId d) (ho : d.order? orderId = some o)
    (hput : d.Puts orderId o' rows d') (hsame : o.Same o') : db.MovesOwn x orderId d' := by
  obtain ⟨o₁, ho₁, horg⟩ := h.own
  cases ho.symm.trans ho₁
  exact ⟨h.moves.trans (.puts ho horg hsame hput),
    o', hput.order?_self, hsame.organizationId.trans horg⟩

/-- The first read of a call on a payment backfills the payment, if it finds the order. -/
theorem orderAndPaymentTx_moves :
    db.Moves org.organizationId orderId
      ((orderAndPaymentTx env org orderId : Tx S _).runAuto db s).2.1 := by
  rcases h : (orderAndPaymentTx env org orderId : Tx S _).runAuto db s with ⟨e | read, db', s'⟩
  · obtain ⟨rfl, -⟩ := orderAndPaymentTx_failsClean db s e db' s' h
    exact .refl ..
  · obtain ⟨ho, hv, -, hput, -⟩ := orderAndPaymentTx_ok (runAuto_ok.mp h)
    exact .puts ho (OrderRecord.organizationId_of_visibleTo hv) OrderRecord.same_backfilled hput

theorem getPaymentByOrderId_moves :
    db.Moves org.organizationId orderId
      ((getPaymentByOrderId env org orderId : Tx S PaymentDto).runAuto db s).2.1 := by
  unfold getPaymentByOrderId
  rw [runAuto_bind_ofExcept]
  exact orderAndPaymentTx_moves

/-- After the first read, the rest of a call works on an order of the organization. -/
theorem moves_of_preserves {α β : Type}
    {f : OrderRecord × Option PaymentWithAttempts → Except AppError α} {g : α → Tx S β}
    (hg : ∀ read a, f read = .ok a → (g a).Preserves (db.MovesOwn org.organizationId orderId)) :
    db.Moves org.organizationId orderId
      (((orderAndPaymentTx env org orderId >>= fun read => ofExcept (f read)) >>= g).runAuto
        db s).2.1 := by
  have hread : db.Moves org.organizationId orderId
      ((orderAndPaymentTx env org orderId >>= fun read => ofExcept (f read) : Tx S _).runAuto
        db s).2.1 := by
    rw [runAuto_bind_ofExcept]
    exact orderAndPaymentTx_moves
  rw [runAuto_bind]
  rcases h : (orderAndPaymentTx env org orderId >>= fun read => ofExcept (f read) : Tx S _).runAuto
    db s with ⟨e | a, d, w⟩
  · rwa [h] at hread
  · obtain ⟨read, d₁, w₁, hrun, hcheck⟩ := run_bind_ok.mp (runAuto_ok.mp h)
    obtain ⟨ho, hv, -, hput, -⟩ := orderAndPaymentTx_ok hrun
    obtain ⟨hf, rfl, rfl⟩ := run_ofExcept_ok.mp hcheck
    have horg := OrderRecord.organizationId_of_visibleTo hv
    refine (hg read a hf d w ⟨?_, _, hput.order?_self, horg⟩).moves
    exact .puts ho horg OrderRecord.same_backfilled hput

theorem confirmCardPayment_moves {stripe : StripeService S M} :
    db.Moves org.organizationId orderId
      ((confirmCardPayment stripe env org orderId auditContext).runAuto db s).2.1 := by
  refine moves_of_preserves fun read target _ => ?_
  refine Preserves.bind preserves_invoke fun paymentIntent _ _ _ _ _ _ => ?_
  refine preserves_transaction fun d w dto d' w' hown hrun => ?_
  obtain ⟨o, p, attempt, ho, hp, -, -, hput, -⟩ := confirmCardPaymentApply_ok hrun
  exact hown.puts ho hput (OrderRecord.same_of_payment hp syncedPayment_organizationId)

theorem refundPaymentCard_preserves {stripe : StripeService S M} {call : RefundCall}
    {paymentIntentId : PaymentIntentId} :
    (refundPaymentCard stripe env call paymentIntentId).Preserves (db.MovesOwn x call.orderId) := by
  refine Preserves.bind ?_ fun _ _ _ _ _ _ _ => Preserves.bind preserves_attempt ?_
  · refine preserves_transaction fun d w u d' w' hown hrun => ?_
    obtain ⟨o, p, ho, hp, -, hput, -⟩ := refundPaymentRequest_ok hrun
    exact hown.puts ho hput (OrderRecord.same_of_payment hp rfl)
  · intro answer _ _ _ _ _ _
    cases answer with
    | ok refund =>
      refine preserves_transaction fun d w dto d' w' hown hrun => ?_
      obtain ⟨o, p, ho, -, hp, -, hput, -⟩ := refundPaymentApply_ok hrun
      exact hown.puts ho hput (OrderRecord.same_afterRefund hp refundSynced_organizationId)
    | error e =>
      refine preserves_transaction fun d w dto d' w' hown hrun => ?_
      obtain ⟨o, p, ho, hp, -, hput, -⟩ := refundPaymentFail_ok hrun
      exact hown.puts ho hput (OrderRecord.same_of_payment hp rfl)

theorem refundPayment_moves {stripe : StripeService S M} {refundReason : String} :
    db.Moves org.organizationId orderId
      ((refundPayment stripe env org orderId refundReason auditContext).runAuto db s).2.1 := by
  refine moves_of_preserves fun read target htarget => ?_
  obtain ⟨call, intent?⟩ := target
  obtain ⟨p, -, -, -, -, hcall, -⟩ := refundPaymentTarget_ok htarget
  obtain rfl : call.orderId = orderId := hcall ▸ rfl
  cases intent? with
  | some paymentIntentId => exact refundPaymentCard_preserves
  | none =>
    refine preserves_transaction fun d w dto d' w' hown hrun => ?_
    obtain ⟨o, p, ho, -, hp, -, hput, -⟩ := refundPaymentCash_ok hrun
    exact hown.puts ho hput (OrderRecord.same_afterRefund hp rfl)

end

end LedgerLight
