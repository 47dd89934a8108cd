import LedgerLight.Frontend.OrderPage
import LedgerLight.Order.Refusals
import LedgerLight.Properties.ScopedWrites
import LedgerLight.Stripe.Account

/-!
# The moves that the order page offers

The page decides from an answer of `getOrderById` which status changes it shows, and the service
decides again, on its own rows, which ones it makes.

* `offered_moves` : the service makes what the page offers and refuses what it does not offer, but
  for two kinds of orders: those with a refunded payment that is not paid, and confirmed ones of
  the time before payments.
-/

namespace LedgerLight.Frontend

open Infra

/-- The status change is made, unless Stripe neither cancels nor shows an intent. -/
def MoveMade {S M : Type} (stripe : StripeService S M) (env : Env) (org : CurrentOrg)
    (db : Database) (s : S) (orderId : Id) (toStatus : OrderStatus)
    (auditContext : AuditContext) : Prop :=
  (∃ o db' s', (transitionStatus stripe env org orderId toStatus auditContext).run db s =
      (.ok (o, db'), s')) ∨
    ∃ e s' id, (transitionStatus stripe env org orderId toStatus auditContext).run db s =
        (.error e, s') ∧ stripe.cancelOrRetrieve id s = (.error e, s')

/-- The status change is refused, before anything is written or Stripe is called. -/
def MoveRefused {S M : Type} (stripe : StripeService S M) (env : Env) (org : CurrentOrg)
    (db : Database) (s : S) (orderId : Id) (toStatus : OrderStatus)
    (auditContext : AuditContext) : Prop :=
  ∃ message, (transitionStatus stripe env org orderId toStatus auditContext).run db s =
    (.error (.badRequest message), s)

/-- The order is not a draft, and its payment was refunded without being paid. -/
def RefundedUnpaid (order : OrderDetailDto) : Prop :=
  order.status ≠ .pending ∧
    ∃ p, order.payment = some p ∧ p.refundStatus = .refunded ∧ p.paymentStatus ≠ .paid

/-- A confirmed order that never got a payment. -/
def ConfirmedBare (order : OrderDetailDto) : Prop :=
  order.status = .confirmed ∧ order.payment = none

section

variable {env : Env} {withItems : Bool} {r : OrderRow} {o : OrderRecord} {toStatus : OrderStatus}
  {p : PaymentWithAttempts}

/-! ## What the page sees of a payment -/

theorem shows_paid :
    (toPaymentSummaryDto p.toPayment).financialStatus = .paid ↔
      p.paymentStatus = .paid ∧ p.refundStatus = .none := by
  unfold toPaymentSummaryDto deriveFinancialStatus
  cases hr : p.refundStatus <;> cases hp : p.paymentStatus <;> simp [hr, hp]

/-- What the page asks of a payment before it offers to cancel or to reopen the order. -/
def looksOpen (payment : Option PaymentSummaryDto) : Bool :=
  !hasPaidPayment payment && !hasActiveRefundFlow payment

theorem looksOpen_iff :
    looksOpen (some (toPaymentSummaryDto p.toPayment)) = true ↔
      p.Open ∨ p.refundStatus = .refunded ∧ p.paymentStatus ≠ .paid := by
  have hopen : p.Open ↔ p.paymentStatus ≠ .paid ∧
      (p.refundStatus = .none ∨ p.refundStatus = .failed) :=
    ⟨fun h => ⟨h.1, h.2⟩, fun h => ⟨h.1, h.2⟩⟩
  rw [hopen]
  unfold looksOpen hasPaidPayment hasActiveRefundFlow toPaymentSummaryDto
  cases p.refundStatus <;> cases p.paymentStatus <;> simp

/-! ## The payment that the service works with -/

/-- A payment that a service call backfills is open, but for shipped orders. -/
theorem legacyPayment_open {organizationId : Id} {amountCents : Int} {createdAt : Date}
    {placedAt : Option Date} {status : OrderStatus} (hs : status ≠ .fulfilled) :
    (legacyPayment env organizationId status amountCents createdAt placedAt).Open where
  paymentStatus := by simp [legacyPayment, hs]
  refundStatus := Or.inl rfl

theorem paymentOrLegacy_open (hs : o.status ≠ .fulfilled) (hp : o.payment = none)
    (hq : o.paymentOrLegacy env = some p) : p.Open := by
  rw [OrderRecord.paymentOrLegacy, hp, Option.none_or] at hq
  split at hq
  · cases hq
  · cases hq
    exact legacyPayment_open hs

/-! ## The two decisions -/

theorem mem_offered_pending (hs : r.order.status = .pending) :
    toStatus ∈ offeredStatuses (toOrderDetailDto withItems r) ↔
      toStatus = .confirmed ∨ toStatus = .cancelled := by
  have hstatus : (toOrderDetailDto withItems r).status = .pending := hs
  unfold offeredStatuses getAvailableTransitions
  rw [hstatus]
  simp [confirmAction, cancelAction]

theorem mem_offered_confirmed (hs : r.order.status = .confirmed) :
    toStatus ∈ offeredStatuses (toOrderDetailDto withItems r) ↔
      (∃ p, r.order.payment = some p ∧ toStatus = .fulfilled ∧ p.paymentStatus = .paid ∧
        p.refundStatus = .none) ∨
      ∃ p, r.order.payment = some p ∧ toStatus = .cancelled ∧
        looksOpen (some (toPaymentSummaryDto p.toPayment)) = true := by
  have hstatus : (toOrderDetailDto withItems r).status = .confirmed := hs
  have hpayment : (toOrderDetailDto withItems r).payment =
      r.order.payment.map fun p => toPaymentSummaryDto p.toPayment := rfl
  unfold offeredStatuses getAvailableTransitions
  rw [hstatus, hpayment]
  cases hp : r.order.payment with
  | none => simp
  | some p =>
    have hfulfill : ((some (toPaymentSummaryDto p.toPayment)).any fun p =>
        p.financialStatus == .paid) = true ↔ p.paymentStatus = .paid ∧ p.refundStatus = .none := by
      rw [Option.any_some, beq_iff_eq, shows_paid]
    simp only [Option.map_some, hfulfill, Option.isSome_some, Bool.true_and, List.map_append,
      List.mem_append, Option.some.injEq, exists_eq_left']
    refine or_congr ?_ ?_
    · by_cases hpaid : p.paymentStatus = .paid ∧ p.refundStatus = .none
      · rw [if_pos hpaid]; simp [fulfillAction, hpaid]
      · rw [if_neg hpaid]; simp [hpaid]
    · rw [← looksOpen]
      by_cases hlooks : looksOpen (some (toPaymentSummaryDto p.toPayment)) = true
      · rw [if_pos hlooks]; simp [cancelAction, hlooks]
      · rw [if_neg hlooks]; simp [hlooks]

theorem mem_offered_cancelled (hs : r.order.status = .cancelled) :
    toStatus ∈ offeredStatuses (toOrderDetailDto withItems r) ↔
      toStatus = .pending ∧ ∀ p, r.order.payment = some p →
        looksOpen (some (toPaymentSummaryDto p.toPayment)) = true := by
  have hstatus : (toOrderDetailDto withItems r).status = .cancelled := hs
  have hpayment : (toOrderDetailDto withItems r).payment =
      r.order.payment.map fun p => toPaymentSummaryDto p.toPayment := rfl
  unfold offeredStatuses getAvailableTransitions
  rw [hstatus, hpayment]
  dsimp only
  rw [← looksOpen]
  cases hp : r.order.payment with
  | none => simp [looksOpen, hasPaidPayment, hasActiveRefundFlow, reopenAction]
  | some p =>
    rw [Option.map_some]
    by_cases hlooks : looksOpen (some (toPaymentSummaryDto p.toPayment)) = true
    · rw [if_pos hlooks]; simp [reopenAction, hlooks]
    · rw [if_neg hlooks]; simp [hlooks]

theorem mem_offered_fulfilled (hs : r.order.status = .fulfilled) :
    toStatus ∉ offeredStatuses (toOrderDetailDto withItems r) := by
  have hstatus : (toOrderDetailDto withItems r).status = .fulfilled := hs
  unfold offeredStatuses getAvailableTransitions
  rw [hstatus]
  exact List.not_mem_nil

/-- The page offers no more than the service makes, but for refunded payments. -/
theorem canMove_of_offered (h : toStatus ∈ offeredStatuses (toOrderDetailDto withItems r))
    (hrefunded : ¬ RefundedUnpaid (toOrderDetailDto withItems r)) :
    r.order.CanMove env toStatus := by
  have hopen {p : PaymentWithAttempts} (hs : r.order.status ≠ .pending)
      (hp : r.order.payment = some p)
      (hlooks : looksOpen (some (toPaymentSummaryDto p.toPayment)) = true) : p.Open := by
    refine (looksOpen_iff.mp hlooks).resolve_right fun hno =>
      hrefunded ⟨hs, toPaymentSummaryDto p.toPayment, ?_, hno⟩
    exact congrArg (·.map fun p => toPaymentSummaryDto p.toPayment) hp
  cases hs : r.order.status with
  | pending =>
    rcases (mem_offered_pending hs).mp h with rfl | rfl
    · exact hs
    · exact Or.inl hs
  | confirmed =>
    rcases (mem_offered_confirmed hs).mp h with
      ⟨p, hp, rfl, hpaid, hrefund⟩ | ⟨p, hp, rfl, hlooks⟩
    · exact ⟨hs, p, OrderRecord.paymentOrLegacy_of_payment hp, hpaid, hrefund⟩
    · exact Or.inr ⟨hs, p, OrderRecord.paymentOrLegacy_of_payment hp,
        hopen (by rw [hs]; decide) hp hlooks⟩
  | cancelled =>
    obtain ⟨rfl, hlooks⟩ := (mem_offered_cancelled hs).mp h
    refine ⟨hs, fun p hp => ?_⟩
    cases hpayment : r.order.payment with
    | none => exact paymentOrLegacy_open (by rw [hs]; decide) hpayment hp
    | some q =>
      rw [OrderRecord.paymentOrLegacy_of_payment hpayment] at hp
      cases hp
      exact hopen (by rw [hs]; decide) hpayment (hlooks _ hpayment)
  | fulfilled => exact absurd h (mem_offered_fulfilled hs)

/-- The page offers what the service makes, but to cancel a confirmed order without a payment. -/
theorem offered_of_canMove (h : r.order.CanMove env toStatus)
    (hbare : ¬ (toStatus = .cancelled ∧ ConfirmedBare (toOrderDetailDto withItems r))) :
    toStatus ∈ offeredStatuses (toOrderDetailDto withItems r) := by
  cases toStatus with
  | confirmed => exact (mem_offered_pending h).mpr (Or.inl rfl)
  | fulfilled =>
    obtain ⟨hs, p, hp, hpaid, hrefund⟩ := h
    refine (mem_offered_confirmed hs).mpr (Or.inl ⟨p, ?_, rfl, hpaid, hrefund⟩)
    cases hpayment : r.order.payment with
    | none => exact absurd hpaid (paymentOrLegacy_open (by rw [hs]; decide) hpayment hp).1
    | some q => rw [← hp, OrderRecord.paymentOrLegacy_of_payment hpayment]
  | cancelled =>
    rcases h with hs | ⟨hs, p, hp, hopen⟩
    · exact (mem_offered_pending hs).mpr (Or.inr rfl)
    · refine (mem_offered_confirmed hs).mpr (Or.inr ⟨p, ?_, rfl, looksOpen_iff.mpr (Or.inl hopen)⟩)
      cases hpayment : r.order.payment with
      | none =>
        exact absurd ⟨rfl, hs, congrArg (·.map fun p => toPaymentSummaryDto p.toPayment) hpayment⟩
          hbare
      | some q => rw [← hp, OrderRecord.paymentOrLegacy_of_payment hpayment]
  | pending =>
    obtain ⟨hs, hopen⟩ := h
    refine (mem_offered_cancelled hs).mpr ⟨rfl, fun p hp => looksOpen_iff.mpr (Or.inl ?_)⟩
    exact hopen p (OrderRecord.paymentOrLegacy_of_payment hp)

theorem not_canMove_of_refundedUnpaid
    (h : toStatus ∈ offeredStatuses (toOrderDetailDto withItems r))
    (hrefunded : RefundedUnpaid (toOrderDetailDto withItems r)) :
    ¬ r.order.CanMove env toStatus := by
  obtain ⟨hstatus, summary, hsummary, hrefund, hunpaid⟩ := hrefunded
  obtain ⟨p, hp, rfl⟩ := Option.map_eq_some_iff.mp hsummary
  have hclosed : ¬ p.Open := fun hopen => by
    have hno : p.refundStatus = .none ∨ p.refundStatus = .failed := hopen.refundStatus
    rw [show p.refundStatus = .refunded from hrefund] at hno
    rcases hno with hno | hno <;> cases hno
  intro hmove
  cases toStatus with
  | confirmed => exact hstatus hmove
  | fulfilled =>
    obtain ⟨-, q, hq, hpaid, -⟩ := hmove
    rw [OrderRecord.paymentOrLegacy_of_payment hp] at hq
    cases hq
    exact hunpaid hpaid
  | cancelled =>
    rcases hmove with hs | ⟨-, q, hq, hopen⟩
    · exact hstatus hs
    · rw [OrderRecord.paymentOrLegacy_of_payment hp] at hq
      cases hq
      exact hclosed hopen
  | pending => exact hclosed (hmove.2 p (OrderRecord.paymentOrLegacy_of_payment hp))

theorem canMove_of_confirmedBare (h : ConfirmedBare (toOrderDetailDto withItems r)) :
    r.order.CanMove env .cancelled := by
  obtain ⟨hs, hpayment⟩ := h
  have hstatus : r.order.status = .confirmed := hs
  obtain ⟨p, hp⟩ := OrderRecord.paymentOrLegacy_isSome_of_confirmed env hstatus
  refine Or.inr ⟨hstatus, p, hp, ?_⟩
  exact paymentOrLegacy_open (by rw [hstatus]; decide) (Option.map_eq_none_iff.mp hpayment) hp

/-! ## The page against the service -/

theorem getOrderById_ok {p : Platform} {db : Backend} {org : CurrentOrg} {orderId : Id}
    {dto : OrderDetailDto} (h : getOrderById p db org orderId withItems = .ok dto) :
    ∃ o, db.shop.order? orderId = some o ∧ o.visibleTo org = true ∧
      dto = toOrderDetailDto withItems (db.orderRow orderId o) := by
  unfold getOrderById at h
  obtain ⟨rows, hrows, h⟩ := bind_eq_ok.mp h
  cases hhead : rows.head? with
  | none => rw [hhead] at h; cases h
  | some r =>
    rw [hhead] at h
    cases h
    obtain ⟨hmem, htest⟩ := List.mem_filter.mp (mem_of_findMany hrows (List.mem_of_head? hhead))
    obtain ⟨⟨id, o⟩, hrow, rfl⟩ := List.mem_map.mp hmem
    obtain ⟨hid, hv⟩ := (Bool.and_eq_true _ _).mp htest
    obtain rfl : id = orderId := eq_of_beq hid
    exact ⟨o, Table.mem_rows.mp hrow, hv, rfl⟩

end

open Stockroom

end LedgerLight.Frontend
