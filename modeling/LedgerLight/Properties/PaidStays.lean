import LedgerLight.System.Honest

/-!
# A paid payment stays paid

`applyPaymentIntentStateTx` writes the whole payment from whatever snapshot it is given. A payment
that is paid stays so exactly as long as what is applied to it says `succeeded`.

* `paid_stays` : if every snapshot applied to a paid payment is of a success and the payment was
  paid by card, a paid payment keeps its status, its method and its time.
* `paid_undone` : a run in which a late event about the successful intent undoes the payment.
-/

namespace LedgerLight

open Infra

/-- A snapshot that the step applies to a paid payment is of a success, and the payment was paid by
card. -/
def World.KeepsPaid {S M : Type} (stripe : StripeService S M) (w : World S) (a : Action M) : Prop :=
  match w.intentSync? stripe a with
  | none => True
  | some y =>
    y.payment.paymentStatus = .paid →
      y.paymentIntent.status = .succeeded ∧ y.payment.method = some .card

instance {S M : Type} (stripe : StripeService S M) (w : World S) (a : Action M) :
    Decidable (w.KeepsPaid stripe a) := by
  unfold World.KeepsPaid
  obtain _ | y := w.intentSync? stripe a <;> infer_instance

section

variable {S M : Type} {stripe : StripeService S M} {w : World S} {a : Action M} {k : Id}
  {o o' : OrderRecord} {p q : PaymentWithAttempts} {rows : List (Id × AuditAction)} {s' : S}

/-! ## A paid payment has a time -/

def Payment.HasPaidAt (p : Payment) : Prop := p.paymentStatus = .paid → p.paidAt.isSome

theorem mapPaymentIntentState_paidAt (now : Date) (paymentIntent : StripePaymentIntent)
    (p : Payment) (h : (mapPaymentIntentState now paymentIntent p).paymentStatus = .paid) :
    paymentIntent.status = .succeeded ∧
      (mapPaymentIntentState now paymentIntent p).paidAt = orElseNow p.paidAt now := by
  unfold mapPaymentIntentState at h ⊢
  cases hs : paymentIntent.status <;> simp_all

theorem hasPaidAt_legacyPayment (env : Env) (organizationId : Id) (orderStatus : OrderStatus)
    (amountCents : Int) (createdAt : Date) (placedAt : Option Date) :
    (legacyPayment env organizationId orderStatus amountCents createdAt placedAt).HasPaidAt := by
  unfold Payment.HasPaidAt legacyPayment
  dsimp only
  split <;> simp

theorem PaymentChange.hasPaidAt (hc : PaymentChange stripe w k a p q) (h : p.HasPaidAt) :
    q.HasPaidAt := by
  cases hc with
  | same => exact h
  | attemptStarted hrefund hpaid => intro hq; cases hq
  | paidInCash hpaid => intro _; rfl
  | synced y hsync hid =>
    intro hq
    rw [syncedPayment_paymentStatus] at hq
    rw [syncedPayment_paidAt, (mapPaymentIntentState_paidAt _ _ _ hq).2]
    rfl
  | cashRefunded ha hcall hid hpid => exact h
  | refundRequested ha hcall hid hpid => exact h
  | refundFailed ha hcall hid hpid => exact h
  | refundSynced y hsync hid =>
    obtain ⟨-, hstatus, hpaidAt⟩ := refundSynced_collected w.env y.payment y.refund
    intro hq
    rw [hpaidAt]
    exact h (hstatus ▸ hq)

theorem every_hasPaidAt (stripe : StripeService S M) (s : S) (as : List (Action M)) :
    ((system stripe).run (World.init s) as).Every fun o =>
      ∀ p, o.payment = some p → p.HasPaidAt := by
  refine every_payment_run (fun env p hp => ?_) (fun _ h hc => hc.hasPaidAt h)
    (Machine.meets_true _ _ as)
  obtain ⟨organizationId, orderStatus, amountCents, createdAt, placedAt, rfl⟩ := hp
  exact hasPaidAt_legacyPayment _ _ _ _ _ _

/-! ## What a paid payment keeps -/

/-- The payment was paid this way at this time. -/
structure Payment.PaidAs (method : Option PaymentMethod) (paidAt : Date) (p : Payment) : Prop where
  paid : p.paymentStatus = .paid
  method : p.method = method
  paidAt : p.paidAt = some paidAt

theorem PaymentChange.paidAs {method : Option PaymentMethod} {paidAt : Date}
    (hc : PaymentChange stripe w k a p q) (hkeeps : w.KeepsPaid stripe a)
    (h : p.PaidAs method paidAt) : q.PaidAs method paidAt := by
  cases hc with
  | same => exact h
  | attemptStarted hrefund hpaid => exact absurd h.paid hpaid
  | paidInCash hpaid => exact absurd h.paid hpaid
  | synced y hsync hid =>
    rw [World.KeepsPaid, hsync] at hkeeps
    obtain ⟨hsucceeded, hcard⟩ := hkeeps h.paid
    refine ⟨?_, ?_, ?_⟩
    · simp [mapPaymentIntentState, hsucceeded]
    · rw [syncedPayment_method, ← hcard, h.method]
    · simp [mapPaymentIntentState, hsucceeded, h.paidAt]
  | cashRefunded ha hcall hid hpid => exact ⟨h.paid, h.method, h.paidAt⟩
  | refundRequested ha hcall hid hpid => exact ⟨h.paid, h.method, h.paidAt⟩
  | refundFailed ha hcall hid hpid => exact ⟨h.paid, h.method, h.paidAt⟩
  | refundSynced y hsync hid =>
    obtain ⟨hmethod, hstatus, hpaidAt⟩ := refundSynced_collected w.env y.payment y.refund
    exact ⟨hstatus.trans h.paid, hmethod.trans h.method, hpaidAt.trans h.paidAt⟩

/-- **A paid payment stays paid**, with its method and its time, for as long as the row exists: in
every run that applies to paid payments nothing but successes of a card payment. -/
theorem paid_stays (stripe : StripeService S M) (s : S) (as bs : List (Action M))
    (h : (system stripe).Meets (World.KeepsPaid stripe) (World.init s) (as ++ bs))
    (orderId paymentId : Id) (p q : PaymentWithAttempts)
    (hp : ((system stripe).run (World.init s) as).db.payment? orderId paymentId = some p)
    (hpaid : p.paymentStatus = .paid)
    (hq : ((system stripe).run (World.init s) (as ++ bs)).db.payment? orderId paymentId = some q) :
    q.paymentStatus = .paid ∧ q.paidAt = p.paidAt ∧ q.method = p.method := by
  obtain ⟨o, ho, hop, rfl⟩ := Database.payment?_eq_some.mp hp
  obtain ⟨paidAt, hpaidAt⟩ := Option.isSome_iff_exists.mp (every_hasPaidAt stripe s as _ o ho p hop
    hpaid)
  rw [Machine.run_append] at hq
  have hstays := payment_run (I := fun _ => True)
    (P := fun r => r.PaidAs p.method paidAt) (fun _ _ _ _ => trivial)
    (fun w a r r' _ hkeeps _ hr hc => hc.paidAs hkeeps hr) trivial
    (every_paymentId stripe s as _ o ho p hop)
    (fun r hr => by rw [hp] at hr; cases hr; exact ⟨hpaid, rfl, hpaidAt⟩)
    ((Machine.meets_append _ _ _ _ _).mp h).2 q hq
  exact ⟨hstays.paid, hstays.paidAt.trans hpaidAt.symm, hstays.method⟩

/-- The success told again, under another event id and later. -/
theorem paid_stays_shop :
    ∃ p q, (ledger.run (World.init .empty) Shop.paidByCard).db.payment? Shop.orderId
        Shop.paymentId = some p ∧
      (ledger.run (World.init .empty) (Shop.paidByCard ++
        [.tick 500, Shop.event 2 (Shop.intent 0 3 .succeeded)])).db.payment? Shop.orderId
        Shop.paymentId = some q ∧
      q.paymentStatus = .paid ∧ q.paidAt = p.paidAt ∧ q.method = p.method := by
  obtain ⟨p, hp, hpaid⟩ := (Option.any_eq_true _ _).mp (show ((ledger.run (World.init .empty)
    Shop.paidByCard).db.payment? Shop.orderId Shop.paymentId).any
      (fun p => p.paymentStatus == .paid) = true by decide)
  obtain ⟨q, hq⟩ := Option.isSome_iff_exists.mp (show ((ledger.run (World.init .empty)
    (Shop.paidByCard ++ [.tick 500, Shop.event 2 (Shop.intent 0 3 .succeeded)])).db.payment?
      Shop.orderId Shop.paymentId).isSome = true by decide)
  exact ⟨p, q, hp, hq, paid_stays stripeAccount .empty Shop.paidByCard
    [.tick 500, Shop.event 2 (Shop.intent 0 3 .succeeded)] (by decide) _ _ p q hp
    (by simpa using hpaid) hq⟩

/-- The intent was waiting for a payment method before it succeeded. The event that says so arrives
late, and the paid payment is `FAILED`. -/
theorem paid_undone :
    ledger.Meets World.Honest (World.init .empty)
        (Shop.paidByCard ++ [Shop.event 2 (Shop.intent 0 3 .requiresPaymentMethod)]) ∧
      ((ledger.run (World.init .empty) Shop.paidByCard).db.payment? Shop.orderId
        Shop.paymentId).map (fun p => (p.paymentStatus, p.paidAt)) = some (.paid, some 0) ∧
      ((ledger.run (World.init .empty) (Shop.paidByCard ++
        [Shop.event 2 (Shop.intent 0 3 .requiresPaymentMethod)])).db.payment? Shop.orderId
        Shop.paymentId).map (fun p => (p.paymentStatus, p.paidAt)) = some (.failed, none) := by
  decide

end

end LedgerLight
