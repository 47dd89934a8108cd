import LedgerLight.System.Concurrent
import LedgerLight.System.Honest

/-!
# What is shipped is paid

`transitionStatus(FULFILLED)` reads the order, reads the payment and then updates the order by its
key. Nothing keeps a refund from committing in between, and the update does not look at the status
again.

* `ships_paid` : if nothing that such a transaction has read is changed by another commit before its
  own, the order was confirmed when it commits, and its payment is paid and not refunded.
* `shipped_after_refund` : a refund commits between the reads and the update.
-/

namespace LedgerLight

open Infra ReadCommitted Prog

/-! ## What a shipment relies on -/

def Database.orderStatus? (db : Database) (orderId : Id) : Option OrderStatus :=
  (db.order? orderId).map (·.status)

/-- The part of the payment that `transitionStatus` looks at. -/
def Database.paymentState? (db : Database) (orderId : Id) :
    Option (PaymentStatus × RefundStatus) :=
  ((db.order? orderId).bind (·.payment)).map fun p => (p.paymentStatus, p.refundStatus)

/-- The order may be shipped. -/
structure Database.Shippable (db : Database) (orderId : Id) : Prop where
  order : db.orderStatus? orderId = some .confirmed
  payment : db.paymentState? orderId = some (.paid, .none)

/-- A commit that ships the order: what was committed before, and what it commits to. -/
structure Database.Ships (db : Database) (orderId : Id) (db' : Database) : Prop where
  before : db.orderStatus? orderId = some .confirmed
  after : db'.orderStatus? orderId = some .fulfilled
  payment : db'.paymentState? orderId = some (.paid, .none)

/-- After its first statement the transaction has read the status of the order, after the second
one the payment. -/
def reliesOnReads (orderId : Id) (statements : Nat) (db db' : Database) : Prop :=
  (1 ≤ statements → db'.orderStatus? orderId = db.orderStatus? orderId) ∧
    (2 ≤ statements → db'.paymentState? orderId = db.paymentState? orderId)

/-- Others must not change what a shipment has read. -/
def Request.contract (r : Request) : Contract Database :=
  match r.transaction with
  | .transitionStatus _ orderId .fulfilled _ =>
    { rely := reliesOnReads orderId, post := fun db db' => db.Ships orderId db' }
  | _ => { rely := fun _ _ _ => True, post := fun _ _ => True }

instance (r : Request) (statements : Nat) (db db' : Database) :
    Decidable (r.contract.rely statements db db') := by
  unfold Request.contract
  split
  · exact inferInstanceAs (Decidable ((_ → _) ∧ (_ → _)))
  · exact .isTrue trivial

theorem rely_reliesOnReads (orderId : Id) : Rely (reliesOnReads orderId) := by
  refine ⟨fun n d => ⟨fun _ => rfl, fun _ => rfl⟩, fun h h' => ⟨fun hn => ?_, fun hn => ?_⟩⟩
  · exact (h'.1 hn).trans (h.1 hn)
  · exact (h'.2 hn).trans (h.2 hn)

theorem rely_contract (r : Request) : Rely r.contract.rely := by
  unfold Request.contract
  split
  · exact rely_reliesOnReads _
  · exact ⟨fun _ _ => trivial, fun _ _ => trivial⟩

/-! ## A shipment among other transactions -/

section

variable {S M : Type} {stripe : StripeService S M} {env : Env} {org : CurrentOrg} {k : Id}
  {auditContext : AuditContext} {o : OrderRecord} {n : Nat} {writes : Database → Database}
  {d d' : Database}

theorem reliesOnReads.shippable (h : reliesOnReads k n d d') (hn : 2 ≤ n) (hd : d.Shippable k) :
    d'.Shippable k :=
  ⟨(h.1 (Nat.le_of_succ_le hn)).trans hd.order, (h.2 hn).trans hd.payment⟩

/-- The update of the order ships it if it may be shipped when it is committed. -/
theorem ships_fulfilled (hd : d.Shippable k) :
    d.Ships k (d.modifyOrder k fun o => Order.updated env id (fulfilledOrder o)) := by
  obtain ⟨horder, hpayment⟩ := hd
  obtain ⟨o, ho, hs⟩ := Option.map_eq_some_iff.mp horder
  rw [Database.modifyOrder_of_order? _ ho]
  refine ⟨horder, ?_, ?_⟩
  · simp [Database.orderStatus?, Order.updated, fulfilledOrder]
  · rw [Database.paymentState?, ho] at hpayment
    simpa [Database.paymentState?, Order.updated, fulfilledOrder] using hpayment

/-- What the transaction has come to once it wrote the order. -/
def Shipping (k : Id) (n : Nat) (writes : Database → Database) (d : Database) : Prop :=
  2 ≤ n ∧ d.Shippable k ∧ ∀ d : Database, d.Shippable k → d.Ships k (writes d)

/-- The guard and the update, on a payment that was read. -/
theorem ensures_fulfil {p : PaymentWithAttempts} (hs : d.orderStatus? k = some .confirmed)
    (hp : p.paymentStatus = .paid → p.refundStatus = .none → d.paymentState? k =
      some (.paid, .none)) :
    (do
      require (p.paymentStatus = .paid ∧ p.refundStatus = .none)
        (.badRequest "Confirmed orders can only be fulfilled after payment has been completed")
      let _ ← orderUpdate env k o.organizationId fulfilledOrder : Tx S Unit).Ensures
      (reliesOnReads k) (fun _ n writes d => Shipping k n writes d) 2 id d := by
  refine ensures_require fun ⟨hpaid, hrefund⟩ => ?_
  have hd : d.Shippable k := ⟨hs, hp hpaid hrefund⟩
  refine ensures_returning fun d₁ d₂ _ h₁ _ h₂ _ d₃ h₃ => ?_
  -- nothing that was read changes before, at or after the update
  have hd₁ := h₁.shippable (by decide) hd
  have hd₂ := h₂.shippable (by decide) hd₁
  exact ⟨by decide, h₃.shippable (by decide) hd₂, fun _ => ships_fulfilled⟩

theorem ensures_transitionFulfilled (ho : d.order? k = some o) (hs : o.status = .confirmed) :
    (transitionFulfilled env k o : Tx S Unit).Ensures (reliesOnReads k)
      (fun _ n writes d => Shipping k n writes d) 1 id d := by
  have hstatus : d.orderStatus? k = some .confirmed := by
    rw [Database.orderStatus?, ho, ← hs]
    rfl
  have hstate : ∀ {d' : Database} {p : PaymentWithAttempts},
      (d'.order? k).bind (·.payment) = some p → p.paymentStatus = .paid →
        p.refundStatus = .none → d'.paymentState? k = some (.paid, .none) := by
    intro d' p hp hpaid hrefund
    rw [Database.paymentState?, hp, ← hpaid, ← hrefund]
    rfl
  unfold transitionFulfilled ensureTransitionPaymentTx
  cases hpay : o.payment with
  | some p₀ =>
    -- the second statement reads the payment by its id
    intro d₁ h₁
    have hs₁ : d₁.orderStatus? k = some .confirmed := (h₁.1 le_rfl).trans hstatus
    show Ensures (reliesOnReads k) _ (Prog.bind _ _) _ _ _
    cases hfound : d₁.payment? k p₀.id with
    | none =>
      simp only [id, hfound]
      trivial
    | some p =>
      simp only [id, hfound]
      obtain ⟨o₁, ho₁, hp₁, -⟩ := Database.payment?_eq_some.mp hfound
      exact ensures_fulfil hs₁ (hstate (by rw [ho₁]; exact hp₁))
  | none =>
    -- the second statement looks for a payment of the order
    intro d₁ h₁
    have hs₁ : d₁.orderStatus? k = some .confirmed := (h₁.1 le_rfl).trans hstatus
    show Ensures (reliesOnReads k) _ (Prog.bind _ _) _ _ _
    cases hfound : (d₁.order? k).bind (·.payment) with
    | some p =>
      simp only [id, hfound]
      exact ensures_fulfil hs₁ (hstate hfound)
    | none =>
      -- a payment that is backfilled now is unpaid
      have hlegacy : ¬ withoutLegacyPayment o.status o.placedAt := by
        rw [hs]
        simp [withoutLegacyPayment]
      simp only [id, hfound, if_neg hlegacy]
      intro d₂ h₂ hfails d₃ h₃
      refine ensures_require fun hchecked => ?_
      obtain ⟨hpaid, -⟩ := hchecked
      simp [legacyPayment, hs] at hpaid

/-- **A shipment, among others that respect its reads, ships what is paid.** -/
theorem ensures_transitionStatus (d : Database) :
    (transitionStatus stripe env org k .fulfilled auditContext).Ensures (reliesOnReads k)
      (fun _ n writes d => Shipping k n writes d) 0 id d := by
  refine ensures_select fun d₁ _ => ?_
  cases hfound : (id d₁).order? k |>.filter (·.visibleTo org) with
  | none => trivial
  | some o =>
    obtain ⟨ho, -⟩ := Option.filter_eq_some_iff.mp hfound
    refine ensures_require fun hallowed => ?_
    have hs : o.status = .confirmed := by
      cases hs : o.status <;> simp [allowedTransitions, hs] at hallowed ⊢
    refine Ensures.bind (rely_reliesOnReads k) ((ensures_transitionFulfilled ho hs).imp ?_)
    -- the last statement reads the order once more
    rintro - n writes d₂ ⟨hn, hd₂, hships⟩ d₃ h₃
    have hd₃ := h₃.shippable hn hd₂
    show Ensures (reliesOnReads k) _ (Prog.bind _ _) _ _ _
    cases hlast : ((writes d₃).order? k).filter (·.visibleTo org) with
    | none =>
      simp only [hlast]
      trivial
    | some o =>
      simp only [hlast]
      intro d₄ h₄
      exact ⟨Nat.le_succ_of_le hn, h₄.shippable (Nat.le_succ_of_le hn) hd₃, hships⟩

/-- What was proved of a shipment is what its contract says. -/
theorem ensures_prog (r : Request) (d : Database) :
    (r.prog stripe).Ensures r.contract.rely (fun _ _ writes d => r.contract.post d (writes d)) 0 id
      d := by
  obtain ⟨env, transaction⟩ := r
  cases transaction with
  | transitionStatus org orderId toStatus auditContext =>
    cases toStatus with
    | fulfilled =>
      refine Ensures.bind (rely_reliesOnReads orderId) ((ensures_transitionStatus d).imp ?_)
      rintro - n writes d₁ ⟨hn, hd₁, hships⟩ d₂ h₂
      exact hships d₂ (h₂.shippable hn hd₁)
    | _ => exact ensures_trivial _
  | _ => exact ensures_trivial _

/-! ## Runs -/

/-- **What is shipped is paid**, whatever transactions of the services run and in whatever order
their statements do, if no commit changes the status of an order after a transaction that ships it
has read it, nor the state of its payment after that was read. Whenever a transaction that writes
`FULFILLED` commits, the order was `CONFIRMED` in what was committed before, and in what is
committed its payment is `PAID`, with no refund. -/
theorem ships_paid (stripe : StripeService S M) (db : Database) (s : S)
    (as : List (Move Request M))
    (h : (concurrent stripe).Meets (Store.Respects Request.contract) (Store.start db s) as)
    (a : Move Request M) (t : Nat) (x : Session Database RowKey S AppError Request)
    (hcommit : ((concurrent stripe).run (Store.start db s) as).commits? a = some (t, x))
    (org : CurrentOrg) (orderId : Id) (auditContext : AuditContext)
    (hx : x.label.transaction = .transitionStatus org orderId .fulfilled auditContext) :
    (∃ o, ((concurrent stripe).run (Store.start db s) as).db.order? orderId = some o ∧
        o.status = .confirmed) ∧
      ∃ o p, ((concurrent stripe).run (Store.start db s) (as ++ [a])).db.order? orderId = some o ∧
        o.status = .fulfilled ∧ o.payment = some p ∧ p.paymentStatus = .paid ∧
        p.refundStatus = .none := by
  have hsound : ((concurrent stripe).run (Store.start db s) as).Sound Request.contract :=
    sound_run rely_contract ensures_prog h
  have hcontract : x.label.contract =
      { rely := reliesOnReads orderId, post := fun db db' => db.Ships orderId db' } := by
    rw [Request.contract, hx]
  have hpost : x.label.contract.post ((concurrent stripe).run (Store.start db s) as).db
      ((concurrent stripe).step ((concurrent stripe).run (Store.start db s) as) a).db :=
    hsound.commit rely_contract hcommit
  rw [hcontract] at hpost
  obtain ⟨hbefore, hafter, hpayment⟩ := hpost
  rw [Machine.run_append]
  refine ⟨Option.map_eq_some_iff.mp hbefore, ?_⟩
  obtain ⟨o, ho, hs⟩ := Option.map_eq_some_iff.mp hafter
  rw [Database.paymentState?, ho] at hpayment
  obtain ⟨p, hp, hstate⟩ := Option.map_eq_some_iff.mp hpayment
  obtain ⟨hpaid, hrefund⟩ := Prod.ext_iff.mp hstate
  exact ⟨o, p, ho, hs, hp, hpaid, hrefund⟩

end

namespace Shop

def ship : Request :=
  { env := { now := 0, uuid := fun i => ⟨10, i⟩ },
    transaction := .transitionStatus org orderId .fulfilled {} }

def giveBack : Request :=
  { env := { now := 0, uuid := fun i => ⟨11, i⟩ },
    transaction := .refundPaymentCash
      { org := org, orderId := orderId, organizationId := org.organizationId,
        paymentId := paymentId, refundReason := "returned", auditContext := {} } }

/-- The next statements of a transaction. -/
def statements (t n : Nat) : List (Move Request StripeMove) := List.replicate n (.statement t)

def commitOfShip : Move Request StripeMove := .statement 0

/-- A shipment up to its commit, with a refund that has written but not committed. -/
def shippedBeforeRefund : List (Move Request StripeMove) :=
  [.begin 0 ship] ++ statements 0 1 ++ [.begin 1 giveBack] ++ statements 1 4 ++ statements 0 4

/-- A refund that is committed between the reads and the update of a shipment. -/
def shippedAfterRefund : List (Move Request StripeMove) :=
  [.begin 0 ship] ++ statements 0 2 ++ [.begin 1 giveBack] ++ statements 1 11 ++ statements 0 3

end Shop

theorem ships_paid_shop :
    (∃ o, ((concurrent stripeAccount).run (Store.start Shop.afterCash.db .empty)
        Shop.shippedBeforeRefund).db.order? Shop.orderId = some o ∧ o.status = .confirmed) ∧
      ∃ o p, ((concurrent stripeAccount).run (Store.start Shop.afterCash.db .empty)
          (Shop.shippedBeforeRefund ++ [Shop.commitOfShip])).db.order? Shop.orderId = some o ∧
        o.status = .fulfilled ∧ o.payment = some p ∧ p.paymentStatus = .paid ∧
        p.refundStatus = .none := by
  obtain ⟨⟨t, x⟩, hcommit, hx⟩ := Option.map_eq_some_iff.mp (show
    (((concurrent stripeAccount).run (Store.start Shop.afterCash.db .empty)
      Shop.shippedBeforeRefund).commits? Shop.commitOfShip).map (·.2.label.transaction) =
      some Shop.ship.transaction by decide)
  exact ships_paid stripeAccount Shop.afterCash.db .empty Shop.shippedBeforeRefund (by decide)
    Shop.commitOfShip t x hcommit Shop.org Shop.orderId {} hx

/-- A refund is committed after a shipment has read the order and its payment: the order was
cancelled when the shipment commits, and what it ships was refunded. -/
theorem shipped_after_refund :
    (((concurrent stripeAccount).run (Store.start Shop.afterCash.db .empty)
        Shop.shippedAfterRefund).commits? Shop.commitOfShip).map (·.2.label.transaction) =
        some (.transitionStatus Shop.org Shop.orderId .fulfilled {}) ∧
      ((concurrent stripeAccount).run (Store.start Shop.afterCash.db .empty)
        Shop.shippedAfterRefund).db.orderStatus? Shop.orderId = some .cancelled ∧
      ((concurrent stripeAccount).run (Store.start Shop.afterCash.db .empty)
        (Shop.shippedAfterRefund ++ [Shop.commitOfShip])).db.orderStatus? Shop.orderId =
        some .fulfilled ∧
      ((concurrent stripeAccount).run (Store.start Shop.afterCash.db .empty)
        (Shop.shippedAfterRefund ++ [Shop.commitOfShip])).db.paymentState? Shop.orderId =
        some (.paid, .refunded) := by
  decide

end LedgerLight
