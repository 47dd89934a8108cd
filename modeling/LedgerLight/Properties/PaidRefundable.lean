import LedgerLight.Stripe.Account
import LedgerLight.System.Outside

/-!
# Paid orders can be refunded

A refund goes by how the money came: a payment in cash is refunded at once, and for any other one
Stripe is asked to refund the intent of an attempt that succeeded. A payment that the backfill made
for a fulfilled order is paid, and says neither.

* `paid_refundable` : in every state that a run reaches every paid order can be refunded, exactly if
  no order of the database that the run starts from is fulfilled.
* `legacy_stuck` : the payment of an order that was fulfilled before there were payments is refused.
-/

namespace LedgerLight

open Infra Prog

/-! ## How the money came -/

/-- The payment was made in cash, or one of its attempts succeeded. -/
def PaymentWithAttempts.Accounted (p : PaymentWithAttempts) : Prop :=
  p.method = some .cash ∨ ∃ a ∈ p.attempts, a.status = .succeeded

/-- An order whose payment, if it is paid, says how the money came. A fulfilled order has a payment,
so none will be backfilled. -/
structure OrderRecord.Accounted (o : OrderRecord) : Prop where
  fulfilled : o.status = .fulfilled → o.payment ≠ none
  paid : ∀ p, o.payment = some p → p.paymentStatus = .paid → p.Accounted

section

variable {S M : Type} {stripe : StripeService S M} {w : World S} {a : Action M} {k : Id}
  {o o' : OrderRecord} {p q : PaymentWithAttempts} {rows : List (Id × AuditAction)} {s s' : S}
  {env : Env}

/-! ## What a snapshot leaves -/

theorem mem_of_freshAttempt? {attemptId : Id} {attempt : PaymentAttempt}
    (h : freshAttempt? p attemptId = some attempt) : attempt ∈ p.attempts := by
  unfold freshAttempt? at h
  rcases Option.or_eq_some_iff.mp h with hfound | ⟨-, hhead⟩
  · exact List.mem_of_find?_eq_some hfound
  · exact List.mem_of_head? hhead

theorem IntentSync.From.mem {y : IntentSync} (h : y.From stripe w a) :
    y.attempt ∈ y.payment.attempts := by
  cases h with
  | cancelled ho hp hs hr hans => exact List.mem_of_head? (getReusableAttempt_eq_some.mp hr).1
  | confirmed ho hp hcall hf => exact mem_of_freshAttempt? hf
  | received ho hp ha htest hf => exact mem_of_freshAttempt? hf

theorem mapPaymentIntentState_paid {now : Date} {paymentIntent : StripePaymentIntent} {p : Payment}
    (h : (mapPaymentIntentState now paymentIntent p).paymentStatus = .paid) :
    (mapPaymentIntentState now paymentIntent p).attemptStatus = .succeeded := by
  unfold mapPaymentIntentState at h ⊢
  cases hstatus : paymentIntent.status <;> simp_all

/-- A snapshot that leaves the payment paid leaves its attempt succeeded. -/
theorem syncedPayment_accounted {attempt : PaymentAttempt} {paymentIntent : StripePaymentIntent}
    (hmem : attempt ∈ p.attempts)
    (hpaid : (syncedPayment env p attempt paymentIntent).paymentStatus = .paid) :
    (syncedPayment env p attempt paymentIntent).Accounted := by
  rw [syncedPayment_paymentStatus] at hpaid
  have hsucceeded := mapPaymentIntentState_paid hpaid
  right
  rw [syncedPayment_attempts]
  dsimp only
  by_cases hchanged : attemptChangedBy attempt
      (mapPaymentIntentState env.now paymentIntent p.toPayment)
  · rw [if_pos hchanged]
    refine ⟨_, List.mem_map_of_mem hmem, ?_⟩
    rw [if_pos rfl]
    exact hsucceeded
  · rw [if_neg hchanged]
    have hsame : attempt.status =
        (mapPaymentIntentState env.now paymentIntent p.toPayment).attemptStatus := by
      by_contra hne
      exact hchanged (Or.inl hne)
    exact ⟨attempt, hmem, hsame.trans hsucceeded⟩

/-! ## What a step keeps -/

/-- The payment a call works with is the order's, or a new one of an order that is not fulfilled. -/
theorem OrderRecord.Accounted.paymentOrLegacy (h : o.Accounted)
    (hp : o.paymentOrLegacy env = some p) (hpaid : p.paymentStatus = .paid) : p.Accounted := by
  cases hpayment : o.payment with
  | some q =>
    rw [OrderRecord.paymentOrLegacy_of_payment hpayment] at hp
    obtain rfl := Option.some.inj hp
    exact h.paid q hpayment hpaid
  | none =>
    have hstatus : o.status ≠ .fulfilled := fun hs => h.fulfilled hs hpayment
    rw [OrderRecord.paymentOrLegacy, hpayment, Option.none_or] at hp
    split at hp
    · cases hp
    · cases hp
      simp [legacyPayment, hstatus] at hpaid

theorem OrderRecord.Accounted.backfilled (h : o.Accounted) : (o.backfilled env).Accounted := by
  refine ⟨fun hs hnone => ?_, fun p hp hpaid => h.paymentOrLegacy hp hpaid⟩
  have hpayment : o.paymentOrLegacy env = none := hnone
  rw [OrderRecord.paymentOrLegacy, Option.or_eq_none_iff] at hpayment
  exact h.fulfilled hs hpayment.1

/-- An order that is not fulfilled, with what its payment has to say. -/
theorem accounted_of_payment (hp : o.payment = some p) (h : p.paymentStatus = .paid → p.Accounted) :
    o.Accounted := by
  refine ⟨fun _ hnone => ?_, fun q hq hpaid => ?_⟩
  · rw [hp] at hnone
    cases hnone
  · cases hp.symm.trans hq
    exact h hpaid

theorem accounted_of_none (hp : o.payment = none) (hs : o.status ≠ .fulfilled) : o.Accounted := by
  refine ⟨fun h => absurd h hs, fun q hq => ?_⟩
  rw [hp] at hq
  cases hq

theorem Transition.accounted {toStatus : OrderStatus}
    (ht : Transition stripe env o s toStatus o' rows s') (h : o.Accounted) : o'.Accounted := by
  cases ht with
  | confirmed hs hp =>
    refine accounted_of_payment rfl fun hpaid => ?_
    cases hpayment : o.payment with
    | none =>
      rw [hpayment, Option.getD_none] at hp
      rw [hp] at hpaid
      cases hpaid
    | some q =>
      rw [hpayment, Option.getD_some] at hp
      rw [hp] at hpaid ⊢
      exact h.paid q hpayment hpaid
  | fulfilled hs hp hpaid hrefund => exact accounted_of_payment hp (h.paymentOrLegacy hp)
  | cancelledPending hs =>
    refine ⟨fun hs' => ?_, h.paid⟩
    cases hs'
  | cancelledConfirmed hs hp hpaid hrefund hr =>
    exact accounted_of_payment hp fun hpaid' => absurd hpaid' hpaid
  | cancelledSynced hs hp hpaid hrefund hr hans =>
    have hmem := List.mem_of_head? (getReusableAttempt_eq_some.mp hr).1
    exact accounted_of_payment rfl (syncedPayment_accounted hmem)
  | reopenedUnpaid hs hp => exact accounted_of_none rfl (fun hs' => by cases hs')
  | reopened hs hp hpaid hrefund hans => exact accounted_of_none rfl (fun hs' => by cases hs')

theorem Change.accounted (hc : Change stripe w k a o o' rows s') (h : o.Accounted) :
    o'.Accounted := by
  cases hc with
  | itemAdded hs => exact ⟨h.fulfilled, h.paid⟩
  | itemDeleted hi => exact ⟨h.fulfilled, h.paid⟩
  | metadata => exact ⟨h.fulfilled, h.paid⟩
  | transition ho hv ht => exact ht.accounted h
  | backfilled => exact h.backfilled
  | attemptStarted hs hp hrefund hpaid hr hans hsecret =>
    exact accounted_of_payment rfl fun hpaid' => by cases hpaid'
  | paidInCash hs hp hreq hpend hpaid hprogress =>
    exact accounted_of_payment rfl fun _ => Or.inl rfl
  | synced y hsync hid hp =>
    exact accounted_of_payment rfl (syncedPayment_accounted (intentSync?_from hsync).mem)
  | cashRefunded hcall hid hp hpid hv =>
    have hpaid := h.paid _ hp
    exact accounted_of_payment OrderRecord.payment_afterRefund hpaid
  | refundRequested hcall hid hp hpid =>
    have hpaid := h.paid _ hp
    exact accounted_of_payment rfl hpaid
  | refundFailed hcall hid hp hpid =>
    have hpaid := h.paid _ hp
    exact accounted_of_payment rfl hpaid
  | refundSynced y hsync hid hp =>
    refine accounted_of_payment OrderRecord.payment_afterRefund fun hpaid => ?_
    obtain ⟨hmethod, hstatus, -⟩ := refundSynced_collected w.env y.payment y.refund
    rw [hstatus] at hpaid
    unfold PaymentWithAttempts.Accounted
    rw [hmethod, refundSynced_attempts]
    exact h.paid y.payment hp hpaid

/-- **The money that came is accounted for** in every state that a run reaches. -/
theorem accounted_run (h : w.Every OrderRecord.Accounted) (as : List (Action M)) :
    ((system stripe).run w as).Every OrderRecord.Accounted := by
  refine Machine.run_invariant' (I := fun w : World S => w.Every OrderRecord.Accounted)
    (fun w a hw => every_step (fun env org data totals items => ?_) (fun _ ho hc => hc.accounted ho)
      hw) h as
  exact accounted_of_none rfl fun hs => by cases hs

end

/-! ## The call -/

section

variable {S M : Type}

/-- The Stripe client with a list of the refunds that it was asked for. -/
def StripeService.recorded (stripe : StripeService S M) :
    StripeService (S × List CreateRefundArgs) M where
  move move s := (stripe.move move s.1, s.2)
  createPaymentIntent args s :=
    let r := stripe.createPaymentIntent args s.1
    (r.1, r.2, s.2)
  retrievePaymentIntent paymentIntentId s :=
    let r := stripe.retrievePaymentIntent paymentIntentId s.1
    (r.1, r.2, s.2)
  cancelPaymentIntent paymentIntentId s :=
    let r := stripe.cancelPaymentIntent paymentIntentId s.1
    (r.1, r.2, s.2)
  createRefund args s :=
    let r := stripe.createRefund args s.1
    (r.1, r.2, args :: s.2)

namespace World

variable (stripe : StripeService S M) (w : World S) (org : CurrentOrg) (orderId : Id)
  (p : PaymentWithAttempts) (refundReason : String) (auditContext : AuditContext)

/-- What a `refundPayment` call comes to: its answer, the database it leaves, and the refunds that
Stripe is asked for. -/
def refundOutcome : Except AppError PaymentDto × Database × List CreateRefundArgs :=
  let r := (refundPayment stripe.recorded w.env org orderId refundReason auditContext).runAuto
    w.db (w.stripe, [])
  (r.1, r.2.1, r.2.2.2)

/-- The call refunds the payment in cash. -/
def RefundsCash : Prop :=
  let outcome := w.refundOutcome stripe org orderId refundReason auditContext
  p.method = some .cash ∧ outcome.1.isOk = true ∧
    ∃ q, outcome.2.1.payment? orderId p.id = some q ∧ q.refundStatus = .refunded

/-- The call asks Stripe, once, to refund the intent of an attempt of the payment that succeeded. -/
def RefundsCard : Prop :=
  let outcome := w.refundOutcome stripe org orderId refundReason auditContext
  ∃ a ∈ p.attempts, a.status = .succeeded ∧
    outcome.2.2.map (·.paymentIntentId) = [a.stripePaymentIntentId]

/-- Every paid order without a refund can be refunded by every member who sees it. -/
def Refundable : Prop :=
  ∀ k o p org refundReason auditContext, w.db.order? k = some o → o.payment = some p →
    o.visibleTo org = true → (o.status = .confirmed ∨ o.status = .fulfilled) →
    p.paymentStatus = .paid → (p.refundStatus = .none ∨ p.refundStatus = .failed) →
    w.RefundsCash stripe org k p refundReason auditContext ∨
      w.RefundsCard stripe org k p refundReason auditContext

end World

variable {stripe : StripeService S M} {w : World S} {org : CurrentOrg} {k : Id} {o : OrderRecord}
  {p : PaymentWithAttempts} {refundReason : String} {auditContext : AuditContext} {env : Env}
  {db : Database} {s : S × List CreateRefundArgs}

/-- After its guard a card refund asks Stripe once, whatever comes then. -/
theorem refundPaymentCard_recorded {call : RefundCall} {paymentIntentId : PaymentIntentId}
    (ho : db.order? call.orderId = some o) (hp : o.payment = some p)
    (hid : p.id = call.paymentId) :
    (((refundPaymentCard stripe.recorded env call paymentIntentId).runAuto db s).2.2.2).map
        (·.paymentIntentId) = paymentIntentId :: s.2.map (·.paymentIntentId) := by
  have hrequest : ∃ db', (refundPaymentRequest env call).run db s = (.ok ((), db'), s) :=
    refundPaymentRequest_of_payment ho hp hid
  obtain ⟨db', hrequest⟩ := hrequest
  unfold refundPaymentCard
  rw [runAuto_bind, runAuto_transaction, hrequest]
  dsimp only
  rw [runAuto_bind]
  simp only [attempt, runAuto_call, runAuto_done]
  cases hcreate : (refundPaymentCreate stripe.recorded call paymentIntentId s).1 with
  | ok refund =>
    dsimp only
    rw [refundPaymentApply_quiet.transaction_snd]
    rfl
  | error e =>
    dsimp only
    rw [refundPaymentFail_quiet.transaction_snd]
    rfl

/-- A cash refund is carried through. -/
theorem refundPaymentCash_refunds {call : RefundCall} {stripe' : S}
    (ho : db.order? call.orderId = some o) (hp : o.payment = some p)
    (hv : o.visibleTo call.org = true) (hid : p.id = call.paymentId) :
    let r := (transaction (refundPaymentCash env call)).runAuto db stripe'
    r.1.isOk = true ∧
      ∃ q, r.2.1.payment? call.orderId p.id = some q ∧ q.refundStatus = .refunded := by
  have hcash : ∃ dto db', (refundPaymentCash env call).run db stripe' =
      (.ok (dto, db'), stripe') := refundPaymentCash_of_payment ho hv hp hid
  obtain ⟨dto, db', hcash⟩ := hcash
  obtain ⟨o₁, p₁, ho₁, -, hp₁, -, hput, -⟩ := refundPaymentCash_ok hcash
  obtain rfl := Option.some.inj (ho.symm.trans ho₁)
  obtain rfl := Option.some.inj (hp.symm.trans hp₁)
  rw [runAuto_transaction, hcash]
  refine ⟨rfl, _, Database.payment?_eq_some.mpr ⟨_, hput.order?_self,
    OrderRecord.payment_afterRefund, ?_⟩, rfl⟩
  rfl

/-- **A paid order can be refunded** exactly if its payment says how the money came. -/
theorem refunds_iff (ho : w.db.order? k = some o) (hp : o.payment = some p)
    (hv : o.visibleTo org = true) (hs : o.status = .confirmed ∨ o.status = .fulfilled)
    (hpaid : p.paymentStatus = .paid)
    (hrefund : p.refundStatus = .none ∨ p.refundStatus = .failed) :
    (w.RefundsCash stripe org k p refundReason auditContext ∨
      w.RefundsCard stripe org k p refundReason auditContext) ↔ p.Accounted := by
  have hcall := refundPayment_runAuto stripe.recorded w.env (w.stripe, []) refundReason
    auditContext ho hp hv
  rw [refundPaymentTarget_paid org k refundReason auditContext hs hpaid hrefund] at hcall
  dsimp only at hcall
  unfold World.RefundsCash World.RefundsCard World.refundOutcome
  rw [hcall]
  by_cases hmethod : p.method = some .cash
  · rw [if_pos hmethod]
    exact iff_of_true (Or.inl ⟨hmethod, refundPaymentCash_refunds ho hp hv rfl⟩) (Or.inl hmethod)
  · rw [if_neg hmethod]
    cases hfind : p.attempts.find? fun a => a.status == .succeeded with
    | none =>
      -- neither cash nor a successful attempt: the call is refused
      have hnone : ∀ a ∈ p.attempts, a.status ≠ .succeeded := by
        simpa using List.find?_eq_none.mp hfind
      refine iff_of_false ?_ ?_
      · rintro (⟨hcash, -⟩ | ⟨a, ha, hsucceeded, -⟩)
        · exact hmethod hcash
        · exact hnone a ha hsucceeded
      · rintro (hcash | ⟨a, ha, hsucceeded⟩)
        · exact hmethod hcash
        · exact hnone a ha hsucceeded
    | some a =>
      have hmem : a ∈ p.attempts := List.mem_of_find?_eq_some hfind
      have hsucceeded : a.status = .succeeded := by simpa using List.find?_some hfind
      refine iff_of_true (Or.inr ⟨a, hmem, hsucceeded, ?_⟩) (Or.inr ⟨a, hmem, hsucceeded⟩)
      exact refundPaymentCard_recorded ho hp rfl

theorem refundable_of_accounted (h : w.Every OrderRecord.Accounted) : w.Refundable stripe := by
  intro k o p org refundReason auditContext ho hp hv hs hpaid hrefund
  exact (refunds_iff ho hp hv hs hpaid hrefund).mpr ((h k o ho).paid p hp hpaid)

end

/-! ## Orders from before there were payments -/

/-- An order of a database that a run starts from: it has no payment, or the one of the backfill. -/
def OrderRecord.Starts (o : OrderRecord) : Prop :=
  ∀ p, o.payment = some p →
    ∃ env, p = legacyPayment env o.organizationId o.status o.totalCents o.createdAt o.placedAt

section

variable {S M : Type} {stripe : StripeService S M} {w : World S} {k : Id} {o : OrderRecord}
  {env : Env}

theorem OrderRecord.Starts.accounted (h : o.Starts) (hs : o.status ≠ .fulfilled) :
    o.Accounted := by
  refine ⟨fun hs' => absurd hs' hs, fun p hp hpaid => ?_⟩
  obtain ⟨env, rfl⟩ := h p hp
  simp [legacyPayment, hs] at hpaid

/-- The member of the organization who sees every order. -/
def OrderRecord.everywhere (o : OrderRecord) : CurrentOrg := { organizationId := o.organizationId }

theorem OrderRecord.visibleTo_everywhere (o : OrderRecord) : o.visibleTo o.everywhere = true := by
  simp [visibleTo, everywhere, getLocationScopeWhere]

/-- A payment of the backfill for a fulfilled order cannot be refunded. -/
theorem not_refundable_of_legacy (ho : w.db.order? k = some o) (hs : o.status = .fulfilled)
    (hp : o.payment =
      some (legacyPayment env o.organizationId o.status o.totalCents o.createdAt o.placedAt)) :
    ¬ w.Refundable stripe := by
  intro h
  have hpaid : (legacyPayment env o.organizationId o.status o.totalCents o.createdAt
      o.placedAt).paymentStatus = .paid := by
    simp [legacyPayment, hs]
  have hrefunds := h k o _ o.everywhere "" {} ho hp o.visibleTo_everywhere (Or.inr hs) hpaid
    (Or.inl rfl)
  rcases (refunds_iff ho hp o.visibleTo_everywhere (Or.inr hs) hpaid (Or.inl rfl)).mp hrefunds with
    hcash | ⟨a, ha, -⟩
  · cases hcash
  · cases ha

/-- Whoever looks at the payment of a fulfilled order backfills it. -/
theorem getPayment_backfills (stripe : StripeService S M)
    (ho : w.db.order? k = some o) (hs : o.status = .fulfilled)
    (hp : o.payment = none) :
    ((system stripe).step w (.getPayment o.everywhere k)).db.order? k =
      some { o with payment := some (legacyPayment w.env o.organizationId o.status o.totalCents
        o.createdAt o.placedAt) } := by
  have horder : (getOrderWithPaymentTx o.everywhere k).run w.db w.stripe =
      (.ok (o, w.db), w.stripe) :=
    getOrderWithPaymentTx_ok.mpr ⟨ho, o.visibleTo_everywhere, rfl, rfl⟩
  have hfind : (paymentFindByOrder k).run w.db w.stripe = (.ok (none, w.db), w.stripe) :=
    (paymentFindByOrder_ok ho).mpr ⟨hp.symm, rfl, rfl⟩
  have hconfirmed : ¬ withoutLegacyPayment o.status o.placedAt := by
    simp [withoutLegacyPayment, hs]
  generalize hlegacy : legacyPayment w.env o.organizationId o.status o.totalCents o.createdAt
    o.placedAt = p
  have hcreate : (some <$> paymentCreate k p).run w.db w.stripe =
      (.ok (some p, w.db.setOrder k { o with payment := some p }), w.stripe) :=
    run_map_ok.mpr ⟨p, rfl, paymentCreate_ok.mpr ⟨o, ho, hp, rfl, rfl, rfl⟩⟩
  have hread : (orderAndPaymentTx w.env o.everywhere k).run w.db w.stripe =
      (.ok ((o, some p), w.db.setOrder k { o with payment := some p }), w.stripe) := by
    unfold orderAndPaymentTx paymentOrLegacyTx ensureLegacyPaymentForOrderTx
    rw [run_bind_of horder, hp]
    dsimp only
    rw [bind_bind, run_bind_of hfind]
    dsimp only
    rw [if_neg hconfirmed, hlegacy, run_bind_of hcreate]
    rfl
  show ((getPaymentByOrderId w.env o.everywhere k).runAuto w.db w.stripe).2.1.order? k = _
  rw [getPaymentByOrderId, runAuto_bind_ofExcept, runAuto_ok.mpr hread]
  exact Database.order?_setOrder_self ..

end

/-! ## A shop with an old order -/

namespace OldShop

def shop : Id := ⟨0, 0⟩

def oldOrder : Id := ⟨0, 1⟩

/-- An order that was placed before there were payments. -/
def placed (status : OrderStatus) : OrderRecord :=
  { organizationId := shop, customerId := none, locationId := none, status := status
    subtotalCents := 500, taxCents := 0, discountCents := 0, totalCents := 500, createdAt := 0
    updatedAt := 0, placedAt := some 0, cancelledAt := none, items := [], payment := none }

def world (o : OrderRecord) : World StripeAccount :=
  { World.init .empty with db := { Database.empty with orders := AList.insert oldOrder o ∅ } }

theorem every_starts {o : OrderRecord} (h : o.Starts) : (world o).Every OrderRecord.Starts := by
  intro k o' ho'
  have hlookup : (AList.insert oldOrder o (∅ : Table Id OrderRecord)).lookup k = some o' := ho'
  rw [Table.lookup_insert_ite] at hlookup
  split at hlookup
  · cases hlookup
    exact h
  · cases hlookup

theorem starts_placed (status : OrderStatus) : (placed status).Starts := by
  intro p hp
  cases hp

/-- The database after the migration gave the order its payment. -/
def migrated (status : OrderStatus) : OrderRecord :=
  (placed status).backfilled { now := 0, uuid := fun i => ⟨0, 10 + i⟩ }

theorem starts_migrated : (migrated .confirmed).Starts := by
  intro p hp
  cases hp
  exact ⟨_, rfl⟩

end OldShop

open OldShop

end LedgerLight
