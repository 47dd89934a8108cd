import LedgerLight.Infra.Tally
import LedgerLight.Order.Spec
import LedgerLight.Payment.CallsSpec

/-!
# The audit trail of payments

The trail has an entry for a payment that comes to be paid, to have failed, to be refunded, or whose
refund has failed. Such a move is one `payment.update`, and its entry is a later statement of the
same transaction. Most calls make neither; where one makes both, its transaction is balanced.

* `PaymentMove` : the four moves, with what their entry is called.
* `…_still` : the calls without moves and entries.
* `…_balanced` : the calls that enter what they move.
-/

namespace LedgerLight

open Infra Prog

/-- A move of a payment that the audit trail has an entry for. -/
inductive PaymentMove where
  | paid | failed | refunded | refundFailed
deriving DecidableEq, Repr

namespace PaymentMove

def action : PaymentMove → AuditAction
  | paid => .paymentPaid
  | failed => .paymentFailed
  | refunded => .paymentRefunded
  | refundFailed => .paymentRefundFailed

/-- The payment is where the move leads. -/
def reached : PaymentMove → Payment → Bool
  | paid, p => p.paymentStatus == .paid
  | failed, p => p.paymentStatus == .failed
  | refunded, p => p.refundStatus == .refunded
  | refundFailed, p => p.refundStatus == .failed

/-- The update of `p` to `q` is this move of the payment `paymentId`. -/
def made (m : PaymentMove) (paymentId : Id) (p q : Payment) : Bool :=
  p.id == paymentId && q.id == paymentId && !m.reached p && m.reached q

variable {m : PaymentMove} {paymentId : Id} {p q : Payment}

/-- An update that touches neither status moves nothing. -/
theorem not_made (hpaid : q.paymentStatus = p.paymentStatus)
    (hrefund : q.refundStatus = p.refundStatus) : m.made paymentId p q = false := by
  have hsame : m.reached q = m.reached p := by
    cases m <;> simp only [reached, hpaid, hrefund]
  rw [made, hsame, Bool.and_assoc, Bool.not_and_self, Bool.and_false]

theorem not_made_of_not_reached (h : m.reached q = false) : m.made paymentId p q = false := by
  rw [made, h, Bool.and_false]

/-- An update of the payment status is a move if the trail has an action for where it leads. -/
theorem made_iff_paymentStatus (hid : q.id = p.id) (hrefund : q.refundStatus = p.refundStatus) :
    m.made paymentId p q = true ↔ p.id = paymentId ∧ p.paymentStatus ≠ q.paymentStatus ∧
      paymentStatusAction q.paymentStatus = some m.action := by
  simp only [made, hid, Bool.and_eq_true, Bool.not_eq_true', beq_iff_eq]
  cases m <;> cases hq : q.paymentStatus <;>
    simp [reached, action, paymentStatusAction, hq, hrefund]

/-- An update of the refund status is a move if it leads to a refund, or to a failed one. -/
theorem made_iff_refundStatus (hid : q.id = p.id) (hpaid : q.paymentStatus = p.paymentStatus) :
    m.made paymentId p q = true ↔ p.id = paymentId ∧ p.refundStatus ≠ q.refundStatus ∧
      (q.refundStatus = .refunded ∧ .paymentRefunded = m.action ∨
        q.refundStatus = .failed ∧ .paymentRefundFailed = m.action) := by
  simp only [made, hid, Bool.and_eq_true, Bool.not_eq_true', beq_iff_eq]
  cases m <;> cases hq : q.refundStatus <;> simp [reached, action, hq, hpaid]

end PaymentMove

namespace Database

/-- The payments that a statement, between `db` and `db'`, makes this move of; there is one at most
with the id. -/
def moved (m : PaymentMove) (paymentId : Id) (db db' : Database) : Nat :=
  db.orders.countRows fun k o => o.payment.any fun p =>
    ((db'.order? k).bind (·.payment)).any fun q => m.made paymentId p.toPayment q.toPayment

/-- The entries for this move of the payment. -/
def entered (m : PaymentMove) (paymentId : Id) (db : Database) : Nat :=
  db.auditRows.count (paymentId, m.action)

variable {m : PaymentMove} {paymentId : Id} {db db' : Database} {k : Id} {o o' : OrderRecord}
  {p q : PaymentWithAttempts}

theorem moved_setOrder (ho : db.order? k = some o) (hp : o.payment = some p)
    (hq : o'.payment = some q) :
    db.moved m paymentId (db.setOrder k o') =
      if m.made paymentId p.toPayment q.toPayment = true then 1 else 0 := by
  unfold moved
  rw [Table.countRows_eq_ite ho, order?_setOrder_self, hp, Option.any_some, Option.bind_some, hq,
    Option.any_some]
  intro k' o₁ hk ho₁
  rw [order?_setOrder, if_neg hk, show db.order? k' = some o₁ from ho₁, Option.bind_some]
  cases o₁.payment with
  | none => rfl
  | some p₁ => exact PaymentMove.not_made rfl rfl

/-- Nothing moves where one order at most is not as it was, and its payment is not moved. -/
theorem moved_eq_zero (k : Id)
    (hothers : ∀ k' o', k' ≠ k → db'.order? k' = some o' → db.order? k' = some o')
    (h : ∀ o o' p q, db.order? k = some o → db'.order? k = some o' → o.payment = some p →
      o'.payment = some q → m.made paymentId p.toPayment q.toPayment = false) :
    db.moved m paymentId db' = 0 := by
  refine Table.countRows_eq_zero.mpr fun k' o ho => ?_
  cases hp : o.payment with
  | none => rfl
  | some p =>
    rw [Option.any_some, Option.any_eq_false]
    intro q hq
    obtain ⟨o', ho', hq'⟩ := Option.bind_eq_some_iff.mp hq
    have hnot : m.made paymentId p.toPayment q.toPayment = false := by
      by_cases hk : k' = k
      · subst hk
        exact h o o' p q ho ho' hp hq'
      · cases Option.some.inj (ho.symm.trans (hothers k' o' hk ho'))
        cases hp.symm.trans hq'
        exact PaymentMove.not_made rfl rfl
    simp [hnot]

theorem moved_self : db.moved m paymentId db = 0 := by
  refine moved_eq_zero ⟨0, 0⟩ (fun k' o' _ h => h) fun o o' p q ho ho' hp hq => ?_
  cases ho.symm.trans ho'
  cases hp.symm.trans hq
  exact PaymentMove.not_made rfl rfl

/-- One order is written over. -/
theorem moved_modifyOrder {f : OrderRecord → OrderRecord}
    (h : ∀ o p q, db.order? k = some o → o.payment = some p → (f o).payment = some q →
      m.made paymentId p.toPayment q.toPayment = false) :
    db.moved m paymentId (db.modifyOrder k f) = 0 := by
  cases hk : db.order? k with
  | none =>
    rw [modifyOrder, hk]
    exact moved_self
  | some o =>
    rw [modifyOrder_of_order? f hk]
    refine moved_eq_zero k (fun k' o' hne ho' => ?_) fun o₁ o₂ p q ho₁ ho₂ hp hq => ?_
    · rwa [order?_setOrder, if_neg hne] at ho'
    · rw [order?_setOrder_self] at ho₂
      cases hk.symm.trans ho₁
      cases ho₂
      exact h o p q hk hp hq

theorem entered_modifyOrder {f : OrderRecord → OrderRecord} :
    (db.modifyOrder k f).entered m paymentId = db.entered m paymentId := by
  unfold modifyOrder
  split <;> rfl

theorem entered_addAuditLog {row : AuditLog} :
    (db.addAuditLog row).entered m paymentId = db.entered m paymentId +
      if row.entityId = paymentId ∧ row.action = m.action then 1 else 0 := by
  unfold entered auditRows
  rw [auditLogs_addAuditLog, List.map_cons, List.count_cons]
  simp only [beq_iff_eq, Prod.mk.injEq]

end Database

section

variable {S M : Type} {m : PaymentMove} {pid : Id}

/-- A call without this move of the payment and without an entry for it. -/
abbrev StillTx (m : PaymentMove) (pid : Id) {α : Type} (x : Tx S α) : Prop :=
  x.Still (Database.entered m pid) (Database.moved m pid)

/-- A call that enters this move of the payment as often as it makes it. -/
abbrev BalancedTx (m : PaymentMove) (pid : Id) {α : Type} (x : Tx S α) (db : Database) (s : S) :
    Prop :=
  x.Balanced (Database.entered m pid) (Database.moved m pid) db s

variable {env : Env} {org : CurrentOrg} {orderId paymentId : Id} {auditContext : AuditContext}
  {o : OrderRecord} {p : PaymentWithAttempts} {stripe : StripeService S M}

/-! ## Statements -/

theorem modifyOrder_still (db : Database) {f : OrderRecord → OrderRecord}
    (hf : ∀ o, (f o).payment = o.payment) :
    (db.modifyOrder orderId fun o => Order.updated env id (f o)).entered m pid = db.entered m pid ∧
      db.moved m pid (db.modifyOrder orderId fun o => Order.updated env id (f o)) = 0 := by
  refine ⟨Database.entered_modifyOrder, Database.moved_modifyOrder fun o p q _ hp hq => ?_⟩
  have hsame : (Order.updated env id (f o)).payment = o.payment := hf o
  cases hp.symm.trans (hsame.symm.trans hq)
  exact PaymentMove.not_made rfl rfl

theorem orderUpdate_still {organizationId : Id} {f : OrderRecord → OrderRecord}
    (hf : ∀ o, (f o).payment = o.payment) :
    StillTx m pid (orderUpdate env orderId organizationId f : Tx S _) :=
  writes_returning fun db _ => modifyOrder_still db hf

theorem orderUpdateDeletingItem_still {organizationId itemId : Id} {f : OrderRecord → OrderRecord}
    (hf : ∀ o, (f o).payment = o.payment) :
    StillTx m pid (orderUpdateDeletingItem env orderId organizationId itemId f : Tx S _) :=
  writes_returning fun db _ => modifyOrder_still db hf

theorem orderCreate_still : StillTx m pid (orderCreate orderId o : Tx S _) := by
  refine writes_returning fun db hnew => ⟨rfl, ?_⟩
  refine Database.moved_eq_zero orderId (fun k o' hne ho' => ?_) fun o₁ o₂ p q ho₁ _ _ _ => ?_
  · rwa [Database.order?_setOrder, if_neg hne] at ho'
  · -- there was no such order
    rw [ho₁] at hnew
    cases hnew

theorem orderDelete_still {organizationId : Id} :
    StillTx m pid (orderDelete orderId organizationId : Tx S _) := by
  have herase (db : Database) (k : Id) : { db with orders := db.orders.erase orderId }.order? k =
      if k = orderId then none else db.order? k := Table.lookup_erase_ite ..
  refine writes_exec fun db _ => ⟨rfl, ?_⟩
  refine Database.moved_eq_zero orderId (fun k o' hne ho' => ?_) fun o₁ o₂ p q _ ho₂ _ _ => ?_
  · rwa [herase, if_neg hne] at ho'
  · rw [herase, if_pos rfl] at ho₂
    cases ho₂

theorem paymentCreate_still : StillTx m pid (paymentCreate orderId p : Tx S _) := by
  refine writes_returning fun db hnew => ⟨Database.entered_modifyOrder, ?_⟩
  refine Database.moved_modifyOrder fun o p₁ q ho hp _ => ?_
  -- the order had no payment
  simp [ho, hp] at hnew

theorem paymentWrite_still {rows : List RowKey} {violated : Database → Bool}
    {f : PaymentWithAttempts → PaymentWithAttempts}
    (hf : ∀ p, m.made pid p.toPayment (f p).toPayment = false) :
    StillTx m pid (paymentWrite rows orderId paymentId violated f : Tx S _) := by
  refine writes_returning fun db _ => ⟨Database.entered_modifyOrder, ?_⟩
  refine Database.moved_modifyOrder fun o p q _ hp hq => ?_
  have hq' : o.payment.map f = some q := hq
  rw [hp] at hq'
  cases hq'
  exact hf p

theorem paymentDelete_still : StillTx m pid (paymentDelete orderId paymentId : Tx S _) := by
  refine writes_exec fun db _ => ⟨Database.entered_modifyOrder, ?_⟩
  refine Database.moved_modifyOrder fun o p q _ _ hq => ?_
  cases hq

theorem moved_addAuditLog {db : Database} {row : AuditLog} :
    db.moved m pid (db.addAuditLog row) = 0 := by
  show db.moved m pid db = 0
  exact Database.moved_self

theorem auditLogCreate_still {row : AuditLog} (h : row.action ≠ m.action) :
    StillTx m pid (auditLogCreate row : Tx S _) := by
  refine writes_exec fun db _ => ⟨?_, moved_addAuditLog⟩
  rw [Database.entered_addAuditLog, if_neg fun hrow => h hrow.2, Nat.add_zero]

theorem writePaymentAuditLogTx_still {payment : Payment} {action : AuditAction}
    {beforeJson afterJson : Option AuditJson} (h : action ≠ m.action) :
    StillTx m pid (writePaymentAuditLogTx payment action beforeJson afterJson auditContext :
      Tx S Unit) :=
  auditLogCreate_still h

theorem paymentUpdate_still {f : Payment → Payment}
    (hf : ∀ (p : Payment) (u : Date), m.made pid p { f p with updatedAt := u } = false) :
    StillTx m pid (paymentUpdate env orderId paymentId f : Tx S _) :=
  paymentWrite_still fun p => hf p.toPayment env.now

/-- A write to the attempts of a payment. -/
theorem attemptWrite_still {rows : List RowKey} {violated : Database → Bool}
    {f : List PaymentAttempt → List PaymentAttempt} :
    StillTx m pid (paymentWrite rows orderId paymentId violated
      (fun p => { p with attempts := f p.attempts }) : Tx S _) :=
  paymentWrite_still fun _ => PaymentMove.not_made rfl rfl

theorem startedAttempt_not_made (p : Payment) (u : Date) :
    m.made pid p { startedAttempt p with updatedAt := u } = false := by
  cases m with
  | paid => exact PaymentMove.not_made_of_not_reached rfl
  | failed => exact PaymentMove.not_made_of_not_reached rfl
  | refunded => simp [PaymentMove.made, PaymentMove.reached, startedAttempt]
  | refundFailed => simp [PaymentMove.made, PaymentMove.reached, startedAttempt]

theorem refundRequested_not_made {refundReason : String} (p : Payment) (u : Date) :
    m.made pid p { refundRequested env refundReason p with updatedAt := u } = false := by
  cases m with
  | paid => simp [PaymentMove.made, PaymentMove.reached, refundRequested]
  | failed => simp [PaymentMove.made, PaymentMove.reached, refundRequested]
  | refunded => exact PaymentMove.not_made_of_not_reached rfl
  | refundFailed => exact PaymentMove.not_made_of_not_reached rfl

/-! ## Calls without moves and entries -/

theorem getOrderWithPaymentTx_still :
    StillTx m pid (getOrderWithPaymentTx org orderId : Tx S _) := by
  refine Writes.bind writes_select fun found => ?_
  cases found <;> trivial

theorem getPaymentByIdTx_still : StillTx m pid (getPaymentByIdTx orderId paymentId : Tx S _) := by
  refine Writes.bind writes_select fun found => ?_
  cases found <;> trivial

theorem createPaymentForConfirmedOrderTx_still {organizationId : Id} {amountCents : Int}
    {orderCreatedAt : Date} :
    StillTx m pid (createPaymentForConfirmedOrderTx env orderId organizationId amountCents
      orderCreatedAt auditContext : Tx S _) := by
  refine Writes.bind writes_select fun existing => ?_
  cases existing with
  | some existing => trivial
  | none =>
    refine Writes.bind paymentCreate_still fun payment => ?_
    exact Writes.bind (writePaymentAuditLogTx_still (by cases m <;> decide)) fun _ => trivial

theorem ensureLegacyPaymentForOrderTx_still {organizationId : Id} {orderStatus : OrderStatus}
    {amountCents : Int} {orderCreatedAt : Date} {placedAt : Option Date} :
    StillTx m pid (ensureLegacyPaymentForOrderTx env orderId organizationId orderStatus amountCents
      orderCreatedAt placedAt : Tx S _) := by
  refine Writes.bind writes_select fun existing => ?_
  cases existing with
  | some existing => trivial
  | none =>
    dsimp only
    split
    · trivial
    · exact Writes.bind paymentCreate_still fun _ => trivial

theorem orderAndPaymentTx_still : StillTx m pid (orderAndPaymentTx env org orderId : Tx S _) := by
  refine Writes.bind getOrderWithPaymentTx_still fun order => Writes.bind ?_ fun _ => trivial
  unfold paymentOrLegacyTx
  split
  · trivial
  · exact ensureLegacyPaymentForOrderTx_still

theorem ensureTransitionPaymentTx_still :
    StillTx m pid (ensureTransitionPaymentTx env orderId o : Tx S _) := by
  unfold ensureTransitionPaymentTx
  split
  · exact Writes.bind getPaymentByIdTx_still fun _ => trivial
  · exact ensureLegacyPaymentForOrderTx_still

theorem markRefundRequestedTx_still {refundReason : String} :
    StillTx m pid (markRefundRequestedTx env orderId p refundReason auditContext : Tx S _) := by
  refine Writes.bind (paymentUpdate_still refundRequested_not_made) fun _ => ?_
  refine Writes.bind (writes_doWhen ?_) fun _ => trivial
  exact writePaymentAuditLogTx_still (by cases m <;> decide)

theorem initiateCardPayment_still :
    StillTx m pid (initiateCardPayment stripe env org orderId auditContext) := by
  refine Writes.bind orderAndPaymentTx_still fun ⟨order, payment?⟩ => ?_
  cases payment? with
  | none => trivial
  | some payment =>
    refine Writes.bind writes_require fun _ => Writes.bind writes_ofExcept fun _ => ?_
    dsimp only
    split
    · trivial
    · refine Writes.bind writes_invoke fun paymentIntent => ?_
      split
      · trivial
      · refine Writes.bind attemptWrite_still fun _ => ?_
        refine Writes.bind (paymentUpdate_still startedAttempt_not_made) fun _ => ?_
        exact Writes.bind (writePaymentAuditLogTx_still (by cases m <;> decide)) fun _ => trivial

/-! ### Orders -/

theorem createOrder_still {data : CreateOrderDto} :
    StillTx m pid (createOrder env org data : Tx S _) := by
  refine Writes.bind writes_require fun _ => Writes.bind writes_ofExcept fun _ => ?_
  refine Writes.bind writes_select fun db => Writes.bind writes_require fun _ => ?_
  refine Writes.bind writes_require fun _ => Writes.bind writes_require fun _ => ?_
  refine Writes.bind writes_ofExcept fun computed => ?_
  dsimp only
  split
  · refine Writes.bind orderCreate_still fun _ => Writes.bind ?_ fun _ => trivial
    refine writes_exec fun db _ => ⟨Database.entered_modifyOrder, ?_⟩
    refine Database.moved_modifyOrder fun o p q _ hp hq => ?_
    cases hp.symm.trans hq
    exact PaymentMove.not_made rfl rfl
  · exact Writes.bind orderCreate_still fun _ => trivial

theorem scopeGuard_still :
    StillTx m pid (doWhen (hasRestrictedLocations org = true) (assertOrderAccessible org orderId) :
      Tx S Unit) :=
  writes_doWhen assertOrderAccessible_readOnly.writes

theorem updateOrder_still {data : UpdateOrderDto} :
    StillTx m pid (updateOrder env org orderId data : Tx S _) := by
  refine Writes.bind writes_select fun db => Writes.bind writes_require fun _ => ?_
  refine Writes.bind writes_ofExcept fun _ => Writes.bind writes_require fun _ => ?_
  exact Writes.bind scopeGuard_still fun _ => orderUpdate_still fun _ => rfl

theorem deleteOrder_still : StillTx m pid (deleteOrder org orderId : Tx S _) :=
  Writes.bind scopeGuard_still fun _ => orderDelete_still

theorem addOrderItem_still {data : CreateOrderItemDto} :
    StillTx m pid (addOrderItem env org orderId data : Tx S _) := by
  refine Writes.bind writes_select fun order => ?_
  cases order with
  | none => trivial
  | some order =>
    refine Writes.bind writes_select fun product => ?_
    cases product with
    | none => trivial
    | some product =>
      refine Writes.bind writes_require fun _ => Writes.bind writes_ofExcept fun item => ?_
      exact orderUpdate_still fun _ => rfl

theorem deleteOrderItem_still {itemId : Id} :
    StillTx m pid (deleteOrderItem env org orderId itemId : Tx S _) := by
  refine Writes.bind scopeGuard_still fun _ => Writes.bind writes_select fun item => ?_
  cases item with
  | none => trivial
  | some item =>
    refine Writes.bind writes_select fun count => Writes.bind writes_require fun _ => ?_
    exact orderUpdateDeletingItem_still fun _ => rfl

theorem transitionConfirmed_still :
    StillTx m pid (transitionConfirmed env orderId o auditContext : Tx S _) :=
  Writes.bind (orderUpdate_still fun _ => rfl) fun _ =>
    Writes.bind createPaymentForConfirmedOrderTx_still fun _ => trivial

theorem transitionFulfilled_still : StillTx m pid (transitionFulfilled env orderId o : Tx S _) := by
  refine Writes.bind ensureTransitionPaymentTx_still fun payment => ?_
  cases payment with
  | none => trivial
  | some payment =>
    refine Writes.bind writes_require fun _ => ?_
    exact Writes.bind (orderUpdate_still fun _ => rfl) fun _ => trivial

theorem deletePaymentForReopenTx_still :
    StillTx m pid (deletePaymentForReopenTx stripe orderId paymentId auditContext) := by
  refine Writes.bind getPaymentByIdTx_still fun payment => Writes.bind ?_ fun _ => ?_
  · cases getReusableAttempt payment with
    | none => trivial
    | some attempt => exact Writes.bind writes_invoke fun _ => trivial
  · refine Writes.bind (attemptWrite_still (f := fun _ => [])) fun _ =>
      Writes.bind paymentDelete_still fun _ => ?_
    exact writePaymentAuditLogTx_still (by cases m <;> decide)

theorem transitionPending_still :
    StillTx m pid (transitionPending stripe env orderId o auditContext) := by
  refine Writes.bind (Writes.bind ensureTransitionPaymentTx_still fun payment => ?_) fun _ =>
    Writes.bind (orderUpdate_still fun _ => rfl) fun _ => trivial
  cases payment with
  | none => trivial
  | some payment =>
    refine Writes.bind writes_require fun _ => Writes.bind writes_require fun _ => ?_
    exact deletePaymentForReopenTx_still

/-! ## Calls that enter what they move -/

section

variable {db db' : Database} {s s' : S} {q : PaymentWithAttempts}

/-- A write to a payment: what it moves, and the payment after it. -/
theorem paymentWrite_counts (m : PaymentMove) (pid : Id) {rows : List RowKey}
    {violated : Database → Bool}
    {f : PaymentWithAttempts → PaymentWithAttempts} (hp : db.payment? orderId paymentId = some p)
    (hid : (f p).id = p.id)
    (h : (paymentWrite rows orderId paymentId violated f).run db s = (.ok (q, db'), s')) :
    q = f p ∧ db'.payment? orderId paymentId = some (f p) ∧
      db'.entered m pid = db.entered m pid ∧
      (paymentWrite rows orderId paymentId violated f).tally (Database.moved m pid) db s =
        if m.made pid p.toPayment (f p).toPayment = true then 1 else 0 := by
  obtain ⟨o, p', ho, hp', hpid, hviolated, rfl, rfl, rfl⟩ := paymentWrite_ok.mp h
  obtain ⟨o', ho', hp'', -⟩ := Database.payment?_eq_some.mp hp
  cases ho.symm.trans ho'
  cases hp'.symm.trans hp''
  refine ⟨rfl, Database.payment?_eq_some.mpr ⟨_, Database.order?_setOrder_self .., rfl,
    hid.trans hpid⟩, rfl, ?_⟩
  unfold paymentWrite
  rw [tally_returning (by simp [hp, hviolated]), Database.modifyOrder_of_order? _ ho,
    Database.moved_setOrder ho hp' (by rw [hp']; rfl)]

theorem paymentUpdate_counts (m : PaymentMove) (pid : Id) {f : Payment → Payment}
    (hp : db.payment? orderId paymentId = some p)
    (hid : (f p.toPayment).id = p.id)
    (h : (paymentUpdate env orderId paymentId f).run db s = (.ok (q, db'), s')) :
    q = Payment.updated env f p ∧
      db'.payment? orderId paymentId = some (Payment.updated env f p) ∧
      db'.entered m pid = db.entered m pid ∧
      (paymentUpdate env orderId paymentId f).tally (Database.moved m pid) db s =
        if m.made pid p.toPayment (Payment.updated env f p).toPayment = true then 1 else 0 :=
  paymentWrite_counts m pid hp hid h

/-- An entry. -/
theorem writePaymentAuditLogTx_adds {payment : Payment} {action : AuditAction}
    {beforeJson afterJson : Option AuditJson} :
    (writePaymentAuditLogTx payment action beforeJson afterJson auditContext : Tx S Unit).Adds
      (Database.entered m pid) (Database.moved m pid)
      (if payment.id = pid ∧ action = m.action then 1 else 0) db s := by
  intro u db' s' h
  obtain ⟨rfl, rfl⟩ := auditLogCreate_ok.mp h
  refine ⟨Database.entered_addAuditLog, ?_⟩
  show Database.moved m pid db (db.addAuditLog _) + 0 = 0
  rw [moved_addAuditLog]

theorem withSyncedAttempt_toPayment {attempt : PaymentAttempt} {next : PaymentTransitionResult} :
    (withSyncedAttempt env p attempt next).toPayment = p.toPayment := by
  unfold withSyncedAttempt
  split <;> rfl

/-- The attempt is written, or not: the payment row is as it was. -/
theorem syncedAttempt_payment? {attempt : PaymentAttempt} {next : PaymentTransitionResult} {u : Unit}
    (hp : db.payment? orderId p.id = some p)
    (h : (doWhen (attemptChangedBy attempt next)
        (do let _ ← attemptUpdate env orderId p.id attempt.id next.onAttempt)).run db s =
      (.ok (u, db'), s')) :
    db'.payment? orderId p.id = some (withSyncedAttempt env p attempt next) := by
  obtain ⟨o, ho, hpo, -⟩ := Database.payment?_eq_some.mp hp
  obtain ⟨hput, -⟩ := withSyncedAttempt_put (Database.Puts.refl ho) hpo h
  refine Database.payment?_eq_some.mpr ⟨_, hput.order?_self, rfl, ?_⟩
  rw [withSyncedAttempt_toPayment]

theorem applyPaymentIntentStateTx_balanced {attempt : PaymentAttempt}
    {paymentIntent : StripePaymentIntent} (hp : db.payment? orderId p.id = some p) :
    BalancedTx m pid
      (applyPaymentIntentStateTx env orderId p attempt paymentIntent auditContext) db s := by
  unfold applyPaymentIntentStateTx
  generalize mapPaymentIntentState env.now paymentIntent p.toPayment = next
  dsimp only
  split
  · exact Still.balanced trivial
  · refine Balanced.bind (Still.balanced (writes_doWhen
      (Writes.bind attemptWrite_still fun _ => trivial))) fun u db₁ s₁ hattempt => ?_
    have hp₁ := syncedAttempt_payment? hp hattempt
    have hsame : (withSyncedAttempt env p attempt next).toPayment = p.toPayment :=
      withSyncedAttempt_toPayment
    refine balanced_bind_adds
      (fun q db₂ s₂ hrun => (paymentUpdate_counts m pid hp₁ rfl hrun).2.2) ?_
    intro q db₂ s₂ hrun
    obtain ⟨hq, -⟩ := paymentUpdate_counts m pid hp₁ rfl hrun
    rw [← hq, hsame]
    have hmade : m.made pid p.toPayment q.toPayment = true ↔ p.id = pid ∧
        p.paymentStatus ≠ q.paymentStatus ∧
          paymentStatusAction q.paymentStatus = some m.action := by
      refine PaymentMove.made_iff_paymentStatus ?_ ?_ <;> rw [hq, ← hsame] <;> rfl
    by_cases hne : p.paymentStatus = q.paymentStatus
    · rw [if_neg (not_not.mpr hne), if_neg fun h => (hmade.mp h).2.1 hne]
      exact Still.adds trivial
    · rw [if_pos hne]
      cases haction : paymentStatusAction q.paymentStatus with
      | none =>
        rw [if_neg fun h => by cases haction.symm.trans (hmade.mp h).2.2]
        exact Still.adds trivial
      | some action =>
        have hentry :
            m.made pid p.toPayment q.toPayment = true ↔ p.id = pid ∧ action = m.action := by
          rw [hmade, haction, Option.some.injEq]
          exact and_congr_right fun _ => and_iff_right hne
        rw [if_congr hentry rfl rfl]
        exact writePaymentAuditLogTx_adds.bind_still fun _ => trivial

/-- The write of a refund's state, if there is anything to write. -/
theorem updateRefundTx_counts (m : PaymentMove) (pid : Id) {next : RefundTransitionResult}
    {refund : StripeRefund}
    (hp : db.payment? orderId p.id = some p)
    (h : (updateRefundTx env orderId p next refund).run db s = (.ok (q, db'), s')) :
    q.id = p.id ∧ q.paymentStatus = p.paymentStatus ∧
      db'.entered m pid = db.entered m pid ∧
      (updateRefundTx env orderId p next refund).tally (Database.moved m pid) db s =
        if m.made pid p.toPayment q.toPayment = true then 1 else 0 := by
  unfold updateRefundTx at h ⊢
  split at h
  · next hc =>
    obtain ⟨rfl, -, hsame, htally⟩ := paymentWrite_counts m pid hp rfl h
    rw [if_pos hc]
    exact ⟨rfl, rfl, hsame, htally⟩
  · next hc =>
    obtain ⟨rfl, rfl, rfl⟩ := run_pure_ok.mp h
    rw [if_neg hc, PaymentMove.not_made rfl rfl]
    exact ⟨rfl, rfl, rfl, rfl⟩

/-- The two entries of a refund's state, of which one at most is made. -/
theorem refundEntries_eq (hid : q.id = p.id) (hpaid : q.paymentStatus = p.paymentStatus) :
    (if p.refundStatus ≠ q.refundStatus ∧ q.refundStatus = .refunded then
        if p.id = pid ∧ .paymentRefunded = m.action then 1 else 0 else 0) +
      (if p.refundStatus ≠ q.refundStatus ∧ q.refundStatus = .failed then
        if p.id = pid ∧ .paymentRefundFailed = m.action then 1 else 0 else 0) =
      if m.made pid p.toPayment q.toPayment = true then 1 else 0 := by
  rw [if_congr (PaymentMove.made_iff_refundStatus hid hpaid) rfl rfl]
  by_cases hsame : p.refundStatus = q.refundStatus
  · simp [hsame]
  · cases hq : q.refundStatus <;> simp_all

theorem applyRefundStateTx_balanced {refund : StripeRefund}
    (hp : db.payment? orderId p.id = some p) :
    BalancedTx m pid (applyRefundStateTx env orderId o p refund auditContext) db s := by
  unfold applyRefundStateTx
  generalize mapRefundState env.now refund p.toPayment = next
  refine balanced_bind_adds (fun q db₁ s₁ hrun => (updateRefundTx_counts m pid hp hrun).2.2) ?_
  intro q db₁ s₁ hrun
  obtain ⟨hid, hpaid, -⟩ := updateRefundTx_counts m pid hp hrun
  refine Still.bind_adds (writes_doWhen
    (Writes.bind (orderUpdate_still fun _ => rfl) fun _ => trivial)) fun _ db₂ s₂ _ => ?_
  rw [← refundEntries_eq hid hpaid]
  refine Adds.bind (adds_doWhen writePaymentAuditLogTx_adds) fun _ db₃ s₃ _ => ?_
  exact (adds_doWhen writePaymentAuditLogTx_adds).bind_still fun _ => trivial

theorem refundPaymentApply_balanced {call : RefundCall} {refund : StripeRefund} :
    BalancedTx m pid (refundPaymentApply env call refund) db s := by
  refine Balanced.bind getOrderWithPaymentTx_still.balanced fun order db₁ s₁ _ => ?_
  refine Balanced.bind getPaymentByIdTx_still.balanced fun payment db₂ s₂ hget => ?_
  obtain ⟨⟨o, ho, hp, hid⟩, rfl, rfl⟩ := getPaymentByIdTx_ok.mp hget
  exact applyRefundStateTx_balanced (Database.payment?_eq_some.mpr ⟨o, ho, hp, rfl⟩)

theorem confirmCardPaymentApply_balanced {attemptId : Id} {paymentIntent : StripePaymentIntent} :
    BalancedTx m pid
      (confirmCardPaymentApply env orderId paymentId attemptId paymentIntent auditContext) db s := by
  refine Balanced.bind getPaymentByIdTx_still.balanced fun payment db₁ s₁ hget => ?_
  obtain ⟨⟨o, ho, hp, hid⟩, rfl, rfl⟩ := getPaymentByIdTx_ok.mp hget
  split
  · exact Still.balanced trivial
  · exact applyPaymentIntentStateTx_balanced (Database.payment?_eq_some.mpr ⟨o, ho, hp, rfl⟩)

theorem refundPaymentRequest_still {call : RefundCall} :
    StillTx m pid (refundPaymentRequest env call : Tx S _) :=
  Writes.bind getPaymentByIdTx_still fun _ =>
    Writes.bind markRefundRequestedTx_still fun _ => trivial

theorem markCashPaid_balanced :
    BalancedTx m pid (markCashPaid env org orderId auditContext) db s := by
  refine Balanced.bind orderAndPaymentTx_still.balanced fun ⟨order, payment?⟩ db₁ s₁ hread => ?_
  obtain ⟨ho, -, hlegacy, hput, rfl⟩ := orderAndPaymentTx_ok hread
  dsimp only at ho hlegacy hput ⊢
  cases payment? with
  | none => exact Still.balanced trivial
  | some payment =>
    have hp : db₁.payment? orderId payment.id = some payment :=
      Database.payment?_eq_some.mpr ⟨_, hput.order?_self, hlegacy.symm, rfl⟩
    refine balanced_require_bind fun _ => balanced_ofExcept_bind fun _ _ => ?_
    refine balanced_require_bind fun hunpaid => balanced_require_bind fun _ => ?_
    refine balanced_bind_adds (fun q _ _ hrun => (paymentUpdate_counts m pid hp rfl hrun).2.2) ?_
    intro q db₂ s₂ hrun
    -- the payment was not paid, so this is a move
    have hmade : m.made pid payment.toPayment
        (Payment.updated env (paidInCash env payment.toPayment) payment).toPayment = true ↔
        payment.id = pid ∧ AuditAction.paymentPaid = m.action := by
      refine (PaymentMove.made_iff_paymentStatus (by rfl) (by rfl)).trans ?_
      simp [Payment.updated, paidInCash, paymentStatusAction, hunpaid]
    rw [if_congr hmade rfl rfl]
    exact writePaymentAuditLogTx_adds.bind_still fun _ => trivial

/-- The payment is written twice: that a refund is requested is no move, that it is refunded is. -/
theorem refundPaymentCash_balanced {call : RefundCall} :
    BalancedTx m pid (refundPaymentCash env call) db s := by
  refine Balanced.bind getOrderWithPaymentTx_still.balanced fun order db₁ s₁ _ => ?_
  refine Balanced.bind getPaymentByIdTx_still.balanced fun payment db₂ s₂ hget => ?_
  obtain ⟨⟨o, ho, hp, hid⟩, rfl, rfl⟩ := getPaymentByIdTx_ok.mp hget
  refine Balanced.bind markRefundRequestedTx_still.balanced fun requested db₃ s₃ hmark => ?_
  obtain ⟨rfl, hput, -⟩ := markRefundRequestedTx_ok (Database.Puts.refl ho) hp hmark
  have hp₃ : db₃.payment? call.orderId payment.id =
      some (requestedPayment env call.refundReason payment) :=
    Database.payment?_eq_some.mpr ⟨_, hput.order?_self, rfl, rfl⟩
  refine balanced_bind_adds (fun q _ _ hrun => (paymentUpdate_counts m pid hp₃ rfl hrun).2.2) ?_
  intro q db₄ s₄ hrun
  have hmade : m.made pid (requestedPayment env call.refundReason payment).toPayment
      (Payment.updated env (cashRefunded env)
        (requestedPayment env call.refundReason payment)).toPayment = true ↔
      payment.id = pid ∧ AuditAction.paymentRefunded = m.action := by
    refine (PaymentMove.made_iff_refundStatus (by rfl) (by rfl)).trans ?_
    simp [requestedPayment, refundRequested, Payment.updated, cashRefunded]
  rw [if_congr hmade rfl rfl]
  refine Still.bind_adds (writes_doWhen
    (Writes.bind (orderUpdate_still fun _ => rfl) fun _ => trivial)) fun _ db₅ s₅ _ => ?_
  exact writePaymentAuditLogTx_adds.bind_still fun _ => trivial

/-- A failed refund is entered whatever the payment's refund status was. -/
theorem refundPaymentFail_counts (m : PaymentMove) (pid : Id) {call : RefundCall}
    {failureMessage : String} {dto : PaymentDto}
    (hp : db.payment? call.orderId call.paymentId = some p)
    (h : (refundPaymentFail env call failureMessage).run db s = (.ok (dto, db'), s')) :
    db'.entered m pid = db.entered m pid +
        (if p.id = pid ∧ .paymentRefundFailed = m.action then 1 else 0) ∧
      (refundPaymentFail env call failureMessage).tally (Database.moved m pid) db s =
        if p.id = pid ∧ p.refundStatus ≠ .failed ∧ .paymentRefundFailed = m.action
          then 1 else 0 := by
  unfold refundPaymentFail at h ⊢
  obtain ⟨payment, d, t, hget, h₁⟩ := run_bind_ok.mp h
  rw [tally_bind hget, (getPaymentByIdTx_still.run hget).2, Nat.zero_add]
  obtain ⟨hfound, rfl, rfl⟩ := getPaymentByIdTx_ok.mp hget
  obtain rfl := Option.some.inj (hp.symm.trans (Database.payment?_eq_some.mpr hfound))
  obtain ⟨q, d₁, t₁, hpay, h₂⟩ := run_bind_ok.mp h₁
  have hpid : p.id = call.paymentId := by
    obtain ⟨o, ho, hpo, hid⟩ := hfound
    exact hid
  rw [← hpid] at hp
  obtain ⟨-, -, hsame, htally⟩ := paymentUpdate_counts m pid hp rfl hpay
  obtain ⟨u, d₂, t₂, hlog, h₃⟩ := run_bind_ok.mp h₂
  obtain ⟨rfl, rfl, rfl⟩ := run_pure_ok.mp h₃
  obtain ⟨hentered, hnone⟩ := writePaymentAuditLogTx_adds (m := m) u db' s' hlog
  refine ⟨hentered.trans (by rw [hsame]), ?_⟩
  rw [tally_bind hpay, htally, tally_bind hlog, hnone]
  refine if_congr ((PaymentMove.made_iff_refundStatus (by rfl) (by rfl)).trans ?_) rfl rfl
  simp [Payment.updated, refundFailed]

/-- A failed refund is a move unless a refund of the payment has failed last. -/
theorem refundPaymentFail_balanced {call : RefundCall} {failureMessage : String}
    (hne : ∀ p, db.payment? call.orderId call.paymentId = some p → p.refundStatus ≠ .failed) :
    BalancedTx m pid (refundPaymentFail env call failureMessage) db s := by
  intro dto db' s' h
  obtain ⟨o, p, ho, hpo, hid, -, -⟩ := refundPaymentFail_ok h
  have hp := Database.payment?_eq_some.mpr ⟨o, ho, hpo, hid⟩
  obtain ⟨hentered, htally⟩ := refundPaymentFail_counts m pid hp h
  rw [hentered, htally]
  simp [hne p hp]

/-! ### Retiring a card attempt -/

theorem cancelActiveCardAttemptTx_balanced :
    BalancedTx m pid
      (cancelActiveCardAttemptTx stripe env orderId paymentId auditContext) db s := by
  refine Balanced.bind getPaymentByIdTx_still.balanced fun payment db₁ s₁ hget => ?_
  obtain ⟨⟨o, ho, hp, hid⟩, rfl, rfl⟩ := getPaymentByIdTx_ok.mp hget
  split
  · exact Still.balanced trivial
  · refine Balanced.bind (Still.balanced writes_invoke) fun paymentIntent db₂ s₂ hinvoke => ?_
    obtain ⟨-, rfl, -⟩ := run_invoke_ok.mp hinvoke
    have hp₂ : db₂.payment? orderId payment.id = some payment :=
      Database.payment?_eq_some.mpr ⟨o, ho, hp, rfl⟩
    refine Balanced.bind (applyPaymentIntentStateTx_balanced hp₂) fun _ db₃ s₃ _ => ?_
    exact getPaymentByIdTx_still.balanced

theorem transitionCancelled_balanced :
    BalancedTx m pid (transitionCancelled stripe env orderId o auditContext) db s := by
  have hretire : ∀ db s,
      BalancedTx m pid (retirePaymentTx stripe env orderId o auditContext) db s := by
    intro db s
    refine Balanced.bind ensureTransitionPaymentTx_still.balanced fun payment db₁ s₁ _ => ?_
    cases payment with
    | none => exact Still.balanced trivial
    | some payment =>
      refine balanced_require_bind fun _ => balanced_require_bind fun _ => ?_
      exact Balanced.bind cancelActiveCardAttemptTx_balanced fun _ _ _ _ => Still.balanced trivial
  refine Balanced.bind ?_ fun _ db₁ s₁ _ => ?_
  · unfold doWhen
    split
    · exact hretire db s
    · exact Still.balanced trivial
  · exact Still.balanced (Writes.bind (orderUpdate_still fun _ => rfl) fun _ => trivial)

theorem transitionStatus_balanced {toStatus : OrderStatus} :
    BalancedTx m pid (transitionStatus stripe env org orderId toStatus auditContext) db s := by
  refine Balanced.bind (Still.balanced writes_select) fun found db₁ s₁ _ => ?_
  cases found with
  | none => exact Still.balanced trivial
  | some order =>
    refine balanced_require_bind fun _ => Balanced.bind ?_ fun _ db₂ s₂ _ => ?_
    · cases toStatus with
      | confirmed => exact transitionConfirmed_still.balanced
      | fulfilled => exact transitionFulfilled_still.balanced
      | cancelled => exact transitionCancelled_balanced
      | pending => exact transitionPending_still.balanced
    · refine Balanced.bind (Still.balanced writes_select) fun found' db₃ s₃ _ => ?_
      cases found' with
      | none => exact Still.balanced trivial
      | some order' => exact Still.balanced trivial

/-! ### Webhooks -/

/-- Both handlers make a receipt first, and work and mark it if it is new. -/
theorem webhook_balanced {event : StripeEventId} {eventType : String} {sync : Tx S Unit}
    (hsync : ∀ db s, BalancedTx m pid sync db s) :
    BalancedTx m pid (createWebhookReceiptTx env event eventType >>= fun shouldProcess =>
      doWhen (shouldProcess = true) (sync >>= fun _ =>
        markWebhookReceiptProcessedTx env event)) db s := by
  have hreceipt : ∀ {db : Database} {r : StripeWebhookReceipt},
      db.moved m pid (db.setReceipt event r) = 0 := by
    intro db r
    show db.moved m pid db = 0
    exact Database.moved_self
  refine Balanced.bind (Still.balanced ?_) fun shouldProcess db₁ s₁ _ => ?_
  · refine Writes.bind writes_select fun received => ?_
    split
    · trivial
    · exact Writes.bind (writes_exec fun _ _ => ⟨rfl, hreceipt⟩) fun _ => trivial
  · unfold doWhen
    split
    · refine Balanced.bind (hsync db₁ s₁) fun _ db₂ s₂ _ => ?_
      refine Still.balanced (writes_exec fun db _ => ?_)
      split
      · exact ⟨rfl, Database.moved_self⟩
      · exact ⟨rfl, hreceipt⟩
    · exact Still.balanced trivial

theorem handleWebhookPaymentIntent_balanced {event : StripeEventId} {eventType : String}
    {paymentIntent : StripePaymentIntent} :
    BalancedTx m pid (handleWebhookPaymentIntent env event eventType paymentIntent) db s := by
  refine webhook_balanced fun db s => ?_
  refine Balanced.bind (Still.balanced writes_select) fun found db₁ s₁ _ => ?_
  cases found with
  | none => exact Still.balanced trivial
  | some found =>
    refine Balanced.bind getPaymentByIdTx_still.balanced fun payment db₂ s₂ hget => ?_
    obtain ⟨⟨o, ho, hp, hid⟩, rfl, rfl⟩ := getPaymentByIdTx_ok.mp hget
    split
    · exact Still.balanced trivial
    · refine Balanced.bind (applyPaymentIntentStateTx_balanced ?_) fun _ _ _ _ =>
        Still.balanced trivial
      exact Database.payment?_eq_some.mpr ⟨o, ho, hp, rfl⟩

theorem handleWebhookRefund_balanced {event : StripeEventId} {eventType : String}
    {refund : StripeRefund} :
    BalancedTx m pid (handleWebhookRefund env event eventType refund) db s := by
  refine webhook_balanced fun db s => ?_
  refine Balanced.bind (Still.balanced writes_select) fun found db₁ s₁ hfind => ?_
  obtain ⟨rfl, rfl, rfl⟩ := run_select_ok.mp hfind
  cases hfound : db₁.findPayment? (paymentOfRefund refund) with
  | none => exact Still.balanced trivial
  | some found =>
    obtain ⟨ho, hp, -⟩ := Database.findPayment?_eq_some hfound
    refine Balanced.bind (applyRefundStateTx_balanced ?_) fun _ _ _ _ => Still.balanced trivial
    exact Database.payment?_eq_some.mpr ⟨_, ho, hp, rfl⟩

end

end

end LedgerLight
