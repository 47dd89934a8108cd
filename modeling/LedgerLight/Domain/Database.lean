import LedgerLight.Common.LocationScope
import LedgerLight.Infra.Prog
import LedgerLight.Infra.Table
import LedgerLight.Stripe.Service

/-!
# The database and its statements

The Prisma calls the services make, as statements of `Infra.Prog`. A payment is addressed by the
order it hangs from and its id, an attempt by its payment and its id.

Each statement has one lemma `…_ok` that says what it did when it did not fail.
-/

namespace LedgerLight

open Infra

structure Database where
  orders : Table Id OrderRecord
  products : Table Id Product
  customers : Table Id Customer
  locations : Table Id Location
  auditLogs : List AuditLog
  receipts : Table StripeEventId StripeWebhookReceipt

namespace Database

def empty : Database :=
  { orders := ∅, products := ∅, customers := ∅, locations := ∅, auditLogs := [], receipts := ∅ }

def order? (db : Database) (orderId : Id) : Option OrderRecord := db.orders.lookup orderId

def setOrder (db : Database) (orderId : Id) (o : OrderRecord) : Database :=
  { db with orders := db.orders.insert orderId o }

def modifyOrder (db : Database) (orderId : Id) (f : OrderRecord → OrderRecord) : Database :=
  match db.order? orderId with
  | none => db
  | some o => db.setOrder orderId (f o)

def addAuditLog (db : Database) (row : AuditLog) : Database :=
  { db with auditLogs := row :: db.auditLogs }

def setReceipt (db : Database) (event : StripeEventId) (r : StripeWebhookReceipt) : Database :=
  { db with receipts := db.receipts.insert event r }

variable (db : Database) (orderId orderId' : Id) (o o' : OrderRecord)

theorem order?_setOrder :
    (db.setOrder orderId o).order? orderId' = if orderId' = orderId then some o
      else db.order? orderId' :=
  Table.lookup_insert_ite ..

@[simp] theorem order?_setOrder_self : (db.setOrder orderId o).order? orderId = some o := by
  simp [order?_setOrder]

@[simp] theorem setOrder_setOrder :
    (db.setOrder orderId o).setOrder orderId o' = db.setOrder orderId o' := by
  simp [setOrder, AList.insert_insert]

@[simp] theorem auditLogs_addAuditLog (row : AuditLog) :
    (db.addAuditLog row).auditLogs = row :: db.auditLogs := rfl

variable {db orderId o}

@[simp] theorem modifyOrder_of_order? (f : OrderRecord → OrderRecord)
    (h : db.order? orderId = some o) : db.modifyOrder orderId f = db.setOrder orderId (f o) := by
  simp [modifyOrder, h]

end Database

/-! ## Rows -/

/-- A row update; `updatedAt` is set by the schema (`@updatedAt`). -/
def Order.updated (env : Env) (f : Order → Order) (o : OrderRecord) : OrderRecord :=
  { o with toOrder := { f o.toOrder with updatedAt := env.now } }

def Payment.updated (env : Env) (f : Payment → Payment) (p : PaymentWithAttempts) :
    PaymentWithAttempts :=
  { p with toPayment := { f p.toPayment with updatedAt := env.now } }

/-- `where: { organizationId, ...getLocationScopeWhere(org) }` of the queries on orders. -/
def OrderRecord.visibleTo (org : CurrentOrg) (o : OrderRecord) : Bool :=
  o.organizationId == org.organizationId && getLocationScopeWhere org o.locationId

/-- The payment of an order, if it is the row with that id. -/
def OrderRecord.payment? (o : OrderRecord) (paymentId : Id) : Option PaymentWithAttempts :=
  o.payment.filter fun p => p.id == paymentId

theorem OrderRecord.payment?_eq_some {o : OrderRecord} {paymentId : Id} {p : PaymentWithAttempts} :
    o.payment? paymentId = some p ↔ o.payment = some p ∧ p.id = paymentId := by
  simp [OrderRecord.payment?, Option.filter_eq_some_iff]

def Database.payment? (db : Database) (orderId paymentId : Id) : Option PaymentWithAttempts :=
  (db.order? orderId).bind fun o => o.payment? paymentId

theorem Database.payment?_eq_some {db : Database} {orderId paymentId : Id}
    {p : PaymentWithAttempts} :
    db.payment? orderId paymentId = some p ↔
      ∃ o, db.order? orderId = some o ∧ o.payment = some p ∧ p.id = paymentId := by
  simp [Database.payment?, Option.bind_eq_some_iff, OrderRecord.payment?_eq_some]

/-- The attempt of an order that passes a test. -/
def OrderRecord.findAttempt? (o : OrderRecord) (test : PaymentAttempt → Bool) :
    Option (PaymentWithAttempts × PaymentAttempt) :=
  o.payment.bind fun p => (p.attempts.find? test).map fun a => (p, a)

/-- `paymentAttempt.findFirst`: the order, the payment and the attempt. -/
def Database.findAttempt? (db : Database) (test : PaymentAttempt → Bool) :
    Option (Id × PaymentWithAttempts × PaymentAttempt) :=
  (db.orders.findRow? fun _ o => (o.findAttempt? test).isSome).bind fun r =>
    (r.2.findAttempt? test).map fun pa => (r.1, pa)

theorem OrderRecord.findAttempt?_eq_some {o : OrderRecord} {test : PaymentAttempt → Bool}
    {p : PaymentWithAttempts} {a : PaymentAttempt} (h : o.findAttempt? test = some (p, a)) :
    o.payment = some p ∧ a ∈ p.attempts ∧ test a = true := by
  obtain ⟨q, hq, hf⟩ := Option.bind_eq_some_iff.mp h
  obtain ⟨b, hb, he⟩ := Option.map_eq_some_iff.mp hf
  cases he
  exact ⟨hq, List.mem_of_find?_eq_some hb, List.find?_some hb⟩

theorem Database.findAttempt?_eq_some {db : Database} {test : PaymentAttempt → Bool}
    {orderId : Id} {p : PaymentWithAttempts} {a : PaymentAttempt}
    (h : db.findAttempt? test = some (orderId, p, a)) :
    ∃ o, db.order? orderId = some o ∧ o.payment = some p ∧ a ∈ p.attempts ∧ test a = true := by
  obtain ⟨⟨k, o⟩, hf, hm⟩ := Option.bind_eq_some_iff.mp h
  obtain ⟨pa, hpa, he⟩ := Option.map_eq_some_iff.mp hm
  cases he
  exact ⟨o, Table.lookup_of_findRow? hf, OrderRecord.findAttempt?_eq_some hpa⟩

/-- `payment.findFirst` with its order. -/
def Database.findPayment? (db : Database) (test : Payment → Bool) :
    Option (Id × OrderRecord × PaymentWithAttempts) :=
  (db.orders.findRow? fun _ o => o.payment.any fun p => test p.toPayment).bind fun r =>
    r.2.payment.map fun p => (r.1, r.2, p)

theorem Database.findPayment?_eq_some {db : Database} {test : Payment → Bool} {orderId : Id}
    {o : OrderRecord} {p : PaymentWithAttempts}
    (h : db.findPayment? test = some (orderId, o, p)) :
    db.order? orderId = some o ∧ o.payment = some p ∧ test p.toPayment = true := by
  obtain ⟨⟨k, o'⟩, hf, hm⟩ := Option.bind_eq_some_iff.mp h
  obtain ⟨q, hq, he⟩ := Option.map_eq_some_iff.mp hm
  cases he
  refine ⟨Table.lookup_of_findRow? hf, hq, ?_⟩
  simpa [show o'.payment = some p from hq] using Table.pred_of_findRow? hf

theorem Database.findPayment?_isSome {db : Database} {test : Payment → Bool} {orderId : Id}
    {o : OrderRecord} {p : PaymentWithAttempts} (ho : db.order? orderId = some o)
    (hp : o.payment = some p) (htest : test p.toPayment = true) :
    (db.findPayment? test).isSome := by
  unfold Database.findPayment?
  cases hrow : db.orders.findRow? fun _ o => o.payment.any fun p => test p.toPayment with
  | none =>
    have hfalse := Table.pred_of_findRow?_eq_none hrow ho
    rw [hp, Option.any_some, htest] at hfalse
    cases hfalse
  | some row =>
    have htrue := Table.pred_of_findRow? hrow
    cases hpay : row.2.payment with
    | none => rw [hpay] at htrue; cases htrue
    | some q => simp [hpay]

/-- Another payment has this refund id (`stripeRefundId` is unique). -/
def Database.refundIdTaken (db : Database) (orderId : Id) (refundId : Option RefundId) : Bool :=
  refundId.isSome && (db.orders.findRow? fun k o =>
    k != orderId && o.payment.any fun p => p.stripeRefundId == refundId).isSome

/-! ## Statements -/

/-- What a statement locks. -/
inductive RowKey where
  | order (orderId : Id)
  | payment (orderId : Id)
  | attempt (attemptId : Id)
  | receipt (event : StripeEventId)
deriving DecidableEq, Repr

/-- A transaction, or a service call outside one, over Stripe states `S`. -/
abbrev Tx (S : Type) := Prog Database RowKey S AppError

section Statements

variable {S α : Type}

/-- `order.update` by `id_organizationId`; with nested writes of items, `f` changes those too. -/
def orderUpdate (env : Env) (orderId organizationId : Id) (f : OrderRecord → OrderRecord) :
    Tx S OrderRecord :=
  Prog.returning [.order orderId]
    (fun db =>
      match db.order? orderId with
      | some o => if o.organizationId = organizationId then none else some (.prisma "P2025")
      | none => some (.prisma "P2025"))
    (fun db => db.modifyOrder orderId fun o => Order.updated env id (f o))
    (fun db =>
      match db.order? orderId with
      | some o => .ok o
      | none => .error (.prisma "P2025"))

/-- `order.update` with a nested `items: { delete: { id: itemId } }`: the item has to be there. -/
def orderUpdateDeletingItem (env : Env) (orderId organizationId itemId : Id)
    (f : OrderRecord → OrderRecord) : Tx S OrderRecord :=
  Prog.returning [.order orderId]
    (fun db =>
      match db.order? orderId with
      | some o =>
        if o.organizationId = organizationId then
          if o.items.any fun i => i.id == itemId then none else some (.prisma "P2017")
        else some (.prisma "P2025")
      | none => some (.prisma "P2025"))
    (fun db => db.modifyOrder orderId fun o => Order.updated env id (f o))
    (fun db =>
      match db.order? orderId with
      | some o => .ok o
      | none => .error (.prisma "P2025"))

/-- `order.create`. -/
def orderCreate (orderId : Id) (o : OrderRecord) : Tx S OrderRecord :=
  Prog.returning [.order orderId]
    (fun db => if (db.order? orderId).isSome then some (.prisma "P2002") else none)
    (fun db => db.setOrder orderId o)
    (fun _ => .ok o)

/-- `order.delete` by `id_organizationId`; items, payment and attempts cascade. -/
def orderDelete (orderId organizationId : Id) : Tx S Unit :=
  Prog.exec [.order orderId, .payment orderId]
    (fun db =>
      match db.order? orderId with
      | some o => if o.organizationId = organizationId then none else some (.prisma "P2025")
      | none => some (.prisma "P2025"))
    (fun db => { db with orders := db.orders.erase orderId })

/-- `payment.findUnique` by `orderId`, with attempts. -/
def paymentFindByOrder (orderId : Id) : Tx S (Option PaymentWithAttempts) :=
  Prog.select fun db => (db.order? orderId).bind (·.payment)

/-- `payment.findUnique` by `id`, with attempts. -/
def paymentFindById (orderId paymentId : Id) : Tx S (Option PaymentWithAttempts) :=
  Prog.select fun db => db.payment? orderId paymentId

/-- `payment.create`; `orderId` is a foreign key and unique. -/
def paymentCreate (orderId : Id) (p : PaymentWithAttempts) : Tx S PaymentWithAttempts :=
  Prog.returning [.payment orderId]
    (fun db =>
      match db.order? orderId with
      | some o => if o.payment.isSome then some (.prisma "P2002") else none
      | none => some (.prisma "P2003"))
    (fun db => db.modifyOrder orderId fun o => { o with payment := some p })
    (fun _ => .ok p)

/-- A write to the payment of an order, under a constraint. -/
def paymentWrite (rows : List RowKey) (orderId paymentId : Id)
    (violated : Database → Bool) (f : PaymentWithAttempts → PaymentWithAttempts) :
    Tx S PaymentWithAttempts :=
  Prog.returning rows
    (fun db =>
      if (db.payment? orderId paymentId).isSome then
        if violated db then some (.prisma "P2002") else none
      else some (.prisma "P2025"))
    (fun db => db.modifyOrder orderId fun o => { o with payment := o.payment.map f })
    (fun db =>
      match (db.order? orderId).bind (·.payment) with
      | some p => .ok p
      | none => .error (.prisma "P2025"))

/-- `payment.update`. -/
def paymentUpdate (env : Env) (orderId paymentId : Id) (f : Payment → Payment) :
    Tx S PaymentWithAttempts :=
  paymentWrite [.payment orderId] orderId paymentId (fun _ => false) (Payment.updated env f)

/-- `payment.update` that also sets `stripeRefundId`. -/
def paymentUpdateRefundId (env : Env) (orderId paymentId : Id) (refundId : RefundId)
    (f : Payment → Payment) : Tx S PaymentWithAttempts :=
  paymentWrite [.payment orderId] orderId paymentId
    (fun db => db.refundIdTaken orderId (some refundId))
    (Payment.updated env fun p => { f p with stripeRefundId := some refundId })

/-- `payment.delete`. -/
def paymentDelete (orderId paymentId : Id) : Tx S Unit :=
  Prog.exec [.payment orderId]
    (fun db => if (db.payment? orderId paymentId).isSome then none else some (.prisma "P2025"))
    (fun db => db.modifyOrder orderId fun o => { o with payment := none })

/-- `paymentAttempt.create`. -/
def attemptCreate (orderId paymentId : Id) (a : PaymentAttempt) : Tx S PaymentWithAttempts :=
  paymentWrite [.attempt a.id] orderId paymentId
    (fun db => (db.findAttempt? fun b =>
      b.id == a.id || b.stripePaymentIntentId == a.stripePaymentIntentId).isSome)
    fun p => { p with attempts := a :: p.attempts }

/-- One attempt of a list replaced. -/
def updateAttempt (env : Env) (attemptId : Id) (f : PaymentAttempt → PaymentAttempt)
    (attempts : List PaymentAttempt) : List PaymentAttempt :=
  attempts.map fun a => if a.id = attemptId then { f a with updatedAt := env.now } else a

/-- `paymentAttempt.update`. -/
def attemptUpdate (env : Env) (orderId paymentId attemptId : Id)
    (f : PaymentAttempt → PaymentAttempt) : Tx S PaymentWithAttempts :=
  paymentWrite [.attempt attemptId] orderId paymentId (fun _ => false) fun p =>
    { p with attempts := updateAttempt env attemptId f p.attempts }

/-- `paymentAttempt.deleteMany` of one payment. -/
def attemptDeleteMany (orderId paymentId : Id) : Tx S PaymentWithAttempts :=
  paymentWrite [] orderId paymentId (fun _ => false) fun p => { p with attempts := [] }

/-- `auditLog.create`. -/
def auditLogCreate (row : AuditLog) : Tx S Unit :=
  Prog.exec [] (fun _ => none) (fun db => db.addAuditLog row)

end Statements

/-! ## What the statements do -/

section Inversion

variable {S : Type} {env : Env} {db db' : Database} {s s' : S}
  {orderId organizationId paymentId : Id} {o o' : OrderRecord} {p p' : PaymentWithAttempts}

theorem orderUpdate_ok {f : OrderRecord → OrderRecord} :
    (orderUpdate env orderId organizationId f).run db s = (.ok (o', db'), s') ↔
      ∃ o, db.order? orderId = some o ∧ o.organizationId = organizationId ∧
        o' = Order.updated env id (f o) ∧ db' = db.setOrder orderId o' ∧ s' = s := by
  rw [orderUpdate, Prog.run_returning_ok]
  cases h : db.order? orderId with
  | none => simp
  | some o =>
    by_cases hi : o.organizationId = organizationId
    · simp only [hi, if_true, Database.modifyOrder_of_order? _ h, Database.order?_setOrder_self]
      grind
    · simp [hi]

theorem orderUpdateDeletingItem_ok {itemId : Id} {f : OrderRecord → OrderRecord} :
    (orderUpdateDeletingItem env orderId organizationId itemId f).run db s =
        (.ok (o', db'), s') ↔
      ∃ o, db.order? orderId = some o ∧ o.organizationId = organizationId ∧
        (∃ i ∈ o.items, i.id = itemId) ∧ o' = Order.updated env id (f o) ∧
        db' = db.setOrder orderId o' ∧ s' = s := by
  rw [orderUpdateDeletingItem, Prog.run_returning_ok]
  cases h : db.order? orderId with
  | none => simp
  | some o =>
    have hany : (o.items.any fun i => i.id == itemId) = true ↔ ∃ i ∈ o.items, i.id = itemId := by
      simp
    by_cases hi : o.organizationId = organizationId
    · by_cases hitem : ∃ i ∈ o.items, i.id = itemId
      · simp only [hi, hany.mpr hitem, if_true, Database.modifyOrder_of_order? _ h,
          Database.order?_setOrder_self]
        grind
      · simp only [hi, mt hany.mp hitem]
        grind
    · simp [hi]

theorem orderCreate_ok :
    (orderCreate orderId o).run db s = (.ok (o', db'), s') ↔
      db.order? orderId = none ∧ o' = o ∧ db' = db.setOrder orderId o ∧ s' = s := by
  rw [orderCreate, Prog.run_returning_ok]
  cases h : db.order? orderId <;> simp [eq_comm]

theorem orderDelete_ok {u : Unit} :
    (orderDelete orderId organizationId).run db s = (.ok (u, db'), s') ↔
      ∃ o, db.order? orderId = some o ∧ o.organizationId = organizationId ∧
        db' = { db with orders := db.orders.erase orderId } ∧ s' = s := by
  rw [orderDelete, Prog.run_exec_ok]
  cases h : db.order? orderId with
  | none => simp
  | some o => simp

theorem paymentCreate_ok :
    (paymentCreate orderId p).run db s = (.ok (p', db'), s') ↔
      ∃ o, db.order? orderId = some o ∧ o.payment = none ∧ p' = p ∧
        db' = db.setOrder orderId { o with payment := some p } ∧ s' = s := by
  rw [paymentCreate, Prog.run_returning_ok]
  cases h : db.order? orderId with
  | none => simp
  | some o =>
    cases hp : o.payment with
    | none => simp [hp, h, eq_comm]
    | some q => simp [hp]

theorem paymentWrite_ok {rows : List RowKey} {violated : Database → Bool}
    {f : PaymentWithAttempts → PaymentWithAttempts} :
    (paymentWrite rows orderId paymentId violated f).run db s = (.ok (p', db'), s') ↔
      ∃ o p, db.order? orderId = some o ∧ o.payment = some p ∧ p.id = paymentId ∧
        violated db = false ∧ p' = f p ∧
        db' = db.setOrder orderId { o with payment := some p' } ∧ s' = s := by
  rw [paymentWrite, Prog.run_returning_ok]
  cases hq : db.payment? orderId paymentId with
  | none =>
    constructor
    · simp
    · rintro ⟨o, p, ho, hp, hi, -⟩
      rw [Database.payment?_eq_some.mpr ⟨o, ho, hp, hi⟩] at hq
      cases hq
  | some p =>
    obtain ⟨o, ho, hp, hi⟩ := Database.payment?_eq_some.mp hq
    simp only [Option.isSome_some, if_true, Database.modifyOrder_of_order? _ ho, hp,
      Option.map_some, Database.order?_setOrder_self, Option.bind_some, ho]
    cases violated db <;> grind

theorem paymentDelete_ok {u : Unit} :
    (paymentDelete orderId paymentId).run db s = (.ok (u, db'), s') ↔
      ∃ o p, db.order? orderId = some o ∧ o.payment = some p ∧ p.id = paymentId ∧
        db' = db.setOrder orderId { o with payment := none } ∧ s' = s := by
  rw [paymentDelete, Prog.run_exec_ok]
  cases hq : db.payment? orderId paymentId with
  | none =>
    constructor
    · simp
    · rintro ⟨o, p, ho, hp, hi, -⟩
      rw [Database.payment?_eq_some.mpr ⟨o, ho, hp, hi⟩] at hq
      cases hq
  | some p =>
    obtain ⟨o, ho, hp, hi⟩ := Database.payment?_eq_some.mp hq
    simp [ho, hp, hi]

theorem auditLogCreate_ok {row : AuditLog} {u : Unit} :
    (auditLogCreate row).run db s = (.ok (u, db'), s') ↔ db' = db.addAuditLog row ∧ s' = s := by
  simp [auditLogCreate, Prog.run_exec_ok]

end Inversion

/-! ## One order replaced

Every write of the services ends up as one order's row replaced, with what hangs from it, and
audit rows added. -/

/-- The audit log as far as it counts: which row an entry is about, and what happened. -/
def Database.auditRows (db : Database) : List (Id × AuditAction) :=
  db.auditLogs.map fun row => (row.entityId, row.action)

/-- `db'` is `db` with the order `orderId` replaced by `o` and `rows` added to the audit log. -/
structure Database.Puts (db : Database) (orderId : Id) (o : OrderRecord)
    (rows : List (Id × AuditAction)) (db' : Database) : Prop where
  order? : ∀ k, db'.order? k = if k = orderId then some o else db.order? k
  auditRows : db'.auditRows = rows ++ db.auditRows

/-- No order and no audit row differs. -/
structure Database.Keeps (db db' : Database) : Prop where
  order? : ∀ k, db'.order? k = db.order? k
  auditRows : db'.auditRows = db.auditRows

theorem Database.Keeps.refl (db : Database) : db.Keeps db := ⟨fun _ => rfl, rfl⟩

theorem Database.Keeps.trans {db db₁ db₂ : Database} (h : db.Keeps db₁) (h' : db₁.Keeps db₂) :
    db.Keeps db₂ :=
  ⟨fun k => (h'.order? k).trans (h.order? k), h'.auditRows.trans h.auditRows⟩

theorem Database.keeps_setReceipt (db : Database) (event : StripeEventId)
    (r : StripeWebhookReceipt) : db.Keeps (db.setReceipt event r) := ⟨fun _ => rfl, rfl⟩

namespace Database.Puts

variable {db db₁ db₂ : Database} {orderId : Id} {o o' : OrderRecord}
  {rows rows' : List (Id × AuditAction)}

theorem order?_self (h : db.Puts orderId o rows db₁) : db₁.order? orderId = some o := by
  simp [h.order?]

theorem refl (h : db.order? orderId = some o) : db.Puts orderId o [] db := by
  refine ⟨fun k => ?_, rfl⟩
  split
  · next hk => rw [hk, h]
  · rfl

theorem of_keeps (hk : db.Keeps db₁) (h : db₁.Puts orderId o rows db₂) :
    db.Puts orderId o rows db₂ :=
  ⟨fun k => by rw [h.order?, hk.order?], by rw [h.auditRows, hk.auditRows]⟩

theorem then_keeps (h : db.Puts orderId o rows db₁) (hk : db₁.Keeps db₂) :
    db.Puts orderId o rows db₂ :=
  ⟨fun k => by rw [hk.order?, h.order?], by rw [hk.auditRows, h.auditRows]⟩

theorem set (db : Database) (orderId : Id) (o : OrderRecord) :
    db.Puts orderId o [] (db.setOrder orderId o) :=
  ⟨fun _ => Database.order?_setOrder .., rfl⟩

theorem trans (h : db.Puts orderId o rows db₁) (h' : db₁.Puts orderId o' rows' db₂) :
    db.Puts orderId o' (rows' ++ rows) db₂ := by
  refine ⟨fun k => ?_, ?_⟩
  · rw [h'.order?, h.order?]
    split <;> rfl
  · rw [h'.auditRows, h.auditRows, List.append_assoc]

theorem log (h : db.Puts orderId o rows db₁) (row : AuditLog) :
    db.Puts orderId o ((row.entityId, row.action) :: rows) (db₁.addAuditLog row) := by
  refine ⟨h.order?, ?_⟩
  simp only [Database.auditRows, auditLogs_addAuditLog, List.map_cons]
  exact congrArg (List.cons _) h.auditRows

end Database.Puts

end LedgerLight
