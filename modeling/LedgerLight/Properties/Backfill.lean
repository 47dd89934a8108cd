import LedgerLight.Migration.PaymentsV2
import LedgerLight.Payment.Spec

/-!
# The migration and the lazy backfill

Orders from before payments get one twice: the migration inserts payments for all of them, and
`ensureLegacyPaymentForOrderTx` creates one for an order that is found without.

* `insertPayments_ok` : one `INSERT` of the migration, as what every order has of a payment.
* `paymentsV2_runs` : the migration never fails, and the payments it leaves.
* `migration_agrees` : it leaves the payments that the lazy backfill would have created.
-/

namespace LedgerLight

open Infra

variable {orders : Table Id LegacyOrder} {orderId : Id} {o : LegacyOrder}
  {payments : Table PayId BackfilledPayment} {row : BackfilledPayment}

/-! ## The payments of the orders -/

/-- Every order has the payment `f`, under its own key, and there are no others. -/
def PaymentsAre (orders : Table Id LegacyOrder) (f : Id → LegacyOrder → Option BackfilledPayment)
    (payments : Table PayId BackfilledPayment) : Prop :=
  ∀ orderId row, payments.lookup ⟨orderId⟩ = some row ↔
    ∃ o, orders.lookup orderId = some o ∧ f orderId o = some row

/-- **One `INSERT`**, for orders that have no payment yet. -/
theorem insertPayments_ok (test : LegacyOrder → Bool)
    (insert : Id → LegacyOrder → BackfilledPayment)
    {f : Id → LegacyOrder → Option BackfilledPayment}
    (h : PaymentsAre orders f payments) (hnone : ∀ orderId o, test o = true → f orderId o = none) :
    ∃ payments', insertPayments orders test insert payments = some payments' ∧
      PaymentsAre orders (fun orderId o => if test o then some (insert orderId o) else f orderId o)
        payments' := by
  unfold insertPayments
  have hmem {k : PayId} {row : BackfilledPayment} :
      (k, row) ∈ ((orders.select fun _ o => test o).map fun r => (PayId.mk r.1, insert r.1 r.2)) ↔
        ∃ o, orders.lookup k.orderId = some o ∧ test o = true ∧ row = insert k.orderId o := by
    rw [List.mem_map]
    constructor
    · rintro ⟨⟨orderId, o⟩, hr, he⟩
      cases he
      obtain ⟨ho, htest⟩ := Table.mem_select.mp hr
      exact ⟨o, ho, htest, rfl⟩
    · rintro ⟨o, ho, htest, rfl⟩
      exact ⟨(k.orderId, o), Table.mem_select.mpr ⟨ho, htest⟩, rfl⟩
  have hkeys : (((orders.select fun _ o => test o).map fun r =>
      (PayId.mk r.1, insert r.1 r.2)).map Prod.fst).Nodup := by
    have hfst : (((orders.select fun _ o => test o).map fun r =>
        (PayId.mk r.1, insert r.1 r.2)).map Prod.fst) =
          ((orders.select fun _ o => test o).map Prod.fst).map PayId.mk := by
      rw [List.map_map, List.map_map]
      rfl
    rw [hfst]
    refine List.Nodup.map (fun _ _ he => congrArg PayId.orderId he) ?_
    exact (Table.nodup_rows orders).sublist (List.filter_sublist.map _)
  obtain ⟨payments', hinsert, hrows⟩ := Sql.insertAll_ok (t := payments) hkeys fun ⟨k, row⟩ hr => by
    obtain ⟨o, ho, htest, -⟩ := hmem.mp hr
    cases hk : payments.lookup k with
    | none => rfl
    | some row' =>
      obtain ⟨o', ho', hf⟩ := (h k.orderId row').mp hk
      obtain rfl := Option.some.inj (ho.symm.trans ho')
      rw [hnone _ _ htest] at hf
      cases hf
  refine ⟨payments', hinsert, fun orderId row => ?_⟩
  rw [hrows, h orderId row, hmem]
  dsimp only
  constructor
  · rintro (⟨o, ho, hf⟩ | ⟨o, ho, htest, rfl⟩)
    · refine ⟨o, ho, ?_⟩
      have hnot : ¬ test o = true := fun htest => by
        rw [hnone _ _ htest] at hf
        cases hf
      rw [if_neg hnot]
      exact hf
    · exact ⟨o, ho, by rw [if_pos htest]⟩
  · rintro ⟨o, ho, hf⟩
    split at hf
    · next htest => exact Or.inr ⟨o, ho, htest, (Option.some.inj hf).symm⟩
    · exact Or.inl ⟨o, ho, hf⟩

/-- The payment that the four `INSERT`s give an order. -/
def backfilledPayment (orderId : Id) (o : LegacyOrder) : Option BackfilledPayment :=
  match o.status with
  | .pending => none
  | .confirmed => some (confirmedPayment orderId o)
  | .cancelled => if o.placedAt.isSome then some (cancelledPayment orderId o) else none
  | .fulfilled => some (fulfilledPayment orderId o)
  | .refunded => some (refundedPayment orderId o)

theorem orderId_of_backfilledPayment (h : backfilledPayment orderId o = some row) :
    row.orderId = orderId := by
  unfold backfilledPayment at h
  split at h
  · cases h
  · cases h; rfl
  · split at h
    · cases h; rfl
    · cases h
  · cases h; rfl
  · cases h; rfl

/-- The four tests exclude each other, so the `INSERT`s do not meet. -/
theorem backfill_inserts (orders : Table Id LegacyOrder) :
    ∃ p₁ p₂ p₃ p₄, insertPayments orders isFulfilled fulfilledPayment ∅ = some p₁ ∧
      insertPayments orders isConfirmed confirmedPayment p₁ = some p₂ ∧
      insertPayments orders isCancelledOnce cancelledPayment p₂ = some p₃ ∧
      insertPayments orders isRefunded refundedPayment p₃ = some p₄ ∧
      PaymentsAre orders backfilledPayment p₄ := by
  have hempty : PaymentsAre orders (fun _ _ => none) ∅ := fun orderId row => by simp
  obtain ⟨p₁, h₁, hp₁⟩ := insertPayments_ok isFulfilled fulfilledPayment hempty
    fun _ _ _ => rfl
  obtain ⟨p₂, h₂, hp₂⟩ := insertPayments_ok isConfirmed confirmedPayment hp₁
    fun orderId o h => by
      have hs : o.status = .confirmed := by simpa [isConfirmed] using h
      simp [isFulfilled, hs]
  obtain ⟨p₃, h₃, hp₃⟩ := insertPayments_ok isCancelledOnce cancelledPayment hp₂
    fun orderId o h => by
      have hs : o.status = .cancelled := (by simpa [isCancelledOnce] using h :
        o.status = .cancelled ∧ o.placedAt.isSome = true).1
      simp [isFulfilled, isConfirmed, hs]
  obtain ⟨p₄, h₄, hp₄⟩ := insertPayments_ok isRefunded refundedPayment hp₃
    fun orderId o h => by
      have hs : o.status = .refunded := by simpa [isRefunded] using h
      simp [isFulfilled, isConfirmed, isCancelledOnce, hs]
  refine ⟨p₁, p₂, p₃, p₄, h₁, h₂, h₃, h₄, fun orderId row => ?_⟩
  rw [hp₄ orderId row]
  refine exists_congr fun o => and_congr_right fun _ => ?_
  unfold backfilledPayment
  cases hs : o.status <;> simp [isFulfilled, isConfirmed, isCancelledOnce, isRefunded, hs]

/-! ## The whole migration -/

/-- The order after the `UPDATE` and with the new type of its status. -/
def migratedOrder (o : LegacyOrder) : MigratedOrder :=
  (normalizeRefunded o).cast ((castStatus (normalizeRefunded o).status).getD .pending)

/-- No order is refunded any more when the type of the status changes. -/
theorem alterStatus_normalized (orders : Table Id LegacyOrder) :
    ∃ orders', alterStatus (orders.mapRows normalizeRefunded) = some orders' ∧
      ∀ orderId, orders'.lookup orderId = (orders.lookup orderId).map migratedOrder := by
  have hnone : (orders.mapRows normalizeRefunded).countRows
      (fun _ o => (castStatus o.status).isNone) = 0 := by
    refine Table.countRows_eq_zero.mpr fun orderId o ho => ?_
    rw [Table.lookup_mapRows] at ho
    obtain ⟨o', -, rfl⟩ := Option.map_eq_some_iff.mp ho
    unfold normalizeRefunded isRefunded
    cases hs : o'.status <;> simp [hs, castStatus]
  unfold alterStatus
  rw [if_pos hnone]
  refine ⟨_, rfl, fun orderId => ?_⟩
  rw [Table.lookup_mapRows, Table.lookup_mapRows, Option.map_map]
  rfl

/-- A payment has the key of its order. -/
theorem uniqueOrderId_ok (h : PaymentsAre orders backfilledPayment payments) :
    uniqueOrderId payments = some () := by
  have hkey : ∀ e ∈ payments.entries, e.2.orderId = e.1.orderId := fun e he => by
    obtain ⟨o, -, hf⟩ := (h e.1.orderId e.2).mp (AList.mem_lookup_iff.mpr he)
    exact orderId_of_backfilledPayment hf
  have hnodup : (payments.entries.map fun e => e.2.orderId).Nodup := by
    have hmap : (payments.entries.map fun e => e.2.orderId) =
        (payments.entries.map Sigma.fst).map PayId.orderId := by
      rw [List.map_map]
      exact List.map_congr_left hkey
    have hkeys : (payments.entries.map Sigma.fst).Nodup := payments.nodupKeys
    rw [hmap]
    exact List.Nodup.map (fun ⟨_⟩ ⟨_⟩ he => congrArg PayId.mk he) hkeys
  exact if_pos hnodup

/-- **The migration never fails**: every order has the payment of its status. -/
theorem paymentsV2_runs (orders : Table Id LegacyOrder) :
    ∃ m, paymentsV2 orders = some m ∧ PaymentsAre orders backfilledPayment m.payments ∧
      ∀ orderId, m.orders.lookup orderId = (orders.lookup orderId).map migratedOrder := by
  obtain ⟨p₁, p₂, p₃, p₄, h₁, h₂, h₃, h₄, hp⟩ := backfill_inserts orders
  obtain ⟨orders', halter, horders⟩ := alterStatus_normalized orders
  refine ⟨{ orders := orders', payments := p₄ }, ?_, hp, horders⟩
  unfold paymentsV2
  simp only [h₁, h₂, h₃, h₄, halter, uniqueOrderId_ok hp, Option.bind_eq_bind, Option.bind_some]
  rfl

/-! ## The lazy backfill -/

namespace Migrated

/-- The row is a payment of the order. -/
def PaymentOf (m : Migrated) (orderId : Id) (row : BackfilledPayment) : Prop :=
  ∃ k, m.payments.lookup k = some row ∧ row.orderId = orderId

def HasPayment (m : Migrated) (orderId : Id) : Prop := ∃ row, m.PaymentOf orderId row

end Migrated

/-- The row has what the lazily created payment `p` of the order would have. -/
structure BackfilledPayment.Agrees (row : BackfilledPayment) (orderId : Id) (p : Payment) :
    Prop where
  organizationId : row.organizationId = p.organizationId
  orderId : row.orderId = orderId
  method : row.method = p.method
  paymentStatus : row.paymentStatus = p.paymentStatus
  refundStatus : row.refundStatus = p.refundStatus
  amountCents : row.amountCents = p.amountCents
  currencyCode : row.currencyCode = p.currencyCode
  paidAt : row.paidAt = p.paidAt
  createdAt : row.createdAt = p.createdAt

/-- The migration left the order a payment if and only if one would be created, and that one. -/
def Migrated.AgreesWith (m : Migrated) (orderId : Id) : Option PaymentWithAttempts → Prop
  | none => ¬ m.HasPayment orderId
  | some p => ∃ row, m.PaymentOf orderId row ∧ row.Agrees orderId p.toPayment

/-- What the lazy backfill creates for an order that has no payment. -/
theorem ensureLegacyPaymentForOrderTx_runs {S : Type} (s : S) {db : Database} (env : Env)
    {order : OrderRecord} (ho : db.order? orderId = some order) (hp : order.payment = none)
    (organizationId : Id) (status : OrderStatus) (amountCents : Int) (createdAt : Date)
    (placedAt : Option Date) :
    ∃ db', (ensureLegacyPaymentForOrderTx env orderId organizationId status amountCents createdAt
        placedAt).run db s =
      (.ok (if withoutLegacyPayment status placedAt then none
        else some (legacyPayment env organizationId status amountCents createdAt placedAt), db'),
        s) := by
  have hfind : (paymentFindByOrder orderId : Tx S _).run db s = (.ok (none, db), s) :=
    (paymentFindByOrder_ok ho).mpr ⟨hp.symm, rfl, rfl⟩
  unfold ensureLegacyPaymentForOrderTx
  rw [Prog.run_bind_of hfind]
  dsimp only
  by_cases hw : withoutLegacyPayment status placedAt
  · rw [if_pos hw, if_pos hw]
    exact ⟨_, rfl⟩
  · rw [if_neg hw, if_neg hw]
    exact ⟨_, Prog.run_map_ok.mpr ⟨_, rfl, paymentCreate_ok.mpr ⟨order, ho, hp, rfl, rfl, rfl⟩⟩⟩

theorem paymentOf_iff {m : Migrated} (hp : PaymentsAre orders backfilledPayment m.payments)
    (ho : orders.lookup orderId = some o) :
    m.PaymentOf orderId row ↔ backfilledPayment orderId o = some row := by
  constructor
  · rintro ⟨⟨k⟩, hk, rfl⟩
    obtain ⟨o', ho', hf⟩ := (hp k row).mp hk
    obtain rfl := orderId_of_backfilledPayment hf
    obtain rfl := Option.some.inj (ho.symm.trans ho')
    exact hf
  · intro hf
    exact ⟨⟨orderId⟩, (hp orderId row).mpr ⟨o, ho, hf⟩, orderId_of_backfilledPayment hf⟩

theorem hasPayment_iff {m : Migrated} (hp : PaymentsAre orders backfilledPayment m.payments)
    (ho : orders.lookup orderId = some o) :
    m.HasPayment orderId ↔ (migratedOrder o).status = .confirmed ∨
      (migratedOrder o).status = .fulfilled ∨
      (migratedOrder o).status = .cancelled ∧ (migratedOrder o).placedAt ≠ none := by
  unfold Migrated.HasPayment
  simp only [paymentOf_iff hp ho]
  unfold backfilledPayment migratedOrder normalizeRefunded isRefunded OrderColumns.cast
  cases hs : o.status <;> cases hplaced : o.placedAt <;> simp [hs, hplaced, castStatus]

theorem agreesWith_legacyPayment {m : Migrated} {env : Env}
    (hp : PaymentsAre orders backfilledPayment m.payments) (ho : orders.lookup orderId = some o)
    (hs : o.status ≠ .refunded) :
    m.AgreesWith orderId
      (if withoutLegacyPayment (migratedOrder o).status (migratedOrder o).placedAt then none
      else some (legacyPayment env (migratedOrder o).organizationId (migratedOrder o).status
        (migratedOrder o).totalCents (migratedOrder o).createdAt (migratedOrder o).placedAt)) := by
  have hhas := hasPayment_iff hp ho
  have hsame : normalizeRefunded o = o := if_neg (by simpa [isRefunded] using hs)
  by_cases hw : withoutLegacyPayment (migratedOrder o).status (migratedOrder o).placedAt
  · rw [if_pos hw]
    show ¬ m.HasPayment orderId
    rw [hhas]
    rcases hw with h | ⟨h, hnone⟩
    · simp [h]
    · simp [h, hnone]
  · rw [if_neg hw]
    have hrow : ∃ row, backfilledPayment orderId o = some row ∧
        row.Agrees orderId (legacyPayment env (migratedOrder o).organizationId
          (migratedOrder o).status (migratedOrder o).totalCents (migratedOrder o).createdAt
          (migratedOrder o).placedAt).toPayment := by
      unfold migratedOrder at hw ⊢
      rw [hsame] at hw ⊢
      unfold backfilledPayment
      cases hstatus : o.status with
      | pending => exact absurd (Or.inl (by rw [hstatus]; rfl)) hw
      | confirmed => exact ⟨_, rfl, rfl, rfl, rfl, rfl, rfl, rfl, rfl, rfl, rfl⟩
      | cancelled =>
        have hplaced : o.placedAt.isSome = true := by
          cases hplaced : o.placedAt with
          | some d => rfl
          | none => exact absurd (Or.inr ⟨by rw [hstatus]; rfl, hplaced⟩) hw
        dsimp only
        rw [if_pos hplaced]
        exact ⟨_, rfl, rfl, rfl, rfl, rfl, rfl, rfl, rfl, rfl, rfl⟩
      | fulfilled => exact ⟨_, rfl, rfl, rfl, rfl, rfl, rfl, rfl, rfl, rfl, rfl⟩
      | refunded => exact absurd hstatus hs
    obtain ⟨row, hf, hagrees⟩ := hrow
    exact ⟨row, (paymentOf_iff hp ho).mpr hf, hagrees⟩

/-- **The migration and the lazy backfill agree.** No order has two payments; the orders that have
one are those that were confirmed; it is the one that the lazy backfill would have created; and a
refunded order is fulfilled, paid and refunded. -/
theorem migration_agrees (orders : Table Id LegacyOrder) :
    ∃ m, paymentsV2 orders = some m ∧
      (∀ k k' row row', m.payments.lookup k = some row → m.payments.lookup k' = some row' →
        row.orderId = row'.orderId → k = k') ∧
      ∀ orderId o, orders.lookup orderId = some o →
        ∃ o', m.orders.lookup orderId = some o' ∧
          (m.HasPayment orderId ↔ o'.status = .confirmed ∨ o'.status = .fulfilled ∨
            o'.status = .cancelled ∧ o'.placedAt ≠ none) ∧
          (o.status ≠ .refunded →
            ∀ (S : Type) (env : Env) (db : Database) (s : S) (order : OrderRecord),
              db.order? orderId = some order → order.payment = none →
              ∃ created db', (ensureLegacyPaymentForOrderTx env orderId o'.organizationId o'.status
                  o'.totalCents o'.createdAt o'.placedAt).run db s = (.ok (created, db'), s) ∧
                m.AgreesWith orderId created) ∧
          (o.status = .refunded → o'.status = .fulfilled ∧
            ∃ row, m.PaymentOf orderId row ∧ row.paymentStatus = .paid ∧
              row.refundStatus = .refunded) := by
  obtain ⟨m, hm, hp, horders⟩ := paymentsV2_runs orders
  refine ⟨m, hm, ?_, fun orderId o ho => ?_⟩
  · rintro ⟨k⟩ ⟨k'⟩ row row' hk hk' he
    obtain ⟨o, -, hf⟩ := (hp k row).mp hk
    obtain ⟨o', -, hf'⟩ := (hp k' row').mp hk'
    rw [orderId_of_backfilledPayment hf, orderId_of_backfilledPayment hf'] at he
    rw [he]
  · refine ⟨migratedOrder o, by rw [horders, ho]; rfl, hasPayment_iff hp ho, ?_, ?_⟩
    · intro hs S env db s order horder hnone
      obtain ⟨db', hrun⟩ := ensureLegacyPaymentForOrderTx_runs s env horder hnone
        (migratedOrder o).organizationId (migratedOrder o).status (migratedOrder o).totalCents
        (migratedOrder o).createdAt (migratedOrder o).placedAt
      exact ⟨_, db', hrun, agreesWith_legacyPayment hp ho hs⟩
    · intro hs
      have hnormal : normalizeRefunded o = { o with status := .fulfilled, cancelledAt := none } :=
        if_pos (by simp [isRefunded, hs])
      refine ⟨by rw [migratedOrder, hnormal]; rfl, refundedPayment orderId o, ?_, rfl, rfl⟩
      refine (paymentOf_iff hp ho).mpr ?_
      unfold backfilledPayment
      rw [hs]

end LedgerLight
