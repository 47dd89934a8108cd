import LedgerLight.System.OrderMoves
import LedgerLight.System.Api

/-!
# What an order refers to

An order names a customer, a location, products and a payment by their ids, and the foreign keys do
not say of which organization these are. The services look at it when an order is created or
changed.

* `Database.OrderStep` : what a call under an organization does to the orders, and that the order it
  writes refers to rows of that organization if it did so before.
* `RouteCall.order_step`, `StripeEvent.order_step` : every call, and every webhook, does that.
-/

namespace LedgerLight

open Infra Prog

variable {S M : Type}

/-- The rows that an order refers to are there and of its organization. -/
structure Database.OrderRefs (db : Database) (o : OrderRecord) : Prop where
  customer : ∀ c, o.customerId = some c →
    ∃ row, db.customers.lookup c = some row ∧ row.organizationId = o.organizationId
  location : ∀ l, o.locationId = some l →
    ∃ row, db.locations.lookup l = some row ∧ row.organizationId = o.organizationId
  items : ∀ item ∈ o.items, item.organizationId = o.organizationId ∧
    ∃ product, db.products.lookup item.productId = some product ∧
      product.organizationId = o.organizationId
  payment : ∀ p, o.payment = some p → p.organizationId = o.organizationId

/-- What a call under the organization `x` does to the orders. -/
inductive Database.OrderStep (db : Database) (x orderId : Id) : Database → Prop
  | keeps {db' : Database} (keeps : db.Keeps db') : db.OrderStep x orderId db'
  | creates {o : OrderRecord} {rows : List (Id × AuditAction)} {db' : Database}
      (new : db.order? orderId = none) (puts : db.Puts orderId o rows db')
      (organizationId : o.organizationId = x) (refs : db.OrderRefs o) : db.OrderStep x orderId db'
  | changes {o o' : OrderRecord} {rows : List (Id × AuditAction)} {db' : Database}
      (order : db.order? orderId = some o) (puts : db.Puts orderId o' rows db')
      (organizationId : o.organizationId = x) (organizationId' : o'.organizationId = x)
      (refs : db.OrderRefs o → db.OrderRefs o') : db.OrderStep x orderId db'
  | deletes {o : OrderRecord} (order : db.order? orderId = some o)
      (organizationId : o.organizationId = x) :
      db.OrderStep x orderId { db with orders := db.orders.erase orderId }

section

variable {env : Env} {org : CurrentOrg} {db db' : Database} {s s' : S} {x orderId : Id}
  {o o' : OrderRecord} {rows : List (Id × AuditAction)} {auditContext : AuditContext}

theorem OrderRecord.Same.refs (h : o.Same o') (hrefs : db.OrderRefs o) : db.OrderRefs o' where
  customer := by rw [h.customerId, h.organizationId]; exact hrefs.customer
  location := by rw [h.locationId, h.organizationId]; exact hrefs.location
  items := by rw [h.items, h.organizationId]; exact hrefs.items
  payment p' hp' := by
    rw [h.organizationId]
    rcases h.payment p' hp' with he | ⟨p, hp, he⟩
    · exact he
    · exact he.trans (hrefs.payment p hp)

namespace Database.OrderStep

theorem refl (db : Database) (x orderId : Id) : db.OrderStep x orderId db := .keeps (.refl db)

theorem of_moves (h : db.Moves x orderId db') : db.OrderStep x orderId db' := by
  cases h with
  | keeps keeps => exact .keeps keeps
  | puts order organizationId same puts =>
    exact .changes order puts organizationId (same.organizationId.trans organizationId) same.refs

/-- A change of an order that the actor sees, which is still the same order after it. -/
theorem of_same (ho : db.order? orderId = some o) (hv : o.visibleTo org = true)
    (hput : db.Puts orderId o' rows db') (h : o.Same o') : db.OrderStep org.organizationId orderId db' :=
  of_moves (.puts ho (OrderRecord.organizationId_of_visibleTo hv) h hput)

theorem transaction {α : Type} {t : Tx S α}
    (h : ∀ a db' s', t.run db s = (.ok (a, db'), s') → db.OrderStep x orderId db') :
    db.OrderStep x orderId ((Prog.transaction t).runAuto db s).2.1 := by
  rw [runAuto_transaction]
  rcases hrun : t.run db s with ⟨e | ⟨a, db'⟩, s'⟩
  · exact refl ..
  · exact h a db' s' hrun

theorem clean {α : Type} {t : Tx S α} (ht : t.FailsClean)
    (h : ∀ a db' s', t.run db s = (.ok (a, db'), s') → db.OrderStep x orderId db') :
    db.OrderStep x orderId (t.runAuto db s).2.1 := by
  rcases hrun : t.runAuto db s with ⟨e | a, db', s'⟩
  · obtain ⟨rfl, -⟩ := ht db s e db' s' hrun
    exact refl ..
  · exact h a db' s' (runAuto_ok.mp hrun)

end Database.OrderStep

/-! ## New orders, metadata and items -/

/-- The row that a service looks up for a reference is of the organization. -/
theorem owned_of_any {ρ : Type} {row? : Option ρ} {owner : ρ → Id} {p : ρ → Bool}
    (h : row?.any p = true) (hp : ∀ row, p row = true → (owner row == x) = true) :
    ∃ row, row? = some row ∧ owner row = x := by
  obtain ⟨row, hrow, htest⟩ := Option.any_eq_true _ _ |>.mp h
  exact ⟨row, hrow, beq_iff_eq.mp (hp row htest)⟩

theorem Database.owned_of_activeProduct? {productId : Id} {product : Product}
    (h : db.activeProduct? x productId = some product) :
    db.products.lookup productId = some product ∧ product.organizationId = x := by
  obtain ⟨hlookup, htest⟩ := Option.filter_eq_some_iff.mp h
  exact ⟨hlookup, beq_iff_eq.mp (Bool.and_eq_true _ _ ▸ htest).1⟩

/-- Every line is one of a product of the organization. -/
theorem computeLineItems_owned {raws : List CreateOrderItemDto} {items : List OrderItem}
    {totals : OrderTotals} {n : Nat}
    (h : computeLineItems env x (db.activeProduct? x) n raws [] {} = .ok (items, totals)) :
    ∀ item ∈ items, item.organizationId = x ∧
      ∃ product, db.products.lookup item.productId = some product ∧
        product.organizationId = x := by
  obtain ⟨new, hitems, hlines, -⟩ := computeLineItems_lines h
  obtain rfl : items = new := hitems
  intro item hitem
  have hline : some item.withoutId ∈ raws.map (plainLine x (db.activeProduct? x)) :=
    hlines ▸ List.mem_map_of_mem hitem
  obtain ⟨raw, -, hraw⟩ := List.mem_map.mp hline
  obtain ⟨product, hproduct, he⟩ := Option.map_eq_some_iff.mp hraw
  obtain ⟨hlookup, howner⟩ := Database.owned_of_activeProduct? hproduct
  have hid : raw.productId = item.productId := congrArg OrderItem.productId he
  exact ⟨(congrArg OrderItem.organizationId he).symm, product, hid ▸ hlookup, howner⟩

theorem createOrder_step {data : CreateOrderDto} {created : Id × OrderRecord}
    (h : (createOrder env org data).run db s = (.ok (created, db'), s')) :
    db.OrderStep org.organizationId (env.uuid 0) db' := by
  obtain ⟨hdata, hnew, items, totals, hlines, -, rfl, -⟩ := createOrder_eq_ok.mp h
  refine .creates hnew (Database.Puts.set ..) rfl
    ⟨fun c hc => ?_, fun l hl => ?_, ?_, fun p hp => by cases hp⟩
  · have hcustomer := hdata.customer
    rw [show data.customerId = some c from hc, Option.all_some] at hcustomer
    exact owned_of_any hcustomer fun _ => id
  · have hlocation := hdata.location
    rw [show data.locationId = some l from hl, Option.all_some] at hlocation
    exact owned_of_any hlocation fun _ htest => (Bool.and_eq_true _ _ ▸ htest).1
  · exact computeLineItems_owned hlines

theorem transitionStatus_step {stripe : StripeService S M} {toStatus : OrderStatus}
    (h : (transitionStatus stripe env org orderId toStatus auditContext).run db s =
      (.ok (o', db'), s')) :
    db.OrderStep org.organizationId orderId db' := by
  obtain ⟨o, rows, ho, hv, htransition, hput⟩ := transitionStatus_ok h
  exact .of_same ho hv hput htransition.same

theorem deleteOrder_step {u : Unit}
    (h : (deleteOrder org orderId).run db s = (.ok (u, db'), s')) :
    db.OrderStep org.organizationId orderId db' := by
  obtain ⟨o, ho, horg, -, rfl, -⟩ := deleteOrder_ok h
  exact .deletes ho horg

/-- The references of an update are looked up as those of a new order. -/
theorem updateOrder_checked {data : UpdateOrderDto}
    (h : (updateOrder env org orderId data).run db s = (.ok (o', db'), s')) :
    (∀ c, data.customerId = some (some c) →
      ∃ row, db.customers.lookup c = some row ∧ row.organizationId = org.organizationId) ∧
      ∀ l, data.locationId = some (some l) →
        ∃ row, db.locations.lookup l = some row ∧ row.organizationId = org.organizationId := by
  obtain ⟨d, d₁, t₁, run_read, h₁⟩ := run_bind_ok.mp h
  obtain ⟨rfl, rfl, rfl⟩ := run_select_ok.mp run_read
  obtain ⟨u₂, d₂, t₂, run_customer, h₂⟩ := run_bind_ok.mp h₁
  obtain ⟨hcustomer, rfl, rfl⟩ := run_require_ok.mp run_customer
  obtain ⟨u₃, d₃, t₃, run_scope, h₃⟩ := run_bind_ok.mp h₂
  obtain ⟨-, rfl, rfl⟩ := run_ofExcept_ok.mp run_scope
  obtain ⟨u₄, d₄, t₄, run_location, -⟩ := run_bind_ok.mp h₃
  obtain ⟨hlocation, -, -⟩ := run_require_ok.mp run_location
  constructor
  · intro c hc
    rw [hc] at hcustomer
    exact owned_of_any hcustomer fun _ => id
  · intro l hl
    rw [hl] at hlocation
    exact owned_of_any hlocation fun _ htest => (Bool.and_eq_true _ _ ▸ htest).1

theorem updateOrder_step {data : UpdateOrderDto}
    (h : (updateOrder env org orderId data).run db s = (.ok (o', db'), s')) :
    db.OrderStep org.organizationId orderId db' := by
  obtain ⟨hcustomer, hlocation⟩ := updateOrder_checked h
  obtain ⟨o, ho, horg, -, -, rfl, hput, -⟩ := updateOrder_ok h
  refine .changes ho hput horg horg fun hrefs =>
    ⟨fun c hc => ?_, fun l hl => ?_, hrefs.items, hrefs.payment⟩
  · replace hc : data.customerId.getD o.customerId = some c := hc
    cases hdata : data.customerId with
    | none => exact hrefs.customer c (by rw [← hc, hdata]; rfl)
    | some given =>
      obtain rfl : given = some c := by rw [← hc, hdata]; rfl
      exact horg ▸ hcustomer c hdata
  · replace hl : data.locationId.getD o.locationId = some l := hl
    cases hdata : data.locationId with
    | none => exact hrefs.location l (by rw [← hl, hdata]; rfl)
    | some given =>
      obtain rfl : given = some l := by rw [← hl, hdata]; rfl
      exact horg ▸ hlocation l hdata

theorem addOrderItem_step {data : CreateOrderItemDto}
    (h : (addOrderItem env org orderId data).run db s = (.ok (o', db'), s')) :
    db.OrderStep org.organizationId orderId db' := by
  obtain ⟨o, product, ho, hv, -, hproduct, -, -, rfl, rfl, -⟩ := addOrderItem_eq_ok.mp h
  have horg := OrderRecord.organizationId_of_visibleTo hv
  obtain ⟨hlookup, howner⟩ := Option.filter_eq_some_iff.mp hproduct
  refine .changes ho (Database.Puts.set ..) horg horg fun hrefs =>
    ⟨hrefs.customer, hrefs.location, ?_, hrefs.payment⟩
  intro item hitem
  rcases List.mem_append.mp (show item ∈ o.items ++ [_] from hitem) with hold | hnew
  · exact hrefs.items item hold
  · obtain rfl := List.mem_singleton.mp hnew
    exact ⟨horg.symm, product, hlookup, (beq_iff_eq.mp howner).trans horg.symm⟩

theorem deleteOrderItem_step {itemId : Id}
    (h : (deleteOrderItem env org orderId itemId).run db s = (.ok (o', db'), s')) :
    db.OrderStep org.organizationId orderId db' := by
  obtain ⟨o, deleted, ho, horg, -, -, -, -, rfl, hput, -⟩ := deleteOrderItem_ok h
  refine .changes ho hput horg horg fun hrefs =>
    ⟨hrefs.customer, hrefs.location, ?_, hrefs.payment⟩
  intro item hitem
  have hkept : item ∈ o.items.filter fun i => i.id != deleted.id := hitem
  exact hrefs.items item (List.mem_filter.mp hkept).1

/-! ## Payments -/

/-- A payment takes the place of the one that a call works with. -/
theorem OrderRecord.same_of_paymentOrLegacy {p q : PaymentWithAttempts}
    (hp : o.paymentOrLegacy env = some p) (hq : q.organizationId = p.organizationId) :
    o.Same { o with payment := some q } :=
  OrderRecord.same_backfilled.trans
    (OrderRecord.same_of_payment (o := o.backfilled env) hp hq)

theorem initiateCardPayment_step {stripe : StripeService S M} {dto : CreateCardPaymentResponseDto}
    (h : (initiateCardPayment stripe env org orderId auditContext).run db s =
      (.ok (dto, db'), s')) :
    db.OrderStep org.organizationId orderId db' := by
  obtain ⟨o, p, ho, hv, -, hp, -, -, hcase⟩ := initiateCardPayment_ok h
  rcases hcase with ⟨attempt, -, -, hput, -⟩ | ⟨paymentIntent, -, -, -, hput⟩
  · exact .of_same ho hv hput OrderRecord.same_backfilled
  · exact .of_same ho hv hput (OrderRecord.same_of_paymentOrLegacy hp rfl)

theorem markCashPaid_step {dto : PaymentDto}
    (h : (markCashPaid env org orderId auditContext).run db s = (.ok (dto, db'), s')) :
    db.OrderStep org.organizationId orderId db' := by
  obtain ⟨o, p, ho, hv, -, hp, -, -, -, -, hput, -⟩ := markCashPaid_ok h
  exact .of_same ho hv hput (OrderRecord.same_of_paymentOrLegacy hp rfl)

/-! ## Calls and webhooks -/

/-- From `db` to `db'` one order is written, by a call under `x`. -/
def Backend.OrderStep (db : Backend) (x : Id) (db' : Backend) : Prop :=
  ∃ orderId shop, db.shop.OrderStep x orderId shop ∧ db' = db.setShop shop

theorem Backend.orderStep_onShop {α : Type} {t : Tx S α} {db : Backend} {s : S}
    (h : db.shop.OrderStep x orderId (t.runAuto db.shop s).2.1) :
    db.OrderStep x (db.onShop t s).2.1 := by
  refine ⟨orderId, _, h, ?_⟩
  unfold onShop
  rcases t.runAuto db.shop s with ⟨e | a, shop, s'⟩ <;> rfl

/-- The actions of the routes that write orders only. -/
def RouteAction.onOrders : RouteAction → Bool
  | .shop (.createAdjustment ..) | .shop (.updateLocation ..) | .shop (.deleteLocation ..) => false
  | .shop _ => true
  | _ => false

/-- **Every call of the order and the payment service**, carried through or failed, writes one order
of its organization. -/
theorem RouteCall.order_step {stripe : StripeService S M} {c : RouteCall} {db : Backend} {s : S}
    (h : c.action.onOrders = true) :
    db.OrderStep c.org.organizationId (c.exec stripe db s).2.1 := by
  obtain ⟨env, org, action⟩ := c
  cases action with
  | shop action =>
    cases action with
    | createOrder data =>
      exact Backend.orderStep_onShop (.transaction fun _ _ _ => createOrder_step)
    | updateOrder orderId data =>
      exact Backend.orderStep_onShop (.clean updateOrder_failsClean fun _ _ _ => updateOrder_step)
    | transitionStatus orderId toStatus auditContext =>
      exact Backend.orderStep_onShop (.transaction fun _ _ _ => transitionStatus_step)
    | deleteOrder orderId =>
      exact Backend.orderStep_onShop (.clean deleteOrder_failsClean fun _ _ _ => deleteOrder_step)
    | addOrderItem orderId data =>
      exact Backend.orderStep_onShop (.transaction fun _ _ _ => addOrderItem_step)
    | deleteOrderItem orderId itemId =>
      exact Backend.orderStep_onShop (.transaction fun _ _ _ => deleteOrderItem_step)
    | initiateCardPayment orderId auditContext =>
      exact Backend.orderStep_onShop (.transaction fun _ _ _ => initiateCardPayment_step)
    | confirmCardPayment orderId auditContext =>
      exact Backend.orderStep_onShop (.of_moves confirmCardPayment_moves)
    | markCashPaid orderId auditContext =>
      exact Backend.orderStep_onShop (.transaction fun _ _ _ => markCashPaid_step)
    | refundPayment orderId refundReason auditContext =>
      exact Backend.orderStep_onShop (.of_moves refundPayment_moves)
    | createAdjustment data actorUserId => cases h
    | updateLocation locationId data => cases h
    | deleteLocation locationId => cases h
  | createLocation data => cases h
  | createProduct productData actorUserId => cases h
  | updateProduct productId data => cases h
  | deleteProduct productId => cases h
  | createCustomer data => cases h
  | updateCustomer customerId data => cases h
  | deleteCustomer customerId => cases h

theorem handleWebhookPaymentIntent_step {event : StripeEventId} {eventType : String}
    {paymentIntent : StripePaymentIntent} {u : Unit}
    (h : (handleWebhookPaymentIntent env event eventType paymentIntent).run db s =
      (.ok (u, db'), s')) : ∃ x orderId, db.OrderStep x orderId db' := by
  obtain ⟨-, ⟨-, hkeeps⟩ | ⟨orderId, o, p, attempt, -, ho, hp, hput⟩⟩ :=
    handleWebhookPaymentIntent_ok h
  · exact ⟨⟨0, 0⟩, ⟨0, 0⟩, .keeps hkeeps⟩
  · exact ⟨_, orderId, .of_moves (.puts ho rfl
      (OrderRecord.same_of_payment hp syncedPayment_organizationId) hput)⟩

theorem handleWebhookRefund_step {event : StripeEventId} {eventType : String}
    {refund : StripeRefund} {u : Unit}
    (h : (handleWebhookRefund env event eventType refund).run db s = (.ok (u, db'), s')) :
    ∃ x orderId, db.OrderStep x orderId db' := by
  obtain ⟨-, ⟨-, hkeeps⟩ | ⟨orderId, o, p, -, ho, hp, hput⟩⟩ := handleWebhookRefund_ok h
  · exact ⟨⟨0, 0⟩, ⟨0, 0⟩, .keeps hkeeps⟩
  · exact ⟨_, orderId, .of_moves (.puts ho rfl
      (OrderRecord.same_afterRefund hp refundSynced_organizationId) hput)⟩

/-- **Every webhook** writes one order, of whichever organization it is. -/
theorem StripeEvent.order_step {event : StripeEvent} {db : Backend} {s : S} :
    ∃ x, db.OrderStep x (db.onShop (event.handle env : Tx S Unit) s).2.1 := by
  suffices h : ∃ x orderId, db.shop.OrderStep x orderId
      ((event.handle env : Tx S Unit).runAuto db.shop s).2.1 by
    obtain ⟨x, orderId, hstep⟩ := h
    exact ⟨x, Backend.orderStep_onShop hstep⟩
  have hkept : ∃ x orderId, db.shop.OrderStep x orderId db.shop :=
    ⟨⟨0, 0⟩, ⟨0, 0⟩, .refl ..⟩
  have htransaction : ∀ {t : Tx S Unit}, (∀ {u shop s'}, t.run db.shop s = (.ok (u, shop), s') →
      ∃ x orderId, db.shop.OrderStep x orderId shop) →
      ∃ x orderId, db.shop.OrderStep x orderId ((transaction t).runAuto db.shop s).2.1 := by
    intro t ht
    rw [runAuto_transaction]
    rcases hrun : t.run db.shop s with ⟨e | ⟨u, shop⟩, s'⟩
    · exact hkept
    · exact ht hrun
  unfold handle
  cases event with
  | paymentIntent id type paymentIntent =>
    dsimp only
    split
    · exact htransaction handleWebhookPaymentIntent_step
    · exact hkept
  | refund id type refund =>
    dsimp only
    split
    · exact htransaction handleWebhookRefund_step
    · exact hkept

end

end LedgerLight
