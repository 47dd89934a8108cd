import LedgerLight.Inventory.Calls
import LedgerLight.Location.Service
import LedgerLight.Order.Spec
import LedgerLight.Payment.CallsSpec

/-!
# Calls under a location scope

The calls of the order, the payment, the inventory and the location service that a membership
restricted to some locations makes, on the whole database.

* `ScopedChange` : what a call that succeeded did.
* `ScopedCall.exec_ok` : every call that succeeds did this.
-/

namespace LedgerLight

open Infra Prog

variable {S M : Type}

/-! ## Calls -/

inductive ScopedAction where
  | createOrder (data : CreateOrderDto)
  | updateOrder (orderId : Id) (data : UpdateOrderDto)
  | transitionStatus (orderId : Id) (toStatus : OrderStatus) (auditContext : AuditContext)
  | deleteOrder (orderId : Id)
  | addOrderItem (orderId : Id) (data : CreateOrderItemDto)
  | deleteOrderItem (orderId itemId : Id)
  | initiateCardPayment (orderId : Id) (auditContext : AuditContext)
  | confirmCardPayment (orderId : Id) (auditContext : AuditContext)
  | markCashPaid (orderId : Id) (auditContext : AuditContext)
  | refundPayment (orderId : Id) (refundReason : String) (auditContext : AuditContext)
  | createAdjustment (data : CreateAdjustmentBodyDto) (actorUserId : Option Id)
  | updateLocation (locationId : Id) (data : UpdateLocationDto)
  | deleteLocation (locationId : Id)

/-- A call with the clock and the ids it reads, and the membership it is made under. -/
structure ScopedCall where
  env : Env
  org : CurrentOrg
  action : ScopedAction

/-- A call of the order or the payment service, on the part of the database that it sees. -/
def Backend.onShop {α : Type} (x : Tx S α) (db : Backend) (s : S) :
    Except BackendError Unit × Backend × S :=
  match x.runAuto db.shop s with
  | (.ok _, shop, s') => (.ok (), db.setShop shop, s')
  | (.error e, shop, s') => (.error (.app e), db.setShop shop, s')

/-- A call of another service. -/
def Backend.onAll {α : Type} (x : Work S α) (db : Backend) (s : S) :
    Except BackendError Unit × Backend × S :=
  match x.runAuto db s with
  | (.ok _, db', s') => (.ok (), db', s')
  | (.error e, db', s') => (.error e, db', s')

/-- The adjustment that the route asks for. -/
def adjustmentData (org : CurrentOrg) (data : CreateAdjustmentBodyDto) (actorUserId : Option Id) :
    AdjustmentData :=
  { toCreateAdjustmentBodyDto := data, organizationId := org.organizationId
    organization := some org, actorUserId := actorUserId }

/-- How the call ends, the database and the Stripe it leaves. -/
def ScopedCall.exec (stripe : StripeService S M) (c : ScopedCall) (db : Backend) (s : S) :
    Except BackendError Unit × Backend × S :=
  match c.action with
  | .createOrder data => db.onShop (transaction (createOrder c.env c.org data)) s
  | .updateOrder orderId data => db.onShop (updateOrder c.env c.org orderId data) s
  | .transitionStatus orderId toStatus auditContext =>
    db.onShop (transaction (transitionStatus stripe c.env c.org orderId toStatus auditContext)) s
  | .deleteOrder orderId => db.onShop (deleteOrder c.org orderId) s
  | .addOrderItem orderId data =>
    db.onShop (transaction (addOrderItem c.env c.org orderId data)) s
  | .deleteOrderItem orderId itemId =>
    db.onShop (transaction (deleteOrderItem c.env c.org orderId itemId)) s
  | .initiateCardPayment orderId auditContext =>
    db.onShop (transaction (initiateCardPayment stripe c.env c.org orderId auditContext)) s
  | .confirmCardPayment orderId auditContext =>
    db.onShop (confirmCardPayment stripe c.env c.org orderId auditContext) s
  | .markCashPaid orderId auditContext =>
    db.onShop (transaction (markCashPaid c.env c.org orderId auditContext)) s
  | .refundPayment orderId refundReason auditContext =>
    db.onShop (refundPayment stripe c.env c.org orderId refundReason auditContext) s
  | .createAdjustment data actorUserId =>
    db.onAll (createAdjustment c.env (adjustmentData c.org data actorUserId)) s
  | .updateLocation locationId data =>
    db.onAll (updateLocation c.env c.org locationId data) s
  | .deleteLocation locationId => db.onAll (deleteLocation c.org locationId) s

/-! ## What a call did -/

/-- What a call that succeeds did, with the checks of the scope that it passed. -/
inductive ScopedChange (db : Backend) (env : Env) (org : CurrentOrg) : ScopedAction → Backend → Prop
  | created {data : CreateOrderDto} {o : OrderRecord} {rows : List (Id × AuditAction)}
      {shop : Database} (place : o.locationId = data.locationId)
      (inScope : org.allowedLocationIds ≠ [] → getLocationScopeWhere org data.locationId = true)
      (new : db.orders.lookup (env.uuid 0) = none) (puts : db.shop.Puts (env.uuid 0) o rows shop) :
      ScopedChange db env org (.createOrder data) (db.setShop shop)
  | metadata {orderId : Id} {data : UpdateOrderDto} {o : OrderRecord}
      {rows : List (Id × AuditAction)} {shop : Database}
      (order : db.orders.lookup orderId = some o)
      (inScope : getLocationScopeWhere org o.locationId = true)
      (given : ∀ l, data.locationId = some (some l) → getLocationScopeWhere org (some l) = true)
      (puts : db.shop.Puts orderId (Order.updated env id (metadataUpdated data o)) rows shop) :
      ScopedChange db env org (.updateOrder orderId data) (db.setShop shop)
  | deleted {orderId : Id} {o : OrderRecord} (order : db.orders.lookup orderId = some o)
      (inScope : getLocationScopeWhere org o.locationId = true) :
      ScopedChange db env org (.deleteOrder orderId) { db with orders := db.orders.erase orderId }
  /-- A change of the order, its items or its payment that leaves it at its location. -/
  | changed {action : ScopedAction} {orderId : Id} {o o' : OrderRecord}
      {rows : List (Id × AuditAction)} {shop : Database}
      (kind : (∀ id data, action ≠ .updateOrder id data) ∧ ∀ id, action ≠ .deleteLocation id)
      (order : db.orders.lookup orderId = some o)
      (inScope : getLocationScopeWhere org o.locationId = true)
      (puts : db.shop.Puts orderId o' rows shop) (place : o'.locationId = o.locationId) :
      ScopedChange db env org action (db.setShop shop)
  | adjusted {data : CreateAdjustmentBodyDto} {actorUserId : Option Id} {quantity : Int}
      (adjustable : db.Adjustable env (adjustmentData org data actorUserId) quantity) :
      ScopedChange db env org (.createAdjustment data actorUserId)
        (db.adjusted env (adjustmentData org data actorUserId) quantity)
  | locationUpdated {locationId : Id} {data : UpdateLocationDto} {l : LocationRecord}
      (visible : db.visibleLocation? org locationId = some l) :
      ScopedChange db env org (.updateLocation locationId data)
        (db.setLocation locationId (updatedLocation env data l))
  | locationDeleted {locationId : Id} {l : LocationRecord}
      (visible : db.visibleLocation? org locationId = some l)
      (unused : db.ordersAt org.organizationId locationId = 0) :
      ScopedChange db env org (.deleteLocation locationId) (db.removeLocation locationId)

section

variable {α : Type} {db db' : Backend} {s s' : S} {u : Unit}

theorem Backend.onShop_ok {x : Tx S α} (h : db.onShop x s = (.ok u, db', s')) :
    ∃ a shop, x.run db.shop s = (.ok (a, shop), s') ∧ db' = db.setShop shop := by
  unfold onShop at h
  rcases hx : x.runAuto db.shop s with ⟨e | a, shop, t⟩
  · rw [hx] at h
    cases h
  · rw [hx] at h
    cases h
    exact ⟨a, shop, runAuto_ok.mp hx, rfl⟩

theorem Backend.onAll_ok {x : Work S α} (h : db.onAll x s = (.ok u, db', s')) :
    ∃ a, x.run db s = (.ok (a, db'), s') := by
  unfold onAll at h
  rcases hx : x.runAuto db s with ⟨e | a, d, t⟩
  · rw [hx] at h
    cases h
  · rw [hx] at h
    cases h
    exact ⟨a, runAuto_ok.mp hx⟩

theorem Backend.onShop_transaction_ok {x : Tx S α}
    (h : db.onShop (transaction x) s = (.ok u, db', s')) :
    ∃ a shop, x.run db.shop s = (.ok (a, shop), s') ∧ db' = db.setShop shop := by
  obtain ⟨a, shop, hx, rfl⟩ := onShop_ok h
  rw [run_transaction] at hx
  exact ⟨a, shop, hx, rfl⟩

theorem OrderRecord.inScope_of_visibleTo {org : CurrentOrg} {o : OrderRecord}
    (h : o.visibleTo org = true) : getLocationScopeWhere org o.locationId = true := by
  unfold visibleTo at h
  exact (Bool.and_eq_true _ _ ▸ h).2

/-- A transition leaves an order at its location. -/
theorem Transition.locationId {stripe : StripeService S M} {env : Env} {o o' : OrderRecord}
    {toStatus : OrderStatus} {rows : List (Id × AuditAction)}
    (h : Transition stripe env o s toStatus o' rows s') : o'.locationId = o.locationId := by
  cases h <;> rfl

/-- **Every call that succeeds** does what `ScopedChange` says. -/
theorem ScopedCall.exec_ok {stripe : StripeService S M} {c : ScopedCall}
    (h : c.exec stripe db s = (.ok u, db', s')) : ScopedChange db c.env c.org c.action db' := by
  obtain ⟨env, org, action⟩ := c
  cases action with
  | createOrder data =>
    obtain ⟨created, shop, hr, rfl⟩ := Backend.onShop_transaction_ok h
    obtain ⟨byId, items, totals, -, -, -, hscope, hnew, hput, -⟩ := createOrder_ok hr
    exact .created rfl hscope hnew hput
  | updateOrder orderId data =>
    obtain ⟨o', shop, hr, rfl⟩ := Backend.onShop_ok h
    obtain ⟨o, ho, -, hacc, hgiven, rfl, hput, -⟩ := updateOrder_ok hr
    exact .metadata ho (OrderRecord.accessibleTo_eq ▸ hacc) hgiven hput
  | transitionStatus orderId toStatus auditContext =>
    obtain ⟨o', shop, hr, rfl⟩ := Backend.onShop_transaction_ok h
    obtain ⟨o, rows, ho, hv, htrans, hput⟩ := transitionStatus_ok hr
    exact .changed (by simp) ho (OrderRecord.inScope_of_visibleTo hv) hput htrans.locationId
  | deleteOrder orderId =>
    obtain ⟨v, shop, hr, rfl⟩ := Backend.onShop_ok h
    obtain ⟨o, ho, -, hacc, rfl, -⟩ := deleteOrder_ok hr
    exact .deleted ho (OrderRecord.accessibleTo_eq ▸ hacc)
  | addOrderItem orderId data =>
    obtain ⟨o', shop, hr, rfl⟩ := Backend.onShop_transaction_ok h
    obtain ⟨o, product, item, ho, hv, -, -, rfl, hput, -⟩ := addOrderItem_ok hr
    exact .changed (by simp) ho (OrderRecord.inScope_of_visibleTo hv) hput rfl
  | deleteOrderItem orderId itemId =>
    obtain ⟨o', shop, hr, rfl⟩ := Backend.onShop_transaction_ok h
    obtain ⟨o, item, ho, -, hacc, -, -, -, rfl, hput, -⟩ := deleteOrderItem_ok hr
    exact .changed (by simp) ho (OrderRecord.accessibleTo_eq ▸ hacc) hput rfl
  | initiateCardPayment orderId auditContext =>
    obtain ⟨dto, shop, hr, rfl⟩ := Backend.onShop_transaction_ok h
    obtain ⟨o, p, ho, hv, -, -, -, -, hcase⟩ := initiateCardPayment_ok hr
    have hscope := OrderRecord.inScope_of_visibleTo hv
    rcases hcase with ⟨attempt, -, -, hput, -⟩ | ⟨paymentIntent, -, -, -, hput⟩
    · exact .changed (by simp) ho hscope hput rfl
    · exact .changed (by simp) ho hscope hput rfl
  | confirmCardPayment orderId auditContext =>
    obtain ⟨dto, shop, hr, rfl⟩ := Backend.onShop_ok h
    obtain ⟨o, p, attempt, paymentIntent, ho, hv, -, hput⟩ := confirmCardPayment_ok hr
    exact .changed (by simp) ho (OrderRecord.inScope_of_visibleTo hv) hput rfl
  | markCashPaid orderId auditContext =>
    obtain ⟨dto, shop, hr, rfl⟩ := Backend.onShop_transaction_ok h
    obtain ⟨o, p, ho, hv, -, -, -, -, -, -, hput, -⟩ := markCashPaid_ok hr
    exact .changed (by simp) ho (OrderRecord.inScope_of_visibleTo hv) hput rfl
  | refundPayment orderId refundReason auditContext =>
    obtain ⟨dto, shop, hr, rfl⟩ := Backend.onShop_ok h
    obtain ⟨o, o', rows, ho, hv, hplace, hput⟩ := refundPayment_ok hr
    exact .changed (by simp) ho (OrderRecord.inScope_of_visibleTo hv) hput hplace
  | createAdjustment data actorUserId =>
    obtain ⟨r, hr⟩ := Backend.onAll_ok h
    obtain ⟨⟨quantity, hadjustable, rfl⟩, -⟩ := createAdjustment_ok.mp ⟨r, hr⟩
    exact .adjusted hadjustable
  | updateLocation locationId data =>
    obtain ⟨r, hr⟩ := Backend.onAll_ok h
    obtain ⟨l, hvisible, -, -, rfl, -⟩ := updateLocation_ok hr
    exact .locationUpdated hvisible
  | deleteLocation locationId =>
    obtain ⟨r, hr⟩ := Backend.onAll_ok h
    obtain ⟨hvisible, -, -, hunused, rfl, -⟩ := deleteLocation_ok hr
    exact .locationDeleted hvisible hunused

end

end LedgerLight
