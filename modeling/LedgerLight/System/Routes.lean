import LedgerLight.Customer.Service
import LedgerLight.Product.Service
import LedgerLight.System.ScopedCalls

/-!
# The routes of the shop

The routes that change products, locations, stock, orders with their payments, and customers, as one
machine: a step is one call, carried through or failed. The other routes only read.

* `RouteChange`, `RouteCall.exec_change` : what a call does to the stock, its history and the
  locations.
-/

namespace LedgerLight

open Infra Prog

variable {S M : Type}

inductive RouteAction where
  /-- A call of the order, the payment, the inventory or the location service. -/
  | shop (action : ScopedAction)
  | createLocation (data : CreateLocationDto)
  | createProduct (productData : CreateProductDto) (actorUserId : Option Id)
  | updateProduct (productId : Id) (data : UpdateProductDto)
  | deleteProduct (productId : Id)
  | createCustomer (data : CreateCustomerDto)
  | updateCustomer (customerId : Id) (data : UpdateCustomerDto)
  | deleteCustomer (customerId : Id)

/-- A call with the clock and the ids it reads, and the membership it is made under. -/
structure RouteCall where
  env : Env
  org : CurrentOrg
  action : RouteAction

namespace RouteCall

/-- How the call ends, the database and the Stripe it leaves. -/
def exec (stripe : StripeService S M) (c : RouteCall) (db : Backend) (s : S) :
    Except BackendError Unit × Backend × S :=
  match c.action with
  | .shop action => ScopedCall.exec stripe ⟨c.env, c.org, action⟩ db s
  | .createLocation data => db.onAll (LedgerLight.createLocation c.env c.org data) s
  | .createProduct productData actorUserId =>
    db.onAll (LedgerLight.createProduct c.env c.org productData actorUserId) s
  | .updateProduct productId data =>
    db.onAll (LedgerLight.updateProduct c.env c.org.organizationId productId data) s
  | .deleteProduct productId =>
    db.onAll (LedgerLight.deleteProduct c.env c.org.organizationId productId) s
  | .createCustomer data => db.onAll (LedgerLight.createCustomer c.env c.org.organizationId data) s
  | .updateCustomer customerId data =>
    db.onAll (LedgerLight.updateCustomer c.env c.org.organizationId customerId data) s
  | .deleteCustomer customerId =>
    db.onAll (LedgerLight.deleteCustomer c.org.organizationId customerId) s

end RouteCall

/-- The backend behind its routes, over a Stripe. -/
def routes (stripe : StripeService S M) : Machine (Backend × S) RouteCall where
  step st c := (c.exec stripe st.1 st.2).2

/-! ## What a call does to the stock -/

/-- The tables of the stock and the locations. -/
def Backend.ledger (db : Backend) :
    Table Id InventoryLevel × Table Id InventoryAdjustment × Table Id LocationRecord :=
  (db.inventoryLevels, db.inventoryAdjustments, db.locations)

/-- From `db` to `db'` the call has left the tables of the stock and the locations alone, or has
done one of the things it may do to them. -/
inductive RouteChange (db : Backend) (env : Env) (org : CurrentOrg) :
    RouteAction → Backend → Prop
  | kept {action : RouteAction} {db' : Backend} (ledger : db'.ledger = db.ledger) :
      RouteChange db env org action db'
  | adjusted {data : CreateAdjustmentBodyDto} {actorUserId : Option Id} {quantity : Int}
      (adjustable : db.Adjustable env (adjustmentData org data actorUserId) quantity) :
      RouteChange db env org (.shop (.createAdjustment data actorUserId))
        (db.adjusted env (adjustmentData org data actorUserId) quantity)
  | productCreated {productData : CreateProductDto} {actorUserId : Option Id} {db' : Backend}
      (creatable : db.Creatable env org productData)
      (created : db.Created env org productData actorUserId db') :
      RouteChange db env org (.createProduct productData actorUserId) db'
  | locationCreated {data : CreateLocationDto} (new : db.locations.lookup (env.uuid 0) = none) :
      RouteChange db env org (.createLocation data)
        (db.setLocation (env.uuid 0) (createdLocation env org data))
  | locationUpdated {locationId : Id} {data : UpdateLocationDto} {l : LocationRecord}
      (visible : db.visibleLocation? org locationId = some l)
      (empty : data.status = some .archived → db.onHand locationId = 0) :
      RouteChange db env org (.shop (.updateLocation locationId data))
        (db.setLocation locationId (updatedLocation env data l))
  | locationDeleted {locationId : Id} {l : LocationRecord}
      (visible : db.visibleLocation? org locationId = some l)
      (more : 1 < db.visibleLocations org) (empty : db.onHand locationId = 0)
      (unused : db.ordersAt org.organizationId locationId = 0) :
      RouteChange db env org (.shop (.deleteLocation locationId))
        (db.removeLocation locationId)

section

variable {α : Type} {env : Env} {org : CurrentOrg} {db : Backend} {s : S}

/-- A call of the order or the payment service, whether it fails or not. -/
theorem Backend.ledger_onShop {x : Tx S α} : (db.onShop x s).2.1.ledger = db.ledger := by
  unfold onShop
  rcases x.runAuto db.shop s with ⟨e | a, shop, t⟩ <;> rfl

theorem Backend.onAll_db {x : Work S α} : (db.onAll x s).2.1 = (x.runAuto db s).2.1 := by
  unfold onAll
  rcases x.runAuto db s with ⟨e | a, db', t⟩ <;> rfl

theorem Backend.ledger_onAll {x : Work S α} (hx : x.Quiet Backend.ledger) :
    (db.onAll x s).2.1.ledger = db.ledger := by
  rw [onAll_db]
  exact hx.runAuto_left db s

/-- A call that leaves the database alone when it fails. -/
theorem Backend.onAll_clean {x : Work S α} (db : Backend) (s : S) (hx : x.CleanAt db s) :
    (db.onAll x s).2.1 = db ∨ ∃ a db' s', x.run db s = (.ok (a, db'), s') ∧
      (db.onAll x s).2.1 = db' := by
  rw [onAll_db]
  rcases h : x.runAuto db s with ⟨e | a, db', s'⟩
  · exact Or.inl (hx e db' s' h)
  · exact Or.inr ⟨a, db', s', runAuto_ok.mp h, rfl⟩

theorem productUpdate_quiet {organizationId productId : Id} {data : UpdateProductDto} :
    (productUpdate env organizationId productId data : Work S _).Quiet Backend.ledger :=
  quiet_returning fun d => by split <;> rfl

theorem createCustomer_quiet {organizationId : Id} {data : CreateCustomerDto} :
    (createCustomer env organizationId data : Work S _).Quiet Backend.ledger :=
  Quiet.bind (quiet_exec fun _ => rfl) fun _ => trivial

theorem updateCustomer_quiet {organizationId customerId : Id} {data : UpdateCustomerDto} :
    (updateCustomer env organizationId customerId data : Work S _).Quiet Backend.ledger :=
  quiet_returning fun d => by split <;> rfl

theorem deleteCustomer_quiet {organizationId customerId : Id} :
    (deleteCustomer organizationId customerId : Work S _).Quiet Backend.ledger := by
  refine Quiet.bind quiet_select fun c => ?_
  cases c with
  | none => trivial
  | some c => exact Quiet.bind (quiet_exec fun _ => rfl) fun _ => trivial

/-- **What a call does** to the stock, its history and the locations, whether it fails or not. -/
theorem RouteCall.exec_change (stripe : StripeService S M) (c : RouteCall) (db : Backend) (s : S) :
    RouteChange db c.env c.org c.action (c.exec stripe db s).2.1 := by
  obtain ⟨env, org, action⟩ := c
  cases action with
  | shop action =>
    cases action with
    | createAdjustment data actorUserId =>
      rcases Backend.onAll_clean db s createAdjustment_cleanAt with
        hsame | ⟨a, db', s', hrun, hdb⟩
      · exact .kept (congrArg Backend.ledger hsame)
      · obtain ⟨⟨quantity, hadjustable, rfl⟩, -⟩ := createAdjustment_ok.mp ⟨a, hrun⟩
        exact hdb.symm ▸ .adjusted hadjustable
    | updateLocation locationId data =>
      rcases Backend.onAll_clean db s (FailsClean.cleanAt updateLocation_failsClean db s) with
        hsame | ⟨a, db', s', hrun, hdb⟩
      · exact .kept (congrArg Backend.ledger hsame)
      · obtain ⟨l₀, hvisible, hempty, -, rfl, -⟩ := updateLocation_ok hrun
        exact hdb.symm ▸ .locationUpdated hvisible hempty
    | deleteLocation locationId =>
      rcases Backend.onAll_clean db s (FailsClean.cleanAt deleteLocation_failsClean db s) with
        hsame | ⟨a, db', s', hrun, hdb⟩
      · exact .kept (congrArg Backend.ledger hsame)
      · obtain ⟨hvisible, hmore, hempty, hunused, rfl, -⟩ := deleteLocation_ok hrun
        exact hdb.symm ▸ .locationDeleted hvisible hmore hempty hunused
    | _ => exact .kept Backend.ledger_onShop
  | createLocation data =>
    rcases Backend.onAll_clean db s (FailsClean.cleanAt createLocation_failsClean db s) with
      hsame | ⟨a, db', s', hrun, hdb⟩
    · exact .kept (congrArg Backend.ledger hsame)
    · obtain ⟨-, hnew, -, rfl, -⟩ := createLocation_ok hrun
      exact hdb.symm ▸ .locationCreated hnew
  | createProduct productData actorUserId =>
    rcases Backend.onAll_clean db s createProduct_cleanAt with
      hsame | ⟨a, db', s', hrun, hdb⟩
    · exact .kept (congrArg Backend.ledger hsame)
    · obtain ⟨hcreatable, hcreated, -⟩ := createProduct_ok.mp ⟨a, hrun⟩
      exact hdb.symm ▸ .productCreated hcreatable hcreated
  | updateProduct productId data => exact .kept (Backend.ledger_onAll productUpdate_quiet)
  | deleteProduct productId => exact .kept (Backend.ledger_onAll productUpdate_quiet)
  | createCustomer data => exact .kept (Backend.ledger_onAll createCustomer_quiet)
  | updateCustomer customerId data => exact .kept (Backend.ledger_onAll updateCustomer_quiet)
  | deleteCustomer customerId => exact .kept (Backend.ledger_onAll deleteCustomer_quiet)

end

end LedgerLight
