import LedgerLight.Infra.Machine
import LedgerLight.Inventory.Spec

/-!
# Calls that write stock

The inventory and the product service as a machine: a step is one call, carried through or failed.

* `StockCall.exec_error` : a failed call leaves the database as it was.
* `StockCall.exec_ok` : when a call succeeds, and the database it leaves.
-/

namespace LedgerLight

open Infra Prog

/-! ## Products -/

/-- Everything that a new product wants. -/
structure Backend.Creatable (db : Backend) (env : Env) (org : CurrentOrg)
    (productData : CreateProductDto) : Prop where
  price : int4? productData.priceCents = some (productRow env org productData).priceCents
  threshold : isInt4 productData.reorderThreshold = true
  fits : (productRow env org productData).fits = true
  new : db.products.lookup (env.uuid 0) = none
  sku : db.skuTaken org.organizationId productData.sku = false
  organization : (db.organizations.lookup org.organizationId).isSome = true

/-- The database with the new product. -/
def Backend.withProduct (db : Backend) (env : Env) (org : CurrentOrg)
    (productData : CreateProductDto) : Backend :=
  db.setProduct (env.uuid 0) (productRow env org productData)

section

variable {S : Type} {env : Env} {org : CurrentOrg} {productData : CreateProductDto}
  {actorUserId : Option Id} {db db' : Backend} {s s' : S}

theorem productCreate_ok {p : Id × ProductRecord} :
    (productCreate env (env.uuid 0) org productData).run db s = (.ok (p, db'), s') ↔
      db.Creatable env org productData ∧ p = (env.uuid 0, productRow env org productData) ∧
        db' = db.withProduct env org productData ∧ s' = s := by
  unfold productCreate
  rw [run_bind_ok]
  simp only [run_exec_ok, run_pure_ok]
  have hprice : int4? productData.priceCents = some (productRow env org productData).priceCents ↔
      int4? productData.priceCents ≠ none := by
    cases h : int4? productData.priceCents <;> simp [productRow, h]
  constructor
  · rintro ⟨v, d, t, ⟨hfails, rfl, rfl⟩, rfl, rfl, rfl⟩
    refine ⟨?_, rfl, rfl, rfl⟩
    split at hfails
    · cases hfails
    · next hvalid =>
      split at hfails
      · cases hfails
      · next hfits =>
        split at hfails
        · cases hfails
        · next hunique =>
          split at hfails
          · next horg =>
            rw [not_or] at hvalid hunique
            exact { price := hprice.mpr hvalid.1, threshold := by simpa using hvalid.2
                    fits := by simpa using hfits, new := by simpa using hunique.1
                    sku := by simpa using hunique.2, organization := horg }
          · cases hfails
  · rintro ⟨h, rfl, rfl, rfl⟩
    refine ⟨(), _, _, ⟨?_, rfl, rfl⟩, rfl, rfl, rfl⟩
    rw [if_neg (not_or.mpr ⟨hprice.mp h.price, by simp [h.threshold]⟩), if_neg (by simp [h.fits]),
      if_neg (by simp [h.new, h.sku]), if_pos h.organization]

/-- What a new product leaves: the product, and the stock it begins with. -/
inductive Backend.Created (db : Backend) (env : Env) (org : CurrentOrg)
    (productData : CreateProductDto) (actorUserId : Option Id) : Backend → Prop
  | bare (missing : productData.inventory = none) :
      db.Created env org productData actorUserId (db.withProduct env org productData)
  | stocked {inventoryData : InventoryDto} {quantity : Int}
      (given : productData.inventory = some (some inventoryData))
      (adjustable : (db.withProduct env org productData).Adjustable env
        (initialStock org (env.uuid 0) inventoryData actorUserId) quantity) :
      db.Created env org productData actorUserId
        ((db.withProduct env org productData).adjusted env
          (initialStock org (env.uuid 0) inventoryData actorUserId) quantity)

theorem createAdjustmentWithTx_of_adjustable {data : AdjustmentData} {quantity : Int}
    (h : db.Adjustable env data quantity) :
    ∃ r, (createAdjustmentWithTx env data).run db s =
      (.ok (r, db.adjusted env data quantity), s) :=
  ⟨_, createAdjustmentWithTx_ok.mpr ⟨quantity, h, rfl, rfl, rfl⟩⟩

theorem createProductTx_ok :
    (∃ r, (createProductTx env org productData actorUserId).run db s = (.ok (r, db'), s')) ↔
      db.Creatable env org productData ∧ db.Created env org productData actorUserId db' ∧
        s' = s := by
  unfold createProductTx
  constructor
  · rintro ⟨r, h⟩
    obtain ⟨p, d, t, hcreate, h₁⟩ := run_bind_ok.mp h
    obtain ⟨hc, rfl, rfl, rfl⟩ := productCreate_ok.mp hcreate
    cases hinventory : productData.inventory with
    | none =>
      rw [hinventory] at h₁
      obtain ⟨-, rfl, rfl⟩ := run_pure_ok.mp h₁
      exact ⟨hc, .bare hinventory, rfl⟩
    | some inventory =>
      rw [hinventory] at h₁
      cases inventory with
      | none => exact (run_fail_ok.mp h₁).elim
      | some inventoryData =>
        obtain ⟨a, d₂, t₂, hadjust, h₂⟩ := run_bind_ok.mp h₁
        obtain ⟨quantity, hadjustable, rfl, rfl, -⟩ := createAdjustmentWithTx_ok.mp hadjust
        obtain ⟨-, rfl, rfl⟩ := run_pure_ok.mp h₂
        exact ⟨hc, .stocked hinventory hadjustable, rfl⟩
  · rintro ⟨hc, hcreated, rfl⟩
    have hcreate : (productCreate env (env.uuid 0) org productData).run db s' =
        (.ok ((env.uuid 0, productRow env org productData),
          db.withProduct env org productData), s') := productCreate_ok.mpr ⟨hc, rfl, rfl, rfl⟩
    cases hcreated with
    | bare missing =>
      rw [missing]
      exact ⟨_, run_bind_ok.mpr ⟨_, _, _, hcreate, rfl⟩⟩
    | stocked given adjustable =>
      obtain ⟨r, hr⟩ := createAdjustmentWithTx_of_adjustable adjustable (s := s')
      rw [given]
      exact ⟨_, run_bind_ok.mpr ⟨_, _, _, hcreate, run_bind_ok.mpr ⟨r, _, _, hr, rfl⟩⟩⟩

theorem createAdjustment_ok {data : AdjustmentData} :
    (∃ r, (createAdjustment env data).run db s = (.ok (r, db'), s')) ↔
      (∃ quantity, db.Adjustable env data quantity ∧ db' = db.adjusted env data quantity) ∧
        s' = s := by
  constructor
  · rintro ⟨r, h⟩
    obtain ⟨v, d, t, hensure, h₁⟩ := run_bind_ok.mp h
    obtain ⟨-, rfl, rfl⟩ := ensureOrganizationAccessible_ok.mp hensure
    rw [run_transaction] at h₁
    obtain ⟨quantity, hadjustable, rfl, rfl, -⟩ := createAdjustmentWithTx_ok.mp h₁
    exact ⟨⟨quantity, hadjustable, rfl⟩, rfl⟩
  · rintro ⟨⟨quantity, hadjustable, rfl⟩, rfl⟩
    obtain ⟨r, hr⟩ := createAdjustmentWithTx_of_adjustable hadjustable (s := s')
    rw [← run_transaction] at hr
    exact ⟨r, run_bind_ok.mpr ⟨(), db, s', ensureOrganizationAccessible_ok.mpr
      ⟨hadjustable.accessible, rfl, rfl⟩, hr⟩⟩

/-- The check before the transaction is one that is made in it again. -/
theorem createProduct_ok :
    (∃ r, (createProduct env org productData actorUserId).run db s = (.ok (r, db'), s')) ↔
      db.Creatable env org productData ∧ db.Created env org productData actorUserId db' ∧
        s' = s := by
  rw [← createProductTx_ok]
  unfold createProduct
  cases hinventory : productData.inventory.join with
  | none => simp only [run_transaction]
  | some inventoryData =>
    dsimp only
    constructor
    · rintro ⟨r, h⟩
      obtain ⟨v, d, t, hensure, h₁⟩ := run_bind_ok.mp h
      obtain ⟨-, rfl, rfl⟩ := ensureAccessible_ok.mp hensure
      rw [run_transaction] at h₁
      exact ⟨r, h₁⟩
    · rintro ⟨r, h⟩
      obtain ⟨-, hcreated, -⟩ := createProductTx_ok.mp ⟨r, h⟩
      have haccess : getLocationScopeWhere org (some inventoryData.locationId) = true := by
        cases hcreated with
        | bare missing => rw [missing] at hinventory; cases hinventory
        | stocked given adjustable =>
          rw [given] at hinventory
          cases hinventory
          exact adjustable.accessible org rfl
      refine ⟨r, run_bind_ok.mpr ⟨(), db, s, ensureAccessible_ok.mpr ⟨haccess, rfl, rfl⟩, ?_⟩⟩
      rw [run_transaction]
      exact h

end

/-! ## Calls -/

/-- The calls that write stock. -/
inductive StockAction where
  | createAdjustment (data : AdjustmentData)
  | createProduct (org : CurrentOrg) (productData : CreateProductDto) (actorUserId : Option Id)

/-- The adjustment that a call makes, if it makes one. -/
def StockAction.adjustment? (env : Env) : StockAction → Option AdjustmentData
  | .createAdjustment data => some data
  | .createProduct org productData actorUserId =>
    productData.inventory.join.map fun inventoryData =>
      initialStock org (env.uuid 0) inventoryData actorUserId

/-- A call with the clock and the ids it reads. -/
structure StockCall where
  env : Env
  action : StockAction

namespace StockCall

def prog (c : StockCall) : Work Unit Unit :=
  match c.action with
  | .createAdjustment data => (fun _ => ()) <$> createAdjustment c.env data
  | .createProduct org productData actorUserId =>
    (fun _ => ()) <$> createProduct c.env org productData actorUserId

/-- How the call ends and the database it leaves. -/
def exec (c : StockCall) (db : Backend) : Except BackendError Unit × Backend :=
  let r := c.prog.runAuto db ()
  (r.1, r.2.1)

end StockCall

/-- The services that write stock. -/
def stock : Machine Backend StockCall where
  step db c := (c.exec db).2

/-- `StockChange db env action db'` : what a call that succeeds did, with the checks it passed. -/
inductive StockChange (db : Backend) (env : Env) : StockAction → Backend → Prop
  | adjusted {data : AdjustmentData} {quantity : Int}
      (adjustable : db.Adjustable env data quantity) :
      StockChange db env (.createAdjustment data) (db.adjusted env data quantity)
  | created {org : CurrentOrg} {productData : CreateProductDto} {actorUserId : Option Id}
      {db' : Backend} (creatable : db.Creatable env org productData)
      (created : db.Created env org productData actorUserId db') :
      StockChange db env (.createProduct org productData actorUserId) db'

section

variable {S : Type} {env : Env} {org : CurrentOrg} {locationId : Id} {data : AdjustmentData}

theorem ensureAccessible_readOnly : (ensureAccessible org locationId : Work S _).ReadOnly :=
  readOnly_ofExcept

theorem ensureOrganizationAccessible_readOnly :
    (ensureOrganizationAccessible data : Work S _).ReadOnly := by
  unfold ensureOrganizationAccessible
  split
  · trivial
  · exact ensureAccessible_readOnly

theorem createAdjustment_cleanAt {env : Env} {db : Backend} {s : S} :
    (createAdjustment env data).CleanAt db s :=
  ensureOrganizationAccessible_readOnly.bind_cleanAt fun _ _ => cleanAt_transaction

theorem createProduct_cleanAt {env : Env} {productData : CreateProductDto}
    {actorUserId : Option Id} {db : Backend} {s : S} :
    (createProduct env org productData actorUserId).CleanAt db s := by
  unfold createProduct
  split
  · exact cleanAt_transaction
  · exact ensureAccessible_readOnly.bind_cleanAt fun _ _ => cleanAt_transaction

end

namespace StockCall

variable {c : StockCall} {db db' : Backend} {e : BackendError} {u : Unit}

theorem prog_cleanAt : c.prog.CleanAt db () := by
  unfold prog
  split
  · exact createAdjustment_cleanAt.map
  · exact createProduct_cleanAt.map

theorem exec_error (h : c.exec db = (.error e, db')) : db' = db := by
  obtain ⟨herror, hdb⟩ := Prod.ext_iff.mp h
  exact prog_cleanAt e db' () (Prod.ext herror (Prod.ext hdb rfl))

theorem exec_iff_run : c.exec db = (.ok u, db') ↔ c.prog.run db () = (.ok (u, db'), ()) := by
  rw [← runAuto_ok]
  constructor
  · intro h
    obtain ⟨hok, hdb⟩ := Prod.ext_iff.mp h
    exact Prod.ext hok (Prod.ext hdb rfl)
  · intro h
    rw [exec, h]

/-- **When a call succeeds**, and the database it leaves. -/
theorem exec_ok : c.exec db = (.ok u, db') ↔ StockChange db c.env c.action db' := by
  rw [exec_iff_run]
  obtain ⟨env, action⟩ := c
  cases action with
  | createAdjustment data =>
    have hrun : (prog ⟨env, .createAdjustment data⟩).run db () = (.ok (u, db'), ()) ↔
        ∃ r, (createAdjustment env data).run db () = (.ok (r, db'), ()) := by
      refine run_map_ok.trans ?_
      simp only [true_and]
    rw [hrun, createAdjustment_ok]
    constructor
    · rintro ⟨⟨quantity, hadjustable, rfl⟩, -⟩
      exact .adjusted hadjustable
    · rintro ⟨hadjustable⟩
      exact ⟨⟨_, hadjustable, rfl⟩, rfl⟩
  | createProduct org productData actorUserId =>
    have hrun : (prog ⟨env, .createProduct org productData actorUserId⟩).run db () =
        (.ok (u, db'), ()) ↔
        ∃ r, (createProduct env org productData actorUserId).run db () = (.ok (r, db'), ()) := by
      refine run_map_ok.trans ?_
      simp only [true_and]
    rw [hrun, createProduct_ok]
    constructor
    · rintro ⟨hcreatable, hcreated, -⟩
      exact .created hcreatable hcreated
    · rintro (_ | ⟨hcreatable, hcreated⟩)
      exact ⟨hcreatable, hcreated, rfl⟩

end StockCall

/-! ## A stockroom

Two organizations, for runs on fixed inputs. -/

namespace Stockroom

def here : Id := ⟨0, 0⟩

def elsewhere : Id := ⟨0, 1⟩

def clerk : Id := ⟨0, 10⟩

def tea : Id := ⟨0, 20⟩

def store : Id := ⟨0, 30⟩

def annex : Id := ⟨0, 31⟩

def env (step : Nat) : Env := { now := step, uuid := fun i => ⟨step, i⟩ }

def product (organizationId : Id) : ProductRecord :=
  productRow (env 0) { organizationId := organizationId }
    { name := "Tea", sku := "T", priceCents := 400, reorderThreshold := 2 }

def location (organizationId : Id) : LocationRecord :=
  { organizationId := organizationId, name := "Store", code := none, type := .store
    status := .active, addressLine1 := "", addressLine2 := none, city := "", stateProvince := none
    postalCode := none, countryCode := "CA", notes := none, createdAt := 0, updatedAt := 0 }

/-- Two organizations: the tea and the store are of one, the annex is of the other. -/
def empty : Backend :=
  { Backend.empty with
    organizations := (AList.insert here { name := "Here" } ∅).insert elsewhere
      { name := "Elsewhere" }
    users := AList.insert clerk
      { email := "clerk@here.test", passwordHash := none, firstName := none, lastName := none
        isActive := true, lastLoginAt := none, createdAt := 0, updatedAt := 0 } ∅
    products := AList.insert tea (product here) ∅
    locations := (AList.insert store (location here) ∅).insert annex (location elsewhere) }

/-- The actor stocks the tea at a location. -/
def stocked (step : Nat) (org : CurrentOrg) (locationId : Id) (delta : Int) : StockCall :=
  { env := env step
    action := .createAdjustment
      { productId := tea, locationId := locationId, delta := delta
        organizationId := org.organizationId, organization := some org
        actorUserId := some clerk } }

end Stockroom

end LedgerLight
