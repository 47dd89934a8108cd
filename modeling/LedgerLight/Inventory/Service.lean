import LedgerLight.Common.LocationScope
import LedgerLight.Domain.Backend

/-!
# Stock

The calls that write inventory levels: `createAdjustment` in
`domain/inventory/inventory.service.ts` and `createProduct` in `domain/product/product.service.ts`,
which makes an adjustment for the initial stock. Each is one transaction.

The numbers of a request are those of JSON. The columns hold integers of 32 bits, and the database
client refuses other numbers.
-/

namespace LedgerLight

open Infra Prog

/-! ## Requests -/

/-- A missing reason takes its default; the client refuses `null`. -/
structure CreateAdjustmentBodyDto where
  productId : Id
  locationId : Id
  delta : Rat
  reason : Option (Option InventoryAdjustmentReason) := none
  note : Option String := none
deriving DecidableEq, Repr

/-- The request with who makes it. -/
structure AdjustmentData extends CreateAdjustmentBodyDto where
  organizationId : Id
  organization : Option CurrentOrg := none
  actorUserId : Option Id := none
deriving DecidableEq, Repr

structure InventoryDto where
  locationId : Id
  quantity : Int
  note : Option String := none
deriving DecidableEq, Repr

/-- `inventory` may be missing or `null`. -/
structure CreateProductDto where
  name : String
  sku : String
  priceCents : Rat
  reorderThreshold : Int
  category : Option String := none
  inventory : Option (Option InventoryDto) := none
deriving DecidableEq, Repr

structure AdjustmentResponse where
  inventoryLevel : Id × InventoryLevel
  adjustment : Id × InventoryAdjustment
deriving DecidableEq, Repr

structure CreateProductResponse where
  product : Id × ProductRecord
  adjusted : Option AdjustmentResponse := none
deriving DecidableEq, Repr

/-! ## Rows -/

/-- The number fits an integer column. -/
def isInt4 (n : Int) : Bool := -2 ^ 31 ≤ n && n < 2 ^ 31

/-- A number as an integer column holds it. -/
def int4? (x : Rat) : Option Int := if x.den = 1 ∧ isInt4 x.num = true then some x.num else none

/-- `PrismaClientValidationError`. -/
def validationError : BackendError := .prisma "PrismaClientValidationError"

/-- A level as `upsert` makes it. -/
def newLevel (env : Env) (productId locationId : Id) : InventoryLevel :=
  { productId := productId, locationId := locationId, quantity := 0, createdAt := env.now
    updatedAt := env.now }

def adjustmentRow (env : Env) (data : AdjustmentData) : InventoryAdjustment :=
  { organizationId := data.organizationId, productId := data.productId
    locationId := data.locationId, actorUserId := data.actorUserId
    delta := (int4? data.delta).getD 0, reason := data.reason.join.getD .manual, note := data.note
    createdAt := env.now }

def productRow (env : Env) (org : CurrentOrg) (productData : CreateProductDto) : ProductRecord :=
  { organizationId := org.organizationId, name := productData.name, sku := productData.sku
    priceCents := (int4? productData.priceCents).getD 0, active := true
    category := productData.category, reorderThreshold := productData.reorderThreshold
    createdAt := env.now, updatedAt := env.now }

/-- The columns are wide enough. -/
def ProductRecord.fits (p : ProductRecord) : Bool :=
  p.name.length ≤ 200 && p.category.all (fun s => s.length ≤ 200) && p.sku.length ≤ 80

namespace Backend

variable (db : Backend)

/-- The inventory level of a product at a location (`@@unique([productId, locationId])`). -/
def levelOf? (productId locationId : Id) : Option (Id × InventoryLevel) :=
  db.inventoryLevels.findRow? fun _ level =>
    level.productId == productId && level.locationId == locationId

def setLevel (levelId : Id) (level : InventoryLevel) : Backend :=
  { db with inventoryLevels := db.inventoryLevels.insert levelId level }

def setAdjustment (adjustmentId : Id) (a : InventoryAdjustment) : Backend :=
  { db with inventoryAdjustments := db.inventoryAdjustments.insert adjustmentId a }

def setProduct (productId : Id) (p : ProductRecord) : Backend :=
  { db with products := db.products.insert productId p }

/-- Another product of the organization has the SKU. -/
def skuTaken (organizationId : Id) (sku : String) : Bool :=
  (db.products.findRow? fun _ p => p.organizationId == organizationId && p.sku == sku).isSome

end Backend

variable {S : Type}

/-! ## Statements -/

/-- `inventoryLevel.upsert` : the level of a product at a location, which is made if there is none.
-/
def inventoryLevelUpsert (env : Env) (levelId productId locationId : Id) :
    Work S (Id × InventoryLevel) :=
  returning [.level productId locationId, .levelId levelId]
    (fun db =>
      if (db.levelOf? productId locationId).isSome then none
      else if (db.inventoryLevels.lookup levelId).isSome then some (.prisma "P2002")
      else if (db.products.lookup productId).isSome ∧ (db.locations.lookup locationId).isSome then
        none
      else some (.prisma "P2003"))
    (fun db =>
      if (db.levelOf? productId locationId).isSome ∨ (db.inventoryLevels.lookup levelId).isSome
      then db
      else db.setLevel levelId (newLevel env productId locationId))
    (fun db => (db.levelOf? productId locationId).elim (.error (.prisma "P2025")) .ok)

/-- `inventoryLevel.update` by `id`, of a level that was read. A level stays one of its product and
location. -/
def inventoryLevelUpdate (env : Env) (level : Id × InventoryLevel) (quantity : Rat) :
    Work S (Id × InventoryLevel) :=
  returning [.level level.2.productId level.2.locationId]
    (fun db =>
      if int4? quantity = none then some validationError
      else if (db.inventoryLevels.lookup level.1).isSome then none else some (.prisma "P2025"))
    (fun db =>
      match db.inventoryLevels.lookup level.1 with
      | none => db
      | some l =>
        if l.productId = level.2.productId ∧ l.locationId = level.2.locationId then
          db.setLevel level.1 { l with quantity := (int4? quantity).getD 0, updatedAt := env.now }
        else db)
    (fun db => match db.inventoryLevels.lookup level.1 with
      | none => .error (.prisma "P2025")
      | some l => .ok (level.1, l))

/-- `inventoryAdjustment.create`. -/
def inventoryAdjustmentCreate (env : Env) (adjustmentId : Id) (data : AdjustmentData) :
    Work S (Id × InventoryAdjustment) := do
  exec [.adjustment adjustmentId]
    (fun db =>
      if int4? data.delta = none ∨ data.reason = some none then some validationError
      else if (db.inventoryAdjustments.lookup adjustmentId).isSome then some (.prisma "P2002")
      else if (db.organizations.lookup data.organizationId).isSome ∧
          (db.products.lookup data.productId).isSome ∧
          (db.locations.lookup data.locationId).isSome ∧
          (data.actorUserId.all fun userId => (db.users.lookup userId).isSome) = true then none
      else some (.prisma "P2003"))
    (fun db => db.setAdjustment adjustmentId (adjustmentRow env data))
  pure (adjustmentId, adjustmentRow env data)

/-- `product.create`. -/
def productCreate (env : Env) (productId : Id) (org : CurrentOrg)
    (productData : CreateProductDto) : Work S (Id × ProductRecord) := do
  exec [.product productId, .sku org.organizationId productData.sku]
    (fun db =>
      if int4? productData.priceCents = none ∨ isInt4 productData.reorderThreshold = false then
        some validationError
      else if (productRow env org productData).fits = false then some (.prisma "P2000")
      else if (db.products.lookup productId).isSome ∨
          db.skuTaken org.organizationId productData.sku = true then some (.prisma "P2002")
      else if (db.organizations.lookup org.organizationId).isSome then none
      else some (.prisma "P2003"))
    (fun db => db.setProduct productId (productRow env org productData))
  pure (productId, productRow env org productData)

/-! ## Calls -/

/-- `ensureLocationAccessible` for a location that must be given. -/
def ensureAccessible (org : CurrentOrg) (locationId : Id) : Work S Unit :=
  ofExcept ((ensureLocationAccessible org (some locationId) false).mapError .app)

def ensureOrganizationAccessible (data : AdjustmentData) : Work S Unit :=
  match data.organization with
  | none => pure ()
  | some organization => ensureAccessible organization data.locationId

/-- `createAdjustmentWithTx`; a level that is made gets the id `env.uuid 1`, the adjustment
`env.uuid 2`. -/
def createAdjustmentWithTx (env : Env) (data : AdjustmentData) : Work S AdjustmentResponse := do
  ensureOrganizationAccessible data
  let inventoryLevel ← inventoryLevelUpsert env (env.uuid 1) data.productId data.locationId
  let newQuantity := (inventoryLevel.2.quantity : Rat) + data.delta
  require (¬ newQuantity < 0) (.badRequest "Attempting to reduce product stock below zero")
  let newInventoryLevel ← inventoryLevelUpdate env inventoryLevel newQuantity
  let adjustment ← inventoryAdjustmentCreate env (env.uuid 2) data
  pure { inventoryLevel := newInventoryLevel, adjustment := adjustment }

def createAdjustment (env : Env) (data : AdjustmentData) : Work S AdjustmentResponse := do
  ensureOrganizationAccessible data
  transaction (createAdjustmentWithTx env data)

/-- The adjustment for the initial stock of a new product. -/
def initialStock (org : CurrentOrg) (productId : Id) (inventoryData : InventoryDto)
    (actorUserId : Option Id) : AdjustmentData :=
  { productId := productId, locationId := inventoryData.locationId, delta := inventoryData.quantity
    reason := some (some .initialStock), note := inventoryData.note
    organizationId := org.organizationId, organization := some org, actorUserId := actorUserId }

/-- The transaction of `createProduct`; the product gets the id `env.uuid 0`. -/
def createProductTx (env : Env) (org : CurrentOrg) (productData : CreateProductDto)
    (actorUserId : Option Id) : Work S CreateProductResponse := do
  let product ← productCreate env (env.uuid 0) org productData
  match productData.inventory with
  | none => pure { product := product }
  | some none => fail (.typeError
      "Cannot destructure property 'locationId' of 'inventoryData' as it is null.")
  | some (some inventoryData) => do
    let adjusted ←
      createAdjustmentWithTx env (initialStock org (env.uuid 0) inventoryData actorUserId)
    pure { product := product, adjusted := some adjusted }

def createProduct (env : Env) (org : CurrentOrg) (productData : CreateProductDto)
    (actorUserId : Option Id) : Work S CreateProductResponse := do
  match productData.inventory.join with
  | none => transaction (createProductTx env org productData actorUserId)
  | some inventoryData => do
    ensureAccessible org inventoryData.locationId
    transaction (createProductTx env org productData actorUserId)

end LedgerLight
