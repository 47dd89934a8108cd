import LedgerLight.Infra.Sql
import LedgerLight.Order.Reads

/-!
# Reading the stock

The reads of `domain/inventory/inventory.service.ts`: the levels row by row, and the products with
what is in stock of each.

A row of a level has its product and its location (foreign keys).
-/

namespace LedgerLight

open Infra

/-! ## Rows of products -/

/-- A level with its location, as a product includes it. -/
structure LevelAt where
  level : InventoryLevel
  location : Option (Id × LocationRecord)

def LevelAt.name (l : LevelAt) : String := l.location.elim "" (·.2.name)

/-- A product with the levels that a membership may see. -/
structure ProductWithLevels where
  id : Id
  product : ProductRecord
  inventoryLevels : List LevelAt

namespace Backend

variable (p : Platform) (db : Backend)

def levelAt (row : Id × InventoryLevel) : LevelAt :=
  { level := row.2, location := db.locationRow? (some row.2.locationId) }

def productWithLevels (org : CurrentOrg) (id : Id) (product : ProductRecord) : ProductWithLevels :=
  { id := id, product := product
    inventoryLevels := (p.arrange (db.inventoryLevels.select fun _ level =>
      level.productId == id && getLocationScopeWhere org (some level.locationId))).map db.levelAt }

def productsWithLevels (org : CurrentOrg) : List ProductWithLevels :=
  db.products.joined (db.productWithLevels p org)

end Backend

/-! ## Aggregation -/

structure AggregatedInventoryLocationDto where
  locationId : Id
  locationName : String
  quantity : Int
deriving DecidableEq, Repr

structure AggregatedInventoryItemDto where
  productId : Id
  name : String
  sku : String
  totalQuantity : Int
  reorderThreshold : Int
  stockGap : Int
  isLowStock : Bool
  locations : List AggregatedInventoryLocationDto
deriving DecidableEq, Repr

/-- `rows.sort(compare)`: rows that compare alike stay in their order. -/
def sortWith {R : Type} (compare : R → R → Int) (rows : List R) : List R :=
  rows.insertionSort fun left right => compare left right ≤ 0

def aggregatedItem (p : Platform) (r : ProductWithLevels) : AggregatedInventoryItemDto :=
  let totalQuantity := (r.inventoryLevels.map (·.level.quantity)).sum
  { productId := r.id, name := r.product.name, sku := r.product.sku
    totalQuantity := totalQuantity
    reorderThreshold := r.product.reorderThreshold
    stockGap := max (r.product.reorderThreshold - totalQuantity) 0
    isLowStock := totalQuantity ≤ r.product.reorderThreshold
    locations := (sortWith (fun left right => p.localeCompare left.name right.name)
      r.inventoryLevels).map fun l =>
        { locationId := l.level.locationId, locationName := l.name, quantity := l.level.quantity } }

/-- The products of the organization, without a model to order them by. -/
def getAggregatedInventorySnapshot (p : Platform) (db : Backend) (org : CurrentOrg) :
    List AggregatedInventoryItemDto :=
  (p.arrange ((db.productsWithLevels p org).filter fun r =>
    r.product.organizationId == org.organizationId)).map (aggregatedItem p)

/-- `"Product" p LEFT JOIN "InventoryLevel" il ON il."productId" = p.id`. -/
def Backend.productsAndLevels (db : Backend) :
    List ((Id × ProductRecord) × Option (Id × InventoryLevel)) :=
  Sql.leftJoin (fun product level => level.2.productId == product.1) db.products.rows
    db.inventoryLevels.rows

/-- `SUM(il.quantity)` in a group. -/
def sumQuantity (group : List ((Id × ProductRecord) × Option (Id × InventoryLevel))) :
    Option Int :=
  Sql.sum (fun row => row.2.map (·.2.quantity)) group

/-- The groups `low_stock_products`, each with its `p.id` and `p."reorderThreshold"`. -/
def Backend.lowStockProducts (db : Backend) (organizationId : Id) :
    List ((Id × Int) × List ((Id × ProductRecord) × Option (Id × InventoryLevel))) :=
  let rows := db.productsAndLevels.filter fun row => row.1.2.organizationId == organizationId
  (Sql.groupBy (fun row => (row.1.1, row.1.2.reorderThreshold)) rows).filter fun group =>
    (sumQuantity group.2).getD 0 ≤ group.1.2

/-- A member of all locations gets the count of a query of its own. -/
def getLowStockProductCount (p : Platform) (db : Backend) (org : CurrentOrg) : Nat :=
  if hasRestrictedLocations org then
    (getAggregatedInventorySnapshot p db org).countP (·.isLowStock)
  else (db.lowStockProducts org.organizationId).length

/-! ## Pages of rows in memory -/

/-- A cursor that is not found starts at the first row. -/
def startIndex {R : Type} (rows : List R) (getCursor : R → Id) (cursor : Option Cursor) : Nat :=
  cursor.elim 0 fun cursor => (rows.findIdx? fun r => cursor.isId (getCursor r)).elim 0 (· + 1)

def paginateRows {R : Type} (rows : List R) (limit : Nat) (cursor : Option Cursor)
    (getCursor : R → Id) : Except BackendError (List R × Option Cursor) :=
  let start := startIndex rows getCursor cursor
  let data := (rows.drop start).take limit
  if start + limit < rows.length then
    match data.getLast? with
    | some r => .ok (data, some (.id (getCursor r)))
    | none => .error (.typeError "Cannot read properties of undefined")
  else .ok (data, none)

/-! ## `getInventory` -/

structure GetInventoryQueryDto where
  limit : Nat := 20
  cursor : Option Cursor := none
  sortBy : Option String := none
  sortOrder : Option SortDirection := some .desc
  lowStockOnly : Bool := false

structure GetAggregatedInventoryResponseDto where
  data : List AggregatedInventoryItemDto
  totalCount : Nat
  nextCursor : Option Cursor
deriving DecidableEq, Repr

def compareNumbers (left right direction : Int) : Int :=
  if left = right then 0 else if left > right then direction else -direction

/-- `a || b` of two comparisons. -/
def orElseCompare (a b : Int) : Int := if a = 0 then b else a

def compareAggregated (p : Platform) (sortBy : Option String) (direction : Int)
    (left right : AggregatedInventoryItemDto) : Int :=
  let byName := p.localeCompare left.name right.name
  match sortBy with
  | some "stockGap" =>
    orElseCompare (compareNumbers left.stockGap right.stockGap direction) byName
  | some "totalQuantity" =>
    orElseCompare (compareNumbers left.totalQuantity right.totalQuantity direction) byName
  | some "reorderThreshold" =>
    orElseCompare (compareNumbers left.reorderThreshold right.reorderThreshold direction) byName
  | some "sku" => direction * p.localeCompare left.sku right.sku
  | some "name" => direction * byName
  | _ => byName

def sortAggregatedInventoryRows (p : Platform) (rows : List AggregatedInventoryItemDto)
    (sortBy : Option String) (sortOrder : Option SortDirection) :
    List AggregatedInventoryItemDto :=
  let direction := if sortOrder.getD .desc = .asc then 1 else -1
  sortWith (compareAggregated p sortBy direction) rows

def getInventory (p : Platform) (db : Backend) (org : CurrentOrg) (query : GetInventoryQueryDto) :
    Except BackendError GetAggregatedInventoryResponseDto := do
  let rows := getAggregatedInventorySnapshot p db org
  let filteredRows := if query.lowStockOnly then rows.filter (·.isLowStock) else rows
  let sortedRows := sortAggregatedInventoryRows p filteredRows query.sortBy query.sortOrder
  let (data, nextCursor) ← paginateRows sortedRows query.limit query.cursor (·.productId)
  pure { data := data, totalCount := filteredRows.length, nextCursor := nextCursor }

/-! ## `getLevels` -/

/-- A level with its product and its location. -/
structure LevelRow where
  id : Id
  level : InventoryLevel
  product : Option (Id × ProductRecord)
  location : Option (Id × LocationRecord)
deriving DecidableEq, Repr

def Backend.levelRow (db : Backend) (id : Id) (level : InventoryLevel) : LevelRow :=
  { id := id, level := level
    product := (db.products.lookup level.productId).map fun product => (level.productId, product)
    location := db.locationRow? (some level.locationId) }

def Backend.levelRows (db : Backend) : List LevelRow := db.inventoryLevels.joined db.levelRow

def levelModel : Model LevelRow where
  id r := r.id
  column?
    | "productId" => some { kind := .id, value := fun r => .id r.level.productId }
    | "locationId" => some { kind := .id, value := fun r => .id r.level.locationId }
    | "quantity" => some { kind := .int, value := fun r => .int r.level.quantity }
    | "createdAt" => some { kind := .date, value := fun r => .date r.level.createdAt }
    | "updatedAt" => some { kind := .date, value := fun r => .date r.level.updatedAt }
    | _ => none

structure GetLevelsQueryDto where
  limit : Nat := 20
  cursor : Option Cursor := none
  sortBy : Option String := none
  sortOrder : Option SortDirection := some .desc
  productId : Option Id := none
  locationId : Option Id := none
  search : Option String := none
  lowStockOnly : Bool := false

structure InventoryLevelsDataDto where
  id : Id
  quantity : Int
  createdAt : Date
  updatedAt : Date
  product : Option (Id × ProductRecord)
  location : Option (Id × LocationRecord)
deriving DecidableEq, Repr

def toInventoryLevelsDataDto (r : LevelRow) : InventoryLevelsDataDto :=
  { id := r.id, quantity := r.level.quantity, createdAt := r.level.createdAt,
    updatedAt := r.level.updatedAt, product := r.product, location := r.location }

structure GetInventoryLevelsResponseDto where
  data : List InventoryLevelsDataDto
  totalCount : Nat
  nextCursor : Option Cursor
  locations : List (Id × LocationRecord)
  lowStockCount : Nat
deriving DecidableEq, Repr

/-- The `where` of `getLevels`: a location of the query takes the place of the scope. -/
def levelsWhere (p : Platform) (org : CurrentOrg) (query : GetLevelsQueryDto) (r : LevelRow) :
    Bool :=
  r.product.any (fun product =>
    product.2.organizationId == org.organizationId &&
      query.productId.all (fun productId => product.1 == productId) &&
      (nonempty? query.search).all fun search =>
        p.contains product.2.name search || p.contains product.2.sku search) &&
    match query.locationId with
    | some l => r.level.locationId == l
    | none => getLocationScopeWhere org (some r.level.locationId)

/-- `{ product: { name } }`. -/
def byProductName (direction : SortDirection) : OrderBy LevelRow :=
  .relation (fun r => .ofText? (r.product.map (·.2.name))) direction

def buildLevelOrderBy (sortBy : Option String) (sortOrder : Option SortDirection) :
    List (OrderBy LevelRow) :=
  let dir := sortOrder.getD .desc
  match sortBy with
  | some "quantity" => [.column "quantity" dir, byProductName .asc]
  | some "updatedAt" => [.column "updatedAt" dir, byProductName .asc]
  | some "createdAt" => [.column "createdAt" dir, byProductName .asc]
  | some "name" => [byProductName dir]
  | _ => [byProductName .asc]

/-- The level is low for its product. -/
def LevelRow.isLow (r : LevelRow) : Bool :=
  r.product.any fun product => r.level.quantity ≤ product.2.reorderThreshold

/-- A page of the levels that are low for their product: found, filtered and cut in memory. -/
def lowLevels (p : Platform) (db : Backend) (org : CurrentOrg) (query : GetLevelsQueryDto) :
    Except BackendError (Paginated LevelRow) := do
  let rows ← findMany p levelModel db.levelRows
    { test := levelsWhere p org query, orderBy := buildLevelOrderBy query.sortBy query.sortOrder }
  let filtered := rows.filter LevelRow.isLow
  let (data, nextCursor) ← paginateRows filtered query.limit query.cursor (·.id)
  pure { data := data, total := filtered.length, nextCursor := nextCursor }

def levelsPage (p : Platform) (db : Backend) (org : CurrentOrg) (query : GetLevelsQueryDto) :
    Except BackendError (Paginated LevelRow) :=
  if query.lowStockOnly then lowLevels p db org query
  else paginateMany p levelModel db.levelRows (levelsWhere p org query)
    { limit := query.limit, cursor := query.cursor
      orderBy := some (buildLevelOrderBy query.sortBy query.sortOrder) }

def getLevels (p : Platform) (db : Backend) (org : CurrentOrg) (query : GetLevelsQueryDto) :
    Except BackendError GetInventoryLevelsResponseDto := do
  appResult (match query.locationId with
    | some l => ensureLocationAccessible org (some l) true
        "A location is required for this membership" "You do not have access to this location"
    | none => .ok ())
  let page ← levelsPage p db org query
  let locations ← findMany p (locationModel id) db.locationRows { test := scopedLocation org }
  pure { data := page.data.map toInventoryLevelsDataDto, totalCount := page.total
         nextCursor := page.nextCursor, locations := locations
         lowStockCount := getLowStockProductCount p db org }

end LedgerLight
