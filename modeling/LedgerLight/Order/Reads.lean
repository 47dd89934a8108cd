import LedgerLight.Order.Service
import LedgerLight.Prisma.Service

/-!
# Reading orders

`getOrders` and `getOrderById` of `domain/order/order.service.ts`.
-/

namespace LedgerLight

open Infra

/-! ## Rows -/

/-- An order with its relations: items and payment hang from it, its customer and its location are
rows of their own. -/
structure OrderRow where
  id : Id
  order : OrderRecord
  customer : Option (Id × CustomerRecord)
  location : Option (Id × LocationRecord)

namespace Backend

variable (db : Backend)

def customerRow? (customerId : Option Id) : Option (Id × CustomerRecord) :=
  customerId.bind fun c => (db.customers.lookup c).map fun row => (c, row)

def locationRow? (locationId : Option Id) : Option (Id × LocationRecord) :=
  locationId.bind fun l => (db.locations.lookup l).map fun row => (l, row)

def orderRow (id : Id) (o : OrderRecord) : OrderRow :=
  { id := id, order := o, customer := db.customerRow? o.customerId,
    location := db.locationRow? o.locationId }

def orderRows : List OrderRow := db.orders.joined db.orderRow

def locationRows : List (Id × LocationRecord) := db.locations.rows

end Backend

/-- The place of a status in `enum OrderStatus`. -/
def OrderStatus.place : OrderStatus → Nat
  | pending => 0
  | confirmed => 1
  | cancelled => 2
  | fulfilled => 3

def orderModel : Model OrderRow where
  id r := r.id
  column?
    | "organizationId" => some { kind := .id, value := fun r => .id r.order.organizationId }
    | "customerId" => some { kind := .id, value := fun r => .ofId? r.order.customerId }
    | "locationId" => some { kind := .id, value := fun r => .ofId? r.order.locationId }
    | "status" => some { kind := .enum, value := fun r => .enum r.order.status.place }
    | "subtotalCents" => some { kind := .int, value := fun r => .int r.order.subtotalCents }
    | "taxCents" => some { kind := .int, value := fun r => .int r.order.taxCents }
    | "discountCents" => some { kind := .int, value := fun r => .int r.order.discountCents }
    | "totalCents" => some { kind := .int, value := fun r => .int r.order.totalCents }
    | "createdAt" => some { kind := .date, value := fun r => .date r.order.createdAt }
    | "updatedAt" => some { kind := .date, value := fun r => .date r.order.updatedAt }
    | "placedAt" => some { kind := .date, value := fun r => .ofDate? r.order.placedAt }
    | "cancelledAt" => some { kind := .date, value := fun r => .ofDate? r.order.cancelledAt }
    | _ => none

/-- The place of a type in `enum LocationType`. -/
def LocationType.place : LocationType → Nat
  | store => 0
  | warehouse => 1
  | popUp => 2
  | other => 3

def LocationStatus.place : LocationStatus → Nat
  | active => 0
  | inactive => 1
  | archived => 2

/-- The scalar columns of locations, of rows that have one. -/
def locationModel {R : Type} (row : R → Id × LocationRecord) : Model R where
  id r := (row r).1
  column?
    | "organizationId" => some { kind := .id, value := fun r => .id (row r).2.organizationId }
    | "name" => some { kind := .text, value := fun r => .text (row r).2.name }
    | "code" => some { kind := .text, value := fun r => .ofText? (row r).2.code }
    | "type" => some { kind := .enum, value := fun r => .enum (row r).2.type.place }
    | "status" => some { kind := .enum, value := fun r => .enum (row r).2.status.place }
    | "addressLine1" => some { kind := .text, value := fun r => .text (row r).2.addressLine1 }
    | "addressLine2" => some { kind := .text, value := fun r => .ofText? (row r).2.addressLine2 }
    | "city" => some { kind := .text, value := fun r => .text (row r).2.city }
    | "stateProvince" => some { kind := .text, value := fun r => .ofText? (row r).2.stateProvince }
    | "postalCode" => some { kind := .text, value := fun r => .ofText? (row r).2.postalCode }
    | "countryCode" => some { kind := .text, value := fun r => .text (row r).2.countryCode }
    | "notes" => some { kind := .text, value := fun r => .ofText? (row r).2.notes }
    | "createdAt" => some { kind := .date, value := fun r => .date (row r).2.createdAt }
    | "updatedAt" => some { kind := .date, value := fun r => .date (row r).2.updatedAt }
    | _ => none

/-! ## Answers -/

/-- `ORDER_CUSTOMER_SELECT`. -/
structure OrderCustomerDto where
  id : Id
  name : String
  email : String
deriving DecidableEq, Repr

/-- `ORDER_LOCATION_SELECT`. -/
structure OrderLocationDto where
  id : Id
  name : String
  addressLine1 : String
  city : String
  stateProvince : Option String
  postalCode : Option String
  countryCode : String
deriving DecidableEq, Repr

/-- An order in an answer, with the summary of its payment. -/
structure OrderDetailDto extends Order where
  id : Id
  items : Option (List OrderItem)
  customer : Option OrderCustomerDto
  location : Option OrderLocationDto
  payment : Option PaymentSummaryDto
deriving DecidableEq, Repr

def toOrderLocationDto (row : Id × LocationRecord) : OrderLocationDto :=
  { id := row.1, name := row.2.name, addressLine1 := row.2.addressLine1, city := row.2.city,
    stateProvince := row.2.stateProvince, postalCode := row.2.postalCode,
    countryCode := row.2.countryCode }

/-- `attachPaymentSummary` of a row with its relations. -/
def toOrderDetailDto (withItems : Bool) (r : OrderRow) : OrderDetailDto :=
  { r.order.toOrder with
    id := r.id
    items := if withItems then some r.order.items else none
    customer := r.customer.map fun c => { id := c.1, name := c.2.name, email := c.2.email }
    location := r.location.map toOrderLocationDto
    payment := r.order.payment.map fun p => toPaymentSummaryDto p.toPayment }

structure GetOrdersQueryDto where
  limit : Nat := 20
  cursor : Option Cursor := none
  sortBy : Option String := none
  sortOrder : Option SortDirection := some .desc
  status : Option OrderStatus := none
  search : Option String := none
  locationId : Option Id := none
  withItems : Bool := false

structure GetOrdersResponseDto where
  data : List OrderDetailDto
  totalCount : Nat
  locations : List OrderLocationDto
  nextCursor : Option Cursor
deriving DecidableEq, Repr

/-! ## Reads -/

/-- The `where` of `getOrders`: a location of the query takes the place of the scope. -/
def ordersWhere (p : Platform) (org : CurrentOrg) (query : GetOrdersQueryDto) (r : OrderRow) :
    Bool :=
  r.order.organizationId == org.organizationId &&
    (match query.locationId with
      | some l => r.order.locationId == some l
      | none => getLocationScopeWhere org r.order.locationId) &&
    query.status.all (fun status => r.order.status == status) &&
    (nonempty? query.search).all fun search =>
      p.contains (p.idText r.id) search ||
        r.customer.any (fun c => p.contains c.2.name search) ||
        r.customer.any (fun c => p.contains c.2.email search)

/-- The locations of the organization that the membership may see. -/
def scopedLocation (org : CurrentOrg) (row : Id × LocationRecord) : Bool :=
  row.2.organizationId == org.organizationId && getLocationScopeWhere org (some row.1)

def appResult {α : Type} : Except AppError α → Except BackendError α
  | .ok a => .ok a
  | .error e => .error (.app e)

def getOrders (p : Platform) (db : Backend) (org : CurrentOrg) (query : GetOrdersQueryDto) :
    Except BackendError GetOrdersResponseDto := do
  appResult (match query.locationId with
    | some l => ensureLocationAccessible org (some l) false
    | none => .ok ())
  let page ← paginateMany p orderModel db.orderRows (ordersWhere p org query)
    { limit := query.limit, cursor := query.cursor, sortBy := query.sortBy,
      sortOrder := query.sortOrder }
  let locations ← findMany p (locationModel id) db.locationRows
    { test := scopedLocation org, orderBy := [.column "name" .asc] }
  pure { data := page.data.map (toOrderDetailDto query.withItems), totalCount := page.total
         locations := locations.map toOrderLocationDto, nextCursor := page.nextCursor }

def orderByIdWhere (org : CurrentOrg) (orderId : Id) (r : OrderRow) : Bool :=
  r.id == orderId && r.order.visibleTo org

def getOrderById (p : Platform) (db : Backend) (org : CurrentOrg) (orderId : Id)
    (withItems : Bool) : Except BackendError OrderDetailDto := do
  let rows ← findMany p orderModel db.orderRows { test := orderByIdWhere org orderId }
  match rows.head? with
  | none => .error (.notFound "Order not found")
  | some r => .ok (toOrderDetailDto withItems r)

end LedgerLight
