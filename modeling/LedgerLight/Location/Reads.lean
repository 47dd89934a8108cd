import LedgerLight.Location.Service
import LedgerLight.Order.Reads

/-!
# Reading locations

`getLocations` and `getLocationById` of `domain/location/location.service.ts`.
-/

namespace LedgerLight

open Infra

/-- A location with the quantities of its inventory levels. -/
structure LocationListRow where
  row : Id × LocationRecord
  inventoryLevels : List Int

def Backend.locationListRow (p : Platform) (db : Backend) (id : Id) (l : LocationRecord) :
    LocationListRow :=
  { row := (id, l)
    inventoryLevels := (p.arrange (db.inventoryLevels.select fun _ level =>
      level.locationId == id)).map (·.2.quantity) }

def Backend.locationListRows (p : Platform) (db : Backend) : List LocationListRow :=
  db.locations.joined (db.locationListRow p)

structure GetLocationsQueryDto where
  limit : Nat := 20
  cursor : Option Cursor := none
  sortBy : Option String := none
  sortOrder : Option SortDirection := some .desc
  search : Option String := none
  status : Option LocationStatus := none
  type : Option LocationType := none

structure LocationListItemDto extends LocationListRow where
  onHandQuantity : Int

structure GetLocationsResponseDto where
  data : List LocationListItemDto
  totalCount : Nat
  nextCursor : Option Cursor

def locationsWhere (p : Platform) (org : CurrentOrg) (query : GetLocationsQueryDto)
    (r : LocationListRow) : Bool :=
  scopedLocation org r.row &&
    query.status.elim (r.row.2.status != .archived) (fun status => r.row.2.status == status) &&
    query.type.all (fun type => r.row.2.type == type) &&
    (nonempty? query.search).all fun search =>
      p.contains r.row.2.name search || r.row.2.code.any (fun code => p.contains code search) ||
        p.contains r.row.2.addressLine1 search || p.contains r.row.2.city search

/-- Without a sort column, the location that was changed last comes first. -/
def locationsOrder (query : GetLocationsQueryDto) : List (OrderBy LocationListRow) :=
  match nonempty? query.sortBy with
  | some field => [.column field (query.sortOrder.getD .desc)]
  | none => [.column "updatedAt" .desc]

def getLocations (p : Platform) (db : Backend) (org : CurrentOrg) (query : GetLocationsQueryDto) :
    Except BackendError GetLocationsResponseDto := do
  let page ← paginateMany p (locationModel (·.row)) (db.locationListRows p)
    (locationsWhere p org query)
    { limit := query.limit, cursor := query.cursor, orderBy := some (locationsOrder query),
      sortBy := query.sortBy, sortOrder := query.sortOrder }
  pure { data := page.data.map fun r => { r with onHandQuantity := r.inventoryLevels.sum }
         totalCount := page.total, nextCursor := page.nextCursor }

def getLocationById (db : Backend) (org : CurrentOrg) (locationId : Id) :
    Except BackendError (Id × LocationRecord) :=
  match db.visibleLocation? org locationId with
  | none => .error (.notFound "Location not found")
  | some l => .ok (locationId, l)

end LedgerLight
