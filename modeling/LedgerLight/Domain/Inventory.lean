import LedgerLight.Domain.Schema

/-!
# The rows of the catalog and of the stock

`prisma/schema.prisma`. The rows of `Domain.Schema` are what orders read of a product, a customer or
a location; here are the whole rows.
-/

namespace LedgerLight

inductive CustomerStatus where
  | active | inactive | blocked
deriving DecidableEq, Repr

inductive LocationType where
  | store | warehouse | popUp | other
deriving DecidableEq, Repr

inductive LocationStatus where
  | active | inactive | archived
deriving DecidableEq, Repr

/-- `InventoryAjustmentReason`. -/
inductive InventoryAdjustmentReason where
  | manual | restock | sale | return_ | shrinkage | countCorrection | initialStock
deriving DecidableEq, Repr

structure ProductRecord extends Product where
  category : Option String
  reorderThreshold : Int
  createdAt : Date
  updatedAt : Date
deriving DecidableEq, Repr

structure CustomerRecord extends Customer where
  name : String
  email : String
  phone : Option String
  status : CustomerStatus
  internalNote : Option String
  createdAt : Date
  updatedAt : Date
deriving DecidableEq, Repr

structure LocationRecord extends Location where
  name : String
  code : Option String
  type : LocationType
  status : LocationStatus
  addressLine1 : String
  addressLine2 : Option String
  city : String
  stateProvince : Option String
  postalCode : Option String
  countryCode : String
  notes : Option String
  createdAt : Date
  updatedAt : Date
deriving DecidableEq, Repr

structure InventoryLevel where
  productId : Id
  locationId : Id
  quantity : Int
  createdAt : Date
  updatedAt : Date
deriving DecidableEq, Repr

structure InventoryAdjustment where
  organizationId : Id
  productId : Id
  locationId : Id
  actorUserId : Option Id
  delta : Int
  reason : InventoryAdjustmentReason
  note : Option String
  createdAt : Date
deriving DecidableEq, Repr

end LedgerLight
