import LedgerLight.Common.Errors

/-!
# Organization and location scope

`common/organization/location-scope.ts`, for an organization context whose scope fields are
resolved.
-/

namespace LedgerLight

/-- The organization a request runs in, with the locations its membership may see. -/
structure CurrentOrg where
  organizationId : Id
  hasAllLocations : Bool := true
  allowedLocationIds : List Id := []
deriving DecidableEq, Repr

def hasRestrictedLocations (org : CurrentOrg) : Bool := !org.hasAllLocations

/-- `getLocationScopeWhere`, as the test it puts on a row's location. SQL's `IN` is never true of
`NULL`. -/
def getLocationScopeWhere (org : CurrentOrg) (locationId : Option Id) : Bool :=
  org.hasAllLocations ||
    match locationId with
    | none => false
    | some l => org.allowedLocationIds.contains l

/-- `ensureLocationAccessible`, with the options its callers give. -/
def ensureLocationAccessible (org : CurrentOrg) (locationId : Option Id)
    (allowUnspecified : Bool := true)
    (missingMessage : String := "A location is required for this membership")
    (forbiddenMessage : String := "You do not have access to the selected location") :
    Except AppError Unit :=
  match locationId with
  | none =>
    if allowUnspecified || org.allowedLocationIds.isEmpty then .ok ()
    else .error (.badRequest missingMessage)
  | some l =>
    if org.hasAllLocations then .ok ()
    else if org.allowedLocationIds.contains l then .ok ()
    else .error (.forbidden forbiddenMessage)

end LedgerLight
