import LedgerLight.Auth.Service
import LedgerLight.Infra.Property

/-!
# The organization context of a request

How the scope of a membership gets to the services, on the objects that the language passes on:
`serializeJwtMembership` of `domain/auth/auth.service.ts`, the access token,
`domain/auth/strategies/jwt.strategy.ts`, `common/guards/org-context.guard.ts` and
`common/organization/location-scope.ts`. The other modules have the context with its scope fields
resolved (`CurrentOrg`).
-/

namespace LedgerLight.Objects

open Infra

/-! ## The token -/

/-- A membership row with what its query includes. -/
structure MembershipRow where
  id : Id
  userId : Option Id
  organizationId : Id
  role : Option Role
  organizationName : String
  locations : Option (List MembershipLocation)

/-- A membership of the database. -/
def membershipRow (db : Backend) (membershipId : Id) (m : Membership) : MembershipRow :=
  { id := membershipId, userId := some m.userId, organizationId := m.organizationId
    role := some m.role, organizationName := db.organizationName m.organizationId
    locations := some (db.membershipLocations.filter fun row => row.membershipId == membershipId) }

/-- `membership.findMany` of `login` and `refresh` : the active memberships of a user. -/
def membershipRows (db : Backend) (userId : Id) : List MembershipRow :=
  (db.memberships.entries.filter fun e => e.2.userId == userId && e.2.status == .active).map
    fun e => membershipRow db e.1 e.2

structure JwtMembership where
  id : Property Id
  organizationId : Property Id
  organizationName : Property String
  userId : Property Id
  role : Property Role
  hasAllLocations : Property Bool
  allowedLocationIds : Property (List Id)

/-- `serializeJwtMembership`. -/
def serializeJwtMembership (membership : MembershipRow) : JwtMembership :=
  let allowedLocationIds := (membership.locations.getD []).map (·.locationId)
  { id := .literal membership.id
    organizationId := .literal membership.organizationId
    organizationName := .literal membership.organizationName
    userId := .given membership.userId
    role := .given membership.role
    hasAllLocations := .given (membership.locations.map fun _ => allowedLocationIds.isEmpty)
    allowedLocationIds := .given (membership.locations.map fun _ => allowedLocationIds) }

def JwtMembership.json (m : JwtMembership) : JwtMembership :=
  { id := m.id.json, organizationId := m.organizationId.json
    organizationName := m.organizationName.json, userId := m.userId.json, role := m.role.json
    hasAllLocations := m.hasAllLocations.json, allowedLocationIds := m.allowedLocationIds.json }

structure JwtPayload where
  sub : Option Id
  user : PublicUser
  memberships : List JwtMembership

/-- The payload as it comes out of the token that it was signed into. -/
def JwtPayload.json (payload : JwtPayload) : JwtPayload :=
  { payload with memberships := payload.memberships.map JwtMembership.json }

/-- The payload of `login` and `refresh`. -/
def jwtPayload (user : PublicUser) (memberships : List MembershipRow) : JwtPayload :=
  { sub := some user.id, user := user
    memberships := memberships.map serializeJwtMembership }

/-! ## The request -/

/-- `req.user`. -/
structure UserWithMemberships where
  user : PublicUser
  memberships : List JwtMembership

/-- `JwtStrategy.validate`. -/
def validate (payload : JwtPayload) : Except BackendError UserWithMemberships :=
  match payload.sub with
  | none => .error (.unauthorized "Invalid token payload")
  | some _ => .ok { user := payload.user, memberships := payload.memberships }

/-- `req.organization`. An id that is not there is the empty text. -/
structure Organization where
  membershipId : Property (Option Id)
  organizationId : Property Id
  role : Property Role
  hasAllLocations : Property Bool
  allowedLocationIds : Property (List Id)

/-- `OrganizationContextGuard.canActivate`, with the header `x-organization-id`. -/
def canActivate (user : UserWithMemberships) (orgId : Option Id) :
    Except BackendError Organization :=
  match orgId with
  | none => .error (.forbidden "X-Organization-Id header is required")
  | some orgId =>
    match user.memberships.find? fun m => m.organizationId.get? == some orgId with
    | none => .error (.forbidden "User does not have access to the specified organization")
    | some membership => .ok
      { organizationId := .literal orgId
        role := .own membership.role.get? true
        membershipId := .hidden membership.id.get?
        hasAllLocations := .hidden (membership.hasAllLocations.get?.getD true)
        allowedLocationIds := .hidden (membership.allowedLocationIds.get?.getD []) }

/-! ## The location scope -/

/-- `OrganizationScope` : an organization's id, or an object that has one. -/
inductive OrganizationScope where
  | text (organizationId : Id)
  | object (org : Organization)

def hasResolvedLocationScope : OrganizationScope → Bool
  | .text _ => false
  | .object org =>
    org.membershipId.isIn || org.hasAllLocations.isIn || org.allowedLocationIds.isIn

/-- The context of an organization without a membership. -/
def unrestricted (organizationId : Option Id) : Organization :=
  { membershipId := .literal none, organizationId := .own organizationId true
    role := .literal .owner, hasAllLocations := .literal true, allowedLocationIds := .literal [] }

def resolveOrganizationScope : OrganizationScope → Organization
  | .text organizationId => unrestricted (some organizationId)
  | .object org =>
    if hasResolvedLocationScope (.object org) then
      { membershipId := org.membershipId.spread
        organizationId := org.organizationId.spread
        role := org.role.spread
        hasAllLocations := .literal (org.hasAllLocations.get?.getD true)
        allowedLocationIds := .literal (org.allowedLocationIds.get?.getD []) }
    else unrestricted org.organizationId.get?

/-- A field of what a property holds. -/
def field {α : Type} (p : Property α) : Except BackendError α :=
  match p.get? with
  | some value => .ok value
  | none => .error (.typeError "Cannot read properties of undefined")

/-- The property is truthy. -/
def truthy (p : Property Bool) : Bool := p.get? == some true

def hasRestrictedLocations (org : OrganizationScope) : Bool :=
  !truthy (resolveOrganizationScope org).hasAllLocations

def ensureLocationAccessible (org : OrganizationScope) (locationId : Option Id)
    (allowUnspecified : Bool := true)
    (missingMessage : String := "A location is required for this membership")
    (forbiddenMessage : String := "You do not have access to the selected location") :
    Except BackendError Unit :=
  let resolvedOrg := resolveOrganizationScope org
  match locationId with
  | none =>
    if allowUnspecified then .ok ()
    else do
      let allowedLocationIds ← field resolvedOrg.allowedLocationIds
      if allowedLocationIds.length = 0 then .ok () else .error (.badRequest missingMessage)
  | some locationId =>
    if truthy resolvedOrg.hasAllLocations then .ok ()
    else do
      let allowedLocationIds ← field resolvedOrg.allowedLocationIds
      if allowedLocationIds.contains locationId then .ok ()
      else .error (.forbidden forbiddenMessage)

/-- A filter `{ [fieldName]: { in: ids } }`; no filter is `{}`. -/
structure LocationScopeWhere where
  fieldName : String
  /-- No list is `undefined`, which the client ignores. -/
  isIn : Option (List Id)

def getLocationScopeWhere (org : OrganizationScope) (fieldName : String := "locationId") :
    Option LocationScopeWhere :=
  let resolvedOrg := resolveOrganizationScope org
  if truthy resolvedOrg.hasAllLocations then none
  else some { fieldName := fieldName, isIn := resolvedOrg.allowedLocationIds.get? }

/-- A row satisfies the filter, by the value of the field. SQL's `IN` is never true of `NULL`. -/
def satisfies (locationWhere : Option LocationScopeWhere) (value : Option Id) : Bool :=
  locationWhere.all fun w => w.isIn.all fun ids => value.any fun l => ids.contains l

/-- `assertOrderAccessible` of the order service. -/
def assertOrderAccessible (db : Database) (org : Organization) (orderId : Id) :
    Except BackendError Unit :=
  match (db.order? orderId).filter fun o => org.organizationId.get?.all (· == o.organizationId) with
  | none => .error (.notFound "Order not found")
  | some order =>
    if hasRestrictedLocations (.object org) then
      match order.locationId with
      | none => .error (.forbidden "You do not have access to this order")
      | some locationId => do
        let allowedLocationIds ← field org.allowedLocationIds
        if allowedLocationIds.contains locationId then .ok ()
        else .error (.forbidden "You do not have access to this order")
    else .ok ()

/-- The context that a request of the user gets, and a service resolves. -/
def requestOrganization (user : PublicUser) (memberships : List MembershipRow)
    (orgId : Option Id) : Except BackendError Organization := do
  let requestUser ← validate (jwtPayload user memberships).json
  let organization ← canActivate requestUser orgId
  pure (resolveOrganizationScope (.object organization))

end LedgerLight.Objects
