import LedgerLight.Common.LocationScope
import LedgerLight.Domain.Team

/-!
# Roles and their tiers

`common/permissions`, and the context of a request: the membership a token was issued for.
-/

namespace LedgerLight

/-! ## Tiers -/

def roleTier : Role → Nat
  | .owner => 1
  | .manager => 2
  | .cashier => 3
  | .support => 3
  | .inventoryClerk => 3

def canAssignRole (actorRole targetRole : Role) : Bool :=
  if actorRole = .owner then true else roleTier actorRole < roleTier targetRole

def canManageMember (actorRole targetRole : Role) (allowSameTierOwner : Bool := false) : Bool :=
  if actorRole = .owner ∧ targetRole ≠ .owner then true
  else if actorRole = .owner ∧ targetRole = .owner then allowSameTierOwner
  else roleTier actorRole < roleTier targetRole

/-- The rule behind both: an owner, or somebody of a tier above. -/
def Role.Above (actorRole targetRole : Role) : Prop :=
  actorRole = .owner ∨ roleTier actorRole < roleTier targetRole

instance (actorRole targetRole : Role) : Decidable (actorRole.Above targetRole) :=
  inferInstanceAs (Decidable (_ ∨ _))

theorem canAssignRole_iff {actorRole targetRole : Role} :
    canAssignRole actorRole targetRole = true ↔ actorRole.Above targetRole := by
  by_cases h : actorRole = .owner <;> simp [canAssignRole, Role.Above, h]

theorem above_of_canManageMember {actorRole targetRole : Role} {allowSameTierOwner : Bool}
    (h : canManageMember actorRole targetRole allowSameTierOwner = true) :
    actorRole.Above targetRole := by
  by_cases ho : actorRole = .owner
  · exact Or.inl ho
  · simp only [canManageMember, ho, false_and, if_false, decide_eq_true_eq] at h
    exact Or.inr h

/-! ## Permissions -/

/-- `ROLE_PERMISSIONS`. -/
def rolePermissions : Role → List String
  | .owner => ["*"]
  | .manager =>
    ["customers.read", "customers.create", "customers.update", "customers.delete",
      "products.read", "products.create", "products.update", "products.archive",
      "orders.read", "orders.create", "orders.update", "orders.delete",
      "orders.transition.confirm", "orders.transition.fulfill", "orders.transition.cancel",
      "orders.transition.reopen", "payments.read", "payments.create", "payments.refund",
      "inventory.read", "inventory.adjust", "inventory.count", "locations.read",
      "locations.create", "locations.update", "locations.archive", "users.read", "users.invite",
      "audit_logs.read", "reports.read"]
  | .cashier =>
    ["customers.read", "customers.create", "customers.update", "products.read", "orders.read",
      "orders.create", "orders.update", "orders.transition.confirm", "orders.transition.fulfill",
      "payments.read", "payments.create", "inventory.read", "locations.read"]
  | .support =>
    ["customers.read", "products.read", "orders.read", "payments.read", "inventory.read",
      "locations.read"]
  | .inventoryClerk =>
    ["products.read", "inventory.read", "inventory.adjust", "inventory.count", "locations.read"]

def getRolePermissions (role : Role) : List String :=
  let permissions := rolePermissions role
  if permissions.contains "*" then ["*"] else permissions

/-! ## The membership of a request -/

/-- The organization a request runs in, as `OrganizationContextGuard` copies it from the token.
`serializeJwtMembership` made the token: no location rows are all locations. -/
structure MemberContext extends CurrentOrg where
  membershipId : Id
  role : Role
  serialized : hasAllLocations = allowedLocationIds.isEmpty
deriving DecidableEq

end LedgerLight
