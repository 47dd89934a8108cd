import LedgerLight.Common.Errors

/-!
# The rows of users and memberships

`prisma/schema.prisma`, as far as the team service reads and writes it. A user is one account for
all organizations; what it may do in an organization is its membership there.
-/

namespace LedgerLight

inductive Role where
  | owner | manager | cashier | support | inventoryClerk
deriving DecidableEq, Repr

inductive MembershipStatus where
  | invited | active | deactivated
deriving DecidableEq, Repr

structure Organization where
  name : String
deriving DecidableEq, Repr

structure User where
  email : String
  passwordHash : Option String
  firstName : Option String
  lastName : Option String
  isActive : Bool
  lastLoginAt : Option Date
  createdAt : Date
  updatedAt : Date
deriving DecidableEq, Repr

/-- A password hash is used as a condition: neither `null` nor the empty string counts. -/
def User.hasPassword (u : User) : Bool := u.passwordHash.any fun hash => hash != ""

structure Membership where
  organizationId : Id
  userId : Id
  role : Role
  status : MembershipStatus
  createdAt : Date
  updatedAt : Date
  invitedAt : Option Date
  activatedAt : Option Date
  deactivatedAt : Option Date
deriving DecidableEq, Repr

/-- A location a membership is restricted to. -/
structure MembershipLocation where
  membershipId : Id
  locationId : Id
deriving DecidableEq, Repr

structure InviteToken where
  membershipId : Id
  tokenHash : String
  expiresAt : Date
  acceptedAt : Option Date
  createdAt : Date
deriving DecidableEq, Repr

structure RefreshToken where
  userId : Id
  tokenHash : String
  expiresAt : Date
  revokedAt : Option Date
  createdAt : Date
deriving DecidableEq, Repr

/-- The audit actions of users and memberships. -/
inductive MemberAuditAction where
  | login | logout | update | inviteSent | inviteResent | inviteAccepted | roleChanged
  | memberDeactivated | memberReactivated | locationScopeChanged
deriving DecidableEq, Repr

inductive MemberAuditEntityType where
  | user | membership
deriving DecidableEq, Repr

/-- What an audit row repeats of a membership (`snapshotMembership`). -/
structure MembershipSnapshot where
  id : Id
  userId : Id
  role : Role
  status : MembershipStatus
  email : String
  firstName : Option String
  lastName : Option String
  locationIds : List Id
deriving DecidableEq, Repr

/-- The rows of `AuditLog` about users and memberships. -/
structure MemberAuditLog where
  organizationId : Id
  actorUserId : Option Id
  entityType : MemberAuditEntityType
  entityId : Id
  action : MemberAuditAction
  beforeJson : Option MembershipSnapshot
  afterJson : Option MembershipSnapshot
  createdAt : Date
deriving DecidableEq, Repr

end LedgerLight
