import LedgerLight.Team.Members

/-!
# The auth service

`domain/auth/auth.service.ts`. `login` writes statement by statement; `refresh` only reads.

The access token is the payload signed by `JwtService`; a refresh token is known to its owner only,
the database has its hash.
-/

namespace LedgerLight

open Infra Prog

/-- `User` without the hash of the password (`omit: { passwordHash: true }`). -/
structure PublicUser where
  id : Id
  email : String
  firstName : Option String
  lastName : Option String
  isActive : Bool
  lastLoginAt : Option Date
  createdAt : Date
  updatedAt : Date
deriving DecidableEq, Repr

def User.omitPasswordHash (userId : Id) (u : User) : PublicUser :=
  { id := userId, email := u.email, firstName := u.firstName, lastName := u.lastName,
    isActive := u.isActive, lastLoginAt := u.lastLoginAt, createdAt := u.createdAt,
    updatedAt := u.updatedAt }

/-- A membership with the name of its organization and its locations. -/
structure MembershipWithOrganization extends Membership where
  id : Id
  organizationName : String
  locationIds : List Id
deriving DecidableEq, Repr

/-- A membership as the access token has it. -/
structure JwtMembership where
  id : Id
  organizationId : Id
  organizationName : String
  userId : Id
  role : Role
  hasAllLocations : Bool
  allowedLocationIds : List Id
deriving DecidableEq, Repr

structure JwtPayload where
  sub : Id
  user : PublicUser
  memberships : List JwtMembership
deriving DecidableEq, Repr

/-- What auth requests read besides their input. -/
structure AuthEnv extends Env where
  /-- `crypto.randomBytes(48).toString('base64url')`. -/
  refreshTokenRaw : String
  /-- `bcrypt.hash(raw, 10)`, with the salt it draws. -/
  bcryptHash : String → String
  bcryptCompare : String → String → Bool
  /-- `jwtService.signAsync`. -/
  signAsync : JwtPayload → String

/-! ## Reading -/

namespace Backend

variable (db : Backend)

def organizationName (organizationId : Id) : String :=
  ((db.organizations.lookup organizationId).map (·.name)).getD ""

/-- The active memberships of a user, with organization and locations. -/
def activeMemberships (userId : Id) : List MembershipWithOrganization :=
  (db.memberships.entries.filter fun e => e.2.userId == userId && e.2.status == .active).map
    fun e =>
      { e.2 with
        id := e.1
        organizationName := db.organizationName e.2.organizationId
        locationIds := db.scopeOf e.1 }

/-- `refreshToken.findMany` : the sessions of a user that are not revoked and have not expired. -/
def validRefreshTokens (userId : Id) (now : Date) : List RefreshToken :=
  (db.refreshTokens.entries.map (·.2)).filter fun t =>
    t.userId == userId && decide (now < t.expiresAt) && t.revokedAt.isNone

def setRefreshToken (tokenId : Id) (t : RefreshToken) : Backend :=
  { db with refreshTokens := db.refreshTokens.insert tokenId t }

end Backend

/-- `serializeJwtMembership`. No location means all. -/
def serializeJwtMembership (membership : MembershipWithOrganization) : JwtMembership :=
  { id := membership.id, organizationId := membership.organizationId
    organizationName := membership.organizationName, userId := membership.userId
    role := membership.role, hasAllLocations := membership.locationIds.isEmpty
    allowedLocationIds := membership.locationIds }

/-! ## Statements -/

variable {S : Type}

/-- `refreshToken.create`; `tokenHash` is unique. -/
def refreshTokenCreate (tokenId : Id) (t : RefreshToken) : Work S Unit :=
  exec []
    (fun db =>
      if (db.refreshTokens.lookup tokenId).isSome ∨
          (db.refreshTokens.findRow? fun _ t' => t'.tokenHash == t.tokenHash).isSome then
        some (.prisma "P2002")
      else if (db.users.lookup t.userId).isSome then none
      else some (.prisma "P2003"))
    fun db => db.setRefreshToken tokenId t

/-- `refreshToken.updateMany` of `logout` : the sessions of a user that have not expired end. -/
def refreshTokenRevokeLive (env : AuthEnv) (userId : Id) : Work S Unit :=
  exec [] (fun _ => none) fun db =>
    { db with refreshTokens := db.refreshTokens.mapRows fun t =>
        if t.userId = userId ∧ env.now < t.expiresAt ∧ t.revokedAt = none then
          { t with revokedAt := some env.now }
        else t }

/-- `user.update` of `login`. -/
def userLoggedIn (env : AuthEnv) (userId : Id) : Work S Unit :=
  exec [.user userId]
    (fun db => if (db.users.lookup userId).isSome then none else some (.prisma "P2025"))
    fun db => db.modifyUser userId fun u =>
      { u with lastLoginAt := some env.now, updatedAt := env.now }

/-- `auditLog.createMany` : one row for each organization. -/
def createUserAuditLogs (env : AuthEnv) (userId : Id) (action : MemberAuditAction)
    (organizationIds : List Id) : Work S Unit :=
  exec [] (fun _ => none) fun db =>
    { db with memberLogs :=
        (organizationIds.map fun organizationId =>
          { organizationId := organizationId, actorUserId := some userId, entityType := .user,
            entityId := userId, action := action, beforeJson := none, afterJson := none,
            createdAt := env.now }) ++ db.memberLogs }

/-! ## Calls -/

structure LoginDto where
  email : String
  password : String
deriving DecidableEq, Repr

/-- A refresh token without its hash. -/
structure RefreshTokenInfo where
  id : Id
  userId : Id
  expiresAt : Date
  revokedAt : Option Date
  createdAt : Date
deriving DecidableEq, Repr

structure LoginResponse where
  accessToken : String
  refreshTokenRaw : String
  refreshToken : RefreshTokenInfo
  user : PublicUser
  memberships : List MembershipWithOrganization
deriving DecidableEq, Repr

/-- Seven days. -/
def refreshTokenLifetime : Date := 7 * 24 * 60 * 60 * 1000

/-- The session that a login opens. -/
def openedSession (env : AuthEnv) (userId : Id) : RefreshToken :=
  { userId := userId, tokenHash := env.bcryptHash env.refreshTokenRaw,
    expiresAt := env.now + refreshTokenLifetime, revokedAt := none, createdAt := env.now }

def noActiveMemberships : BackendError :=
  .unauthorized "Invalid credentials, user has no active organization memberships"

/-- The end of `login` : the payload of a user with these memberships, and the audit rows. -/
def loginAnswer (env : AuthEnv) (userId : Id) (user : User)
    (memberships : List MembershipWithOrganization) : Work S LoginResponse := do
  require (memberships ≠ []) noActiveMemberships
  let updatedUser := user.omitPasswordHash userId
  let payload : JwtPayload :=
    { sub := userId, user := updatedUser, memberships := memberships.map serializeJwtMembership }
  createUserAuditLogs env userId .login (memberships.map (·.organizationId))
  pure { accessToken := env.signAsync payload, refreshTokenRaw := env.refreshTokenRaw,
         refreshToken := { id := env.uuid 0, userId := userId,
                           expiresAt := env.now + refreshTokenLifetime, revokedAt := none,
                           createdAt := env.now },
         user := updatedUser, memberships := memberships }

def login (env : AuthEnv) (input : LoginDto) : Work S LoginResponse := do
  match (← select fun db => db.userByEmail? input.email).filter
      fun u => u.2.isActive && u.2.hasPassword with
  | none => fail (.unauthorized "Invalid credentials, user not found or inactive")
  | some (userId, user) =>
    require (env.bcryptCompare input.password (user.passwordHash.getD "") = true)
      (.unauthorized "Invalid credentials, incorrect password")
    refreshTokenCreate (env.uuid 0) (openedSession env userId)
    userLoggedIn env userId
    match ← select fun db =>
        (db.users.lookup userId).map fun u => (u, db.activeMemberships userId) with
    | none => fail (.prisma "P2025")
    | some (updated, memberships) => loginAnswer env userId updated memberships

structure RefreshTokenDto where
  refreshTokenRaw : String
  userId : Id
deriving DecidableEq, Repr

structure RefreshResponse where
  accessToken : String
  user : PublicUser
deriving DecidableEq, Repr

/-- The end of `refresh`, for a session that is live. -/
def refreshAnswer (env : AuthEnv) (userId : Id) : Work S RefreshResponse := do
  match (← select fun db => db.users.lookup userId).filter (·.isActive) with
  | none => fail (.unauthorized "Invalid refresh token, user not found or inactive")
  | some user =>
    let memberships ← select fun db => db.activeMemberships userId
    require (memberships ≠ [])
      (.unauthorized "Invalid refresh token, user has no active organization memberships")
    let payload : JwtPayload :=
      { sub := userId, user := user.omitPasswordHash userId,
        memberships := memberships.map serializeJwtMembership }
    pure { accessToken := env.signAsync payload, user := user.omitPasswordHash userId }

def refresh (env : AuthEnv) (input : RefreshTokenDto) : Work S RefreshResponse := do
  let validRefreshTokens ← select fun db => db.validRefreshTokens input.userId env.now
  require (validRefreshTokens ≠ []) (.unauthorized "Invalid refresh token")
  require ((validRefreshTokens.any fun t =>
    env.bcryptCompare input.refreshTokenRaw t.tokenHash) = true)
    (.unauthorized "Invalid refresh token")
  refreshAnswer env input.userId

def logout (env : AuthEnv) (userId : Id) : Work S Unit := do
  let memberships ← select fun db => db.activeMemberships userId
  refreshTokenRevokeLive env userId
  doWhen (memberships ≠ [])
    (createUserAuditLogs env userId .logout (memberships.map (·.organizationId)))

end LedgerLight
