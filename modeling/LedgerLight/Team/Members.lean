import LedgerLight.Domain.Backend
import LedgerLight.Team.Roles
import Mathlib.Data.List.Sort

/-!
# Memberships with their relations

What `team.service.ts` reads of a membership, what it answers about one, and the statements by which
it changes the tables of the team.

Each statement has one lemma `…_ok` that says what it did when it did not fail.
-/

namespace LedgerLight

open Infra Prog

/-- What team requests read besides their input. -/
structure TeamEnv extends Env where
  /-- `crypto.randomBytes(32).toString('base64url')`. -/
  rawToken : String
  sha256 : String → String
  /-- `bcrypt.hash(password, 10)`, with the salt it draws. -/
  bcryptHash : String → String
  trim : String → String
  toLowerCase : String → String
  frontendUrl : String

/-! ## Reading memberships -/

/-- `teamMemberListInclude` : a membership with its user, its locations and the newest invite that
was not accepted. -/
structure TeamMemberRecord extends Membership where
  id : Id
  user : User
  locations : List (Id × String)
  inviteToken : Option InviteToken
deriving DecidableEq, Repr

namespace Backend

variable (db : Backend)

/-- The locations a membership is restricted to. -/
def scopeOf (membershipId : Id) : List Id :=
  (db.membershipLocations.filter fun row => row.membershipId == membershipId).map (·.locationId)

/-- `inviteTokens: { where: { acceptedAt: null }, orderBy: { createdAt: 'desc' }, take: 1 }` -/
def pendingInvite? (membershipId : Id) : Option InviteToken :=
  (((db.inviteTokens.entries.map (·.2)).filter fun t =>
    t.membershipId == membershipId && t.acceptedAt.isNone).insertionSort fun t t' =>
      t'.createdAt ≤ t.createdAt).head?

def locationName (locationId : Id) : String :=
  ((db.locations.lookup locationId).map (·.name)).getD ""

/-- The membership with its relations; a foreign key says that the user exists. -/
def member? (membershipId : Id) : Option TeamMemberRecord :=
  (db.memberships.lookup membershipId).bind fun m =>
    (db.users.lookup m.userId).map fun user =>
      { m with
        id := membershipId
        user := user
        locations := (db.scopeOf membershipId).map fun l => (l, db.locationName l)
        inviteToken := db.pendingInvite? membershipId }

/-- The membership of a user in an organization (`@@unique([organizationId, userId])`). -/
def memberOf? (organizationId userId : Id) : Option TeamMemberRecord :=
  (db.memberships.findRow? fun _ m =>
    m.organizationId == organizationId && m.userId == userId).bind fun r => db.member? r.1

/-- `user.findUnique` by `email`. -/
def userByEmail? (email : String) : Option (Id × User) :=
  db.users.findRow? fun _ u => u.email == email

/-- Another user has the e-mail (`email` is unique). -/
def emailTaken (userId : Id) (email : String) : Bool :=
  (db.users.findRow? fun k u => k != userId && u.email == email).isSome

def setMembership (membershipId : Id) (m : Membership) : Backend :=
  { db with memberships := db.memberships.insert membershipId m }

def setUser (userId : Id) (u : User) : Backend := { db with users := db.users.insert userId u }

def modifyMembership (membershipId : Id) (f : Membership → Membership) : Backend :=
  match db.memberships.lookup membershipId with
  | none => db
  | some m => db.setMembership membershipId (f m)

def modifyUser (userId : Id) (f : User → User) : Backend :=
  match db.users.lookup userId with
  | none => db
  | some u => db.setUser userId (f u)

variable {db} {membershipId : Id} {r : TeamMemberRecord}

theorem member?_eq_some (h : db.member? membershipId = some r) :
    db.memberships.lookup membershipId = some r.toMembership ∧
      db.users.lookup r.userId = some r.user ∧ r.id = membershipId ∧
      r.locations.map (·.1) = db.scopeOf membershipId := by
  obtain ⟨m, hm, h₁⟩ := Option.bind_eq_some_iff.mp h
  obtain ⟨user, hu, rfl⟩ := Option.map_eq_some_iff.mp h₁
  refine ⟨hm, hu, rfl, ?_⟩
  simp [Function.comp_def]

theorem memberOf?_eq_some {organizationId userId : Id}
    (h : db.memberOf? organizationId userId = some r) :
    r.organizationId = organizationId ∧ r.userId = userId ∧ db.member? r.id = some r := by
  obtain ⟨⟨k, m⟩, hrow, hmember⟩ := Option.bind_eq_some_iff.mp h
  obtain ⟨hm, -, hid, -⟩ := member?_eq_some hmember
  have htest := Table.pred_of_findRow? hrow
  obtain rfl : m = r.toMembership := Option.some.inj ((Table.lookup_of_findRow? hrow).symm.trans hm)
  simp only [Bool.and_eq_true, beq_iff_eq] at htest
  exact ⟨htest.1, htest.2, hid ▸ hmember⟩

theorem userByEmail?_eq_some {email : String} {userId : Id} {u : User}
    (h : db.userByEmail? email = some (userId, u)) :
    db.users.lookup userId = some u ∧ u.email = email :=
  ⟨Table.lookup_of_findRow? h, by simpa using Table.pred_of_findRow? h⟩

end Backend

/-! ## Answers -/

structure TeamMemberListItem where
  membershipId : Id
  userId : Id
  firstName : Option String
  lastName : Option String
  displayName : String
  email : String
  role : Role
  status : MembershipStatus
  lastActiveAt : Option Date
  createdAt : Date
  updatedAt : Date
  hasAllLocations : Bool
  locations : List (Id × String)
  inviteExpired : Bool
  inviteExpiresAt : Option Date
deriving DecidableEq, Repr

/-- `actor: { select: { id, firstName, lastName, email } }` -/
structure TeamActor where
  id : Id
  firstName : Option String
  lastName : Option String
  email : String
deriving DecidableEq, Repr

structure TeamActivityItem extends MemberAuditLog where
  actor : Option TeamActor
deriving DecidableEq, Repr

structure TeamMemberDetail extends TeamMemberListItem where
  permissions : List String
  activity : List TeamActivityItem
deriving DecidableEq, Repr

structure TeamMutationResponse where
  member : TeamMemberDetail
  action : String
  inviteUrl : Option String := none
deriving DecidableEq, Repr

def displayName (env : TeamEnv) (u : User) : String :=
  let name := env.trim (" ".intercalate
    ([u.firstName, u.lastName].filterMap fun n => n.filter fun s => s != ""))
  if name = "" then u.email else name

def mapMemberListItem (env : TeamEnv) (member : TeamMemberRecord) : TeamMemberListItem :=
  { membershipId := member.id, userId := member.userId, firstName := member.user.firstName,
    lastName := member.user.lastName, displayName := displayName env member.user,
    email := member.user.email, role := member.role, status := member.status,
    lastActiveAt := member.user.lastLoginAt, createdAt := member.createdAt,
    updatedAt := member.updatedAt, hasAllLocations := member.locations.isEmpty,
    locations := member.locations,
    inviteExpired := member.inviteToken.any fun t => t.expiresAt ≤ env.now,
    inviteExpiresAt := member.inviteToken.map (·.expiresAt) }

def snapshotMembership (member : TeamMemberRecord) : MembershipSnapshot :=
  { id := member.id, userId := member.userId, role := member.role, status := member.status,
    email := member.user.email, firstName := member.user.firstName,
    lastName := member.user.lastName, locationIds := member.locations.map (·.1) }

/-- The audit rows `getMemberDetail` answers. -/
def Backend.activity (db : Backend) (organizationId membershipId userId : Id) :
    List TeamActivityItem :=
  let rows := db.memberLogs.filter fun row => row.organizationId == organizationId &&
    ((row.entityType == .membership && row.entityId == membershipId) ||
      (row.entityType == .user && row.entityId == userId &&
        (row.action == .login || row.action == .logout)))
  ((rows.insertionSort fun a b => b.createdAt ≤ a.createdAt).take 10).map fun row =>
    { row with actor := row.actorUserId.bind fun actorId => (db.users.lookup actorId).map fun u =>
        { id := actorId, firstName := u.firstName, lastName := u.lastName, email := u.email } }

variable {S : Type}

def findMembershipOrThrow (organizationId membershipId : Id) : Work S TeamMemberRecord := do
  let membership ← select fun db => (db.member? membershipId).filter fun m =>
    m.organizationId == organizationId
  match membership with
  | none => fail (.notFound "Member not found")
  | some membership => pure membership

def loadMembershipWithRelations (membershipId : Id) : Work S TeamMemberRecord := do
  match ← select fun db => db.member? membershipId with
  | none => fail (.notFound "Member not found")
  | some membership => pure membership

def getMemberDetail (env : TeamEnv) (organizationId membershipId : Id) :
    Work S TeamMemberDetail := do
  let member ← findMembershipOrThrow organizationId membershipId
  let activity ← select fun db => db.activity organizationId membershipId member.userId
  pure { mapMemberListItem env member with
    permissions := getRolePermissions member.role, activity := activity }

/-! ## Statements -/

/-- `membership.update` by `id`. -/
def membershipUpdate (env : TeamEnv) (membershipId : Id) (f : Membership → Membership) :
    Work S Unit :=
  exec [.membership membershipId]
    (fun db =>
      if (db.memberships.lookup membershipId).isSome then none else some (.prisma "P2025"))
    (fun db => db.modifyMembership membershipId fun m => { f m with updatedAt := env.now })

/-- `membership.create`. -/
def membershipCreate (membershipId : Id) (m : Membership) : Work S Unit :=
  exec [.membership membershipId, .seat m.organizationId m.userId]
    (fun db =>
      if (db.memberships.lookup membershipId).isSome ∨
          (db.memberships.findRow? fun _ m' =>
            m'.organizationId == m.organizationId && m'.userId == m.userId).isSome then
        some (.prisma "P2002")
      else if (db.organizations.lookup m.organizationId).isSome ∧
          (db.users.lookup m.userId).isSome then none
      else some (.prisma "P2003"))
    (fun db => db.setMembership membershipId m)

/-- `user.update` by `id`, which may set the e-mail. -/
def userUpdate (env : TeamEnv) (userId : Id) (email : Option String) (f : User → User) :
    Work S Unit :=
  exec (.user userId :: (email.map BackendKey.email).toList)
    (fun db =>
      if (db.users.lookup userId).isNone then some (.prisma "P2025")
      else if (email.any fun e => db.emailTaken userId e) = true then some (.prisma "P2002")
      else none)
    (fun db => db.modifyUser userId fun u =>
      { f u with email := email.getD u.email, updatedAt := env.now })

/-- `user.create`. -/
def userCreate (userId : Id) (u : User) : Work S Unit :=
  exec [.user userId, .email u.email]
    (fun db =>
      if (db.users.lookup userId).isSome ∨ db.emailTaken userId u.email = true then
        some (.prisma "P2002")
      else none)
    (fun db => db.setUser userId u)

/-- `membershipLocation.deleteMany` of one membership. -/
def membershipLocationDeleteMany (membershipId : Id) : Work S Unit :=
  exec [.scope membershipId] (fun _ => none) fun db =>
    { db with membershipLocations :=
        db.membershipLocations.filter fun row => row.membershipId != membershipId }

/-- `membershipLocation.createMany` for one membership. -/
def membershipLocationCreateMany (membershipId : Id) (locationIds : List Id) : Work S Unit :=
  exec [.scope membershipId]
    (fun db =>
      if ¬ locationIds.Nodup ∨ (locationIds.any fun l =>
          db.membershipLocations.contains { membershipId := membershipId, locationId := l }) then
        some (.prisma "P2002")
      else if (db.memberships.lookup membershipId).isSome ∧
          (locationIds.all fun l => (db.locations.lookup l).isSome) then none
      else some (.prisma "P2003"))
    fun db =>
      { db with membershipLocations :=
          db.membershipLocations ++ locationIds.map fun l =>
            { membershipId := membershipId, locationId := l } }

/-- `refreshToken.updateMany` : the live sessions of a user end. -/
def refreshTokenRevoke (env : TeamEnv) (userId : Id) : Work S Unit :=
  exec [] (fun _ => none) fun db =>
    { db with refreshTokens := db.refreshTokens.mapRows fun t =>
        if t.userId = userId ∧ t.revokedAt = none then { t with revokedAt := some env.now } else t }

/-- `inviteToken.updateMany` : the live invites of a membership end. -/
def inviteTokenExpire (env : TeamEnv) (membershipId : Id) : Work S Unit :=
  exec [.invites membershipId] (fun _ => none) fun db =>
    { db with inviteTokens := db.inviteTokens.mapRows fun t =>
        if t.membershipId = membershipId ∧ t.acceptedAt = none ∧ env.now < t.expiresAt then
          { t with expiresAt := env.now }
        else t }

/-- `inviteToken.create`; `tokenHash` is unique. -/
def inviteTokenCreate (tokenId : Id) (t : InviteToken) : Work S Unit :=
  exec [.inviteToken tokenId, .inviteHash t.tokenHash]
    (fun db =>
      if (db.inviteTokens.lookup tokenId).isSome ∨
          (db.inviteTokens.findRow? fun _ t' => t'.tokenHash == t.tokenHash).isSome then
        some (.prisma "P2002")
      else if (db.memberships.lookup t.membershipId).isSome then none
      else some (.prisma "P2003"))
    (fun db => { db with inviteTokens := db.inviteTokens.insert tokenId t })

/-- `inviteToken.update` by `id`. -/
def inviteTokenAccept (env : TeamEnv) (tokenId membershipId : Id) : Work S Unit :=
  exec [.inviteToken tokenId, .invites membershipId]
    (fun db => if (db.inviteTokens.lookup tokenId).isSome then none else some (.prisma "P2025"))
    (fun db =>
      match db.inviteTokens.lookup tokenId with
      | none => db
      | some t =>
        { db with inviteTokens :=
            db.inviteTokens.insert tokenId { t with acceptedAt := some env.now } })

/-- `createAuditLog`. -/
def createAuditLog (env : TeamEnv) (organizationId : Id) (actorUserId : Option Id)
    (action : MemberAuditAction) (entityId : Id)
    (beforeJson afterJson : Option MembershipSnapshot) :
    Work S Unit :=
  exec [] (fun _ => none) fun db =>
    { db with memberLogs :=
        { organizationId := organizationId, actorUserId := actorUserId, entityType := .membership,
          entityId := entityId, action := action, beforeJson := beforeJson, afterJson := afterJson,
          createdAt := env.now } :: db.memberLogs }

end LedgerLight
