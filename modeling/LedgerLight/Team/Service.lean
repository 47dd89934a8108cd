import LedgerLight.Team.Members
import Mathlib.Algebra.Ring.Nat

/-!
# The team service

`domain/team/team.service.ts`, the calls that change something. A call reads and checks, writes, and
answers with what it reads then. Where the writes are one `$transaction` they are the function
`…Tx`; `updateMember` and `updateMemberRole` write statement by statement.
-/

namespace LedgerLight

open Infra Prog

variable {S : Type}

/-! ## Checks and parts -/

def assertRoleAssignable (actorRole targetRole : Role) : Work S Unit :=
  require (canAssignRole actorRole targetRole = true) (.forbidden "You cannot assign that role")

def assertMemberManageable (actorRole targetRole : Role) (isMe : Bool := false)
    (allowSameTierOwner : Bool := false) : Work S Unit :=
  require (isMe = true ∨ canManageMember actorRole targetRole allowSameTierOwner = true)
    (.forbidden "You cannot manage this member")

/-- The other memberships that are owners and active. -/
def Backend.otherOwners (db : Backend) (organizationId excludingMembershipId : Id) : Nat :=
  db.memberships.countRows fun id m => m.organizationId == organizationId && m.role == .owner &&
    m.status == .active && id != excludingMembershipId

def ensureActiveOwnerCount (organizationId excludingMembershipId : Id) : Work S Unit := do
  let ownerCount ← select fun db => db.otherOwners organizationId excludingMembershipId
  require (ownerCount ≠ 0) (.conflict "The last remaining owner cannot be changed or deactivated")

/-- The locations a request asks for: none is all that the actor has. -/
def scopedLocationIds (organization : MemberContext) (requested : Option (List Id)) : List Id :=
  match requested with
  | some (l :: ls) => (l :: ls).eraseDups
  | _ => if organization.hasAllLocations then [] else organization.allowedLocationIds

/-- An active location of the organization that the actor may use. -/
def Backend.assignable (db : Backend) (organization : MemberContext) (locationId : Id) : Bool :=
  (db.locations.lookup locationId).any fun l =>
    l.organizationId == organization.organizationId && l.status == .active &&
      getLocationScopeWhere organization.toCurrentOrg (some locationId)

def resolveScopedLocationIds (organization : MemberContext) (requested : Option (List Id)) :
    Work S (List Id) := do
  let scopedIds := scopedLocationIds organization requested
  let allowed ← select fun db => scopedIds.all fun l => db.assignable organization l
  require (allowed = true) (.forbidden "You can only assign active locations you have access to")
  pure scopedIds

def replaceMembershipLocations (membershipId : Id) (locationIds : List Id) : Work S Unit := do
  membershipLocationDeleteMany membershipId
  doWhen (locationIds ≠ []) (membershipLocationCreateMany membershipId locationIds)

/-- 24 hours. -/
def inviteLifetime : Date := 24 * 60 * 60 * 1000

/-- The live invites of the membership end and a new one is made; its token gets the id `tokenId`.
-/
def createInviteForMembership (env : TeamEnv) (tokenId membershipId : Id) : Work S String := do
  inviteTokenExpire env membershipId
  inviteTokenCreate tokenId
    { membershipId := membershipId, tokenHash := env.sha256 env.rawToken,
      expiresAt := env.now + inviteLifetime, acceptedAt := none, createdAt := env.now }
  pure (env.frontendUrl ++ "/invite/" ++ env.rawToken)

/-- A membership that comes back: active at once if its user has a password, else invited. -/
def reinstated (env : TeamEnv) (hasPassword : Bool) (invitedAt : Option Date) (m : Membership) :
    Membership :=
  { m with status := if hasPassword then .active else .invited, deactivatedAt := none,
           activatedAt := if hasPassword then some env.now else none,
           invitedAt := if hasPassword then invitedAt else some env.now }

/-- A member that comes back with a password has to log in again, one without gets an invite. -/
def renewAccess (env : TeamEnv) (hasPassword : Bool) (membershipId userId : Id) :
    Work S (Option String) :=
  if hasPassword then do
    refreshTokenRevoke env userId
    pure none
  else do
    let inviteUrl ← createInviteForMembership env (env.uuid 2) membershipId
    pure (some inviteUrl)

def renewedAction (hasPassword : Bool) : String :=
  if hasPassword then "member_reactivated" else "member_reinvited"

def renewedAuditAction (hasPassword : Bool) : MemberAuditAction :=
  if hasPassword then .memberReactivated else .inviteSent

/-! ## inviteMember -/

structure InviteMemberDto where
  email : String
  role : Role
  firstName : Option String := none
  lastName : Option String := none
  locationIds : Option (List Id) := none
deriving DecidableEq, Repr

/-- What `inviteMember` read before its transaction. -/
structure InviteTarget where
  locationIds : List Id
  normalizedEmail : String
  existingUser : Option (Id × User)
  existingMembership : Option TeamMemberRecord
deriving DecidableEq, Repr

def existingMembershipOf (organizationId : Id) (existingUser : Option (Id × User)) :
    Work S (Option TeamMemberRecord) :=
  match existingUser with
  | none => pure none
  | some existingUser => select fun db => db.memberOf? organizationId existingUser.1

def inviteMemberRead (env : TeamEnv) (organization : MemberContext) (input : InviteMemberDto) :
    Work S InviteTarget := do
  assertRoleAssignable organization.role input.role
  let locationIds ← resolveScopedLocationIds organization input.locationIds
  let normalizedEmail := env.toLowerCase (env.trim input.email)
  let existingUser ← select fun db => db.userByEmail? normalizedEmail
  let existingMembership ← existingMembershipOf organization.organizationId existingUser
  require (¬ existingMembership.any fun m => m.status == .active)
    (.conflict "This person is already a member of this organization")
  require (¬ existingMembership.any fun m => m.status == .invited)
    (.conflict "An invitation already exists for this member")
  pure { locationIds := locationIds, normalizedEmail := normalizedEmail,
         existingUser := existingUser, existingMembership := existingMembership }

/-- The transaction of `inviteMember` for a deactivated membership. -/
def reinviteMemberTx (env : TeamEnv) (organization : MemberContext) (actorUserId : Id)
    (input : InviteMemberDto) (locationIds : List Id) (userId : Id) (user : User)
    (existing : TeamMemberRecord) : Work S (Id × Option String × String) := do
  membershipUpdate env existing.id fun m =>
    reinstated env user.hasPassword existing.invitedAt { m with role := input.role }
  userUpdate env userId none fun u =>
    { u with firstName := input.firstName.or user.firstName,
             lastName := input.lastName.or user.lastName }
  replaceMembershipLocations existing.id locationIds
  let inviteUrl ← renewAccess env user.hasPassword existing.id userId
  let refreshed ← loadMembershipWithRelations existing.id
  createAuditLog env organization.organizationId (some actorUserId)
    (renewedAuditAction user.hasPassword) refreshed.id
    (some (snapshotMembership existing)) (some (snapshotMembership refreshed))
  pure (refreshed.id, inviteUrl, renewedAction user.hasPassword)

/-- The transaction of `inviteMember` for somebody without a membership. -/
def inviteNewMemberTx (env : TeamEnv) (organization : MemberContext) (actorUserId : Id)
    (input : InviteMemberDto) (locationIds : List Id) (userId : Id) :
    Work S (Id × Option String × String) := do
  let membershipId := env.uuid 1
  membershipCreate membershipId
    { organizationId := organization.organizationId, userId := userId, role := input.role,
      status := .invited, createdAt := env.now, updatedAt := env.now, invitedAt := some env.now,
      activatedAt := none, deactivatedAt := none }
  replaceMembershipLocations membershipId locationIds
  let inviteUrl ← createInviteForMembership env (env.uuid 2) membershipId
  let refreshed ← loadMembershipWithRelations membershipId
  createAuditLog env organization.organizationId (some actorUserId) .inviteSent refreshed.id none
    (some (snapshotMembership refreshed))
  pure (refreshed.id, some inviteUrl, "invite_sent")

/-- `user.create` for an e-mail that nobody has. -/
def invitedUser (env : TeamEnv) (input : InviteMemberDto) (normalizedEmail : String) : User :=
  { email := normalizedEmail, passwordHash := none, firstName := input.firstName,
    lastName := input.lastName, isActive := true, lastLoginAt := none, createdAt := env.now,
    updatedAt := env.now }

/-- The account that is invited. -/
def invitedAccount (env : TeamEnv) (input : InviteMemberDto) (target : InviteTarget) :
    Work S (Id × User) :=
  match target.existingUser with
  | some existingUser => pure existingUser
  | none => do
    let user := invitedUser env input target.normalizedEmail
    userCreate (env.uuid 0) user
    pure (env.uuid 0, user)

def inviteMemberTx (env : TeamEnv) (organization : MemberContext) (actorUserId : Id)
    (input : InviteMemberDto) (target : InviteTarget) : Work S (Id × Option String × String) := do
  let (userId, user) ← invitedAccount env input target
  match target.existingMembership.filter fun m => m.status == .deactivated with
  | some existing =>
    reinviteMemberTx env organization actorUserId input target.locationIds userId user existing
  | none => inviteNewMemberTx env organization actorUserId input target.locationIds userId

def inviteMember (env : TeamEnv) (organization : MemberContext) (actorUserId : Id)
    (input : InviteMemberDto) : Work S TeamMutationResponse := do
  let target ← inviteMemberRead env organization input
  let (membershipId, inviteUrl, action) ←
    transaction (inviteMemberTx env organization actorUserId input target)
  let member ← getMemberDetail env organization.organizationId membershipId
  pure { member := member, action := action, inviteUrl := inviteUrl }

/-! ## updateMember -/

/-- A missing name is left alone, `null` clears the column. -/
structure UpdateTeamMemberDto where
  firstName : Option (Option String) := none
  lastName : Option (Option String) := none
  email : Option String := none
deriving DecidableEq, Repr

/-- The e-mail a profile update asks for; the empty string asks for none. -/
def UpdateTeamMemberDto.normalizedEmail (env : TeamEnv) (input : UpdateTeamMemberDto) :
    Option String :=
  (input.email.map fun e => env.toLowerCase (env.trim e)).filter fun e => e != ""

/-- A new e-mail must not be the one of another account. -/
def assertEmailFree (membership : TeamMemberRecord) (normalizedEmail : Option String) :
    Work S Unit :=
  match normalizedEmail.filter fun e => e != membership.user.email with
  | none => pure ()
  | some email => do
    let existing ← select fun db => db.userByEmail? email
    require (¬ existing.any fun u => u.1 != membership.userId)
      (.conflict "Email is already in use by another account")

def updateMemberRead (env : TeamEnv) (organization : MemberContext) (membershipId : Id)
    (input : UpdateTeamMemberDto) : Work S TeamMemberRecord := do
  let membership ← findMembershipOrThrow organization.organizationId membershipId
  assertMemberManageable organization.role membership.role
    (membership.id == organization.membershipId)
  assertEmailFree membership (input.normalizedEmail env)
  pure membership

def updateMember (env : TeamEnv) (organization : MemberContext) (actorUserId membershipId : Id)
    (input : UpdateTeamMemberDto) : Work S TeamMutationResponse := do
  let membership ← updateMemberRead env organization membershipId input
  userUpdate env membership.userId (input.normalizedEmail env) fun u =>
    { u with firstName := input.firstName.getD u.firstName,
             lastName := input.lastName.getD u.lastName }
  let updated ← findMembershipOrThrow organization.organizationId membershipId
  createAuditLog env organization.organizationId (some actorUserId) .update membershipId
    (some (snapshotMembership membership)) (some (snapshotMembership updated))
  let member ← getMemberDetail env organization.organizationId membershipId
  pure { member := member, action := "member_updated" }

/-! ## updateMemberRole -/

/-- An owner is to be an owner no longer. -/
def demotes (membership : TeamMemberRecord) (role : Role) : Bool :=
  membership.role == .owner && role != .owner

def updateMemberRoleRead (organization : MemberContext) (actorUserId membershipId : Id)
    (role : Role) : Work S TeamMemberRecord := do
  let membership ← findMembershipOrThrow organization.organizationId membershipId
  require (membership.userId ≠ actorUserId) (.forbidden "You cannot change your own role")
  assertMemberManageable organization.role membership.role false (demotes membership role)
  assertRoleAssignable organization.role role
  doWhen (demotes membership role = true)
    (ensureActiveOwnerCount organization.organizationId membershipId)
  pure membership

def updateMemberRole (env : TeamEnv) (organization : MemberContext) (actorUserId membershipId : Id)
    (role : Role) : Work S TeamMutationResponse := do
  let membership ← updateMemberRoleRead organization actorUserId membershipId role
  membershipUpdate env membershipId fun m => { m with role := role }
  let updated ← findMembershipOrThrow organization.organizationId membershipId
  createAuditLog env organization.organizationId (some actorUserId) .roleChanged membershipId
    (some (snapshotMembership membership)) (some (snapshotMembership updated))
  let member ← getMemberDetail env organization.organizationId membershipId
  pure { member := member, action := "role_changed" }

/-! ## updateMemberLocations -/

def updateMemberLocationsRead (organization : MemberContext) (membershipId : Id)
    (requested : Option (List Id)) : Work S (TeamMemberRecord × List Id) := do
  let membership ← findMembershipOrThrow organization.organizationId membershipId
  assertMemberManageable organization.role membership.role
  let locationIds ← resolveScopedLocationIds organization requested
  pure (membership, locationIds)

def updateMemberLocationsTx (env : TeamEnv) (organization : MemberContext)
    (actorUserId membershipId : Id) (membership : TeamMemberRecord) (locationIds : List Id) :
    Work S Unit := do
  replaceMembershipLocations membershipId locationIds
  let updated ← loadMembershipWithRelations membershipId
  createAuditLog env organization.organizationId (some actorUserId) .locationScopeChanged
    membershipId (some (snapshotMembership membership)) (some (snapshotMembership updated))

def updateMemberLocations (env : TeamEnv) (organization : MemberContext)
    (actorUserId membershipId : Id) (requested : Option (List Id)) :
    Work S TeamMutationResponse := do
  let (membership, locationIds) ← updateMemberLocationsRead organization membershipId requested
  transaction (updateMemberLocationsTx env organization actorUserId membershipId membership
    locationIds)
  let member ← getMemberDetail env organization.organizationId membershipId
  pure { member := member, action := "locations_updated" }

/-! ## deactivateMember and reactivateMember -/

/-- Only an owner touches another owner; others are managed by tier. -/
def assertOwnerOrManageable (actorRole targetRole : Role) (message : String) : Work S Unit :=
  if targetRole ≠ .owner then assertMemberManageable actorRole targetRole
  else require (actorRole = .owner) (.forbidden message)

def deactivateMemberRead (organization : MemberContext) (actorUserId membershipId : Id) :
    Work S TeamMemberRecord := do
  let membership ← findMembershipOrThrow organization.organizationId membershipId
  require (membership.userId ≠ actorUserId) (.forbidden "You cannot deactivate your own membership")
  assertOwnerOrManageable organization.role membership.role
    "Only an owner can deactivate another owner"
  doWhen (membership.role = .owner)
    (ensureActiveOwnerCount organization.organizationId membershipId)
  pure membership

def deactivateMemberTx (env : TeamEnv) (organization : MemberContext)
    (actorUserId membershipId : Id) (membership : TeamMemberRecord) : Work S Unit := do
  membershipUpdate env membershipId fun m =>
    { m with status := .deactivated, deactivatedAt := some env.now }
  refreshTokenRevoke env membership.userId
  let updated ← loadMembershipWithRelations membershipId
  createAuditLog env organization.organizationId (some actorUserId) .memberDeactivated membershipId
    (some (snapshotMembership membership)) (some (snapshotMembership updated))

def deactivateMember (env : TeamEnv) (organization : MemberContext)
    (actorUserId membershipId : Id) : Work S TeamMutationResponse := do
  let membership ← deactivateMemberRead organization actorUserId membershipId
  transaction (deactivateMemberTx env organization actorUserId membershipId membership)
  let member ← getMemberDetail env organization.organizationId membershipId
  pure { member := member, action := "member_deactivated" }

def reactivateMemberRead (organization : MemberContext) (membershipId : Id) :
    Work S TeamMemberRecord := do
  let membership ← findMembershipOrThrow organization.organizationId membershipId
  assertOwnerOrManageable organization.role membership.role
    "Only an owner can reactivate another owner"
  pure membership

def reactivateMemberTx (env : TeamEnv) (organization : MemberContext)
    (actorUserId membershipId : Id) (membership : TeamMemberRecord) : Work S (Option String) := do
  membershipUpdate env membershipId
    (reinstated env membership.user.hasPassword membership.invitedAt)
  let inviteUrl ← renewAccess env membership.user.hasPassword membershipId membership.userId
  let updated ← loadMembershipWithRelations membershipId
  createAuditLog env organization.organizationId (some actorUserId)
    (renewedAuditAction membership.user.hasPassword) membershipId
    (some (snapshotMembership membership)) (some (snapshotMembership updated))
  pure inviteUrl

def reactivateMember (env : TeamEnv) (organization : MemberContext)
    (actorUserId membershipId : Id) : Work S TeamMutationResponse := do
  let membership ← reactivateMemberRead organization membershipId
  let inviteUrl ←
    transaction (reactivateMemberTx env organization actorUserId membershipId membership)
  let member ← getMemberDetail env organization.organizationId membershipId
  pure { member := member, action := renewedAction membership.user.hasPassword,
         inviteUrl := inviteUrl }

/-! ## resendInvite -/

def resendInviteRead (organization : MemberContext) (membershipId : Id) :
    Work S TeamMemberRecord := do
  let membership ← findMembershipOrThrow organization.organizationId membershipId
  require (membership.status = .invited)
    (.badRequest "Only invited members can receive a resent invite")
  doWhen (organization.role ≠ .owner) (assertMemberManageable organization.role membership.role)
  pure membership

def resendInviteTx (env : TeamEnv) (organization : MemberContext) (actorUserId membershipId : Id)
    (membership : TeamMemberRecord) : Work S String := do
  let url ← createInviteForMembership env (env.uuid 2) membershipId
  let updated ← loadMembershipWithRelations membershipId
  createAuditLog env organization.organizationId (some actorUserId) .inviteResent membershipId
    (some (snapshotMembership membership)) (some (snapshotMembership updated))
  pure url

def resendInvite (env : TeamEnv) (organization : MemberContext) (actorUserId membershipId : Id) :
    Work S TeamMutationResponse := do
  let membership ← resendInviteRead organization membershipId
  let inviteUrl ← transaction (resendInviteTx env organization actorUserId membershipId membership)
  let member ← getMemberDetail env organization.organizationId membershipId
  pure { member := member, action := "invite_resent", inviteUrl := some inviteUrl }

/-! ## acceptInvitation -/

structure AcceptInviteDto where
  token : String
  password : Option String := none
  firstName : Option (Option String) := none
  lastName : Option (Option String) := none
deriving DecidableEq, Repr

/-- `teamInvitationInclude` : an invite token with its membership. -/
structure TeamInvitationRecord where
  id : Id
  token : InviteToken
  membership : TeamMemberRecord
deriving DecidableEq, Repr

def Backend.invitation? (db : Backend) (tokenHash : String) : Option TeamInvitationRecord :=
  (db.inviteTokens.findRow? fun _ t => t.tokenHash == tokenHash).bind fun r =>
    (db.member? r.2.membershipId).map fun membership =>
      { id := r.1, token := r.2, membership := membership }

def findInvitationByToken (env : TeamEnv) (token : String) :
    Work S (Option TeamInvitationRecord) :=
  select fun db => db.invitation? (env.sha256 token)

/-- The length of a string in the source's language: its number of UTF-16 code units. -/
def utf16Length (s : String) : Nat :=
  (s.toList.map fun c => if c.toNat < 0x10000 then 1 else 2).sum

/-- The invitation can be accepted now. -/
def TeamInvitationRecord.valid (env : TeamEnv) (invitation : TeamInvitationRecord) : Bool :=
  invitation.token.acceptedAt.isNone && env.now < invitation.token.expiresAt &&
    invitation.membership.status == .invited

def acceptInvitationRead (env : TeamEnv) (input : AcceptInviteDto)
    (authenticatedUserId : Option Id) : Work S TeamInvitationRecord := do
  match (← findInvitationByToken env input.token).filter (·.valid env) with
  | none => fail (.badRequest "This invite link is invalid or expired")
  | some invitation =>
    let hasPassword := invitation.membership.user.hasPassword
    doWhen (hasPassword = true) (do
      require (authenticatedUserId ≠ none) (.unauthorized
        "Please log in with the invited account before accepting this invitation")
      require (authenticatedUserId = some invitation.membership.userId)
        (.forbidden "This invitation belongs to a different user account"))
    require (hasPassword = true ∨ input.password.any fun p => 8 ≤ utf16Length p)
      (.badRequest "A password is required to accept this invitation")
    pure invitation

/-- The account of an invited user who had no password. -/
def passwordSet (env : TeamEnv) (input : AcceptInviteDto) (u : User) : User :=
  { u with passwordHash := some (env.bcryptHash (input.password.getD ""))
           firstName := input.firstName.getD u.firstName
           lastName := input.lastName.getD u.lastName
           isActive := true }

def acceptInvitationTx (env : TeamEnv) (input : AcceptInviteDto)
    (invitation : TeamInvitationRecord) : Work S Unit := do
  let membership := invitation.membership
  doWhen (¬ membership.user.hasPassword = true)
    (userUpdate env membership.userId none (passwordSet env input))
  membershipUpdate env membership.id fun m =>
    { m with status := .active, activatedAt := some env.now }
  inviteTokenAccept env invitation.id membership.id
  let updated ← loadMembershipWithRelations membership.id
  createAuditLog env membership.organizationId (some membership.userId) .inviteAccepted
    membership.id (some (snapshotMembership membership)) (some (snapshotMembership updated))

/-- `acceptInvitation`, with the member it answers. -/
def acceptInvitation (env : TeamEnv) (input : AcceptInviteDto)
    (authenticatedUserId : Option Id) : Work S TeamMemberDetail := do
  let invitation ← acceptInvitationRead env input authenticatedUserId
  transaction (acceptInvitationTx env input invitation)
  let membershipId := invitation.membership.id
  match ← select fun db => db.memberships.lookup membershipId with
  | none => fail (.typeError "Cannot read properties of null (reading 'organizationId')")
  | some m =>
    let member ← findMembershipOrThrow m.organizationId membershipId
    pure { mapMemberListItem env member with
      permissions := getRolePermissions member.role, activity := [] }

end LedgerLight
