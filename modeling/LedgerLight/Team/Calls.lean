import LedgerLight.Infra.Machine
import LedgerLight.Team.Spec

/-!
# Calls of the team service

The service as a machine: a step is one call, carried through or failed.

* `TeamCall.exec_error` : a failed call leaves the database as it was.
* `TeamCall.exec_ok` : what a call that succeeded did (`TeamChange`).
-/

namespace LedgerLight

open Infra Prog

/-- The calls that change something. -/
inductive TeamAction where
  | inviteMember (organization : MemberContext) (actorUserId : Id) (input : InviteMemberDto)
  | updateMember (organization : MemberContext) (actorUserId membershipId : Id)
      (input : UpdateTeamMemberDto)
  | updateMemberRole (organization : MemberContext) (actorUserId membershipId : Id) (role : Role)
  | updateMemberLocations (organization : MemberContext) (actorUserId membershipId : Id)
      (requested : Option (List Id))
  | deactivateMember (organization : MemberContext) (actorUserId membershipId : Id)
  | reactivateMember (organization : MemberContext) (actorUserId membershipId : Id)
  | resendInvite (organization : MemberContext) (actorUserId membershipId : Id)
  | acceptInvitation (input : AcceptInviteDto) (authenticatedUserId : Option Id)

/-- The membership a call is made under; an invitation is accepted without one. -/
def TeamAction.organization? : TeamAction → Option MemberContext
  | .inviteMember organization _ _ => some organization
  | .updateMember organization _ _ _ => some organization
  | .updateMemberRole organization _ _ _ => some organization
  | .updateMemberLocations organization _ _ _ => some organization
  | .deactivateMember organization _ _ => some organization
  | .reactivateMember organization _ _ => some organization
  | .resendInvite organization _ _ => some organization
  | .acceptInvitation _ _ => none

/-- A call with the clock and the ids it reads. -/
structure TeamCall where
  env : TeamEnv
  action : TeamAction

namespace TeamCall

/-- The call; it answers the member it is about. -/
def prog (c : TeamCall) : Work Unit TeamMemberDetail :=
  match c.action with
  | .inviteMember organization actorUserId input =>
    (·.member) <$> inviteMember c.env organization actorUserId input
  | .updateMember organization actorUserId membershipId input =>
    (·.member) <$> updateMember c.env organization actorUserId membershipId input
  | .updateMemberRole organization actorUserId membershipId role =>
    (·.member) <$> updateMemberRole c.env organization actorUserId membershipId role
  | .updateMemberLocations organization actorUserId membershipId requested =>
    (·.member) <$> updateMemberLocations c.env organization actorUserId membershipId requested
  | .deactivateMember organization actorUserId membershipId =>
    (·.member) <$> deactivateMember c.env organization actorUserId membershipId
  | .reactivateMember organization actorUserId membershipId =>
    (·.member) <$> reactivateMember c.env organization actorUserId membershipId
  | .resendInvite organization actorUserId membershipId =>
    (·.member) <$> resendInvite c.env organization actorUserId membershipId
  | .acceptInvitation input authenticatedUserId =>
    acceptInvitation c.env input authenticatedUserId

/-- The answer of the call and the database it leaves. -/
def exec (c : TeamCall) (db : Backend) : Except BackendError TeamMemberDetail × Backend :=
  let r := c.prog.runAuto db ()
  (r.1, r.2.1)

end TeamCall

/-- The team service. -/
def team : Machine Backend TeamCall where
  step db c := (c.exec db).2

/-! ## The reads of a call -/

section

variable {S : Type} {env : TeamEnv} {organization : MemberContext} {membershipId actorUserId : Id}

theorem loadMembershipWithRelations_readOnly :
    (loadMembershipWithRelations membershipId : Work S _).ReadOnly :=
  readOnly_select.bind fun r => by cases r <;> trivial

theorem findMembershipOrThrow_readOnly {organizationId : Id} :
    (findMembershipOrThrow organizationId membershipId : Work S _).ReadOnly :=
  readOnly_select.bind fun r => by cases r <;> trivial

theorem getMemberDetail_readOnly {organizationId : Id} :
    (getMemberDetail env organizationId membershipId : Work S _).ReadOnly :=
  findMembershipOrThrow_readOnly.bind fun _ => readOnly_select.bind fun _ => trivial

theorem assertOwnerOrManageable_readOnly {actorRole targetRole : Role} {message : String} :
    (assertOwnerOrManageable actorRole targetRole message : Work S Unit).ReadOnly := by
  unfold assertOwnerOrManageable
  split
  · exact readOnly_require
  · exact readOnly_require

theorem ensureActiveOwnerCount_readOnly {organizationId : Id} :
    (ensureActiveOwnerCount organizationId membershipId : Work S Unit).ReadOnly :=
  readOnly_select.bind fun _ => readOnly_require

theorem resolveScopedLocationIds_readOnly {requested : Option (List Id)} :
    (resolveScopedLocationIds organization requested : Work S _).ReadOnly :=
  readOnly_select.bind fun _ => readOnly_require.bind fun _ => trivial

theorem inviteMemberRead_readOnly {input : InviteMemberDto} :
    (inviteMemberRead env organization input : Work S _).ReadOnly := by
  refine readOnly_require.bind fun _ => resolveScopedLocationIds_readOnly.bind fun _ =>
    readOnly_select.bind fun u => ReadOnly.bind ?_ fun _ => readOnly_require.bind fun _ =>
      readOnly_require.bind fun _ => trivial
  cases u with
  | none => trivial
  | some u => exact readOnly_select

theorem updateMemberRead_readOnly {input : UpdateTeamMemberDto} :
    (updateMemberRead env organization membershipId input : Work S _).ReadOnly := by
  refine findMembershipOrThrow_readOnly.bind fun r => readOnly_require.bind fun _ =>
    ReadOnly.bind ?_ fun _ => trivial
  unfold assertEmailFree
  split
  · trivial
  · exact readOnly_select.bind fun _ => readOnly_require

theorem updateMemberRoleRead_readOnly {role : Role} :
    (updateMemberRoleRead organization actorUserId membershipId role : Work S _).ReadOnly :=
  findMembershipOrThrow_readOnly.bind fun _ => readOnly_require.bind fun _ =>
    readOnly_require.bind fun _ => readOnly_require.bind fun _ =>
      (readOnly_doWhen ensureActiveOwnerCount_readOnly).bind fun _ => trivial

theorem updateMemberLocationsRead_readOnly {requested : Option (List Id)} :
    (updateMemberLocationsRead organization membershipId requested : Work S _).ReadOnly :=
  findMembershipOrThrow_readOnly.bind fun _ => readOnly_require.bind fun _ =>
    resolveScopedLocationIds_readOnly.bind fun _ => trivial

theorem deactivateMemberRead_readOnly :
    (deactivateMemberRead organization actorUserId membershipId : Work S _).ReadOnly :=
  findMembershipOrThrow_readOnly.bind fun _ => readOnly_require.bind fun _ =>
    assertOwnerOrManageable_readOnly.bind fun _ =>
      (readOnly_doWhen ensureActiveOwnerCount_readOnly).bind fun _ => trivial

theorem reactivateMemberRead_readOnly :
    (reactivateMemberRead organization membershipId : Work S _).ReadOnly :=
  findMembershipOrThrow_readOnly.bind fun _ => assertOwnerOrManageable_readOnly.bind fun _ =>
    trivial

theorem resendInviteRead_readOnly :
    (resendInviteRead organization membershipId : Work S _).ReadOnly :=
  findMembershipOrThrow_readOnly.bind fun _ => readOnly_require.bind fun _ =>
    (readOnly_doWhen readOnly_require).bind fun _ => trivial

theorem acceptInvitationRead_readOnly {input : AcceptInviteDto}
    {authenticatedUserId : Option Id} :
    (acceptInvitationRead env input authenticatedUserId : Work S _).ReadOnly := by
  refine readOnly_select.bind fun r => ?_
  cases r.filter (·.valid env) with
  | none => trivial
  | some invitation =>
    exact (readOnly_doWhen (readOnly_require.bind fun _ => readOnly_require)).bind fun _ =>
      readOnly_require.bind fun _ => trivial

/-! ## The answer of a call -/

/-- The membership is in the organization, and its user exists. -/
def Backend.HasMember (db : Backend) (organizationId membershipId : Id) : Prop :=
  ∃ m, db.memberships.lookup membershipId = some m ∧ m.organizationId = organizationId ∧
    (db.users.lookup m.userId).isSome = true

section

variable {db db' : Backend} {organizationId k : Id} {m : Membership} {s : S}

theorem Backend.hasMember_of_member? {r : TeamMemberRecord} (h : db.member? k = some r) :
    db.HasMember r.organizationId k := by
  obtain ⟨hm, hu, -, -⟩ := member?_eq_some h
  exact ⟨_, hm, rfl, by rw [hu]; rfl⟩

theorem Backend.hasMember_setMembership (ho : m.organizationId = organizationId)
    (hu : (db.users.lookup m.userId).isSome = true) :
    (db.setMembership k m).HasMember organizationId k :=
  ⟨m, AList.lookup_insert _, ho, hu⟩

theorem Backend.HasMember.logs (h : db.HasMember organizationId k) (hl : db.Logs db') :
    db'.HasMember organizationId k := by
  obtain ⟨m, hm, ho, hu⟩ := h
  exact ⟨m, by rw [hl.memberships]; exact hm, ho, by rw [hl.users]; exact hu⟩

theorem Backend.HasMember.setUser {userId : Id} {u : User} (h : db.HasMember organizationId k) :
    (db.setUser userId u).HasMember organizationId k := by
  obtain ⟨m, hm, ho, hu⟩ := h
  refine ⟨m, hm, ho, ?_⟩
  show ((db.users.insert userId u).lookup m.userId).isSome = true
  rw [Table.lookup_insert_ite]
  split
  · rfl
  · exact hu

theorem Backend.HasMember.renewed {hasPassword : Bool} {membershipId : Id}
    (h : db.HasMember organizationId k) :
    (db.renewed env hasPassword membershipId).HasMember organizationId k := by
  unfold Backend.renewed
  split <;> exact h

theorem Backend.HasMember.member? (h : db.HasMember organizationId k) :
    ∃ r, db.member? k = some r ∧ r.organizationId = organizationId := by
  obtain ⟨m, hm, ho, hu⟩ := h
  obtain ⟨u, hu⟩ := Option.isSome_iff_exists.mp hu
  obtain ⟨r, hr⟩ : ∃ r, db.member? k = some r := by simp [Backend.member?, hm, hu]
  obtain rfl : m = r.toMembership :=
    Option.some.inj (hm.symm.trans (Backend.member?_eq_some hr).1)
  exact ⟨r, hr, ho⟩

/-- The last reads of a call do not fail for a member. -/
theorem Backend.HasMember.find (h : db.HasMember organizationId k) :
    ∃ r, (findMembershipOrThrow organizationId k : Work S _).runAuto db s = (.ok r, db, s) := by
  obtain ⟨r, hr, ho⟩ := h.member?
  have hfound : (db.member? k).filter (fun m => m.organizationId == organizationId) = some r := by
    simp [hr, ho]
  refine ⟨r, runAuto_ok.mpr (run_bind_ok.mpr ⟨_, db, s, run_select_ok.mpr ⟨rfl, rfl, rfl⟩, ?_⟩)⟩
  rw [hfound]
  rfl

theorem Backend.HasMember.detail {α : Type} {f : TeamMemberDetail → α}
    (h : db.HasMember organizationId k) :
    (getMemberDetail env organizationId k >>= fun member => pure (f member) : Work S α).Succeeds db
      s := by
  obtain ⟨r, hr⟩ := h.find (s := s)
  have hdetail : (getMemberDetail env organizationId k : Work S _).runAuto db s =
      (.ok { mapMemberListItem env r with
        permissions := getRolePermissions r.role
        activity := db.activity organizationId k r.userId }, db, s) := by
    rw [getMemberDetail, runAuto_bind, hr]
    rfl
  exact Succeeds.bind hdetail succeeds_pure

end

end

/-! ## What a call did -/

theorem Backend.invitation?_eq_some {db : Backend} {tokenHash : String}
    {invitation : TeamInvitationRecord} (h : db.invitation? tokenHash = some invitation) :
    db.inviteTokens.lookup invitation.id = some invitation.token ∧
      invitation.token.tokenHash = tokenHash ∧
      db.member? invitation.token.membershipId = some invitation.membership := by
  obtain ⟨⟨k, t⟩, hrow, hmember⟩ := Option.bind_eq_some_iff.mp h
  obtain ⟨membership, hr, rfl⟩ := Option.map_eq_some_iff.mp hmember
  exact ⟨Table.lookup_of_findRow? hrow, by simpa using Table.pred_of_findRow? hrow, hr⟩

/-- The account an invitation is for: one with the e-mail, or a new one. -/
inductive Backend.AccountFor (db : Backend) (env : TeamEnv) (input : InviteMemberDto) :
    Id → Backend → Prop
  | existing {userId : Id} {user : User}
      (found : db.userByEmail? (env.toLowerCase (env.trim input.email)) = some (userId, user)) :
      db.AccountFor env input userId db
  | created (new : db.users.lookup (env.uuid 0) = none) :
      db.AccountFor env input (env.uuid 0) (db.setUser (env.uuid 0)
        (invitedUser env input (env.toLowerCase (env.trim input.email))))

/-- `TeamChange db env action membershipId db'` : what the call may have done that answered the
member `membershipId`, with the checks that it passed. -/
inductive TeamChange (db : Backend) (env : TeamEnv) : TeamAction → Id → Backend → Prop
  | invited {organization : MemberContext} {actorUserId userId : Id} {input : InviteMemberDto}
      {db₁ db' : Backend} (above : organization.role.Above input.role)
      (assignable : ∀ l ∈ scopedLocationIds organization input.locationIds,
        db.assignable organization l = true)
      (unknown : (db.inviteTarget env organization input).existingMembership = none)
      (account : db.AccountFor env input userId db₁)
      (new : db.memberships.lookup (env.uuid 1) = none)
      (fresh : db.inviteTokens.lookup (env.uuid 2) = none)
      (logs : (db₁.invited env organization input
        (scopedLocationIds organization input.locationIds) userId).Logs db') :
      TeamChange db env (.inviteMember organization actorUserId input) (env.uuid 1) db'
  | reinvited {organization : MemberContext} {actorUserId : Id} {input : InviteMemberDto}
      {r : TeamMemberRecord} {db' : Backend} (above : organization.role.Above input.role)
      (assignable : ∀ l ∈ scopedLocationIds organization input.locationIds,
        db.assignable organization l = true)
      (found : (db.inviteTarget env organization input).existingMembership = some r)
      (status : r.status = .deactivated)
      (fresh : r.user.hasPassword = false → db.inviteTokens.lookup (env.uuid 2) = none)
      (logs : (db.reinvited env input (scopedLocationIds organization input.locationIds) r.userId
        r.user r r.toMembership r.user).Logs db') :
      TeamChange db env (.inviteMember organization actorUserId input) r.id db'
  | profileUpdated {organization : MemberContext} {actorUserId k : Id}
      {input : UpdateTeamMemberDto} {r : TeamMemberRecord} {db' : Backend}
      (member : db.member? k = some r)
      (organizationId : r.organizationId = organization.organizationId)
      (above : k = organization.membershipId ∨ organization.role.Above r.role)
      (logs : (db.setUser r.userId { r.user with
        firstName := input.firstName.getD r.user.firstName
        lastName := input.lastName.getD r.user.lastName
        email := (input.normalizedEmail env).getD r.user.email
        updatedAt := env.now }).Logs db') :
      TeamChange db env (.updateMember organization actorUserId k input) k db'
  | roleChanged {organization : MemberContext} {actorUserId k : Id} {role : Role}
      {r : TeamMemberRecord} {db' : Backend} (member : db.member? k = some r)
      (organizationId : r.organizationId = organization.organizationId)
      (above : organization.role.Above r.role) (assignable : organization.role.Above role)
      (owners : demotes r role = true → db.otherOwners organization.organizationId k ≠ 0)
      (logs : (db.setMembership k
        { r.toMembership with role := role, updatedAt := env.now }).Logs db') :
      TeamChange db env (.updateMemberRole organization actorUserId k role) k db'
  | locationsUpdated {organization : MemberContext} {actorUserId k : Id}
      {requested : Option (List Id)} {r : TeamMemberRecord} {db' : Backend}
      (member : db.member? k = some r)
      (organizationId : r.organizationId = organization.organizationId)
      (above : organization.role.Above r.role)
      (assignable : ∀ l ∈ scopedLocationIds organization requested,
        db.assignable organization l = true)
      (logs : (db.setScope k (scopedLocationIds organization requested)).Logs db') :
      TeamChange db env (.updateMemberLocations organization actorUserId k requested) k db'
  | deactivated {organization : MemberContext} {actorUserId k : Id} {r : TeamMemberRecord}
      {db' : Backend} (member : db.member? k = some r)
      (organizationId : r.organizationId = organization.organizationId)
      (above : organization.role.Above r.role)
      (owners : r.role = .owner → db.otherOwners organization.organizationId k ≠ 0)
      (logs : (db.setMembership k (deactivated env r.toMembership)).Logs db') :
      TeamChange db env (.deactivateMember organization actorUserId k) k db'
  | reactivated {organization : MemberContext} {actorUserId k : Id} {r : TeamMemberRecord}
      {db' : Backend} (member : db.member? k = some r)
      (organizationId : r.organizationId = organization.organizationId)
      (above : organization.role.Above r.role)
      (fresh : r.user.hasPassword = false → db.inviteTokens.lookup (env.uuid 2) = none)
      (logs : ((db.setMembership k { reinstated env r.user.hasPassword r.invitedAt r.toMembership
        with updatedAt := env.now }).renewed env r.user.hasPassword k).Logs db') :
      TeamChange db env (.reactivateMember organization actorUserId k) k db'
  | inviteResent {organization : MemberContext} {actorUserId k : Id} {r : TeamMemberRecord}
      {db' : Backend} (member : db.member? k = some r)
      (organizationId : r.organizationId = organization.organizationId)
      (status : r.status = .invited) (above : organization.role.Above r.role)
      (fresh : db.inviteTokens.lookup (env.uuid 2) = none)
      (logs : (db.reinvite env (env.uuid 2) k).Logs db') :
      TeamChange db env (.resendInvite organization actorUserId k) k db'
  | accepted {input : AcceptInviteDto} {authenticatedUserId : Option Id}
      {invitation : TeamInvitationRecord} {db' : Backend}
      (found : db.invitation? (env.sha256 input.token) = some invitation)
      (valid : invitation.valid env = true)
      (authenticated : invitation.membership.user.hasPassword = true →
        authenticatedUserId = some invitation.membership.userId)
      (logs : (((db.passworded env input invitation.membership.user.hasPassword
        invitation.membership.userId invitation.membership.user).setMembership
        invitation.membership.id { invitation.membership.toMembership with
          status := .active, activatedAt := some env.now, updatedAt := env.now }).setInvite
        invitation.id { invitation.token with acceptedAt := some env.now }).Logs db') :
      TeamChange db env (.acceptInvitation input authenticatedUserId) invitation.membership.id db'

/-! ## Calls that succeed -/

section

variable {S : Type} {env : TeamEnv} {organization : MemberContext} {actorUserId k : Id}
  {db db' : Backend} {s s' : S} {response : TeamMutationResponse}

/-- The end of a call: the member is read once more and answered. -/
theorem answer_ok {organizationId membershipId : Id} {f : TeamMemberDetail → TeamMutationResponse}
    (hf : ∀ member, (f member).member = member)
    (h : (getMemberDetail env organizationId membershipId >>= fun member => pure (f member)).run db
      s = (.ok (response, db'), s')) :
    response.member.membershipId = membershipId ∧ db' = db ∧ s' = s := by
  obtain ⟨member, d, t, hdetail, h₁⟩ := run_bind_ok.mp h
  obtain ⟨hk, rfl, rfl⟩ := getMemberDetail_ok hdetail
  obtain ⟨rfl, rfl, rfl⟩ := run_pure_ok.mp h₁
  exact ⟨by rw [hf]; exact hk, rfl, rfl⟩

/-- The membership that `inviteMember` finds is the one it reads in its transaction. -/
theorem inviteTarget_member {input : InviteMemberDto} {r : TeamMemberRecord}
    (h : (db.inviteTarget env organization input).existingMembership = some r) :
    db.member? r.id = some r ∧ r.organizationId = organization.organizationId ∧
      (db.inviteTarget env organization input).existingUser = some (r.userId, r.user) ∧
      r.user.email = env.toLowerCase (env.trim input.email) := by
  obtain ⟨⟨userId, user⟩, hu, hr⟩ := Option.bind_eq_some_iff.mp h
  obtain ⟨ho, rfl, hmember⟩ := Backend.memberOf?_eq_some hr
  obtain ⟨-, huser, -, -⟩ := Backend.member?_eq_some hmember
  obtain ⟨huser', hemail⟩ := Backend.userByEmail?_eq_some hu
  obtain rfl := Option.some.inj (huser'.symm.trans huser)
  exact ⟨hmember, ho, hu, hemail⟩

theorem invitedAccount_for {input : InviteMemberDto} {account : Id × User}
    (h : (invitedAccount env input (db.inviteTarget env organization input)).run db s =
      (.ok (account, db'), s')) :
    db.AccountFor env input account.1 db' ∧ s' = s := by
  obtain ⟨⟨hu, rfl⟩ | ⟨-, hnew, rfl, rfl⟩, rfl⟩ := invitedAccount_ok h
  · obtain ⟨userId, user⟩ := account
    exact ⟨.existing hu, rfl⟩
  · exact ⟨.created hnew, rfl⟩

/-- What the transaction of `inviteMember` did, after the reads before it. -/
theorem inviteMemberTx_ok {input : InviteMemberDto} {a : Id × Option String × String}
    (habove : organization.role.Above input.role)
    (hids : ∀ l ∈ scopedLocationIds organization input.locationIds,
      db.assignable organization l = true)
    (hstatus : ∀ r ∈ (db.inviteTarget env organization input).existingMembership,
      r.status = .deactivated)
    (h : (inviteMemberTx env organization actorUserId input
      (db.inviteTarget env organization input)).run db s = (.ok (a, db'), s')) :
    TeamChange db env (.inviteMember organization actorUserId input) a.1 db' := by
  obtain ⟨⟨userId, user⟩, d, t, haccount, h₁⟩ := run_bind_ok.mp h
  cases hexisting : (db.inviteTarget env organization input).existingMembership with
  | none =>
    rw [hexisting] at h₁
    obtain ⟨hfor, rfl⟩ := invitedAccount_for haccount
    obtain ⟨hnew, -, hid, hfresh, hl⟩ := inviteNewMemberTx_ok h₁
    have hnew' : db.memberships.lookup (env.uuid 1) = none := by
      cases hfor <;> exact hnew
    have hfresh' : db.inviteTokens.lookup (env.uuid 2) = none := by
      cases hfor <;> exact hfresh
    rw [hid]
    exact .invited habove hids hexisting hfor hnew' hfresh' hl
  | some r =>
    obtain ⟨hr, -, huser, -⟩ := inviteTarget_member hexisting
    have hd := hstatus r hexisting
    rw [hexisting, Option.filter_some, if_pos (by rw [hd]; rfl)] at h₁
    obtain ⟨⟨hu, rfl⟩ | ⟨hnone, -⟩, rfl⟩ := invitedAccount_ok haccount
    · cases Option.some.inj (huser.symm.trans hu)
      obtain ⟨m, u, hm, hu, hid, hfresh, hl⟩ := reinviteMemberTx_ok h₁
      obtain ⟨hm', hu', -, -⟩ := Backend.member?_eq_some hr
      obtain rfl := Option.some.inj (hm'.symm.trans hm)
      obtain rfl := Option.some.inj (hu'.symm.trans hu)
      rw [hid]
      exact .reinvited habove hids hexisting hd hfresh hl
    · rw [hnone] at huser
      cases huser

theorem inviteMember_ok {input : InviteMemberDto}
    (h : (inviteMember env organization actorUserId input).run db s = (.ok (response, db'), s')) :
    TeamChange db env (.inviteMember organization actorUserId input) response.member.membershipId
      db' := by
  obtain ⟨target, d, t, hread, h₁⟩ := run_bind_ok.mp h
  obtain ⟨habove, rfl, hids, hstatus, rfl, rfl⟩ := inviteMemberRead_ok hread
  obtain ⟨a, d₂, t₂, htx, h₂⟩ := run_bind_ok.mp h₁
  rw [run_transaction] at htx
  obtain ⟨hk, rfl, rfl⟩ := answer_ok (fun _ => rfl) h₂
  rw [hk]
  exact inviteMemberTx_ok habove hids hstatus htx

theorem updateMember_ok {input : UpdateTeamMemberDto}
    (h : (updateMember env organization actorUserId k input).run db s =
      (.ok (response, db'), s')) :
    response.member.membershipId = k ∧
      TeamChange db env (.updateMember organization actorUserId k input) k db' := by
  obtain ⟨r, d, t, hread, h₁⟩ := run_bind_ok.mp h
  obtain ⟨hr, ho, habove, rfl, rfl⟩ := updateMemberRead_ok hread
  obtain ⟨v, d₂, t₂, hupdate, h₂⟩ := run_bind_ok.mp h₁
  obtain ⟨u, hu, -, rfl, rfl⟩ := userUpdate_ok.mp hupdate
  obtain ⟨updated, d₃, t₃, hfind, h₃⟩ := run_bind_ok.mp h₂
  obtain ⟨-, -, rfl, rfl⟩ := findMembershipOrThrow_ok hfind
  obtain ⟨v₄, d₄, t₄, hlog, h₄⟩ := run_bind_ok.mp h₃
  obtain ⟨hl, rfl⟩ := createAuditLog_ok hlog
  obtain ⟨hk, rfl, rfl⟩ := answer_ok (fun _ => rfl) h₄
  obtain rfl := Option.some.inj (hu.symm.trans (Backend.member?_eq_some hr).2.1)
  exact ⟨hk, .profileUpdated hr ho habove hl⟩

theorem updateMemberRole_ok {role : Role}
    (h : (updateMemberRole env organization actorUserId k role).run db s =
      (.ok (response, db'), s')) :
    response.member.membershipId = k ∧
      TeamChange db env (.updateMemberRole organization actorUserId k role) k db' := by
  obtain ⟨r, d, t, hread, h₁⟩ := run_bind_ok.mp h
  obtain ⟨hr, ho, habove, hassign, howners, rfl, rfl⟩ := updateMemberRoleRead_ok hread
  obtain ⟨v, d₂, t₂, hupdate, h₂⟩ := run_bind_ok.mp h₁
  obtain ⟨m, hm, rfl, rfl⟩ := membershipUpdate_ok.mp hupdate
  obtain ⟨updated, d₃, t₃, hfind, h₃⟩ := run_bind_ok.mp h₂
  obtain ⟨-, -, rfl, rfl⟩ := findMembershipOrThrow_ok hfind
  obtain ⟨v₄, d₄, t₄, hlog, h₄⟩ := run_bind_ok.mp h₃
  obtain ⟨hl, rfl⟩ := createAuditLog_ok hlog
  obtain ⟨hk, rfl, rfl⟩ := answer_ok (fun _ => rfl) h₄
  obtain rfl := Option.some.inj (hm.symm.trans (Backend.member?_eq_some hr).1)
  exact ⟨hk, .roleChanged hr ho habove hassign howners hl⟩

theorem updateMemberLocations_ok {requested : Option (List Id)}
    (h : (updateMemberLocations env organization actorUserId k requested).run db s =
      (.ok (response, db'), s')) :
    response.member.membershipId = k ∧
      TeamChange db env (.updateMemberLocations organization actorUserId k requested) k db' := by
  obtain ⟨⟨r, ids⟩, d, t, hread, h₁⟩ := run_bind_ok.mp h
  obtain ⟨hr, ho, habove, rfl, hids, rfl, rfl⟩ := updateMemberLocationsRead_ok hread
  obtain ⟨v, d₂, t₂, htx, h₂⟩ := run_bind_ok.mp h₁
  rw [run_transaction] at htx
  obtain ⟨hl, rfl⟩ := updateMemberLocationsTx_ok htx
  obtain ⟨hk, rfl, rfl⟩ := answer_ok (fun _ => rfl) h₂
  exact ⟨hk, .locationsUpdated hr ho habove hids hl⟩

theorem deactivateMember_ok
    (h : (deactivateMember env organization actorUserId k).run db s = (.ok (response, db'), s')) :
    response.member.membershipId = k ∧
      TeamChange db env (.deactivateMember organization actorUserId k) k db' := by
  obtain ⟨r, d, t, hread, h₁⟩ := run_bind_ok.mp h
  obtain ⟨hr, ho, habove, howners, rfl, rfl⟩ := deactivateMemberRead_ok hread
  obtain ⟨v, d₂, t₂, htx, h₂⟩ := run_bind_ok.mp h₁
  rw [run_transaction] at htx
  obtain ⟨m, hm, hl, rfl⟩ := deactivateMemberTx_ok htx
  obtain ⟨hk, rfl, rfl⟩ := answer_ok (fun _ => rfl) h₂
  obtain rfl := Option.some.inj (hm.symm.trans (Backend.member?_eq_some hr).1)
  exact ⟨hk, .deactivated hr ho habove howners hl⟩

theorem reactivateMember_ok
    (h : (reactivateMember env organization actorUserId k).run db s = (.ok (response, db'), s')) :
    response.member.membershipId = k ∧
      TeamChange db env (.reactivateMember organization actorUserId k) k db' := by
  obtain ⟨r, d, t, hread, h₁⟩ := run_bind_ok.mp h
  obtain ⟨hr, ho, habove, rfl, rfl⟩ := reactivateMemberRead_ok hread
  obtain ⟨url, d₂, t₂, htx, h₂⟩ := run_bind_ok.mp h₁
  rw [run_transaction] at htx
  obtain ⟨m, hm, hfresh, hl, rfl⟩ := reactivateMemberTx_ok htx
  obtain ⟨hk, rfl, rfl⟩ := answer_ok (fun _ => rfl) h₂
  obtain rfl := Option.some.inj (hm.symm.trans (Backend.member?_eq_some hr).1)
  exact ⟨hk, .reactivated hr ho habove hfresh hl⟩

theorem resendInvite_ok
    (h : (resendInvite env organization actorUserId k).run db s = (.ok (response, db'), s')) :
    response.member.membershipId = k ∧
      TeamChange db env (.resendInvite organization actorUserId k) k db' := by
  obtain ⟨r, d, t, hread, h₁⟩ := run_bind_ok.mp h
  obtain ⟨hr, ho, hstatus, habove, rfl, rfl⟩ := resendInviteRead_ok hread
  obtain ⟨url, d₂, t₂, htx, h₂⟩ := run_bind_ok.mp h₁
  rw [run_transaction] at htx
  obtain ⟨hfresh, hl, rfl⟩ := resendInviteTx_ok htx
  obtain ⟨hk, rfl, rfl⟩ := answer_ok (fun _ => rfl) h₂
  exact ⟨hk, .inviteResent hr ho hstatus habove hfresh hl⟩

theorem acceptInvitation_ok {input : AcceptInviteDto} {authenticatedUserId : Option Id}
    {member : TeamMemberDetail}
    (h : (acceptInvitation env input authenticatedUserId).run db s = (.ok (member, db'), s')) :
    TeamChange db env (.acceptInvitation input authenticatedUserId) member.membershipId db' := by
  obtain ⟨invitation, d, t, hread, h₁⟩ := run_bind_ok.mp h
  obtain ⟨hfound, hvalid, hauth, rfl, rfl⟩ := acceptInvitationRead_ok hread
  obtain ⟨u, d₂, t₂, htx, h₂⟩ := run_bind_ok.mp h₁
  rw [run_transaction] at htx
  obtain ⟨user, m, token, huser, hm, htoken, hl, rfl⟩ := acceptInvitationTx_ok htx
  -- what the transaction reads is what was found
  obtain ⟨htoken', -, hmember⟩ := Backend.invitation?_eq_some hfound
  obtain ⟨hm', hu', hid, -⟩ := Backend.member?_eq_some hmember
  rw [hid] at hm
  obtain rfl := Option.some.inj (hm'.symm.trans hm)
  obtain rfl := Option.some.inj (htoken'.symm.trans htoken)
  -- the member is read once more
  obtain ⟨found, d₃, t₃, hselect, h₃⟩ := run_bind_ok.mp h₂
  obtain ⟨rfl, rfl, rfl⟩ := run_select_ok.mp hselect
  have hlookup : d₃.memberships.lookup invitation.membership.id = some
      { invitation.membership.toMembership with
        status := .active, activatedAt := some env.now, updatedAt := env.now } := by
    rw [hl.memberships]
    exact AList.lookup_insert _
  rw [hlookup] at h₃
  obtain ⟨r, d₄, t₄, hfind, h₄⟩ := run_bind_ok.mp h₃
  obtain ⟨hr, -, rfl, rfl⟩ := findMembershipOrThrow_ok hfind
  obtain ⟨rfl, rfl, rfl⟩ := run_pure_ok.mp h₄
  have hmemberId : r.id = invitation.membership.id := (Backend.member?_eq_some hr).2.2.1
  show TeamChange _ _ _ r.id _
  rw [hmemberId]
  refine .accepted hfound hvalid hauth ?_
  cases hp : invitation.membership.user.hasPassword with
  | true => rwa [hp] at hl
  | false =>
    obtain rfl := Option.some.inj (hu'.symm.trans (huser hp))
    rwa [hp] at hl

/-- A call that succeeded ran to its end. -/
theorem TeamCall.run_of_exec {c : TeamCall} {member : TeamMemberDetail}
    (h : c.exec db = (.ok member, db')) : c.prog.run db () = (.ok (member, db'), ()) := by
  obtain ⟨hok, hdb⟩ := Prod.ext_iff.mp h
  exact runAuto_ok.mp (Prod.ext hok (Prod.ext hdb rfl))

/-- **What a call that succeeded did**, to the member it answers. -/
theorem TeamCall.exec_ok {c : TeamCall} {member : TeamMemberDetail}
    (h : c.exec db = (.ok member, db')) :
    TeamChange db c.env c.action member.membershipId db' := by
  have hrun := TeamCall.run_of_exec h
  obtain ⟨env, action⟩ := c
  cases action with
  | inviteMember organization actorUserId input =>
    obtain ⟨response, rfl, h₁⟩ := run_map_ok.mp hrun
    exact inviteMember_ok h₁
  | updateMember organization actorUserId k input =>
    obtain ⟨response, rfl, h₁⟩ := run_map_ok.mp hrun
    obtain ⟨hk, hc⟩ := updateMember_ok h₁
    rwa [hk]
  | updateMemberRole organization actorUserId k role =>
    obtain ⟨response, rfl, h₁⟩ := run_map_ok.mp hrun
    obtain ⟨hk, hc⟩ := updateMemberRole_ok h₁
    rwa [hk]
  | updateMemberLocations organization actorUserId k requested =>
    obtain ⟨response, rfl, h₁⟩ := run_map_ok.mp hrun
    obtain ⟨hk, hc⟩ := updateMemberLocations_ok h₁
    rwa [hk]
  | deactivateMember organization actorUserId k =>
    obtain ⟨response, rfl, h₁⟩ := run_map_ok.mp hrun
    obtain ⟨hk, hc⟩ := deactivateMember_ok h₁
    rwa [hk]
  | reactivateMember organization actorUserId k =>
    obtain ⟨response, rfl, h₁⟩ := run_map_ok.mp hrun
    obtain ⟨hk, hc⟩ := reactivateMember_ok h₁
    rwa [hk]
  | resendInvite organization actorUserId k =>
    obtain ⟨response, rfl, h₁⟩ := run_map_ok.mp hrun
    obtain ⟨hk, hc⟩ := resendInvite_ok h₁
    rwa [hk]
  | acceptInvitation input authenticatedUserId => exact acceptInvitation_ok hrun

end

/-! ## What a call leaves alone -/

/-- The organization a call is about. -/
def Backend.organizationOf? (db : Backend) (env : TeamEnv) : TeamAction → Option Id
  | .acceptInvitation input _ =>
    (db.invitation? (env.sha256 input.token)).map fun invitation =>
      invitation.membership.organizationId
  | action => action.organization?.map fun organization => organization.organizationId

/-- From `db` to `db'` only the membership `k`, of the organization `x`, its location rows and its
invite tokens are written. -/
structure Backend.ConfinedTo (db : Backend) (k x : Id) (db' : Backend) : Prop where
  memberships : ∀ k', k' ≠ k → db'.memberships.lookup k' = db.memberships.lookup k'
  before : ∀ m, db.memberships.lookup k = some m → m.organizationId = x
  after : ∀ m, db'.memberships.lookup k = some m → m.organizationId = x
  scopes : ∀ k', k' ≠ k → db'.scopeOf k' = db.scopeOf k'
  inviteTokens : ∀ tokenId t, t.membershipId ≠ k →
    (db'.inviteTokens.lookup tokenId = some t ↔ db.inviteTokens.lookup tokenId = some t)

section

variable {db db₁ db' : Backend} {env : TeamEnv} {k x : Id} {m : Membership} {r : TeamMemberRecord}

theorem Backend.confinedTo_of_member (hr : db.member? k = some r) (ho : r.organizationId = x) :
    db.ConfinedTo k x db := by
  obtain ⟨hm, -, -, -⟩ := member?_eq_some hr
  refine ⟨fun _ _ => rfl, fun m' hm' => ?_, fun m' hm' => ?_, fun _ _ => rfl, fun _ _ _ => Iff.rfl⟩
  all_goals
    cases hm.symm.trans hm'
    exact ho

namespace Backend.ConfinedTo

theorem logs (h : db.ConfinedTo k x db₁) (hl : db₁.Logs db') : db.ConfinedTo k x db' where
  memberships := by rw [hl.memberships]; exact h.memberships
  before := h.before
  after := by rw [hl.memberships]; exact h.after
  scopes k' hk' := by rw [hl.scopeOf]; exact h.scopes k' hk'
  inviteTokens := by rw [hl.inviteTokens]; exact h.inviteTokens

theorem setMembership (h : db.ConfinedTo k x db₁) (ho : m.organizationId = x) :
    db.ConfinedTo k x (db₁.setMembership k m) where
  memberships k' hk' := (AList.lookup_insert_ne hk').trans (h.memberships k' hk')
  before := h.before
  after m' hm' := by
    cases (AList.lookup_insert _).symm.trans hm'
    exact ho
  scopes := h.scopes
  inviteTokens := h.inviteTokens

theorem setUser {userId : Id} {u : User} (h : db.ConfinedTo k x db₁) :
    db.ConfinedTo k x (db₁.setUser userId u) :=
  ⟨h.memberships, h.before, h.after, h.scopes, h.inviteTokens⟩

theorem passworded {input : AcceptInviteDto} {hasPassword : Bool} {userId : Id} {u : User}
    (h : db.ConfinedTo k x db₁) :
    db.ConfinedTo k x (db₁.passworded env input hasPassword userId u) := by
  unfold Backend.passworded
  split
  · exact h
  · exact h.setUser

theorem setScope {locationIds : List Id} (h : db.ConfinedTo k x db₁) :
    db.ConfinedTo k x (db₁.setScope k locationIds) where
  memberships := h.memberships
  before := h.before
  after := h.after
  scopes k' hk' := by rw [scopeOf_setScope, if_neg hk']; exact h.scopes k' hk'
  inviteTokens := h.inviteTokens

/-- A token of the membership takes the place of another one, or of none. -/
theorem setInvite {tokenId : Id} {t : InviteToken} (h : db.ConfinedTo k x db₁)
    (ht : t.membershipId = k)
    (hold : ∀ t', db₁.inviteTokens.lookup tokenId = some t' → t'.membershipId = k) :
    db.ConfinedTo k x (db₁.setInvite tokenId t) where
  memberships := h.memberships
  before := h.before
  after := h.after
  scopes := h.scopes
  inviteTokens i t' ht' := by
    rw [inviteTokens_setInvite, Table.lookup_insert_ite, ← h.inviteTokens i t' ht']
    split
    · next hi =>
      subst hi
      exact ⟨fun he => absurd (Option.some.inj he ▸ ht) ht', fun he => absurd (hold t' he) ht'⟩
    · exact Iff.rfl

theorem expireInvites (h : db.ConfinedTo k x db₁) :
    db.ConfinedTo k x (db₁.expireInvites env k) where
  memberships := h.memberships
  before := h.before
  after := h.after
  scopes := h.scopes
  inviteTokens i t' ht' := by
    rw [← h.inviteTokens i t' ht', Backend.expireInvites, Table.lookup_mapRows,
      Option.map_eq_some_iff]
    constructor
    · rintro ⟨t, ht, rfl⟩
      split at ht' <;> simp_all
    · intro ht
      exact ⟨t', ht, by simp [ht']⟩

theorem reinvite {tokenId : Id} (h : db.ConfinedTo k x db₁)
    (hfresh : db₁.inviteTokens.lookup tokenId = none) :
    db.ConfinedTo k x (db₁.reinvite env tokenId k) := by
  refine h.expireInvites.setInvite rfl fun t ht => ?_
  rw [Backend.expireInvites, Table.lookup_mapRows, hfresh] at ht
  cases ht

theorem renewed {hasPassword : Bool} (h : db.ConfinedTo k x db₁)
    (hfresh : hasPassword = false → db₁.inviteTokens.lookup (env.uuid 2) = none) :
    db.ConfinedTo k x (db₁.renewed env hasPassword k) := by
  unfold Backend.renewed
  split
  · exact h
  · next hp => exact h.reinvite (hfresh (by simpa using hp))

end Backend.ConfinedTo

/-- **A call writes one membership**: its own, of the organization it is about. -/
theorem TeamChange.confined {action : TeamAction} (h : TeamChange db env action k db')
    (hx : db.organizationOf? env action = some x) : db.ConfinedTo k x db' := by
  cases h with
  | invited _ _ _ account new fresh logs =>
    cases hx
    have hnone : ∀ m, db.memberships.lookup (env.uuid 1) ≠ some m := by
      intro m hm
      rw [new] at hm
      cases hm
    have hnew : ∀ {y : Id}, db.ConfinedTo (env.uuid 1) y db :=
      ⟨fun _ _ => rfl, fun m hm => absurd hm (hnone m), fun m hm => absurd hm (hnone m),
        fun _ _ => rfl, fun _ _ _ => Iff.rfl⟩
    refine Backend.ConfinedTo.logs ?_ logs
    unfold Backend.invited
    cases account with
    | existing =>
      refine Backend.ConfinedTo.reinvite (Backend.ConfinedTo.setScope ?_) fresh
      exact hnew.setMembership rfl
    | created =>
      refine Backend.ConfinedTo.reinvite (Backend.ConfinedTo.setScope ?_) fresh
      exact hnew.setUser.setMembership rfl
  | reinvited _ _ found _ fresh logs =>
    cases hx
    obtain ⟨hr, ho, -, -⟩ := inviteTarget_member found
    refine Backend.ConfinedTo.logs ?_ logs
    unfold Backend.reinvited
    refine Backend.ConfinedTo.renewed (Backend.ConfinedTo.setScope ?_) fresh
    refine Backend.ConfinedTo.setUser ?_
    exact (Backend.confinedTo_of_member hr ho).setMembership ho
  | profileUpdated member organizationId _ logs =>
    cases hx
    exact (Backend.confinedTo_of_member member organizationId).setUser.logs logs
  | roleChanged member organizationId _ _ _ logs =>
    cases hx
    refine Backend.ConfinedTo.logs ?_ logs
    exact (Backend.confinedTo_of_member member organizationId).setMembership organizationId
  | locationsUpdated member organizationId _ _ logs =>
    cases hx
    exact (Backend.confinedTo_of_member member organizationId).setScope.logs logs
  | deactivated member organizationId _ _ logs =>
    cases hx
    refine Backend.ConfinedTo.logs ?_ logs
    exact (Backend.confinedTo_of_member member organizationId).setMembership organizationId
  | reactivated member organizationId _ fresh logs =>
    cases hx
    refine Backend.ConfinedTo.logs ?_ logs
    refine Backend.ConfinedTo.renewed ?_ fresh
    exact (Backend.confinedTo_of_member member organizationId).setMembership organizationId
  | inviteResent member organizationId _ _ fresh logs =>
    cases hx
    exact ((Backend.confinedTo_of_member member organizationId).reinvite fresh).logs logs
  | @accepted input _ invitation _ found _ _ logs =>
    obtain ⟨_, hfound, rfl⟩ := Option.map_eq_some_iff.mp hx
    cases found.symm.trans hfound
    obtain ⟨htoken, -, hmember⟩ := Backend.invitation?_eq_some found
    have hid : invitation.token.membershipId = invitation.membership.id :=
      (Backend.member?_eq_some hmember).2.2.1.symm
    rw [hid] at hmember
    refine Backend.ConfinedTo.logs ?_ logs
    refine Backend.ConfinedTo.setInvite ?_ hid fun t ht => ?_
    · exact (Backend.confinedTo_of_member hmember rfl).passworded.setMembership rfl
    · rw [Backend.inviteTokens_setMembership, Backend.inviteTokens_passworded] at ht
      cases htoken.symm.trans ht
      exact hid

end

/-! ## Calls that fail -/

section

variable {S : Type} {env : TeamEnv} {organization : MemberContext} {actorUserId k : Id}
  {db db' : Backend} {s : S}

theorem inviteMember_clean {input : InviteMemberDto} :
    (inviteMember env organization actorUserId input).CleanAt db s := by
  refine inviteMemberRead_readOnly.bind_cleanAt fun target hread =>
    cleanAt_transaction_bind fun a db' s' htx => ?_
  obtain ⟨habove, rfl, hids, hstatus, -, -⟩ := inviteMemberRead_ok hread
  have hchange := inviteMemberTx_ok habove hids hstatus htx
  suffices h : db'.HasMember organization.organizationId a.1 from h.detail
  generalize a.1 = membershipId at hchange
  cases hchange with
  | @invited _ _ userId _ db₁ _ _ _ _ haccount _ _ hl =>
    have huser : (db₁.users.lookup userId).isSome = true := by
      cases haccount with
      | existing found =>
        exact Option.isSome_iff_exists.mpr ⟨_, (Backend.userByEmail?_eq_some found).1⟩
      | created new =>
        show ((db.users.insert (env.uuid 0) _).lookup (env.uuid 0)).isSome = true
        rw [AList.lookup_insert]
        rfl
    refine Backend.HasMember.logs ?_ hl
    exact Backend.hasMember_setMembership
      (m := invitedMembership env organization input userId) rfl huser
  | @reinvited _ _ _ r _ _ _ hfound _ _ hl =>
    obtain ⟨hr, ho, -, -⟩ := inviteTarget_member hfound
    refine (Backend.HasMember.renewed ?_).logs hl
    refine Backend.HasMember.setUser (Backend.hasMember_setMembership
      (m := { reinstated env r.user.hasPassword r.invitedAt { r.toMembership with role := input.role }
        with updatedAt := env.now }) ho ?_)
    exact Option.isSome_iff_exists.mpr ⟨_, (Backend.member?_eq_some hr).2.1⟩

theorem updateMember_clean {input : UpdateTeamMemberDto} :
    (updateMember env organization actorUserId k input).CleanAt db s := by
  refine updateMemberRead_readOnly.bind_cleanAt fun r hread => cleanAt_exec_bind fun _ => ?_
  obtain ⟨hr, ho, -, -, -⟩ := updateMemberRead_ok hread
  obtain ⟨hm, hu, -, -⟩ := Backend.member?_eq_some hr
  have hmember := Backend.hasMember_of_member? hr
  rw [ho] at hmember
  have hafter : (db.setUser r.userId
      { r.user with firstName := input.firstName.getD r.user.firstName
                    lastName := input.lastName.getD r.user.lastName
                    email := (input.normalizedEmail env).getD r.user.email
                    updatedAt := env.now }).HasMember organization.organizationId k :=
    hmember.setUser
  rw [Backend.modifyUser, hu]
  obtain ⟨updated, hfind⟩ := hafter.find (s := s)
  refine Succeeds.bind hfind (Succeeds.bind (a := ()) rfl ?_)
  exact (hafter.logs ⟨_, _, rfl⟩).detail

theorem updateMemberRole_clean {role : Role} :
    (updateMemberRole env organization actorUserId k role).CleanAt db s := by
  refine updateMemberRoleRead_readOnly.bind_cleanAt fun r hread => cleanAt_exec_bind fun _ => ?_
  obtain ⟨hr, ho, -, -, -, -, -⟩ := updateMemberRoleRead_ok hread
  obtain ⟨hm, hu, -, -⟩ := Backend.member?_eq_some hr
  have hafter : (db.setMembership k
      { r.toMembership with role := role, updatedAt := env.now }).HasMember
      organization.organizationId k :=
    Backend.hasMember_setMembership ho (Option.isSome_iff_exists.mpr ⟨_, hu⟩)
  rw [Backend.modifyMembership, hm]
  obtain ⟨updated, hfind⟩ := hafter.find (s := s)
  refine Succeeds.bind hfind (Succeeds.bind (a := ()) rfl ?_)
  exact (hafter.logs ⟨_, _, rfl⟩).detail

theorem updateMemberLocations_clean {requested : Option (List Id)} :
    (updateMemberLocations env organization actorUserId k requested).CleanAt db s := by
  refine updateMemberLocationsRead_readOnly.bind_cleanAt fun r hread =>
    cleanAt_transaction_bind fun _ db' s' htx => ?_
  obtain ⟨hr, ho, -⟩ := updateMemberLocationsRead_ok hread
  obtain ⟨hl, -⟩ := updateMemberLocationsTx_ok htx
  have hmember := Backend.hasMember_of_member? hr
  rw [ho] at hmember
  refine Backend.HasMember.detail (Backend.HasMember.logs ?_ hl)
  exact hmember

theorem deactivateMember_clean :
    (deactivateMember env organization actorUserId k).CleanAt db s := by
  refine deactivateMemberRead_readOnly.bind_cleanAt fun r hread =>
    cleanAt_transaction_bind fun _ db' s' htx => ?_
  obtain ⟨hr, ho, -⟩ := deactivateMemberRead_ok hread
  obtain ⟨m, hm, hl, -⟩ := deactivateMemberTx_ok htx
  obtain ⟨hm', hu, -, -⟩ := Backend.member?_eq_some hr
  obtain rfl := Option.some.inj (hm'.symm.trans hm)
  refine Backend.HasMember.detail (Backend.HasMember.logs ?_ hl)
  exact Backend.hasMember_setMembership ho (Option.isSome_iff_exists.mpr ⟨_, hu⟩)

theorem reactivateMember_clean :
    (reactivateMember env organization actorUserId k).CleanAt db s := by
  refine reactivateMemberRead_readOnly.bind_cleanAt fun r hread =>
    cleanAt_transaction_bind fun _ db' s' htx => ?_
  obtain ⟨hr, ho, -⟩ := reactivateMemberRead_ok hread
  obtain ⟨m, hm, -, hl, -⟩ := reactivateMemberTx_ok htx
  obtain ⟨hm', hu, -, -⟩ := Backend.member?_eq_some hr
  obtain rfl := Option.some.inj (hm'.symm.trans hm)
  refine Backend.HasMember.detail (Backend.HasMember.logs (Backend.HasMember.renewed ?_) hl)
  exact Backend.hasMember_setMembership ho (Option.isSome_iff_exists.mpr ⟨_, hu⟩)

theorem resendInvite_clean : (resendInvite env organization actorUserId k).CleanAt db s := by
  refine resendInviteRead_readOnly.bind_cleanAt fun r hread =>
    cleanAt_transaction_bind fun _ db' s' htx => ?_
  obtain ⟨hr, ho, -⟩ := resendInviteRead_ok hread
  obtain ⟨-, hl, -⟩ := resendInviteTx_ok htx
  have hmember := Backend.hasMember_of_member? hr
  rw [ho] at hmember
  refine Backend.HasMember.detail (Backend.HasMember.logs ?_ hl)
  exact hmember

theorem acceptInvitation_clean {input : AcceptInviteDto} {authenticatedUserId : Option Id} :
    (acceptInvitation env input authenticatedUserId).CleanAt db s := by
  refine acceptInvitationRead_readOnly.bind_cleanAt fun invitation hread =>
    cleanAt_transaction_bind fun _ db' s' htx => ?_
  obtain ⟨hfound, -⟩ := acceptInvitationRead_ok hread
  obtain ⟨user, m, token, huser, hm, htoken, hl, -⟩ := acceptInvitationTx_ok htx
  obtain ⟨-, -, hmember⟩ := Backend.invitation?_eq_some hfound
  obtain ⟨hm', hu, hid, -⟩ := Backend.member?_eq_some hmember
  rw [hid] at hm
  obtain rfl := Option.some.inj (hm'.symm.trans hm)
  -- the accepted membership is a member of the organization it is in
  have hafter : db'.HasMember invitation.membership.organizationId invitation.membership.id := by
    refine Backend.HasMember.logs ?_ hl
    show ((db.passworded env input invitation.membership.user.hasPassword
      invitation.membership.userId user).setMembership _ _).HasMember _ _
    refine Backend.hasMember_setMembership rfl ?_
    unfold Backend.passworded
    split
    · exact Option.isSome_iff_exists.mpr ⟨_, hu⟩
    · show ((db.users.insert _ _).lookup _).isSome = true
      rw [AList.lookup_insert]
      rfl
  have hlookup : db'.memberships.lookup invitation.membership.id = some
      { invitation.membership.toMembership with
        status := .active, activatedAt := some env.now, updatedAt := env.now } := by
    rw [hl.memberships]
    exact AList.lookup_insert _
  refine Succeeds.bind (a := some _) (by rw [← hlookup]; rfl) ?_
  obtain ⟨r, hfind⟩ := hafter.find (s := s')
  exact Succeeds.bind hfind succeeds_pure

/-- **A call that failed** left the database as it was, also one that writes outside a
transaction. -/
theorem TeamCall.exec_error {c : TeamCall} {e : BackendError} (h : c.exec db = (.error e, db')) :
    db' = db := by
  obtain ⟨herror, hdb⟩ := Prod.ext_iff.mp h
  have hclean : c.prog.CleanAt db () := by
    obtain ⟨env, action⟩ := c
    cases action with
    | inviteMember => exact inviteMember_clean.map
    | updateMember => exact updateMember_clean.map
    | updateMemberRole => exact updateMemberRole_clean.map
    | updateMemberLocations => exact updateMemberLocations_clean.map
    | deactivateMember => exact deactivateMember_clean.map
    | reactivateMember => exact reactivateMember_clean.map
    | resendInvite => exact resendInvite_clean.map
    | acceptInvitation => exact acceptInvitation_clean
  exact hclean e db' () (Prod.ext herror (Prod.ext hdb rfl))

/-- A call leaves the database as it was or did what it did to one member. -/
theorem TeamCall.step_cases (c : TeamCall) (db : Backend) :
    team.step db c = db ∨ ∃ k, TeamChange db c.env c.action k (team.step db c) := by
  rcases h : c.exec db with ⟨e | member, db'⟩
  · exact Or.inl ((congrArg Prod.snd h).trans (exec_error h))
  · refine Or.inr ⟨member.membershipId, ?_⟩
    rw [show team.step db c = db' from congrArg Prod.snd h]
    exact exec_ok h

end

/-! ## A small office

One organization, for runs on fixed inputs. -/

namespace Office

def organizationId : Id := ⟨0, 1⟩

/-- The owner and its membership. -/
def ann : Id := ⟨0, 10⟩

def annMember : Id := ⟨0, 20⟩

/-- Somebody else and their membership. -/
def bob : Id := ⟨0, 11⟩

def bobMember : Id := ⟨0, 21⟩

def cleo : Id := ⟨0, 12⟩

def cleoMember : Id := ⟨0, 22⟩

/-- A request at the time `n`. -/
def env (n : Nat) : TeamEnv :=
  { now := n, uuid := fun i => ⟨n, i⟩, rawToken := "token"
    sha256 := fun _ => "3c469e9d6c5875d37a43f353d4f88e61fcf812c66eee3457465a40b0da4153e0"
    bcryptHash := fun _ => "$2b$10$R9h/cIPz0gi.URNNX3kh2OPST9/PgBkqquzi.Ss7KIUgO2t0jWMUW"
    trim := id, toLowerCase := id, frontendUrl := "http://localhost:3000" }

def user (name : String) (hasPassword : Bool := true) : User :=
  { email := name ++ "@office.test", passwordHash := if hasPassword then some "$2b$10$" else none
    firstName := some name, lastName := none, isActive := true, lastLoginAt := none
    createdAt := 0, updatedAt := 0 }

def membership (userId : Id) (role : Role) (status : MembershipStatus := .active) : Membership :=
  { organizationId := organizationId, userId := userId, role := role, status := status
    createdAt := 0, updatedAt := 0, invitedAt := none, activatedAt := none, deactivatedAt := none }

/-- A membership as the one that calls. -/
def acts (membershipId : Id) (role : Role) : MemberContext :=
  { organizationId := organizationId, membershipId := membershipId, role := role, serialized := rfl }

/-- The office with these members. -/
def staffed (members : List (Id × Membership × User)) : Backend :=
  members.foldr
    (fun r db => (db.setMembership r.1 r.2.1).setUser r.2.1.userId r.2.2)
    { Backend.empty with organizations := AList.insert organizationId { name := "office" } ∅ }

end Office

end LedgerLight
