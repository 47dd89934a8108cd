import LedgerLight.Team.Service

/-!
# What the team calls do

One lemma `…_ok` for each part of a call: what it checked and the database it left, if it did not
fail. Audit rows and the sessions of users are left open (`Backend.Logs`).
-/

namespace LedgerLight

open Infra Prog

/-! ## Changes of the tables of the team -/

namespace Backend

variable (db : Backend)

/-- The membership `membershipId` with exactly these location rows. -/
def setScope (membershipId : Id) (locationIds : List Id) : Backend :=
  { db with membershipLocations :=
      (db.membershipLocations.filter fun row => row.membershipId != membershipId) ++
        locationIds.map fun l => { membershipId := membershipId, locationId := l } }

/-- The live invites of a membership end. -/
def expireInvites (env : TeamEnv) (membershipId : Id) : Backend :=
  { db with inviteTokens := db.inviteTokens.mapRows fun t =>
      if t.membershipId = membershipId ∧ t.acceptedAt = none ∧ env.now < t.expiresAt then
        { t with expiresAt := env.now }
      else t }

/-- A new invite for a membership. -/
def newInvite (env : TeamEnv) (membershipId : Id) : InviteToken :=
  { membershipId := membershipId, tokenHash := env.sha256 env.rawToken,
    expiresAt := env.now + inviteLifetime, acceptedAt := none, createdAt := env.now }

def setInvite (tokenId : Id) (t : InviteToken) : Backend :=
  { db with inviteTokens := db.inviteTokens.insert tokenId t }

/-- The live invites of a membership end and a new one is made. -/
def reinvite (env : TeamEnv) (tokenId membershipId : Id) : Backend :=
  (db.expireInvites env membershipId).setInvite tokenId (newInvite env membershipId)

variable {db} {db' db₁ db₂ : Backend}

section

variable {k membershipId userId tokenId : Id} {m : Membership} {u : User} {t : InviteToken}
  {locationIds : List Id} {env : TeamEnv}

@[simp] theorem memberships_setMembership :
    (db.setMembership k m).memberships = db.memberships.insert k m := rfl

@[simp] theorem memberships_setUser : (db.setUser userId u).memberships = db.memberships := rfl

@[simp] theorem memberships_setScope :
    (db.setScope membershipId locationIds).memberships = db.memberships := rfl

@[simp] theorem memberships_setInvite : (db.setInvite tokenId t).memberships = db.memberships := rfl

@[simp] theorem memberships_reinvite :
    (db.reinvite env tokenId membershipId).memberships = db.memberships := rfl

@[simp] theorem users_setMembership : (db.setMembership k m).users = db.users := rfl

@[simp] theorem users_setUser : (db.setUser userId u).users = db.users.insert userId u := rfl

@[simp] theorem users_setScope : (db.setScope membershipId locationIds).users = db.users := rfl

@[simp] theorem users_setInvite : (db.setInvite tokenId t).users = db.users := rfl

@[simp] theorem users_reinvite : (db.reinvite env tokenId membershipId).users = db.users := rfl

@[simp] theorem scopeOf_setMembership : (db.setMembership k m).scopeOf = db.scopeOf := rfl

@[simp] theorem scopeOf_setUser : (db.setUser userId u).scopeOf = db.scopeOf := rfl

@[simp] theorem scopeOf_setInvite : (db.setInvite tokenId t).scopeOf = db.scopeOf := rfl

@[simp] theorem scopeOf_reinvite :
    (db.reinvite env tokenId membershipId).scopeOf = db.scopeOf := rfl

@[simp] theorem inviteTokens_setMembership :
    (db.setMembership k m).inviteTokens = db.inviteTokens := rfl

@[simp] theorem inviteTokens_setUser : (db.setUser userId u).inviteTokens = db.inviteTokens := rfl

@[simp] theorem inviteTokens_setScope :
    (db.setScope membershipId locationIds).inviteTokens = db.inviteTokens := rfl

@[simp] theorem inviteTokens_setInvite :
    (db.setInvite tokenId t).inviteTokens = db.inviteTokens.insert tokenId t := rfl

end

theorem scopeOf_setScope (membershipId k : Id) (locationIds : List Id) :
    (db.setScope membershipId locationIds).scopeOf k =
      if k = membershipId then locationIds else db.scopeOf k := by
  unfold scopeOf setScope
  simp only [List.filter_append, List.filter_filter, List.map_append]
  split
  · next h =>
    subst h
    have hnone : (db.membershipLocations.filter fun row =>
        row.membershipId == k && row.membershipId != k) = [] := by
      rw [List.filter_eq_nil_iff]
      intro row _
      simp
    simp [hnone, List.filter_map, Function.comp_def]
  · next h =>
    have hnone : ((locationIds.map fun l => (⟨membershipId, l⟩ : MembershipLocation)).filter
        fun row => row.membershipId == k) = [] := by
      rw [List.filter_eq_nil_iff]
      intro row hrow
      obtain ⟨l, -, rfl⟩ := List.mem_map.mp hrow
      simpa using Ne.symm h
    rw [hnone, List.map_nil, List.append_nil]
    congr 1
    refine List.filter_congr fun row _ => ?_
    by_cases hk : row.membershipId = k <;> simp [hk, h]

/-- `db'` is `db` up to audit rows and sessions. -/
structure Logs (db db' : Backend) : Prop where
  eq : ∃ refreshTokens memberLogs,
    db' = { db with refreshTokens := refreshTokens, memberLogs := memberLogs }

theorem Logs.refl (db : Backend) : db.Logs db := ⟨_, _, rfl⟩

theorem Logs.trans (h : db.Logs db₁) (h' : db₁.Logs db₂) : db.Logs db₂ := by
  obtain ⟨_, _, rfl⟩ := h.eq
  obtain ⟨_, _, rfl⟩ := h'.eq
  exact ⟨_, _, rfl⟩

section

variable (h : db.Logs db')
include h

theorem Logs.users : db'.users = db.users := by obtain ⟨_, _, rfl⟩ := h.eq; rfl

theorem Logs.memberships : db'.memberships = db.memberships := by
  obtain ⟨_, _, rfl⟩ := h.eq; rfl

theorem Logs.membershipLocations : db'.membershipLocations = db.membershipLocations := by
  obtain ⟨_, _, rfl⟩ := h.eq; rfl

theorem Logs.inviteTokens : db'.inviteTokens = db.inviteTokens := by
  obtain ⟨_, _, rfl⟩ := h.eq; rfl

theorem Logs.locations : db'.locations = db.locations := by obtain ⟨_, _, rfl⟩ := h.eq; rfl

theorem Logs.scopeOf (k : Id) : db'.scopeOf k = db.scopeOf k := by
  obtain ⟨_, _, rfl⟩ := h.eq; rfl

theorem Logs.member? (k : Id) : db'.member? k = db.member? k := by
  obtain ⟨_, _, rfl⟩ := h.eq; rfl

end

end Backend

/-! ## Statements -/

section

variable {S : Type} {env : TeamEnv} {organization : MemberContext}
  {db db' : Backend} {s s' : S} {membershipId userId : Id} {u : Unit}

theorem membershipUpdate_ok {f : Membership → Membership} :
    (membershipUpdate env membershipId f).run db s = (.ok (u, db'), s') ↔
      ∃ m, db.memberships.lookup membershipId = some m ∧
        db' = db.setMembership membershipId { f m with updatedAt := env.now } ∧ s' = s := by
  rw [membershipUpdate, run_exec_ok]
  cases h : db.memberships.lookup membershipId <;> simp [Backend.modifyMembership, h]

theorem membershipCreate_ok {m : Membership} :
    (membershipCreate membershipId m).run db s = (.ok (u, db'), s') →
      db.memberships.lookup membershipId = none ∧
        (db.memberships.findRow? fun _ m' =>
          m'.organizationId == m.organizationId && m'.userId == m.userId) = none ∧
        (db.users.lookup m.userId).isSome = true ∧
        db' = db.setMembership membershipId m ∧ s' = s := by
  rw [membershipCreate, run_exec_ok]
  rintro ⟨hfails, rfl, rfl⟩
  split at hfails
  · cases hfails
  · next hnew =>
    simp only [not_or, Bool.not_eq_true, Option.isSome_eq_false_iff,
      Option.isNone_iff_eq_none] at hnew
    split at hfails
    · next hforeign => exact ⟨hnew.1, hnew.2, hforeign.2, rfl, rfl⟩
    · cases hfails

theorem userUpdate_ok {email : Option String} {f : User → User} :
    (userUpdate env userId email f).run db s = (.ok (u, db'), s') ↔
      ∃ user, db.users.lookup userId = some user ∧
        (∀ e ∈ email, db.emailTaken userId e = false) ∧
        db' = db.setUser userId
          { f user with email := email.getD user.email, updatedAt := env.now } ∧ s' = s := by
  rw [userUpdate, run_exec_ok]
  cases h : db.users.lookup userId with
  | none => simp
  | some user => cases email <;> simp [Backend.modifyUser, h]

theorem userCreate_ok {user : User} (h : (userCreate userId user).run db s = (.ok (u, db'), s')) :
    db.users.lookup userId = none ∧ db' = db.setUser userId user ∧ s' = s := by
  rw [userCreate, run_exec_ok] at h
  obtain ⟨hfails, rfl, rfl⟩ := h
  split at hfails
  · cases hfails
  · next hnew =>
    simp only [not_or, Bool.not_eq_true, Option.isSome_eq_false_iff,
      Option.isNone_iff_eq_none] at hnew
    exact ⟨hnew.1, rfl, rfl⟩

theorem replaceMembershipLocations_ok {locationIds : List Id}
    (h : (replaceMembershipLocations membershipId locationIds).run db s = (.ok (u, db'), s')) :
    db' = db.setScope membershipId locationIds ∧ s' = s := by
  obtain ⟨v, d, t, hdelete, hcreate⟩ := run_bind_ok.mp h
  obtain ⟨-, rfl, rfl⟩ := run_exec_ok.mp hdelete
  rcases run_doWhen_ok.mp hcreate with ⟨-, hrun⟩ | ⟨hnil, rfl, rfl⟩
  · obtain ⟨-, rfl, rfl⟩ := run_exec_ok.mp hrun
    exact ⟨rfl, rfl⟩
  · obtain rfl : locationIds = [] := not_not.mp hnil
    simp [Backend.setScope]

theorem refreshTokenRevoke_ok
    (h : (refreshTokenRevoke env userId).run db s = (.ok (u, db'), s')) :
    db.Logs db' ∧ s' = s := by
  obtain ⟨-, rfl, rfl⟩ := run_exec_ok.mp h
  exact ⟨⟨_, _, rfl⟩, rfl⟩

theorem createAuditLog_ok {organizationId entityId : Id} {actorUserId : Option Id}
    {action : MemberAuditAction} {beforeJson afterJson : Option MembershipSnapshot}
    (h : (createAuditLog env organizationId actorUserId action entityId beforeJson afterJson).run
      db s = (.ok (u, db'), s')) :
    db.Logs db' ∧ s' = s := by
  obtain ⟨-, rfl, rfl⟩ := run_exec_ok.mp h
  exact ⟨⟨_, _, rfl⟩, rfl⟩

theorem createInviteForMembership_ok {tokenId : Id} {url : String}
    (h : (createInviteForMembership env tokenId membershipId).run db s = (.ok (url, db'), s')) :
    db.inviteTokens.lookup tokenId = none ∧ db' = db.reinvite env tokenId membershipId ∧
      s' = s := by
  obtain ⟨v, d, t, hexpire, h₁⟩ := run_bind_ok.mp h
  obtain ⟨-, rfl, rfl⟩ := run_exec_ok.mp hexpire
  obtain ⟨v', d', t', hcreate, h₂⟩ := run_bind_ok.mp h₁
  obtain ⟨hfails, rfl, rfl⟩ := run_exec_ok.mp hcreate
  obtain ⟨-, rfl, rfl⟩ := run_pure_ok.mp h₂
  split at hfails
  · cases hfails
  · next hnew =>
    simp only [not_or, Bool.not_eq_true, Option.isSome_eq_false_iff,
      Option.isNone_iff_eq_none] at hnew
    refine ⟨?_, rfl, rfl⟩
    have hlookup := hnew.1
    rw [Table.lookup_mapRows, Option.map_eq_none_iff] at hlookup
    exact hlookup

theorem inviteTokenAccept_ok {tokenId : Id}
    (h : (inviteTokenAccept env tokenId membershipId).run db s = (.ok (u, db'), s')) :
    ∃ t, db.inviteTokens.lookup tokenId = some t ∧
      db' = db.setInvite tokenId { t with acceptedAt := some env.now } ∧ s' = s := by
  obtain ⟨hfails, rfl, rfl⟩ := run_exec_ok.mp h
  cases ht : db.inviteTokens.lookup tokenId with
  | none => rw [ht] at hfails; cases hfails
  | some t => exact ⟨t, rfl, rfl, rfl⟩

theorem findMembershipOrThrow_ok {organizationId : Id} {r : TeamMemberRecord}
    (h : (findMembershipOrThrow organizationId membershipId).run db s = (.ok (r, db'), s')) :
    db.member? membershipId = some r ∧ r.organizationId = organizationId ∧ db' = db ∧ s' = s := by
  obtain ⟨found, d, t, hread, h₁⟩ := run_bind_ok.mp h
  obtain ⟨rfl, rfl, rfl⟩ := run_select_ok.mp hread
  cases hfound : (d.member? membershipId).filter fun m => m.organizationId == organizationId with
  | none => rw [hfound] at h₁; exact (run_fail_ok.mp h₁).elim
  | some r' =>
    rw [hfound] at h₁
    obtain ⟨rfl, rfl, rfl⟩ := run_pure_ok.mp h₁
    obtain ⟨hm, ho⟩ := Option.filter_eq_some_iff.mp hfound
    exact ⟨hm, by simpa using ho, rfl, rfl⟩

theorem loadMembershipWithRelations_ok {r : TeamMemberRecord}
    (h : (loadMembershipWithRelations membershipId).run db s = (.ok (r, db'), s')) :
    db.member? membershipId = some r ∧ db' = db ∧ s' = s := by
  obtain ⟨found, d, t, hread, h₁⟩ := run_bind_ok.mp h
  obtain ⟨rfl, rfl, rfl⟩ := run_select_ok.mp hread
  cases hfound : d.member? membershipId with
  | none => rw [hfound] at h₁; exact (run_fail_ok.mp h₁).elim
  | some r' =>
    rw [hfound] at h₁
    obtain ⟨rfl, rfl, rfl⟩ := run_pure_ok.mp h₁
    exact ⟨rfl, rfl, rfl⟩

theorem getMemberDetail_ok {organizationId : Id} {detail : TeamMemberDetail}
    (h : (getMemberDetail env organizationId membershipId).run db s = (.ok (detail, db'), s')) :
    detail.membershipId = membershipId ∧ db' = db ∧ s' = s := by
  obtain ⟨r, d, t, hfind, h₁⟩ := run_bind_ok.mp h
  obtain ⟨hr, -, rfl, rfl⟩ := findMembershipOrThrow_ok hfind
  obtain ⟨activity, d', t', hread, h₂⟩ := run_bind_ok.mp h₁
  obtain ⟨rfl, rfl, rfl⟩ := run_select_ok.mp hread
  obtain ⟨rfl, rfl, rfl⟩ := run_pure_ok.mp h₂
  exact ⟨(Backend.member?_eq_some hr).2.2.1, rfl, rfl⟩

theorem assertRoleAssignable_ok {actorRole targetRole : Role}
    (h : (assertRoleAssignable actorRole targetRole).run db s = (.ok (u, db'), s')) :
    actorRole.Above targetRole ∧ db' = db ∧ s' = s := by
  obtain ⟨hc, rfl, rfl⟩ := run_require_ok.mp h
  exact ⟨canAssignRole_iff.mp hc, rfl, rfl⟩

theorem resolveScopedLocationIds_ok {requested : Option (List Id)} {ids : List Id}
    (h : (resolveScopedLocationIds organization requested).run db s = (.ok (ids, db'), s')) :
    ids = scopedLocationIds organization requested ∧
      (∀ l ∈ ids, db.assignable organization l = true) ∧ db' = db ∧ s' = s := by
  obtain ⟨allowed, d, t, hread, h₁⟩ := run_bind_ok.mp h
  obtain ⟨rfl, rfl, rfl⟩ := run_select_ok.mp hread
  obtain ⟨v, d', t', hrequire, h₂⟩ := run_bind_ok.mp h₁
  obtain ⟨hall, rfl, rfl⟩ := run_require_ok.mp hrequire
  obtain ⟨rfl, rfl, rfl⟩ := run_pure_ok.mp h₂
  exact ⟨rfl, by simpa using hall, rfl, rfl⟩

/-! ## inviteMember -/

/-- What `inviteMember` reads before its transaction. -/
def Backend.inviteTarget (db : Backend) (env : TeamEnv) (organization : MemberContext)
    (input : InviteMemberDto) : InviteTarget :=
  let normalizedEmail := env.toLowerCase (env.trim input.email)
  let existingUser := db.userByEmail? normalizedEmail
  { locationIds := scopedLocationIds organization input.locationIds
    normalizedEmail := normalizedEmail
    existingUser := existingUser
    existingMembership := existingUser.bind fun u =>
      db.memberOf? organization.organizationId u.1 }

theorem existingMembershipOf_ok {organizationId : Id} {existingUser : Option (Id × User)}
    {existing : Option TeamMemberRecord}
    (h : (existingMembershipOf organizationId existingUser).run db s = (.ok (existing, db'), s')) :
    existing = (existingUser.bind fun u => db.memberOf? organizationId u.1) ∧ db' = db ∧
      s' = s := by
  cases existingUser with
  | none => exact run_pure_ok.mp h
  | some u => exact run_select_ok.mp h

theorem inviteMemberRead_ok {input : InviteMemberDto} {target : InviteTarget}
    (h : (inviteMemberRead env organization input).run db s = (.ok (target, db'), s')) :
    organization.role.Above input.role ∧ target = db.inviteTarget env organization input ∧
      (∀ l ∈ target.locationIds, db.assignable organization l = true) ∧
      (∀ r ∈ target.existingMembership, r.status = .deactivated) ∧ db' = db ∧ s' = s := by
  obtain ⟨v, d, t, hassign, h₁⟩ := run_bind_ok.mp h
  obtain ⟨habove, rfl, rfl⟩ := assertRoleAssignable_ok hassign
  obtain ⟨ids, d₁, t₁, hscope, h₂⟩ := run_bind_ok.mp h₁
  obtain ⟨rfl, hids, rfl, rfl⟩ := resolveScopedLocationIds_ok hscope
  obtain ⟨found, d₂, t₂, hread, h₃⟩ := run_bind_ok.mp h₂
  obtain ⟨rfl, rfl, rfl⟩ := run_select_ok.mp hread
  obtain ⟨existing, d₃, t₃, hmember, h₄⟩ := run_bind_ok.mp h₃
  obtain ⟨rfl, rfl, rfl⟩ := existingMembershipOf_ok hmember
  obtain ⟨v₄, d₄, t₄, hactive, h₅⟩ := run_bind_ok.mp h₄
  obtain ⟨hna, rfl, rfl⟩ := run_require_ok.mp hactive
  obtain ⟨v₅, d₅, t₅, hinvited, h₆⟩ := run_bind_ok.mp h₅
  obtain ⟨hni, rfl, rfl⟩ := run_require_ok.mp hinvited
  obtain ⟨rfl, rfl, rfl⟩ := run_pure_ok.mp h₆
  refine ⟨habove, rfl, hids, fun r hr => ?_, rfl, rfl⟩
  simp only [Option.any_eq_true, beq_iff_eq, not_exists, not_and] at hna hni
  cases hstatus : r.status with
  | active => exact absurd hstatus (hna r hr)
  | invited => exact absurd hstatus (hni r hr)
  | deactivated => rfl

/-- The database after `renewAccess`, up to sessions. -/
def Backend.renewed (db : Backend) (env : TeamEnv) (hasPassword : Bool) (membershipId : Id) :
    Backend :=
  if hasPassword then db else db.reinvite env (env.uuid 2) membershipId

section

variable {hasPassword : Bool}

@[simp] theorem Backend.memberships_renewed :
    (db.renewed env hasPassword membershipId).memberships = db.memberships := by
  unfold Backend.renewed
  split <;> rfl

@[simp] theorem Backend.users_renewed :
    (db.renewed env hasPassword membershipId).users = db.users := by
  unfold Backend.renewed
  split <;> rfl

@[simp] theorem Backend.scopeOf_renewed :
    (db.renewed env hasPassword membershipId).scopeOf = db.scopeOf := by
  unfold Backend.renewed
  split <;> rfl

end

theorem renewAccess_ok {hasPassword : Bool} {url : Option String}
    (h : (renewAccess env hasPassword membershipId userId).run db s = (.ok (url, db'), s')) :
    (hasPassword = false → db.inviteTokens.lookup (env.uuid 2) = none) ∧
      (db.renewed env hasPassword membershipId).Logs db' ∧ s' = s := by
  unfold Backend.renewed
  unfold renewAccess at h
  split at h
  · next hp =>
    obtain ⟨v₄, d₄, t₄, hrevoke, hpure⟩ := run_bind_ok.mp h
    obtain ⟨hl, rfl⟩ := refreshTokenRevoke_ok hrevoke
    obtain ⟨-, rfl, rfl⟩ := run_pure_ok.mp hpure
    rw [if_pos hp]
    exact ⟨fun hfalse => absurd (hp.symm.trans hfalse) (by simp), hl, rfl⟩
  · next hp =>
    obtain ⟨url', d₄, t₄, hcreate, hpure⟩ := run_bind_ok.mp h
    obtain ⟨hnew, rfl, rfl⟩ := createInviteForMembership_ok hcreate
    obtain ⟨-, rfl, rfl⟩ := run_pure_ok.mp hpure
    rw [if_neg hp]
    exact ⟨fun _ => hnew, Backend.Logs.refl _, rfl⟩

/-- The database after `inviteMember` for a deactivated membership, up to audit rows. -/
def Backend.reinvited (db : Backend) (env : TeamEnv) (input : InviteMemberDto)
    (locationIds : List Id) (userId : Id) (user : User) (existing : TeamMemberRecord)
    (m : Membership) (u : User) : Backend :=
  (((db.setMembership existing.id
    { reinstated env user.hasPassword existing.invitedAt { m with role := input.role } with
      updatedAt := env.now }).setUser userId
    { u with firstName := input.firstName.or user.firstName,
             lastName := input.lastName.or user.lastName, updatedAt := env.now }).setScope
    existing.id locationIds).renewed env user.hasPassword existing.id

theorem reinviteMemberTx_ok {actorUserId : Id} {input : InviteMemberDto} {locationIds : List Id}
    {user : User} {existing : TeamMemberRecord} {r : Id × Option String × String}
    (h : (reinviteMemberTx env organization actorUserId input locationIds userId user existing).run
      db s = (.ok (r, db'), s')) :
    ∃ m u, db.memberships.lookup existing.id = some m ∧ db.users.lookup userId = some u ∧
      r.1 = existing.id ∧
      (user.hasPassword = false → db.inviteTokens.lookup (env.uuid 2) = none) ∧
      (db.reinvited env input locationIds userId user existing m u).Logs db' := by
  obtain ⟨v, d, t, hupdate, h₁⟩ := run_bind_ok.mp h
  obtain ⟨m, hm, rfl, rfl⟩ := membershipUpdate_ok.mp hupdate
  obtain ⟨v₁, d₁, t₁, huser, h₂⟩ := run_bind_ok.mp h₁
  obtain ⟨u, hu, -, rfl, rfl⟩ := userUpdate_ok.mp huser
  obtain ⟨v₂, d₂, t₂, hscope, h₃⟩ := run_bind_ok.mp h₂
  obtain ⟨rfl, rfl⟩ := replaceMembershipLocations_ok hscope
  obtain ⟨url, d₃, t₃, hrenew, h₄⟩ := run_bind_ok.mp h₃
  obtain ⟨hfresh, hlogs, -⟩ := renewAccess_ok hrenew
  obtain ⟨refreshed, d₅, t₅, hload, h₅⟩ := run_bind_ok.mp h₄
  obtain ⟨hrefreshed, rfl, rfl⟩ := loadMembershipWithRelations_ok hload
  obtain ⟨v₆, d₆, t₆, hlog, h₆⟩ := run_bind_ok.mp h₅
  obtain ⟨hl, rfl⟩ := createAuditLog_ok hlog
  obtain ⟨rfl, rfl, -⟩ := run_pure_ok.mp h₆
  exact ⟨m, u, hm, hu, (Backend.member?_eq_some hrefreshed).2.2.1, hfresh, hlogs.trans hl⟩

/-- A membership that `inviteMember` makes. -/
def invitedMembership (env : TeamEnv) (organization : MemberContext) (input : InviteMemberDto)
    (userId : Id) : Membership :=
  { organizationId := organization.organizationId, userId := userId, role := input.role,
    status := .invited, createdAt := env.now, updatedAt := env.now, invitedAt := some env.now,
    activatedAt := none, deactivatedAt := none }

/-- The database after `inviteMember` for somebody without a membership, up to audit rows. -/
def Backend.invited (db : Backend) (env : TeamEnv) (organization : MemberContext)
    (input : InviteMemberDto) (locationIds : List Id) (userId : Id) : Backend :=
  ((db.setMembership (env.uuid 1) (invitedMembership env organization input userId)).setScope
    (env.uuid 1) locationIds).reinvite env (env.uuid 2) (env.uuid 1)

theorem inviteNewMemberTx_ok {actorUserId : Id} {input : InviteMemberDto} {locationIds : List Id}
    {r : Id × Option String × String}
    (h : (inviteNewMemberTx env organization actorUserId input locationIds userId).run db s =
      (.ok (r, db'), s')) :
    db.memberships.lookup (env.uuid 1) = none ∧ (db.users.lookup userId).isSome = true ∧
      r.1 = env.uuid 1 ∧ db.inviteTokens.lookup (env.uuid 2) = none ∧
      (db.invited env organization input locationIds userId).Logs db' := by
  obtain ⟨v, d, t, hcreate, h₁⟩ := run_bind_ok.mp h
  obtain ⟨hnew, -, huser, rfl, rfl⟩ := membershipCreate_ok hcreate
  obtain ⟨v₂, d₂, t₂, hscope, h₃⟩ := run_bind_ok.mp h₁
  obtain ⟨rfl, rfl⟩ := replaceMembershipLocations_ok hscope
  obtain ⟨url, d₃, t₃, hinvite, h₄⟩ := run_bind_ok.mp h₃
  obtain ⟨hfresh, rfl, rfl⟩ := createInviteForMembership_ok hinvite
  obtain ⟨refreshed, d₅, t₅, hload, h₅⟩ := run_bind_ok.mp h₄
  obtain ⟨hrefreshed, rfl, rfl⟩ := loadMembershipWithRelations_ok hload
  obtain ⟨v₆, d₆, t₆, hlog, h₆⟩ := run_bind_ok.mp h₅
  obtain ⟨hl, rfl⟩ := createAuditLog_ok hlog
  obtain ⟨rfl, rfl, -⟩ := run_pure_ok.mp h₆
  exact ⟨hnew, huser, (Backend.member?_eq_some hrefreshed).2.2.1, hfresh, hl⟩

theorem invitedAccount_ok {input : InviteMemberDto} {target : InviteTarget} {account : Id × User}
    (h : (invitedAccount env input target).run db s = (.ok (account, db'), s')) :
    (target.existingUser = some account ∧ db' = db ∨
      target.existingUser = none ∧ db.users.lookup (env.uuid 0) = none ∧
        account = (env.uuid 0, invitedUser env input target.normalizedEmail) ∧
        db' = db.setUser (env.uuid 0) (invitedUser env input target.normalizedEmail)) ∧
      s' = s := by
  unfold invitedAccount at h
  split at h
  · next existingUser he =>
    obtain ⟨rfl, rfl, rfl⟩ := run_pure_ok.mp h
    exact ⟨Or.inl ⟨he, rfl⟩, rfl⟩
  · next he =>
    obtain ⟨v, d, t, hcreate, h₁⟩ := run_bind_ok.mp h
    obtain ⟨hnew, rfl, rfl⟩ := userCreate_ok hcreate
    obtain ⟨rfl, rfl, rfl⟩ := run_pure_ok.mp h₁
    exact ⟨Or.inr ⟨he, hnew, rfl, rfl⟩, rfl⟩

/-! ## Other calls about a member -/

theorem assertMemberManageable_ok {actorRole targetRole : Role} {isMe allowSameTierOwner : Bool}
    (h : (assertMemberManageable actorRole targetRole isMe allowSameTierOwner).run db s =
      (.ok (u, db'), s')) :
    (isMe = true ∨ actorRole.Above targetRole) ∧ db' = db ∧ s' = s := by
  obtain ⟨hc, rfl, rfl⟩ := run_require_ok.mp h
  exact ⟨hc.imp_right above_of_canManageMember, rfl, rfl⟩

theorem assertOwnerOrManageable_ok {actorRole targetRole : Role} {message : String}
    (h : (assertOwnerOrManageable actorRole targetRole message).run db s = (.ok (u, db'), s')) :
    actorRole.Above targetRole ∧ db' = db ∧ s' = s := by
  unfold assertOwnerOrManageable at h
  split at h
  · obtain ⟨habove, rfl, rfl⟩ := assertMemberManageable_ok h
    exact ⟨habove.resolve_left Bool.false_ne_true, rfl, rfl⟩
  · obtain ⟨howner, rfl, rfl⟩ := run_require_ok.mp h
    exact ⟨Or.inl howner, rfl, rfl⟩

theorem ensureActiveOwnerCount_ok {organizationId : Id}
    (h : (ensureActiveOwnerCount organizationId membershipId).run db s = (.ok (u, db'), s')) :
    db.otherOwners organizationId membershipId ≠ 0 ∧ db' = db ∧ s' = s := by
  obtain ⟨count, d, t, hread, h₁⟩ := run_bind_ok.mp h
  obtain ⟨rfl, rfl, rfl⟩ := run_select_ok.mp hread
  exact run_require_ok.mp h₁

theorem assertEmailFree_ok {membership : TeamMemberRecord} {email : Option String}
    (h : (assertEmailFree membership email).run db s = (.ok (u, db'), s')) : db' = db ∧ s' = s := by
  unfold assertEmailFree at h
  split at h
  · obtain ⟨-, rfl, rfl⟩ := run_pure_ok.mp h
    exact ⟨rfl, rfl⟩
  · obtain ⟨existing, d, t, hread, h₁⟩ := run_bind_ok.mp h
    obtain ⟨-, rfl, rfl⟩ := run_select_ok.mp hread
    obtain ⟨-, rfl, rfl⟩ := run_require_ok.mp h₁
    exact ⟨rfl, rfl⟩

variable {actorUserId : Id} {r : TeamMemberRecord}

theorem updateMemberRead_ok {input : UpdateTeamMemberDto}
    (h : (updateMemberRead env organization membershipId input).run db s = (.ok (r, db'), s')) :
    db.member? membershipId = some r ∧ r.organizationId = organization.organizationId ∧
      (membershipId = organization.membershipId ∨ organization.role.Above r.role) ∧
      db' = db ∧ s' = s := by
  obtain ⟨r', d, t, hfind, h₁⟩ := run_bind_ok.mp h
  obtain ⟨hr, ho, rfl, rfl⟩ := findMembershipOrThrow_ok hfind
  obtain ⟨v, d₁, t₁, hmanage, h₂⟩ := run_bind_ok.mp h₁
  obtain ⟨habove, rfl, rfl⟩ := assertMemberManageable_ok hmanage
  obtain ⟨v₂, d₂, t₂, hfree, h₃⟩ := run_bind_ok.mp h₂
  obtain ⟨rfl, rfl⟩ := assertEmailFree_ok hfree
  obtain ⟨rfl, rfl, rfl⟩ := run_pure_ok.mp h₃
  rw [beq_iff_eq, (Backend.member?_eq_some hr).2.2.1] at habove
  exact ⟨hr, ho, habove, rfl, rfl⟩

theorem updateMemberRoleRead_ok {role : Role}
    (h : (updateMemberRoleRead organization actorUserId membershipId role).run db s =
      (.ok (r, db'), s')) :
    db.member? membershipId = some r ∧ r.organizationId = organization.organizationId ∧
      organization.role.Above r.role ∧ organization.role.Above role ∧
      (demotes r role = true → db.otherOwners organization.organizationId membershipId ≠ 0) ∧
      db' = db ∧ s' = s := by
  obtain ⟨r', d, t, hfind, h₁⟩ := run_bind_ok.mp h
  obtain ⟨hr, ho, rfl, rfl⟩ := findMembershipOrThrow_ok hfind
  obtain ⟨v₁, d₁, t₁, hself, h₂⟩ := run_bind_ok.mp h₁
  obtain ⟨-, rfl, rfl⟩ := run_require_ok.mp hself
  obtain ⟨v₂, d₂, t₂, hmanage, h₃⟩ := run_bind_ok.mp h₂
  obtain ⟨habove, rfl, rfl⟩ := assertMemberManageable_ok hmanage
  obtain ⟨v₃, d₃, t₃, hassign, h₄⟩ := run_bind_ok.mp h₃
  obtain ⟨habove', rfl, rfl⟩ := assertRoleAssignable_ok hassign
  obtain ⟨v₄, d₄, t₄, hcount, h₅⟩ := run_bind_ok.mp h₄
  replace habove := habove.resolve_left Bool.false_ne_true
  rcases run_doWhen_ok.mp hcount with ⟨-, hrun⟩ | ⟨hkeep, rfl, rfl⟩
  · obtain ⟨hothers, rfl, rfl⟩ := ensureActiveOwnerCount_ok hrun
    obtain ⟨rfl, rfl, rfl⟩ := run_pure_ok.mp h₅
    exact ⟨hr, ho, habove, habove', fun _ => hothers, rfl, rfl⟩
  · obtain ⟨rfl, rfl, rfl⟩ := run_pure_ok.mp h₅
    exact ⟨hr, ho, habove, habove', fun h => absurd h hkeep, rfl, rfl⟩

theorem updateMemberLocationsRead_ok {requested : Option (List Id)} {ids : List Id}
    (h : (updateMemberLocationsRead organization membershipId requested).run db s =
      (.ok ((r, ids), db'), s')) :
    db.member? membershipId = some r ∧ r.organizationId = organization.organizationId ∧
      organization.role.Above r.role ∧ ids = scopedLocationIds organization requested ∧
      (∀ l ∈ ids, db.assignable organization l = true) ∧ db' = db ∧ s' = s := by
  obtain ⟨r', d, t, hfind, h₁⟩ := run_bind_ok.mp h
  obtain ⟨hr, ho, rfl, rfl⟩ := findMembershipOrThrow_ok hfind
  obtain ⟨v₁, d₁, t₁, hmanage, h₂⟩ := run_bind_ok.mp h₁
  obtain ⟨habove, rfl, rfl⟩ := assertMemberManageable_ok hmanage
  obtain ⟨ids', d₂, t₂, hscope, h₃⟩ := run_bind_ok.mp h₂
  obtain ⟨rfl, hids, rfl, rfl⟩ := resolveScopedLocationIds_ok hscope
  obtain ⟨heq, rfl, rfl⟩ := run_pure_ok.mp h₃
  cases heq
  exact ⟨hr, ho, habove.resolve_left Bool.false_ne_true, rfl, hids, rfl, rfl⟩

theorem deactivateMemberRead_ok
    (h : (deactivateMemberRead organization actorUserId membershipId).run db s =
      (.ok (r, db'), s')) :
    db.member? membershipId = some r ∧ r.organizationId = organization.organizationId ∧
      organization.role.Above r.role ∧
      (r.role = .owner → db.otherOwners organization.organizationId membershipId ≠ 0) ∧
      db' = db ∧ s' = s := by
  obtain ⟨r', d, t, hfind, h₁⟩ := run_bind_ok.mp h
  obtain ⟨hr, ho, rfl, rfl⟩ := findMembershipOrThrow_ok hfind
  obtain ⟨v₁, d₁, t₁, hself, h₂⟩ := run_bind_ok.mp h₁
  obtain ⟨-, rfl, rfl⟩ := run_require_ok.mp hself
  obtain ⟨v₂, d₂, t₂, hmanage, h₃⟩ := run_bind_ok.mp h₂
  obtain ⟨habove, rfl, rfl⟩ := assertOwnerOrManageable_ok hmanage
  obtain ⟨v₃, d₃, t₃, hcount, h₄⟩ := run_bind_ok.mp h₃
  rcases run_doWhen_ok.mp hcount with ⟨-, hrun⟩ | ⟨hother, rfl, rfl⟩
  · obtain ⟨hothers, rfl, rfl⟩ := ensureActiveOwnerCount_ok hrun
    obtain ⟨rfl, rfl, rfl⟩ := run_pure_ok.mp h₄
    exact ⟨hr, ho, habove, fun _ => hothers, rfl, rfl⟩
  · obtain ⟨rfl, rfl, rfl⟩ := run_pure_ok.mp h₄
    exact ⟨hr, ho, habove, fun h => absurd h hother, rfl, rfl⟩

theorem reactivateMemberRead_ok
    (h : (reactivateMemberRead organization membershipId).run db s = (.ok (r, db'), s')) :
    db.member? membershipId = some r ∧ r.organizationId = organization.organizationId ∧
      organization.role.Above r.role ∧ db' = db ∧ s' = s := by
  obtain ⟨r', d, t, hfind, h₁⟩ := run_bind_ok.mp h
  obtain ⟨hr, ho, rfl, rfl⟩ := findMembershipOrThrow_ok hfind
  obtain ⟨v₁, d₁, t₁, hmanage, h₂⟩ := run_bind_ok.mp h₁
  obtain ⟨habove, rfl, rfl⟩ := assertOwnerOrManageable_ok hmanage
  obtain ⟨rfl, rfl, rfl⟩ := run_pure_ok.mp h₂
  exact ⟨hr, ho, habove, rfl, rfl⟩

theorem resendInviteRead_ok
    (h : (resendInviteRead organization membershipId).run db s = (.ok (r, db'), s')) :
    db.member? membershipId = some r ∧ r.organizationId = organization.organizationId ∧
      r.status = .invited ∧ organization.role.Above r.role ∧ db' = db ∧ s' = s := by
  obtain ⟨r', d, t, hfind, h₁⟩ := run_bind_ok.mp h
  obtain ⟨hr, ho, rfl, rfl⟩ := findMembershipOrThrow_ok hfind
  obtain ⟨v₁, d₁, t₁, hinvited, h₂⟩ := run_bind_ok.mp h₁
  obtain ⟨hs, rfl, rfl⟩ := run_require_ok.mp hinvited
  obtain ⟨v₂, d₂, t₂, hmanage, h₃⟩ := run_bind_ok.mp h₂
  rcases run_doWhen_ok.mp hmanage with ⟨-, hrun⟩ | ⟨howner, rfl, rfl⟩
  · obtain ⟨habove, rfl, rfl⟩ := assertMemberManageable_ok hrun
    obtain ⟨rfl, rfl, rfl⟩ := run_pure_ok.mp h₃
    exact ⟨hr, ho, hs, habove.resolve_left Bool.false_ne_true, rfl, rfl⟩
  · obtain ⟨rfl, rfl, rfl⟩ := run_pure_ok.mp h₃
    exact ⟨hr, ho, hs, Or.inl (not_not.mp howner), rfl, rfl⟩

/-- The end of every transaction about a membership: it is read again and logged. -/
theorem reload_ok {organizationId : Id} {actorUserId : Option Id} {action : MemberAuditAction}
    {before : Option MembershipSnapshot}
    (h : (loadMembershipWithRelations membershipId >>= fun updated =>
      createAuditLog env organizationId actorUserId action membershipId before
        (some (snapshotMembership updated))).run db s = (.ok (u, db'), s')) :
    (∃ updated, db.member? membershipId = some updated) ∧ db.Logs db' ∧ s' = s := by
  obtain ⟨updated, d, t, hload, h₁⟩ := run_bind_ok.mp h
  obtain ⟨hupdated, rfl, rfl⟩ := loadMembershipWithRelations_ok hload
  exact ⟨⟨updated, hupdated⟩, createAuditLog_ok h₁⟩

theorem updateMemberLocationsTx_ok {ids : List Id}
    (h : (updateMemberLocationsTx env organization actorUserId membershipId r ids).run db s =
      (.ok (u, db'), s')) :
    (db.setScope membershipId ids).Logs db' ∧ s' = s := by
  obtain ⟨v, d, t, hscope, h₁⟩ := run_bind_ok.mp h
  obtain ⟨rfl, rfl⟩ := replaceMembershipLocations_ok hscope
  exact (reload_ok h₁).2

/-- The membership after `deactivateMember`. -/
def deactivated (env : TeamEnv) (m : Membership) : Membership :=
  { m with status := .deactivated, deactivatedAt := some env.now, updatedAt := env.now }

theorem deactivateMemberTx_ok
    (h : (deactivateMemberTx env organization actorUserId membershipId r).run db s =
      (.ok (u, db'), s')) :
    ∃ m, db.memberships.lookup membershipId = some m ∧
      (db.setMembership membershipId (deactivated env m)).Logs db' ∧ s' = s := by
  obtain ⟨v, d, t, hupdate, h₁⟩ := run_bind_ok.mp h
  obtain ⟨m, hm, rfl, rfl⟩ := membershipUpdate_ok.mp hupdate
  obtain ⟨v₁, d₁, t₁, hrevoke, h₂⟩ := run_bind_ok.mp h₁
  obtain ⟨hl, rfl⟩ := refreshTokenRevoke_ok hrevoke
  obtain ⟨-, hl', rfl⟩ := reload_ok h₂
  exact ⟨m, hm, hl.trans hl', rfl⟩

theorem reactivateMemberTx_ok {url : Option String}
    (h : (reactivateMemberTx env organization actorUserId membershipId r).run db s =
      (.ok (url, db'), s')) :
    ∃ m, db.memberships.lookup membershipId = some m ∧
      (r.user.hasPassword = false → db.inviteTokens.lookup (env.uuid 2) = none) ∧
      ((db.setMembership membershipId
        { reinstated env r.user.hasPassword r.invitedAt m with updatedAt := env.now }).renewed env
        r.user.hasPassword membershipId).Logs db' ∧ s' = s := by
  obtain ⟨v, d, t, hupdate, h₁⟩ := run_bind_ok.mp h
  obtain ⟨m, hm, rfl, rfl⟩ := membershipUpdate_ok.mp hupdate
  obtain ⟨url', d₁, t₁, hrenew, h₂⟩ := run_bind_ok.mp h₁
  obtain ⟨hfresh, hl, rfl⟩ := renewAccess_ok hrenew
  obtain ⟨updated, d₂, t₂, hload, h₃⟩ := run_bind_ok.mp h₂
  obtain ⟨-, rfl, rfl⟩ := loadMembershipWithRelations_ok hload
  obtain ⟨v₃, d₃, t₃, hlog, h₄⟩ := run_bind_ok.mp h₃
  obtain ⟨hl', rfl⟩ := createAuditLog_ok hlog
  obtain ⟨rfl, rfl, rfl⟩ := run_pure_ok.mp h₄
  exact ⟨m, hm, hfresh, hl.trans hl', rfl⟩

theorem resendInviteTx_ok {url : String}
    (h : (resendInviteTx env organization actorUserId membershipId r).run db s =
      (.ok (url, db'), s')) :
    db.inviteTokens.lookup (env.uuid 2) = none ∧
      (db.reinvite env (env.uuid 2) membershipId).Logs db' ∧ s' = s := by
  obtain ⟨url', d₁, t₁, hcreate, h₂⟩ := run_bind_ok.mp h
  obtain ⟨hfresh, rfl, rfl⟩ := createInviteForMembership_ok hcreate
  obtain ⟨updated, d₂, t₂, hload, h₃⟩ := run_bind_ok.mp h₂
  obtain ⟨-, rfl, rfl⟩ := loadMembershipWithRelations_ok hload
  obtain ⟨v₃, d₃, t₃, hlog, h₄⟩ := run_bind_ok.mp h₃
  obtain ⟨hl', rfl⟩ := createAuditLog_ok hlog
  obtain ⟨rfl, rfl, rfl⟩ := run_pure_ok.mp h₄
  exact ⟨hfresh, hl', rfl⟩

/-! ## acceptInvitation -/

theorem acceptInvitationRead_ok {input : AcceptInviteDto} {authenticatedUserId : Option Id}
    {invitation : TeamInvitationRecord}
    (h : (acceptInvitationRead env input authenticatedUserId).run db s =
      (.ok (invitation, db'), s')) :
    db.invitation? (env.sha256 input.token) = some invitation ∧ invitation.valid env = true ∧
      (invitation.membership.user.hasPassword = true →
        authenticatedUserId = some invitation.membership.userId) ∧ db' = db ∧ s' = s := by
  obtain ⟨found, d, t, hread, h₁⟩ := run_bind_ok.mp h
  obtain ⟨rfl, rfl, rfl⟩ := run_select_ok.mp hread
  cases hfound : (d.invitation? (env.sha256 input.token)).filter (·.valid env) with
  | none => rw [hfound] at h₁; exact (run_fail_ok.mp h₁).elim
  | some invitation' =>
    rw [hfound] at h₁
    obtain ⟨hinvitation, hvalid⟩ := Option.filter_eq_some_iff.mp hfound
    obtain ⟨v₁, d₁, t₁, hlogin, h₂⟩ := run_bind_ok.mp h₁
    obtain ⟨v₂, d₂, t₂, hpassword, h₃⟩ := run_bind_ok.mp h₂
    obtain ⟨-, rfl, rfl⟩ := run_require_ok.mp hpassword
    obtain ⟨rfl, rfl, rfl⟩ := run_pure_ok.mp h₃
    rcases run_doWhen_ok.mp hlogin with ⟨-, hrun⟩ | ⟨hnew, rfl, rfl⟩
    · obtain ⟨v₄, d₄, t₄, hsome, h₅⟩ := run_bind_ok.mp hrun
      obtain ⟨-, rfl, rfl⟩ := run_require_ok.mp hsome
      obtain ⟨hauth, rfl, rfl⟩ := run_require_ok.mp h₅
      exact ⟨hinvitation, hvalid, fun _ => hauth, rfl, rfl⟩
    · exact ⟨hinvitation, hvalid, fun h => absurd h hnew, rfl, rfl⟩

/-- The account that accepts, with its new password if it had none. -/
def Backend.passworded (db : Backend) (env : TeamEnv) (input : AcceptInviteDto)
    (hasPassword : Bool) (userId : Id) (u : User) : Backend :=
  if hasPassword then db
  else db.setUser userId { passwordSet env input u with updatedAt := env.now }

section

variable {input : AcceptInviteDto} {hasPassword : Bool} {user : User}

@[simp] theorem Backend.memberships_passworded :
    (db.passworded env input hasPassword userId user).memberships = db.memberships := by
  unfold Backend.passworded
  split <;> rfl

@[simp] theorem Backend.scopeOf_passworded :
    (db.passworded env input hasPassword userId user).scopeOf = db.scopeOf := by
  unfold Backend.passworded
  split <;> rfl

@[simp] theorem Backend.inviteTokens_passworded :
    (db.passworded env input hasPassword userId user).inviteTokens = db.inviteTokens := by
  unfold Backend.passworded
  split <;> rfl

end

theorem acceptInvitationTx_ok {input : AcceptInviteDto} {invitation : TeamInvitationRecord}
    (h : (acceptInvitationTx env input invitation).run db s = (.ok (u, db'), s')) :
    ∃ user m t, (invitation.membership.user.hasPassword = false →
        db.users.lookup invitation.membership.userId = some user) ∧
      db.memberships.lookup invitation.membership.id = some m ∧
      db.inviteTokens.lookup invitation.id = some t ∧
      (((db.passworded env input invitation.membership.user.hasPassword
        invitation.membership.userId user).setMembership invitation.membership.id
        { m with status := .active, activatedAt := some env.now, updatedAt := env.now }).setInvite
        invitation.id { t with acceptedAt := some env.now }).Logs db' ∧ s' = s := by
  obtain ⟨v, d, t, huser, h₁⟩ := run_bind_ok.mp h
  obtain ⟨v₁, d₁, t₁, hupdate, h₂⟩ := run_bind_ok.mp h₁
  obtain ⟨m, hm, rfl, rfl⟩ := membershipUpdate_ok.mp hupdate
  obtain ⟨v₂, d₂, t₂, haccept, h₃⟩ := run_bind_ok.mp h₂
  obtain ⟨token, htoken, rfl, rfl⟩ := inviteTokenAccept_ok haccept
  obtain ⟨-, hl, rfl⟩ := reload_ok h₃
  rcases run_doWhen_ok.mp huser with ⟨hnew, hrun⟩ | ⟨hold, rfl, rfl⟩
  · obtain ⟨user, hu, -, rfl, rfl⟩ := userUpdate_ok.mp hrun
    refine ⟨user, m, token, fun _ => hu, hm, htoken, ?_, rfl⟩
    rw [Backend.passworded, if_neg hnew]
    exact hl
  · refine ⟨invitation.membership.user, m, token, fun h => absurd h (by simpa using hold), hm,
      htoken, ?_, rfl⟩
    rw [Backend.passworded, if_pos (not_not.mp hold)]
    exact hl

end

end LedgerLight
