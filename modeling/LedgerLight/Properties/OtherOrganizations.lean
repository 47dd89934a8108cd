import LedgerLight.Team.Calls

/-!
# What a call does to other organizations

A membership belongs to one organization, its user to all of them.

* `others_left` : a call leaves the members of other organizations as they are exactly if it asks
  for no other profile of one of them.
* `others_reached` : a manager of one organization changes the e-mail of the owner of another one.
-/

namespace LedgerLight

open Infra

/-- What a user logs in with and what members see of a user. -/
structure Profile where
  email : String
  passwordHash : Option String
  firstName : Option String
  lastName : Option String
deriving DecidableEq, Repr

def User.profile (u : User) : Profile :=
  { email := u.email, passwordHash := u.passwordHash, firstName := u.firstName
    lastName := u.lastName }

/-- Who makes a call. -/
def TeamAction.actor? : TeamAction → Option Id
  | .inviteMember _ actorUserId _ => some actorUserId
  | .updateMember _ actorUserId _ _ => some actorUserId
  | .updateMemberRole _ actorUserId _ _ => some actorUserId
  | .updateMemberLocations _ actorUserId _ _ => some actorUserId
  | .deactivateMember _ actorUserId _ => some actorUserId
  | .reactivateMember _ actorUserId _ => some actorUserId
  | .resendInvite _ actorUserId _ => some actorUserId
  | .acceptInvitation _ authenticatedUserId => authenticatedUserId

namespace Backend

variable (db : Backend)

def ActiveIn (organizationId userId : Id) : Prop :=
  ∃ k m, db.memberships.lookup k = some m ∧ m.organizationId = organizationId ∧
    m.userId = userId ∧ m.status = .active

/-- From `db` to `db'` the memberships of an organization, their location rows and their invite
tokens are the same. -/
structure SameTeam (y : Id) (db' : Backend) : Prop where
  memberships : ∀ k m, m.organizationId = y →
    (db'.memberships.lookup k = some m ↔ db.memberships.lookup k = some m)
  scopes : ∀ k m, db.memberships.lookup k = some m → m.organizationId = y →
    db'.scopeOf k = db.scopeOf k
  inviteTokens : ∀ tokenId t m, db.memberships.lookup t.membershipId = some m →
    m.organizationId = y →
    (db'.inviteTokens.lookup tokenId = some t ↔ db.inviteTokens.lookup tokenId = some t)

/-- A user other than the actor of the call, with an active membership in an organization the call
is not about. -/
def ActiveOutside (c : TeamCall) (y userId : Id) : Prop :=
  c.action.actor? ≠ some userId ∧ db.ActiveIn y userId ∧
    ∃ x, db.organizationOf? c.env c.action = some x ∧ y ≠ x

/-- From `db` to `db'` the users that are active outside keep their profiles, and the organizations
they are active in their teams. -/
def LeavesOthers (c : TeamCall) (db' : Backend) : Prop :=
  ∀ y userId user, db.users.lookup userId = some user → db.ActiveOutside c y userId →
    (∃ user', db'.users.lookup userId = some user' ∧ user'.profile = user.profile) ∧
      db.SameTeam y db'

/-- The profile that a call asks for: the profile update of a member, the names of somebody who is
invited again, and the password of somebody who accepts without one. -/
def askedProfile (env : TeamEnv) (action : TeamAction) (userId : Id) (user : User) : Profile :=
  match action with
  | .updateMember _ _ membershipId input =>
    if (db.member? membershipId).any fun r => r.userId == userId then
      { email := (input.normalizedEmail env).getD user.email, passwordHash := user.passwordHash
        firstName := input.firstName.getD user.firstName
        lastName := input.lastName.getD user.lastName }
    else user.profile
  | .inviteMember organization _ input =>
    if (db.inviteTarget env organization input).existingMembership.any fun r =>
        r.userId == userId then
      { user.profile with firstName := input.firstName.or user.firstName
                          lastName := input.lastName.or user.lastName }
    else user.profile
  | .acceptInvitation input _ =>
    if ((db.invitation? (env.sha256 input.token)).any fun invitation =>
        invitation.membership.userId == userId && !user.hasPassword) then
      (passwordSet env input user).profile
    else user.profile
  | _ => user.profile

/-- The call asks for the profiles that the users who are active outside have. -/
def AsksNothingOutside (c : TeamCall) : Prop :=
  ∀ y userId user, db.users.lookup userId = some user → db.ActiveOutside c y userId →
    db.askedProfile c.env c.action userId user = user.profile

end Backend

section

variable {db db' : Backend} {env : TeamEnv} {action : TeamAction} {c : TeamCall}
  {k userId : Id} {user : User} {r : TeamMemberRecord}

/-! ## Users -/

/-- A write of one user's row gives that user its profile and leaves the others. -/
theorem profile_of_written {written : User} {asked : Profile}
    (hl : db'.users = db.users.insert r.userId written) (hu : db.users.lookup userId = some user)
    (hown : r.userId = userId → written.profile = asked)
    (hother : r.userId ≠ userId → user.profile = asked) :
    ∃ user', db'.users.lookup userId = some user' ∧ user'.profile = asked := by
  rw [hl, Table.lookup_insert_ite]
  split
  · next he => exact ⟨written, rfl, hown he.symm⟩
  · next he => exact ⟨user, hu, hother fun h => he h.symm⟩

/-- A call that writes no user leaves every profile. -/
theorem profile_of_unwritten (hl : db'.users = db.users)
    (hu : db.users.lookup userId = some user) :
    ∃ user', db'.users.lookup userId = some user' ∧ user'.profile = user.profile :=
  ⟨user, by rw [hl]; exact hu, rfl⟩

/-- **What a call does to a user** who exists is what it asks for. -/
theorem TeamChange.profile (h : TeamChange db env action k db')
    (hu : db.users.lookup userId = some user) :
    ∃ user', db'.users.lookup userId = some user' ∧
      user'.profile = db.askedProfile env action userId user := by
  cases h with
  | @invited organization actorUserId _ input _ _ _ _ unknown account _ _ logs =>
    have hasked : db.askedProfile env (.inviteMember organization actorUserId input) userId user =
        user.profile := by
      rw [Backend.askedProfile, unknown]
      rfl
    rw [hasked]
    cases account with
    | existing => exact profile_of_unwritten logs.users hu
    | created new =>
      refine ⟨user, ?_, rfl⟩
      rw [logs.users]
      refine (AList.lookup_insert_ne fun he => ?_).trans hu
      rw [he, new] at hu
      cases hu
  | @reinvited _ _ _ r _ _ _ found _ _ logs =>
    obtain ⟨hr, -, -, -⟩ := inviteTarget_member found
    obtain ⟨-, hru, -, -⟩ := Backend.member?_eq_some hr
    have hwritten := logs.users
    rw [Backend.reinvited, Backend.users_renewed] at hwritten
    refine profile_of_written hwritten hu (fun he => ?_) fun he => ?_
    · subst he
      cases hru.symm.trans hu
      simp [Backend.askedProfile, found, User.profile]
    · simp [Backend.askedProfile, found, he]
  | @profileUpdated _ _ _ input r _ member _ _ logs =>
    obtain ⟨-, hru, -, -⟩ := Backend.member?_eq_some member
    refine profile_of_written logs.users hu (fun he => ?_) fun he => ?_
    · subst he
      cases hru.symm.trans hu
      simp [Backend.askedProfile, member, User.profile]
    · simp [Backend.askedProfile, member, he]
  | roleChanged _ _ _ _ _ logs => exact profile_of_unwritten logs.users hu
  | locationsUpdated _ _ _ _ logs => exact profile_of_unwritten logs.users hu
  | deactivated _ _ _ _ logs => exact profile_of_unwritten logs.users hu
  | reactivated _ _ _ _ logs =>
    exact profile_of_unwritten (logs.users.trans Backend.users_renewed) hu
  | inviteResent _ _ _ _ _ logs => exact profile_of_unwritten logs.users hu
  | @accepted input authenticatedUserId invitation _ found _ _ logs =>
    obtain ⟨-, -, hmember⟩ := Backend.invitation?_eq_some found
    obtain ⟨-, hru, -, -⟩ := Backend.member?_eq_some hmember
    cases hp : invitation.membership.user.hasPassword with
    | true =>
      have hwritten := logs.users
      rw [hp] at hwritten
      have hasked : db.askedProfile env (.acceptInvitation input authenticatedUserId) userId
          user = user.profile := by
        simp only [Backend.askedProfile, found, Option.any_some, Bool.and_eq_true, beq_iff_eq,
          Bool.not_eq_true']
        refine if_neg fun ⟨he, hnone⟩ => ?_
        subst he
        cases hru.symm.trans hu
        exact absurd (hp.symm.trans hnone) (by simp)
      rw [hasked]
      exact profile_of_unwritten hwritten hu
    | false =>
      have hwritten := logs.users
      rw [hp] at hwritten
      refine profile_of_written hwritten hu (fun he => ?_) fun he => ?_
      · subst he
        cases hru.symm.trans hu
        simp [Backend.askedProfile, found, hp, User.profile]
      · simp [Backend.askedProfile, found, he]

/-! ## Teams -/

/-- What is confined to a membership of one organization leaves the team of another one. -/
theorem Backend.ConfinedTo.sameTeam {x y : Id} (h : db.ConfinedTo k x db') (hy : y ≠ x) :
    db.SameTeam y db' := by
  have hk : ∀ m, db.memberships.lookup k = some m → m.organizationId ≠ y := by
    intro m hm ho
    exact hy (ho.symm.trans (h.before m hm))
  constructor
  · intro k' m ho
    by_cases he : k' = k
    · subst he
      constructor
      · exact fun hm => absurd (ho.symm.trans (h.after m hm)) hy
      · exact fun hm => absurd ho (hk m hm)
    · rw [h.memberships k' he]
  · intro k' m hm ho
    exact h.scopes k' fun he => hk m (he ▸ hm) ho
  · intro tokenId t m hm ho
    exact h.inviteTokens tokenId t fun he => hk m (he ▸ hm) ho

theorem Backend.sameTeam_refl (db : Backend) (y : Id) : db.SameTeam y db :=
  ⟨fun _ _ _ => Iff.rfl, fun _ _ _ _ => rfl, fun _ _ _ _ _ => Iff.rfl⟩

theorem TeamChange.leavesOthers_iff (h : TeamChange db c.env c.action k db') :
    db.LeavesOthers c db' ↔ db.AsksNothingOutside c := by
  constructor
  · intro hleaves y userId user hu houtside
    obtain ⟨⟨user', hu', hprofile⟩, -⟩ := hleaves y userId user hu houtside
    obtain ⟨user'', hu'', hasked⟩ := h.profile hu
    cases hu'.symm.trans hu''
    exact hasked.symm.trans hprofile
  · intro hasks y userId user hu houtside
    obtain ⟨user', hu', hasked⟩ := h.profile hu
    have hsame := hasks y userId user hu houtside
    obtain ⟨-, -, x, hx, hy⟩ := houtside
    exact ⟨⟨user', hu', hasked.trans hsame⟩, (h.confined hx).sameTeam hy⟩

end

/-- **Calls stay in their organization**: in every run, a call that fails leaves everybody outside
as they are, and one that succeeds exactly if what it asks for is the profile that the users it
reaches outside already have. -/
theorem others_left (db : Backend) (cs : List TeamCall) (c : TeamCall) (db' : Backend) :
    (∀ e, c.exec (team.run db cs) = (.error e, db') → (team.run db cs).LeavesOthers c db') ∧
      ∀ member, c.exec (team.run db cs) = (.ok member, db') →
        ((team.run db cs).LeavesOthers c db' ↔ (team.run db cs).AsksNothingOutside c) := by
  constructor
  · intro e h y userId user hu _
    rw [TeamCall.exec_error h]
    exact ⟨⟨user, hu, rfl⟩, Backend.sameTeam_refl _ y⟩
  · intro member h
    exact (TeamCall.exec_ok h).leavesOthers_iff

namespace Office

def annexId : Id := ⟨0, 2⟩

def bobOfAnnex : Id := ⟨0, 31⟩

/-- A cashier of the office who owns another organization. -/
def withAnnex : Backend :=
  staffed [(annMember, membership ann .owner, user "ann"),
    (cleoMember, membership cleo .manager, user "cleo"),
    (bobMember, membership bob .cashier, user "bob"),
    (bobOfAnnex, { membership bob .owner with organizationId := annexId }, user "bob")]

/-- The cashier is deactivated. -/
def letGo : TeamCall :=
  { env := env 5, action := .deactivateMember (acts cleoMember .manager) cleo bobMember }

/-- The manager gives the cashier another e-mail. -/
def renamed : TeamCall :=
  { env := env 5
    action := .updateMember (acts cleoMember .manager) cleo bobMember
      { email := some "bob@elsewhere.test" } }

theorem activeOutside_annex (c : TeamCall) (hc : c.action.actor? = some cleo)
    (hx : withAnnex.organizationOf? c.env c.action = some organizationId) :
    withAnnex.ActiveOutside c annexId bob :=
  ⟨by rw [hc]; decide, ⟨bobOfAnnex, { membership bob .owner with organizationId := annexId },
    by decide, rfl, rfl, rfl⟩, organizationId, hx, by decide⟩

end Office

/-- The cashier is deactivated in the office, and still the owner of the annex. -/
theorem others_left_office :
    ∃ member db', Office.letGo.exec Office.withAnnex = (.ok member, db') ∧
      Office.withAnnex.ActiveOutside Office.letGo Office.annexId Office.bob ∧
      Office.withAnnex.LeavesOthers Office.letGo db' := by
  have hok : (Office.letGo.exec Office.withAnnex).1.toOption.isSome = true := by decide
  rcases h : Office.letGo.exec Office.withAnnex with ⟨e | member, db'⟩
  · rw [h] at hok
    cases hok
  · exact ⟨member, db', rfl, Office.activeOutside_annex _ rfl rfl,
      ((others_left Office.withAnnex [] Office.letGo db').2 member h).mpr fun _ _ _ _ _ => rfl⟩

/-- The manager of the office changes the e-mail with which the owner of the annex logs in. -/
theorem others_reached :
    ∃ member db', Office.renamed.exec Office.withAnnex = (.ok member, db') ∧
      Office.withAnnex.ActiveOutside Office.renamed Office.annexId Office.bob ∧
      (db'.users.lookup Office.bob).map (·.email) = some "bob@elsewhere.test" ∧
      ¬ Office.withAnnex.LeavesOthers Office.renamed db' := by
  have hok : (Office.renamed.exec Office.withAnnex).1.toOption.isSome = true := by decide
  have hemail : ((Office.renamed.exec Office.withAnnex).2.users.lookup Office.bob).map (·.email) =
      some "bob@elsewhere.test" := by decide
  rcases h : Office.renamed.exec Office.withAnnex with ⟨e | member, db'⟩
  · rw [h] at hok
    cases hok
  · rw [h] at hemail
    have houtside := Office.activeOutside_annex Office.renamed rfl rfl
    refine ⟨member, db', rfl, houtside, hemail, fun hleaves => ?_⟩
    obtain ⟨⟨user', hu', hprofile⟩, -⟩ :=
      hleaves Office.annexId Office.bob (Office.user "bob") (by decide) houtside
    rw [hu', Option.map_some] at hemail
    have hsame : some user'.email = some "bob@office.test" :=
      congrArg (fun p => some p.email) hprofile
    exact absurd (hemail.symm.trans hsame) (by decide)

end LedgerLight
