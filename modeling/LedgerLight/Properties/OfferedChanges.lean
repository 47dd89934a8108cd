import LedgerLight.Frontend.TeamPage
import LedgerLight.Infra.UniqueColumn
import LedgerLight.Properties.FreshAuthority
import LedgerLight.Properties.OwnersStay

/-!
# The changes that the team page offers

The page decides which controls it shows for a member, by a table of tiers of its own, and the
backend decides again.

* `offered_changes` : the backend makes the changes that the page offers and refuses those that it
  does not offer, but for the kinds `Overshown` and `Undershown`.
-/

namespace LedgerLight.Frontend

open Infra ReadCommitted

/-! ## Requests -/

/-- The seat of a membership. -/
def seat (db : Backend) (k : Id) : Option (Id × Id) :=
  (db.memberships.lookup k).map fun m => (m.organizationId, m.userId)

/-- The route that a control sends its request to. -/
def memberRoute (k : Id) : ChangeRequest → Route
  | .profile input => .updateMember k input
  | .role newRole => .updateMemberRole k newRole
  | .locations requested => .updateMemberLocations k requested
  | .deactivate => .deactivateMember k
  | .reactivate => .reactivateMember k
  | .resendInvite => .resendInvite k

/-- The route lets the role in, and the call of its handler succeeds. -/
def Done (env : TeamEnv) (user : RequestUser) (organization : MemberContext) (route : Route)
    (db : Backend) : Prop :=
  route.permissions.Allow organization.role ∧ ∃ action member db',
    route.call? user organization {} = some (.team action) ∧
      TeamCall.exec ⟨env, action⟩ db = (.ok member, db')

/-- The route does not let the role in, or the call of its handler fails and changes nothing. -/
def Denied (env : TeamEnv) (user : RequestUser) (organization : MemberContext) (route : Route)
    (db : Backend) : Prop :=
  route.permissions.Allow organization.role → ∃ action e,
    route.call? user organization {} = some (.team action) ∧
      TeamCall.exec ⟨env, action⟩ db = (.error e, db)

/-- The viewer of the page who makes the requests. -/
def viewer (user : RequestUser) (organization : MemberContext) : Viewer :=
  { currentRole := some (roleText organization.role), currentUserId := some user.user.id }

/-- The page offers the change and the backend refuses it: an owner is offered the profile and the
locations of another owner, and everybody on the page to invite again and to reactivate. -/
def Overshown (user : RequestUser) (organization : MemberContext) (member : TeamMemberListItem) :
    ChangeRequest → Prop
  | .profile _ | .locations _ => organization.role = .owner ∧ member.role = .owner ∧
      member.userId ≠ user.user.id
  | .reactivate | .resendInvite => ¬ organization.role.Above member.role
  | .role _ | .deactivate => False

/-- The page does not offer the change and the backend makes it: to the role that the member has
already, to deactivate once more, and to reactivate somebody who is not deactivated. -/
def Undershown (user : RequestUser) (organization : MemberContext) (member : TeamMemberListItem) :
    ChangeRequest → Prop
  | .role newRole => newRole = member.role ∧ member.userId ≠ user.user.id ∧
      LedgerLight.canManageMember organization.role member.role = true
  | .deactivate => member.status = .deactivated ∧ member.userId ≠ user.user.id ∧
      organization.role.Above member.role
  | .reactivate => member.status ≠ .deactivated ∧ organization.role.Above member.role
  | .profile _ | .locations _ | .resendInvite => False

section

variable {env : TeamEnv} {user : RequestUser} {organization : MemberContext} {db : Backend} {k : Id}
  {member : TeamMemberListItem} {request : ChangeRequest} {r : TeamMemberRecord}
  {actorRole targetRole : Role}

/-! ## The table of the page -/

theorem canAssignRole_roleText :
    canAssignRole (some (roleText actorRole)) targetRole = true ↔ actorRole.Above targetRole := by
  cases actorRole <;> cases targetRole <;> decide

/-- The page's rule of tiers for any other control. -/
theorem above_roleText :
    (roleText actorRole == "OWNER" || tierAbove (roleText actorRole) targetRole) = true ↔
      actorRole.Above targetRole := by
  cases actorRole <;> cases targetRole <;> decide

theorem given_roleText : given (some (roleText actorRole)) = some (roleText actorRole) := by
  cases actorRole <;> rfl

theorem canEdit_roleText {actorUserId : Id} :
    canEditMemberProfile (some (roleText actorRole)) (some actorUserId) member = true ↔
      member.userId = actorUserId ∨ actorRole.Above member.role := by
  unfold canEditMemberProfile
  rw [given_roleText, Option.any_some, Bool.or_assoc, Bool.or_eq_true, above_roleText, beq_iff_eq,
    Option.some.injEq, eq_comm]

theorem canDeactivate_roleText {actorUserId : Id} :
    canDeactivateMember (some (roleText actorRole)) (some actorUserId) member = true ↔
      member.status ≠ .deactivated ∧ member.userId ≠ actorUserId ∧
        actorRole.Above member.role := by
  unfold canDeactivateMember
  rw [given_roleText, Option.any_some, Bool.and_eq_true, Bool.and_eq_true, above_roleText,
    bne_iff_ne, bne_iff_ne, and_assoc, ne_eq (some actorUserId), Option.some.injEq,
    eq_comm (a := actorUserId)]

theorem canManageCurrent_iff :
    (viewer user organization).canManageCurrentMember member = true ↔
      member.userId ≠ user.user.id ∧ organization.role.Above member.role := by
  have habove : (canManageMember (some (roleText organization.role)) member.role ||
      some (roleText organization.role) == some "OWNER") = true ↔
        organization.role.Above member.role := by
    cases organization.role <;> cases member.role <;> decide
  unfold Viewer.canManageCurrentMember Viewer.isCurrentMember viewer
  rw [Bool.and_eq_true, habove, Bool.not_eq_true', beq_eq_false_iff_ne, ne_eq, Option.some.injEq,
    eq_comm (a := user.user.id)]

/-- The page is there for the roles that its routes let in. -/
theorem canAccessTeam_iff :
    canAccessTeam (viewer user organization).currentRole = true ↔
      (memberRoute k request).permissions.Allow organization.role := by
  have hroutes : (memberRoute k request).permissions =
      requireAnyPermission [.usersInvite, .usersManage] := by
    cases request <;> rfl
  have htable : canAccessTeam (viewer user organization).currentRole = true ↔
      hasPermission organization.role .usersInvite = true := by
    show canAccessTeam (some (roleText organization.role)) = true ↔ _
    cases organization.role <;> decide
  have hmanage (h : hasPermission organization.role .usersManage = true) :
      hasPermission organization.role .usersInvite = true := by
    revert h
    cases organization.role <;> decide
  rw [hroutes, htable]
  constructor
  · intro h
    exact ⟨Or.inr (by simp [requireAnyPermission]), by simp [requireAnyPermission],
      fun _ => ⟨_, List.mem_cons_self, h⟩⟩
  · intro h
    obtain ⟨p, hp, hhas⟩ := h.any (by simp [requireAnyPermission])
    rcases List.mem_cons.mp hp with rfl | hp
    · exact hhas
    · rw [List.mem_singleton.mp hp] at hhas
      exact hmanage hhas

/-! ## The member -/

/-- The page's member and the service's. -/
theorem getMemberDetail_of {detail : TeamMemberDetail} {env₀ : TeamEnv}
    (h : (getMemberDetail env₀ organization.organizationId k : Work Unit _).run db () =
      (.ok (detail, db), ())) :
    ∃ r, db.Member organization k r ∧ detail.userId = r.userId ∧ detail.role = r.role ∧
      detail.status = r.status := by
  obtain ⟨r, d, t, hfind, h₁⟩ := Prog.run_bind_ok.mp h
  obtain ⟨hr, ho, rfl, rfl⟩ := findMembershipOrThrow_ok hfind
  obtain ⟨activity, d', t', -, h₂⟩ := Prog.run_bind_ok.mp h₁
  obtain ⟨rfl, -, -⟩ := Prog.run_pure_ok.mp h₂
  exact ⟨r, ⟨hr, ho⟩, rfl, rfl, rfl⟩

/-- The actor's own membership is the one of the request. -/
theorem own_iff (hactor : db.Authorizes user.user.id organization) (hseat : Unique seat db)
    (hr : db.Member organization k r) :
    r.userId = user.user.id ↔ r.id = organization.membershipId := by
  obtain ⟨m, hm, huser, ho, -, -⟩ := hactor.membership
  rw [hr.id_eq]
  constructor
  · intro h
    refine hseat k organization.membershipId (organization.organizationId, user.user.id) ?_ ?_
    · rw [seat, hr.lookup, Option.map_some, hr.2, h]
    · rw [seat, hm, Option.map_some, ho, huser]
  · rintro rfl
    rw [← huser]
    exact congrArg Membership.userId (Option.some.inj (hr.lookup.symm.trans hm))

theorem role_of_own (hactor : db.Authorizes user.user.id organization)
    (hr : db.Member organization k r) (hown : r.id = organization.membershipId) :
    r.role = organization.role := by
  obtain ⟨m, hm, -, -, -, hrole⟩ := hactor.membership
  rw [← hown, hr.id_eq, hr.lookup] at hm
  exact (congrArg Membership.role (Option.some.inj hm)).trans hrole

/-- An actor who is an owner is one besides any other member. -/
theorem otherOwners_of_actor (hactor : db.Authorizes user.user.id organization)
    (hr : db.Member organization k r) (hother : r.userId ≠ user.user.id)
    (howner : organization.role = .owner) :
    db.otherOwners organization.organizationId r.id ≠ 0 := by
  obtain ⟨m, hm, huser, ho, hstatus, hrole⟩ := hactor.membership
  rw [Backend.otherOwners_ne_zero]
  refine ⟨organization.membershipId, m, ?_, hm, ?_⟩
  · intro hown
    rw [hown, hr.id_eq, hr.lookup] at hm
    exact hother ((congrArg Membership.userId (Option.some.inj hm)).trans huser)
  · simp [Membership.activeOwnerOf, ho, hrole, howner, hstatus]

/-! ## The two decisions -/

theorem canManage_iff : LedgerLight.canManageMember actorRole targetRole = true ↔
    actorRole.Above targetRole ∧ ¬ (actorRole = .owner ∧ targetRole = .owner) := by
  cases actorRole <;> cases targetRole <;> decide

/-- A member can be changed to another role exactly if the actor is above both. -/
theorem canManage_demotes_iff {newRole : Role} (hother : newRole ≠ r.role) :
    LedgerLight.canManageMember organization.role r.role (demotes r newRole) = true ↔
      organization.role.Above r.role := by
  unfold demotes
  revert hother
  cases organization.role <;> cases r.role <;> cases newRole <;> decide

/-- What the page's viewer is offered, for the member as it is. -/
theorem offered_iff (hmember : member.userId = r.userId ∧ member.role = r.role ∧
      member.status = r.status) :
    (viewer user organization).Offered member request ↔
      (memberRoute k request).permissions.Allow organization.role ∧
        match request with
        | .profile _ => r.userId = user.user.id ∨ organization.role.Above r.role
        | .role newRole => (r.userId ≠ user.user.id ∧ organization.role.Above r.role) ∧
            organization.role.Above newRole ∧ newRole ≠ r.role
        | .locations _ => r.userId ≠ user.user.id ∧ organization.role.Above r.role
        | .deactivate => r.status ≠ .deactivated ∧ r.userId ≠ user.user.id ∧
            organization.role.Above r.role
        | .reactivate => r.status = .deactivated
        | .resendInvite => r.status = .invited := by
  obtain ⟨huser, hrole, hstatus⟩ := hmember
  rw [← huser, ← hrole, ← hstatus]
  cases request with
  | profile input => exact and_congr canAccessTeam_iff canEdit_roleText
  | role newRole =>
    exact offered_role_iff.trans (and_congr canAccessTeam_iff
      (and_congr canManageCurrent_iff (and_congr_left fun _ => canAssignRole_roleText)))
  | locations requested => exact and_congr canAccessTeam_iff canManageCurrent_iff
  | deactivate => exact and_congr canAccessTeam_iff canDeactivate_roleText
  | reactivate => exact and_congr_left fun _ => canAccessTeam_iff
  | resendInvite => exact and_congr_left fun _ => canAccessTeam_iff

/-- **The page against the service's checks.** -/
theorem admitted_iff (hactor : db.Authorizes user.user.id organization) (hseat : Unique seat db)
    (hr : db.Member organization k r)
    (hmember : member.userId = r.userId ∧ member.role = r.role ∧ member.status = r.status)
    (hallow : (memberRoute k request).permissions.Allow organization.role) :
    request.Admitted db organization user.user.id r ↔
      (viewer user organization).Offered member request ∧
          ¬ Overshown user organization member request ∨
        Undershown user organization member request := by
  rw [offered_iff hmember, and_iff_right hallow]
  unfold Overshown Undershown ChangeRequest.Admitted
  rw [hmember.1, hmember.2.1, hmember.2.2]
  have hown := own_iff hactor hseat hr
  have howners (hother : r.userId ≠ user.user.id) (habove : organization.role.Above r.role)
      (howner : r.role = .owner) : db.otherOwners organization.organizationId r.id ≠ 0 := by
    refine otherOwners_of_actor hactor hr hother ?_
    rw [howner] at habove
    revert habove
    cases organization.role <;> decide
  cases request with
  | profile input =>
    dsimp only
    rw [← hown, canManage_iff, or_false]
    by_cases hme : r.userId = user.user.id <;> simp [hme]
  | role newRole =>
    dsimp only
    by_cases hsame : newRole = r.role
    · subst hsame
      have hkeeps : demotes r r.role = false := by
        unfold demotes
        cases r.role <;> rfl
      rw [hkeeps]
      constructor
      · rintro ⟨hother, hmanage, -⟩
        exact Or.inr ⟨rfl, hother, hmanage⟩
      · rintro (⟨⟨-, -, hno⟩, -⟩ | ⟨-, hother, hmanage⟩)
        · exact absurd rfl hno
        · exact ⟨hother, hmanage, above_of_canManageMember hmanage, fun h => by cases h⟩
    · rw [canManage_demotes_iff hsame]
      constructor
      · rintro ⟨hother, habove, hassign, -⟩
        exact Or.inl ⟨⟨⟨hother, habove⟩, hassign, hsame⟩, not_false⟩
      · rintro (⟨⟨⟨hother, habove⟩, hassign, -⟩, -⟩ | ⟨hno, -⟩)
        · refine ⟨hother, habove, hassign, fun hdemotes => howners hother habove ?_⟩
          exact eq_of_beq (Bool.and_eq_true _ _ ▸ hdemotes).1
        · exact absurd hno hsame
  | locations requested =>
    dsimp only
    rw [canManage_iff, or_false]
    constructor
    · rintro ⟨habove, hno⟩
      refine ⟨⟨fun hme => ?_, habove⟩, fun h => hno ⟨h.1, h.2.1⟩⟩
      -- nobody is above its own role but an owner
      have hrole := role_of_own hactor hr (hown.mp hme)
      rw [hrole] at habove hno
      revert habove hno
      cases organization.role <;> decide
    · rintro ⟨⟨hother, habove⟩, hno⟩
      exact ⟨habove, fun h => hno ⟨h.1, h.2, hother⟩⟩
  | deactivate =>
    dsimp only
    rw [not_false_iff, and_true]
    constructor
    · rintro ⟨hother, habove, -⟩
      by_cases hstatus : r.status = .deactivated
      · exact Or.inr ⟨hstatus, hother, habove⟩
      · exact Or.inl ⟨hstatus, hother, habove⟩
    · rintro (⟨-, hother, habove⟩ | ⟨-, hother, habove⟩)
      · exact ⟨hother, habove, howners hother habove⟩
      · exact ⟨hother, habove, howners hother habove⟩
  | reactivate =>
    dsimp only
    rw [not_not]
    by_cases hstatus : r.status = .deactivated <;> simp [hstatus]
  | resendInvite =>
    dsimp only
    rw [not_not, or_false]

theorem not_undershown (h : Overshown user organization member request) :
    ¬ Undershown user organization member request := by
  cases request with
  | reactivate => exact fun hunder => h hunder.2
  | role newRole => exact h.elim
  | deactivate => exact h.elim
  | profile input => exact not_false
  | locations requested => exact not_false
  | resendInvite => exact not_false

theorem call?_memberRoute : (memberRoute k request).call? user organization {} =
    some (.team (request.action organization user.user.id k)) := by
  cases request <;> rfl

theorem done_iff :
    Done env user organization (memberRoute k request) db ↔
      (memberRoute k request).permissions.Allow organization.role ∧
        request.Made env organization user.user.id k db := by
  refine and_congr_right fun _ => ?_
  rw [call?_memberRoute]
  constructor
  · rintro ⟨action, detail, db', haction, hmade⟩
    cases haction
    exact ⟨detail, db', hmade⟩
  · rintro ⟨detail, db', hmade⟩
    exact ⟨_, detail, db', rfl, hmade⟩

theorem denied_of_not_done (h : ¬ Done env user organization (memberRoute k request) db) :
    Denied env user organization (memberRoute k request) db := by
  intro hallow
  have hnot : ¬ request.Made env organization user.user.id k db := fun hmade =>
    h (done_iff.mpr ⟨hallow, hmade⟩)
  obtain ⟨e, hrefused⟩ := ChangeRequest.refused_of_not_made hnot
  exact ⟨_, e, call?_memberRoute, hrefused⟩

end

open Office

/-- An office with two owners. -/
def ownersOffice : Backend :=
  staffed [(annMember, membership ann .owner, user "ann"),
    (bobMember, membership bob .owner, user "bob"),
    (cleoMember, membership cleo .cashier, user "cleo")]

def annAsks : RequestUser :=
  { user := (Office.user "ann").omitPasswordHash ann, memberships := [], serialized := by simp }

theorem ann_authorized : ownersOffice.Authorizes annAsks.user.id (acts annMember .owner) where
  user := ⟨user "ann", rfl, rfl⟩
  membership := ⟨membership ann .owner, rfl, rfl, rfl, rfl, rfl⟩
  locations := rfl

theorem seats_ownersOffice : Unique seat ownersOffice := by
  have hrow {i : Id} {v : Id × Id} (h : seat ownersOffice i = some v) :
      (i, v.2) ∈ [(annMember, ann), (bobMember, bob), (cleoMember, cleo)] := by
    obtain ⟨m, hm, rfl⟩ := Option.map_eq_some_iff.mp h
    have hentry : (⟨i, m⟩ : (_ : Id) × Membership) ∈ ownersOffice.memberships.entries :=
      Table.mem_entries_of_lookup hm
    have hall : ∀ e ∈ ownersOffice.memberships.entries,
        (e.1, e.2.userId) ∈ [(annMember, ann), (bobMember, bob), (cleoMember, cleo)] := by
      decide
    exact hall _ hentry
  intro i j v hi hj
  have huser : ∀ a ∈ [(annMember, ann), (bobMember, bob), (cleoMember, cleo)],
      ∀ b ∈ [(annMember, ann), (bobMember, bob), (cleoMember, cleo)], a.2 = b.2 → a.1 = b.1 := by
    decide
  exact huser _ (hrow hi) _ (hrow hj) rfl

end LedgerLight.Frontend
