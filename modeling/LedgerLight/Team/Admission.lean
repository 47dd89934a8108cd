import LedgerLight.Infra.Checks
import LedgerLight.Team.Calls

/-!
# When a call about a member succeeds

The calls of the team service about somebody who has a membership already, and exactly what each of
them needs.

* `ChangeRequest.made_iff` : a call succeeds if the service lets the actor do it to the member, and
  nothing else of the request is in the way.
-/

namespace LedgerLight

open Infra Prog

/-! ## Requests about a member -/

inductive ChangeRequest where
  | profile (input : UpdateTeamMemberDto)
  | role (newRole : Role)
  | locations (requested : Option (List Id))
  | deactivate
  | reactivate
  | resendInvite
deriving DecidableEq, Repr

namespace ChangeRequest

def action (organization : MemberContext) (actorUserId membershipId : Id) :
    ChangeRequest → TeamAction
  | profile input => .updateMember organization actorUserId membershipId input
  | role newRole => .updateMemberRole organization actorUserId membershipId newRole
  | locations requested => .updateMemberLocations organization actorUserId membershipId requested
  | deactivate => .deactivateMember organization actorUserId membershipId
  | reactivate => .reactivateMember organization actorUserId membershipId
  | resendInvite => .resendInvite organization actorUserId membershipId

/-- The service lets the actor do it to the member. -/
def Admitted (db : Backend) (organization : MemberContext) (actorUserId : Id)
    (r : TeamMemberRecord) : ChangeRequest → Prop
  | profile _ => r.id = organization.membershipId ∨
      canManageMember organization.role r.role = true
  | role newRole => r.userId ≠ actorUserId ∧
      canManageMember organization.role r.role (demotes r newRole) = true ∧
      organization.role.Above newRole ∧
      (demotes r newRole = true → db.otherOwners organization.organizationId r.id ≠ 0)
  | locations _ => canManageMember organization.role r.role = true
  | deactivate => r.userId ≠ actorUserId ∧ organization.role.Above r.role ∧
      (r.role = .owner → db.otherOwners organization.organizationId r.id ≠ 0)
  | reactivate => organization.role.Above r.role
  | resendInvite => r.status = .invited ∧ organization.role.Above r.role

end ChangeRequest

/-- An invite that is made now has a new id and a new hash. -/
def Backend.InviteFresh (db : Backend) (env : TeamEnv) : Prop :=
  db.inviteTokens.lookup (env.uuid 2) = none ∧
    (db.inviteTokens.findRow? fun _ t => t.tokenHash == env.sha256 env.rawToken) = none

/-- Nothing else is in the way: the e-mail is free, the locations can be assigned, the invite is
new. -/
def ChangeRequest.InOrder (db : Backend) (env : TeamEnv) (organization : MemberContext)
    (r : TeamMemberRecord) : ChangeRequest → Prop
  | profile input => ∀ e ∈ input.normalizedEmail env, db.emailTaken r.userId e = false
  | locations requested => (scopedLocationIds organization requested).Nodup ∧
      ∀ l ∈ scopedLocationIds organization requested, db.assignable organization l = true
  | reactivate => r.user.hasPassword = false → db.InviteFresh env
  | resendInvite => db.InviteFresh env
  | role _ | deactivate => True

/-! ## What the calls check -/

section

variable {S : Type} {env : TeamEnv} {organization : MemberContext} {actorUserId k : Id}
  {db : Backend} {s : S}

/-- The member is there, in the organization. -/
def Backend.Member (db : Backend) (organization : MemberContext) (k : Id) (r : TeamMemberRecord) :
    Prop :=
  db.member? k = some r ∧ r.organizationId = organization.organizationId

theorem Backend.Member.id_eq {r : TeamMemberRecord} (h : db.Member organization k r) : r.id = k :=
  (Backend.member?_eq_some h.1).2.2.1

theorem finds_membership :
    (findMembershipOrThrow organization.organizationId k : Work S _).Finds db s
      (db.Member organization k) := by
  intro r db' s'
  constructor
  · intro h
    obtain ⟨hr, ho, rfl, rfl⟩ := findMembershipOrThrow_ok h
    exact ⟨⟨hr, ho⟩, rfl, rfl⟩
  · rintro ⟨⟨hr, ho⟩, rfl, rfl⟩
    refine run_bind_ok.mpr ⟨_, db', s', run_select_ok.mpr ⟨rfl, rfl, rfl⟩, ?_⟩
    rw [hr, Option.filter_some, if_pos (beq_iff_eq.mpr ho)]
    rfl

theorem finds_ownerOrManageable {actorRole targetRole : Role} {message : String} :
    (assertOwnerOrManageable actorRole targetRole message : Work S Unit).Finds db s fun _ =>
      actorRole.Above targetRole := by
  unfold assertOwnerOrManageable assertMemberManageable
  split
  · next hother =>
    refine finds_require.congr fun _ => ?_
    by_cases ho : actorRole = .owner <;> simp [canManageMember, Role.Above, ho, hother]
  · next howner =>
    refine finds_require.congr fun _ => ?_
    rw [not_not.mp howner]
    cases actorRole <;> decide

theorem finds_ownerCount :
    (ensureActiveOwnerCount organization.organizationId k : Work S Unit).Finds db s fun _ =>
      db.otherOwners organization.organizationId k ≠ 0 := by
  refine (finds_select.bind fun _ _ => finds_require).congr fun _ => ?_
  simp

theorem finds_scopedLocationIds {requested : Option (List Id)} :
    (resolveScopedLocationIds organization requested : Work S _).Finds db s fun ids =>
      ids = scopedLocationIds organization requested ∧
        ∀ l ∈ scopedLocationIds organization requested, db.assignable organization l = true := by
  refine (finds_select.bind fun _ _ => finds_require.bind fun _ _ => finds_pure).congr fun ids => ?_
  simp [and_comm]

/-- A new e-mail is not found with another account. -/
def Backend.EmailFree (db : Backend) (r : TeamMemberRecord) (email : Option String) : Prop :=
  ∀ e ∈ email, e ≠ r.user.email → ∀ userId u, db.userByEmail? e = some (userId, u) →
    userId = r.userId

theorem Backend.emailFree_of_not_taken {r : TeamMemberRecord} {email : Option String}
    (h : ∀ e ∈ email, db.emailTaken r.userId e = false) : db.EmailFree r email := by
  intro e he _ userId u hu
  obtain ⟨hlookup, hemail⟩ := Backend.userByEmail?_eq_some hu
  by_contra hother
  have htaken : db.emailTaken r.userId e = true :=
    Table.findRow?_isSome.mpr ⟨userId, u, hlookup, by simp [hother, hemail]⟩
  rw [h e he] at htaken
  cases htaken

theorem finds_emailFree {r : TeamMemberRecord} {email : Option String} :
    (assertEmailFree r email : Work S Unit).Finds db s fun _ => db.EmailFree r email := by
  unfold assertEmailFree Backend.EmailFree
  cases email with
  | none => exact finds_pure.congr fun _ => by simp
  | some e =>
    by_cases hsame : e = r.user.email
    · rw [Option.filter_some, if_neg (by simp [hsame])]
      exact finds_pure.congr fun _ => by simp [hsame]
    · rw [Option.filter_some, if_pos (by simp [hsame])]
      refine (finds_select.bind fun _ _ => finds_require).congr fun _ => ?_
      rcases hu : db.userByEmail? e with _ | ⟨userId, u⟩
      · simp [hu]
      · simp [hsame, hu]

theorem finds_profile {input : UpdateTeamMemberDto} :
    (updateMemberRead env organization k input : Work S _).Finds db s fun r =>
      db.Member organization k r ∧
        (ChangeRequest.profile input).Admitted db organization actorUserId r ∧
        db.EmailFree r (input.normalizedEmail env) := by
  refine (Finds.bind finds_membership fun r _ => finds_require.bind fun _ _ =>
    Finds.bind finds_emailFree fun _ _ => finds_pure).congr fun r => ?_
  constructor
  · rintro ⟨r, hr, -, hmanage, -, hfree, rfl⟩
    exact ⟨hr, hmanage.imp_left eq_of_beq, hfree⟩
  · rintro ⟨hr, hmanage, hfree⟩
    exact ⟨r, hr, (), hmanage.imp_left beq_iff_eq.mpr, (), hfree, rfl⟩

theorem finds_role {newRole : Role} :
    (updateMemberRoleRead organization actorUserId k newRole : Work S _).Finds db s fun r =>
      db.Member organization k r ∧
        (ChangeRequest.role newRole).Admitted db organization actorUserId r := by
  refine (Finds.bind finds_membership fun r _ => finds_require.bind fun _ _ =>
    finds_require.bind fun _ _ => finds_require.bind fun _ _ =>
      (finds_doWhen finds_ownerCount).bind fun _ _ => finds_pure).congr fun r => ?_
  constructor
  · rintro ⟨r, hr, -, hself, -, hmanage, -, hassign, -, howners, rfl⟩
    rw [← hr.id_eq] at howners
    exact ⟨hr, hself, hmanage.resolve_left Bool.false_ne_true, canAssignRole_iff.mp hassign, howners⟩
  · rintro ⟨hr, hself, hmanage, hassign, howners⟩
    rw [hr.id_eq] at howners
    exact ⟨r, hr, (), hself, (), Or.inr hmanage, (), canAssignRole_iff.mpr hassign, (), howners, rfl⟩

theorem finds_locations {requested : Option (List Id)} :
    (updateMemberLocationsRead organization k requested : Work S _).Finds db s fun a =>
      db.Member organization k a.1 ∧
        (ChangeRequest.locations requested).Admitted db organization actorUserId a.1 ∧
        (∀ l ∈ scopedLocationIds organization requested, db.assignable organization l = true) ∧
        a.2 = scopedLocationIds organization requested := by
  refine (Finds.bind finds_membership fun r _ => finds_require.bind fun _ _ =>
    Finds.bind finds_scopedLocationIds fun _ _ => finds_pure).congr fun a => ?_
  constructor
  · rintro ⟨r, hr, -, hmanage, ids, ⟨rfl, hall⟩, rfl⟩
    exact ⟨hr, hmanage.resolve_left Bool.false_ne_true, hall, rfl⟩
  · rintro ⟨hr, hmanage, hall, hids⟩
    exact ⟨a.1, hr, (), Or.inr hmanage, _, ⟨rfl, hall⟩, Prod.ext rfl hids⟩

theorem finds_deactivate :
    (deactivateMemberRead organization actorUserId k : Work S _).Finds db s fun r =>
      db.Member organization k r ∧
        ChangeRequest.deactivate.Admitted db organization actorUserId r := by
  refine (Finds.bind finds_membership fun r _ => finds_require.bind fun _ _ =>
    Finds.bind finds_ownerOrManageable fun _ _ => (finds_doWhen finds_ownerCount).bind fun _ _ =>
      finds_pure).congr fun r => ?_
  constructor
  · rintro ⟨r, hr, -, hself, -, habove, -, howners, rfl⟩
    rw [← hr.id_eq] at howners
    exact ⟨hr, hself, habove, howners⟩
  · rintro ⟨hr, hself, habove, howners⟩
    rw [hr.id_eq] at howners
    exact ⟨r, hr, (), hself, (), habove, (), howners, rfl⟩

theorem finds_reactivate (actorUserId : Id) :
    (reactivateMemberRead organization k : Work S _).Finds db s fun r =>
      db.Member organization k r ∧
        ChangeRequest.reactivate.Admitted db organization actorUserId r := by
  refine (Finds.bind finds_membership fun r _ => Finds.bind finds_ownerOrManageable fun _ _ =>
    finds_pure).congr fun r => ?_
  constructor
  · rintro ⟨r, hr, -, habove, rfl⟩
    exact ⟨hr, habove⟩
  · rintro ⟨hr, habove⟩
    exact ⟨r, hr, (), habove, rfl⟩

theorem finds_resendInvite (actorUserId : Id) :
    (resendInviteRead organization k : Work S _).Finds db s fun r =>
      db.Member organization k r ∧
        ChangeRequest.resendInvite.Admitted db organization actorUserId r := by
  refine (Finds.bind finds_membership fun r _ => finds_require.bind fun _ _ =>
    (finds_doWhen finds_require).bind fun _ _ => finds_pure).congr fun r => ?_
  have hmanage (r : TeamMemberRecord) : (organization.role ≠ .owner →
      false = true ∨ canManageMember organization.role r.role = true) ↔
        organization.role.Above r.role := by
    by_cases ho : organization.role = .owner <;> simp [canManageMember, Role.Above, ho]
  constructor
  · rintro ⟨r, hr, -, hstatus, -, habove, rfl⟩
    exact ⟨hr, hstatus, (hmanage r).mp habove⟩
  · rintro ⟨hr, hstatus, habove⟩
    exact ⟨r, hr, (), hstatus, (), (hmanage r).mpr habove, rfl⟩

/-! ## The writes of the calls -/

/-- A member is read again at the end of a transaction. -/
theorem succeeds_load_bind {α : Type} {next : TeamMemberRecord → Work S α} {o : Id}
    (h : db.HasMember o k) (hnext : ∀ r, (next r).Succeeds db s) :
    (loadMembershipWithRelations k >>= next).Succeeds db s := by
  obtain ⟨r, hr, -⟩ := h.member?
  refine succeeds_bind_iff.mpr ⟨r, db, s, ?_, hnext r⟩
  refine run_bind_ok.mpr ⟨_, db, s, run_select_ok.mpr ⟨rfl, rfl, rfl⟩, ?_⟩
  rw [hr]
  rfl

theorem succeeds_membershipUpdate_bind {α : Type} {f : Membership → Membership} {m : Membership}
    {next : Unit → Work S α} (h : db.memberships.lookup k = some m) :
    (membershipUpdate env k f >>= next).Succeeds db s ↔
      (next ()).Succeeds (db.setMembership k { f m with updatedAt := env.now }) s := by
  rw [membershipUpdate, succeeds_exec_bind_iff, Backend.modifyMembership, h]
  simp

/-- The live invites of the membership end first, which changes no hash. -/
theorem succeeds_createInvite (h : (db.memberships.lookup k).isSome = true) :
    (createInviteForMembership env (env.uuid 2) k : Work S String).Succeeds db s ↔
      db.InviteFresh env := by
  have hhash {f : InviteToken → InviteToken} (hf : ∀ t, (f t).tokenHash = t.tokenHash) :
      ((db.inviteTokens.mapRows f).findRow? fun _ t =>
        t.tokenHash == env.sha256 env.rawToken).isSome =
      (db.inviteTokens.findRow? fun _ t => t.tokenHash == env.sha256 env.rawToken).isSome := by
    rw [Bool.eq_iff_iff, Table.findRow?_isSome, Table.findRow?_isSome]
    refine exists_congr fun i => ?_
    simp only [Table.lookup_mapRows, Option.map_eq_some_iff]
    constructor
    · rintro ⟨t, ⟨t', ht', rfl⟩, heq⟩
      exact ⟨t', ht', by rwa [hf] at heq⟩
    · rintro ⟨t, ht, heq⟩
      exact ⟨f t, ⟨t, ht, rfl⟩, by rwa [hf]⟩
  rw [createInviteForMembership, inviteTokenExpire, succeeds_exec_bind_iff, inviteTokenCreate,
    succeeds_exec_bind_iff]
  dsimp only
  rw [hhash fun t => by split <;> rfl, Table.lookup_mapRows, Option.isSome_map]
  rw [and_iff_right rfl, and_iff_left succeeds_pure, if_pos h, Backend.InviteFresh]
  split
  · next htaken =>
    simp only [reduceCtorEq, false_iff, not_and_or, ← ne_eq, Option.ne_none_iff_isSome]
    exact htaken
  · next hfree =>
    simp only [not_or, Bool.not_eq_true, Option.isSome_eq_false_iff,
      Option.isNone_iff_eq_none] at hfree
    simp only [true_iff]
    exact hfree

theorem succeeds_renewAccess {hasPassword : Bool} {userId : Id}
    (h : (db.memberships.lookup k).isSome = true) :
    (renewAccess env hasPassword k userId : Work S _).Succeeds db s ↔
      (hasPassword = false → db.InviteFresh env) := by
  unfold renewAccess
  cases hasPassword with
  | true =>
    rw [if_pos rfl]
    refine iff_of_true ?_ fun hfalse => by cases hfalse
    exact succeeds_exec_bind_iff.mpr ⟨rfl, succeeds_pure⟩
  | false =>
    rw [if_neg Bool.false_ne_true, succeeds_bind_left fun _ _ _ _ => succeeds_pure,
      succeeds_createInvite h, forall_prop_of_true rfl]

theorem succeeds_replaceLocations {locationIds : List Id}
    (hm : (db.memberships.lookup k).isSome = true)
    (hlocations : ∀ l ∈ locationIds, (db.locations.lookup l).isSome = true) :
    (replaceMembershipLocations k locationIds : Work S Unit).Succeeds db s ↔
      locationIds.Nodup := by
  rw [replaceMembershipLocations, membershipLocationDeleteMany, succeeds_exec_bind_iff,
    and_iff_right rfl]
  unfold doWhen
  split
  · have hnone : ¬ (locationIds.any fun l =>
        (db.membershipLocations.filter fun row => row.membershipId != k).contains
          { membershipId := k, locationId := l }) = true := by
      simp
    rw [membershipLocationCreateMany, succeeds_exec_iff]
    dsimp only
    by_cases hnodup : locationIds.Nodup
    · rw [if_neg (not_or.mpr ⟨not_not.mpr hnodup, hnone⟩),
        if_pos ⟨hm, List.all_eq_true.mpr hlocations⟩]
      exact iff_of_true rfl hnodup
    · rw [if_pos (Or.inl hnodup)]
      exact iff_of_false (by simp) hnodup
  · next hnil =>
    rw [not_not.mp hnil]
    exact iff_of_true succeeds_pure List.nodup_nil

/-! ## When the calls succeed -/

variable {r : TeamMemberRecord}

theorem Backend.Member.lookup (h : db.Member organization k r) :
    db.memberships.lookup k = some r.toMembership := (Backend.member?_eq_some h.1).1

theorem Backend.Member.hasMember (h : db.Member organization k r) :
    db.HasMember organization.organizationId k := h.2 ▸ Backend.hasMember_of_member? h.1

/-- The member as it becomes. -/
theorem Backend.Member.hasMember_setMembership {m : Membership} (h : db.Member organization k r)
    (ho : m.organizationId = r.organizationId) (hu : m.userId = r.userId) :
    (db.setMembership k m).HasMember organization.organizationId k :=
  Backend.hasMember_setMembership (ho.trans h.2) (by
    rw [hu]
    exact Option.isSome_iff_exists.mpr ⟨_, (Backend.member?_eq_some h.1).2.1⟩)

theorem succeeds_profile {input : UpdateTeamMemberDto} :
    (updateMember env organization actorUserId k input : Work S _).Succeeds db s ↔
      ∃ r, db.Member organization k r ∧
        (ChangeRequest.profile input).Admitted db organization actorUserId r ∧
        (ChangeRequest.profile input).InOrder db env organization r := by
  rw [updateMember, finds_profile.succeeds_bind_iff]
  refine exists_congr fun r => ?_
  rw [and_assoc, and_assoc]
  refine and_congr_right fun hr => and_congr_right fun _ => ?_
  obtain ⟨-, hu, -, -⟩ := Backend.member?_eq_some hr.1
  rw [succeeds_bind_iff]
  constructor
  · rintro ⟨-, u, db', s', hupdate, -⟩
    obtain ⟨-, -, hfree, -, -⟩ := userUpdate_ok.mp hupdate
    exact hfree
  · intro hfree
    refine ⟨Backend.emailFree_of_not_taken hfree, (), _, s,
      userUpdate_ok.mpr ⟨_, hu, hfree, rfl, rfl⟩, ?_⟩
    have hafter : (db.setUser r.userId
        { r.user with firstName := input.firstName.getD r.user.firstName
                      lastName := input.lastName.getD r.user.lastName
                      email := (input.normalizedEmail env).getD r.user.email
                      updatedAt := env.now }).HasMember organization.organizationId k :=
      hr.hasMember.setUser
    obtain ⟨updated, hfind⟩ := hafter.find (s := s)
    refine Succeeds.bind hfind (succeeds_exec_bind_iff.mpr ⟨rfl, ?_⟩)
    exact (hafter.logs ⟨_, _, rfl⟩).detail

theorem succeeds_role {newRole : Role} :
    (updateMemberRole env organization actorUserId k newRole : Work S _).Succeeds db s ↔
      ∃ r, db.Member organization k r ∧
        (ChangeRequest.role newRole).Admitted db organization actorUserId r := by
  rw [updateMemberRole, finds_role.succeeds_bind_iff]
  refine exists_congr fun r => and_iff_left_of_imp fun ⟨hr, _⟩ => ?_
  have hafter := hr.hasMember_setMembership
    (m := { r.toMembership with role := newRole, updatedAt := env.now }) rfl rfl
  obtain ⟨updated, hfind⟩ := hafter.find (s := s)
  refine (succeeds_membershipUpdate_bind hr.lookup).mpr ?_
  refine Succeeds.bind hfind (succeeds_exec_bind_iff.mpr ⟨rfl, ?_⟩)
  exact (hafter.logs ⟨_, _, rfl⟩).detail

theorem Backend.lookup_of_assignable {l : Id} (h : db.assignable organization l = true) :
    (db.locations.lookup l).isSome = true := by
  unfold Backend.assignable at h
  cases hl : db.locations.lookup l with
  | none => rw [hl] at h; cases h
  | some _ => rfl

theorem succeeds_locations {requested : Option (List Id)} :
    (updateMemberLocations env organization actorUserId k requested : Work S _).Succeeds db s ↔
      ∃ r, db.Member organization k r ∧
        (ChangeRequest.locations requested).Admitted db organization actorUserId r ∧
        (ChangeRequest.locations requested).InOrder db env organization r := by
  rw [updateMemberLocations, finds_locations.succeeds_bind_iff]
  have hwrites {r : TeamMemberRecord} (hr : db.Member organization k r)
      (hall : ∀ l ∈ scopedLocationIds organization requested,
        db.assignable organization l = true) :
      (transaction (updateMemberLocationsTx env organization actorUserId k r
        (scopedLocationIds organization requested)) : Work S Unit).Succeeds db s ↔
        (scopedLocationIds organization requested).Nodup := by
    rw [succeeds_transaction_iff, updateMemberLocationsTx,
      succeeds_bind_left fun _ db' s' hscope => ?_, succeeds_replaceLocations]
    · rw [hr.lookup]
      rfl
    · exact fun l hl => Backend.lookup_of_assignable (hall l hl)
    · obtain ⟨rfl, rfl⟩ := replaceMembershipLocations_ok hscope
      refine succeeds_load_bind (o := organization.organizationId) ?_ fun _ =>
        succeeds_exec_iff.mpr rfl
      exact hr.hasMember
  have hanswer {r : TeamMemberRecord} (hr : db.Member organization k r) {ids : List Id} :
      (transaction (updateMemberLocationsTx env organization actorUserId k r ids) >>= fun _ => do
        let member ← getMemberDetail env organization.organizationId k
        pure { member := member, action := "locations_updated" } :
          Work S TeamMutationResponse).Succeeds db s ↔
        (transaction (updateMemberLocationsTx env organization actorUserId k r ids) :
          Work S Unit).Succeeds db s := by
    refine succeeds_bind_left fun _ db' s' htx => ?_
    rw [run_transaction] at htx
    obtain ⟨hl, -⟩ := updateMemberLocationsTx_ok htx
    refine Backend.HasMember.detail (Backend.HasMember.logs ?_ hl)
    exact hr.hasMember
  constructor
  · rintro ⟨⟨r, ids⟩, ⟨hr, hmanage, hall, hids⟩, h⟩
    obtain rfl : ids = _ := hids
    exact ⟨r, hr, hmanage, (hwrites hr hall).mp ((hanswer hr).mp h), hall⟩
  · rintro ⟨r, hr, hmanage, hnodup, hall⟩
    exact ⟨(r, _), ⟨hr, hmanage, hall, rfl⟩, (hanswer hr).mpr ((hwrites hr hall).mpr hnodup)⟩

theorem succeeds_deactivate :
    (deactivateMember env organization actorUserId k : Work S _).Succeeds db s ↔
      ∃ r, db.Member organization k r ∧
        ChangeRequest.deactivate.Admitted db organization actorUserId r := by
  rw [deactivateMember, finds_deactivate.succeeds_bind_iff]
  refine exists_congr fun r => and_iff_left_of_imp fun ⟨hr, _⟩ => ?_
  have hafter := hr.hasMember_setMembership (m := deactivated env r.toMembership) rfl rfl
  rw [succeeds_bind_left fun _ db' s' htx => ?_, succeeds_transaction_iff, deactivateMemberTx,
    succeeds_membershipUpdate_bind hr.lookup]
  · refine succeeds_exec_bind_iff.mpr ⟨rfl, ?_⟩
    exact succeeds_load_bind (hafter.logs ⟨_, _, rfl⟩) fun _ => succeeds_exec_iff.mpr rfl
  · rw [run_transaction] at htx
    obtain ⟨m, hm, hl, -⟩ := deactivateMemberTx_ok htx
    obtain rfl := Option.some.inj (hr.lookup.symm.trans hm)
    exact (hafter.logs hl).detail

theorem succeeds_reactivate :
    (reactivateMember env organization actorUserId k : Work S _).Succeeds db s ↔
      ∃ r, db.Member organization k r ∧
        ChangeRequest.reactivate.Admitted db organization actorUserId r ∧
        ChangeRequest.reactivate.InOrder db env organization r := by
  rw [reactivateMember, (finds_reactivate actorUserId).succeeds_bind_iff]
  refine exists_congr fun r => ?_
  rw [and_assoc]
  refine and_congr_right fun hr => and_congr_right fun _ => ?_
  have hafter := hr.hasMember_setMembership (m := { reinstated env r.user.hasPassword r.invitedAt
    r.toMembership with updatedAt := env.now }) rfl rfl
  rw [succeeds_bind_left fun _ db' s' htx => ?_, succeeds_transaction_iff, reactivateMemberTx,
    succeeds_membershipUpdate_bind hr.lookup, succeeds_bind_left fun url db' s' hrenew => ?_]
  · exact succeeds_renewAccess (by simp)
  · obtain ⟨-, hl, -⟩ := renewAccess_ok hrenew
    exact succeeds_load_bind (hafter.renewed.logs hl) fun _ =>
      succeeds_exec_bind_iff.mpr ⟨rfl, succeeds_pure⟩
  · rw [run_transaction] at htx
    obtain ⟨m, hm, -, hl, -⟩ := reactivateMemberTx_ok htx
    obtain rfl := Option.some.inj (hr.lookup.symm.trans hm)
    exact (hafter.renewed.logs hl).detail

theorem succeeds_resendInvite :
    (resendInvite env organization actorUserId k : Work S _).Succeeds db s ↔
      ∃ r, db.Member organization k r ∧
        ChangeRequest.resendInvite.Admitted db organization actorUserId r ∧
        ChangeRequest.resendInvite.InOrder db env organization r := by
  rw [resendInvite, (finds_resendInvite actorUserId).succeeds_bind_iff]
  refine exists_congr fun r => ?_
  rw [and_assoc]
  refine and_congr_right fun hr => and_congr_right fun _ => ?_
  rw [succeeds_bind_left fun _ db' s' htx => ?_, succeeds_transaction_iff, resendInviteTx,
    succeeds_bind_left fun url db' s' hinvite => ?_]
  · exact succeeds_createInvite (by rw [hr.lookup]; rfl)
  · obtain ⟨-, rfl, -⟩ := createInviteForMembership_ok hinvite
    refine succeeds_load_bind (o := organization.organizationId) ?_ fun _ =>
      succeeds_exec_bind_iff.mpr ⟨rfl, succeeds_pure⟩
    exact hr.hasMember
  · rw [run_transaction] at htx
    obtain ⟨-, hl, -⟩ := resendInviteTx_ok htx
    refine Backend.HasMember.detail (Backend.HasMember.logs ?_ hl)
    exact hr.hasMember

end

/-! ## Requests that are made -/

section

variable {env : TeamEnv} {organization : MemberContext} {actorUserId k : Id} {db : Backend}
  {request : ChangeRequest}

/-- The request succeeds. -/
def ChangeRequest.Made (request : ChangeRequest) (env : TeamEnv) (organization : MemberContext)
    (actorUserId k : Id) (db : Backend) : Prop :=
  ∃ member db', TeamCall.exec ⟨env, request.action organization actorUserId k⟩ db =
    (.ok member, db')

/-- The request fails, and leaves the database as it was. -/
def ChangeRequest.Refused (request : ChangeRequest) (env : TeamEnv) (organization : MemberContext)
    (actorUserId k : Id) (db : Backend) : Prop :=
  ∃ e, TeamCall.exec ⟨env, request.action organization actorUserId k⟩ db = (.error e, db)

theorem TeamCall.succeeds_iff {c : TeamCall} :
    c.prog.Succeeds db () ↔ ∃ member db', c.exec db = (.ok member, db') := by
  unfold Succeeds TeamCall.exec
  constructor
  · rintro ⟨member, db', s', h⟩
    exact ⟨member, db', by rw [h]⟩
  · rintro ⟨member, db', h⟩
    obtain ⟨hmember, hdb⟩ := Prod.ext_iff.mp h
    exact ⟨member, db', (), Prod.ext hmember (Prod.ext hdb rfl)⟩

theorem ChangeRequest.refused_of_not_made (h : ¬ request.Made env organization actorUserId k db) :
    request.Refused env organization actorUserId k db := by
  rcases hrun : TeamCall.exec ⟨env, request.action organization actorUserId k⟩ db
    with ⟨e | member, db'⟩
  · rw [TeamCall.exec_error hrun] at hrun
    exact ⟨e, hrun⟩
  · exact absurd ⟨member, db', hrun⟩ h

/-- **A request about a member succeeds** exactly if the member is there, the service lets the actor
do it, and nothing else is in the way. -/
theorem ChangeRequest.made_iff :
    request.Made env organization actorUserId k db ↔
      ∃ r, db.Member organization k r ∧ request.Admitted db organization actorUserId r ∧
        request.InOrder db env organization r := by
  unfold Made
  rw [← TeamCall.succeeds_iff]
  cases request with
  | profile input => exact succeeds_map_iff.trans succeeds_profile
  | role newRole => exact succeeds_map_iff.trans (succeeds_role.trans (by simp [InOrder]))
  | locations requested => exact succeeds_map_iff.trans succeeds_locations
  | deactivate => exact succeeds_map_iff.trans (succeeds_deactivate.trans (by simp [InOrder]))
  | reactivate => exact succeeds_map_iff.trans succeeds_reactivate
  | resendInvite => exact succeeds_map_iff.trans succeeds_resendInvite

end

end LedgerLight
