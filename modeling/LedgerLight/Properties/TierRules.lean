import LedgerLight.Team.Calls

/-!
# Who may change whom

An actor changes the memberships of the tiers below its own, and an owner everybody's.

* `tiers_kept` : a call that succeeds keeps to the tiers exactly if it is not a re-invitation of a
  deactivated member that the actor could not manage.
* `tiers_broken` : a manager re-invites a deactivated owner as a cashier.
-/

namespace LedgerLight

open Infra

/-- From `db` to `db'` the membership `k`, unless it is the actor's own, had and has a role that the
actor is above of. -/
def Backend.KeepsTiers (db : Backend) (c : TeamCall) (k : Id) (db' : Backend) : Prop :=
  ∀ organization ∈ c.action.organization?, k ≠ organization.membershipId →
    (∀ m, db.memberships.lookup k = some m → organization.role.Above m.role) ∧
    ∀ m, db'.memberships.lookup k = some m → organization.role.Above m.role

/-- If the call invites somebody who has a membership, the actor is above of its role. -/
def Backend.InvitesBelow (db : Backend) (c : TeamCall) : Prop :=
  match c.action with
  | .inviteMember organization _ input =>
    ∀ r ∈ (db.inviteTarget c.env organization input).existingMembership,
      r.id ≠ organization.membershipId → organization.role.Above r.role
  | _ => True

instance (db : Backend) (c : TeamCall) : Decidable (db.InvitesBelow c) := by
  unfold Backend.InvitesBelow
  split <;> infer_instance

section

variable {db db' : Backend} {c : TeamCall} {k : Id} {organization : MemberContext}
  {r : TeamMemberRecord}

theorem keepsTiers_of (hc : c.action.organization? = some organization)
    (h : k ≠ organization.membershipId →
      (∀ m, db.memberships.lookup k = some m → organization.role.Above m.role) ∧
      ∀ m, db'.memberships.lookup k = some m → organization.role.Above m.role) :
    db.KeepsTiers c k db' := by
  intro organization' ho
  cases hc.symm.trans ho
  exact h

/-- The member was read, and its membership is written. -/
theorem above_of_written (hr : db.member? k = some r) (habove : organization.role.Above r.role)
    (hl : ∃ m', db'.memberships = db.memberships.insert k m' ∧ organization.role.Above m'.role) :
    (∀ m, db.memberships.lookup k = some m → organization.role.Above m.role) ∧
      ∀ m, db'.memberships.lookup k = some m → organization.role.Above m.role := by
  obtain ⟨hm, -, -, -⟩ := Backend.member?_eq_some hr
  obtain ⟨m₁, hl, habove'⟩ := hl
  constructor
  · intro m' hm'
    cases hm.symm.trans hm'
    exact habove
  · intro m' hm'
    rw [hl, AList.lookup_insert] at hm'
    cases hm'
    exact habove'

/-- The member was read, and no membership is written. -/
theorem above_of_unwritten (hr : db.member? k = some r) (habove : organization.role.Above r.role)
    (hl : db'.memberships = db.memberships) :
    (∀ m, db.memberships.lookup k = some m → organization.role.Above m.role) ∧
      ∀ m, db'.memberships.lookup k = some m → organization.role.Above m.role := by
  obtain ⟨hm, -, -, -⟩ := Backend.member?_eq_some hr
  rw [hl]
  refine (and_self_iff.mpr fun m' hm' => ?_)
  cases hm.symm.trans hm'
  exact habove

/-- What a call did keeps to the tiers if it re-invites nobody above. -/
theorem TeamChange.keepsTiers {env : TeamEnv} {action : TeamAction}
    (h : TeamChange db env action k db') (hbelow : db.InvitesBelow ⟨env, action⟩) :
    db.KeepsTiers ⟨env, action⟩ k db' := by
  cases h with
  | invited above _ _ account new _ logs =>
    refine keepsTiers_of rfl fun _ => ⟨fun m hm => ?_, fun m hm => ?_⟩
    · rw [new] at hm
      cases hm
    · rw [logs.memberships] at hm
      cases (AList.lookup_insert _).symm.trans hm
      exact above
  | reinvited above _ found _ _ logs =>
    obtain ⟨hr, -, -, -⟩ := inviteTarget_member found
    have hwritten := logs.memberships
    rw [Backend.reinvited, Backend.memberships_renewed] at hwritten
    exact keepsTiers_of rfl fun hown =>
      above_of_written hr (hbelow _ found hown) ⟨_, hwritten, above⟩
  | profileUpdated member _ above logs =>
    exact keepsTiers_of rfl fun hown => above_of_unwritten member (above.resolve_left hown)
      logs.memberships
  | roleChanged member _ above assignable _ logs =>
    exact keepsTiers_of rfl fun _ => above_of_written member above ⟨_, logs.memberships, assignable⟩
  | locationsUpdated member _ above _ logs =>
    exact keepsTiers_of rfl fun _ => above_of_unwritten member above logs.memberships
  | deactivated member _ above _ logs =>
    exact keepsTiers_of rfl fun _ => above_of_written member above ⟨_, logs.memberships, above⟩
  | reactivated member _ above _ logs =>
    have hwritten := logs.memberships
    rw [Backend.memberships_renewed] at hwritten
    exact keepsTiers_of rfl fun _ => above_of_written member above ⟨_, hwritten, above⟩
  | inviteResent member _ _ above _ logs =>
    exact keepsTiers_of rfl fun _ => above_of_unwritten member above logs.memberships
  | accepted =>
    intro organization ho
    cases ho

/-- A re-invitation that keeps to the tiers is of a member below. -/
theorem TeamChange.invitesBelow {env : TeamEnv} {action : TeamAction}
    (h : TeamChange db env action k db') (hkeeps : db.KeepsTiers ⟨env, action⟩ k db') :
    db.InvitesBelow ⟨env, action⟩ := by
  cases h with
  | invited _ _ unknown =>
    intro r hr
    cases unknown.symm.trans hr
  | reinvited _ _ found =>
    intro r hr hown
    cases found.symm.trans hr
    obtain ⟨hmember, -, -, -⟩ := inviteTarget_member found
    exact (hkeeps _ rfl hown).1 _ (Backend.member?_eq_some hmember).1
  | _ => trivial

end

/-- **No escalation over the tiers**: in every run, a call that succeeds changes a membership other
than the actor's own only from and to roles that the actor is above of, exactly if it is not an
invitation of somebody whose membership the actor is not above of. -/
theorem tiers_kept (db : Backend) (cs : List TeamCall) (c : TeamCall) (member : TeamMemberDetail)
    (db' : Backend) (h : c.exec (team.run db cs) = (.ok member, db')) :
    (team.run db cs).KeepsTiers c member.membershipId db' ↔ (team.run db cs).InvitesBelow c :=
  ⟨(TeamCall.exec_ok h).invitesBelow, (TeamCall.exec_ok h).keepsTiers⟩

namespace Office

/-- A deactivated owner is invited again. -/
def backAs (role : Role) (actor : MemberContext) : TeamCall :=
  { env := env 5
    action := .inviteMember actor ann { email := "bob@office.test", role := role } }

/-- An owner, a manager and somebody who was an owner. -/
def withFormerOwner : Backend :=
  staffed [(annMember, membership ann .owner, user "ann"),
    (cleoMember, membership cleo .manager, user "cleo"),
    (bobMember, membership bob .owner .deactivated, user "bob")]

end Office

/-- The owner re-invites the former owner. -/
theorem tiers_kept_office :
    ∃ member db', (Office.backAs .cashier (Office.acts Office.annMember .owner)).exec
        (team.run Office.withFormerOwner []) = (.ok member, db') ∧
      Office.withFormerOwner.KeepsTiers (Office.backAs .cashier (Office.acts Office.annMember .owner))
        member.membershipId db' := by
  have hok : ((Office.backAs .cashier (Office.acts Office.annMember .owner)).exec
      (team.run Office.withFormerOwner [])).1.toOption.isSome = true := by decide
  rcases h : (Office.backAs .cashier (Office.acts Office.annMember .owner)).exec
      (team.run Office.withFormerOwner []) with ⟨e | member, db'⟩
  · rw [h] at hok
    cases hok
  · exact ⟨member, db', rfl, (tiers_kept Office.withFormerOwner [] _ member db' h).mpr (by decide)⟩

/-- A manager re-invites the former owner as a cashier. -/
theorem tiers_broken :
    ∃ member db', (Office.backAs .cashier (Office.acts Office.cleoMember .manager)).exec
        Office.withFormerOwner = (.ok member, db') ∧
      (Office.withFormerOwner.memberships.lookup Office.bobMember).map (·.role) = some .owner ∧
      (member.membershipId, member.role) = (Office.bobMember, .cashier) ∧
      ¬ Office.withFormerOwner.KeepsTiers
        (Office.backAs .cashier (Office.acts Office.cleoMember .manager)) member.membershipId
        db' := by
  have hok : ((Office.backAs .cashier (Office.acts Office.cleoMember .manager)).exec
      Office.withFormerOwner).1.toOption.map (fun member => (member.membershipId, member.role)) =
      some (Office.bobMember, .cashier) := by decide
  rcases h : (Office.backAs .cashier (Office.acts Office.cleoMember .manager)).exec
      Office.withFormerOwner with ⟨e | member, db'⟩
  · rw [h] at hok
    cases hok
  · rw [h] at hok
    have hmember : (member.membershipId, member.role) = (Office.bobMember, .cashier) :=
      Option.some.inj hok
    refine ⟨member, db', rfl, by decide, hmember, fun hkeeps => ?_⟩
    rw [show member.membershipId = Office.bobMember from congrArg Prod.fst hmember] at hkeeps
    -- the manager is not above of an owner
    have habove := (hkeeps (Office.acts Office.cleoMember .manager) rfl (by decide)).1
      (Office.membership Office.bob .owner .deactivated) (by decide)
    exact absurd habove (by decide)

end LedgerLight
