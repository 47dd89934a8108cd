import LedgerLight.System.TeamSessions

/-!
# What the calls of the team leave

No call that writes memberships removes a row or changes whose it is. What a call has seen of a row
in this respect is still so when it commits.

* `MemberCommit.stay` : the rows that every commit leaves.
-/

namespace LedgerLight

open Infra Prog ReadCommitted

/-- The members, accounts and invites of `d` are still there in `d'`, and belong to the same. -/
structure MembersStay (d d' : Backend) : Prop where
  memberships : d.memberships.Stays (fun m => (m.organizationId, m.userId)) d'.memberships
  users : d.users.Stays (·.email) d'.users
  inviteTokens : d.inviteTokens.Stays (fun t => (t.membershipId, t.tokenHash)) d'.inviteTokens

namespace MembersStay

variable {d d₁ d' : Backend} {k userId tokenId : Id} {env : TeamEnv}

theorem refl (d : Backend) : MembersStay d d :=
  ⟨Table.stays_refl _ _, Table.stays_refl _ _, Table.stays_refl _ _⟩

theorem trans (h : MembersStay d d₁) (h' : MembersStay d₁ d') : MembersStay d d' :=
  ⟨h.memberships.trans h'.memberships, h.users.trans h'.users,
    h.inviteTokens.trans h'.inviteTokens⟩

theorem of_members (h : d'.members = d₁.members) (hd : MembersStay d d₁) : MembersStay d d' := by
  obtain ⟨hm, hu, ht⟩ : d'.memberships = d₁.memberships ∧ d'.users = d₁.users ∧
      d'.inviteTokens = d₁.inviteTokens := by simpa [Backend.members] using h
  exact ⟨hm ▸ hd.memberships, hu ▸ hd.users, ht ▸ hd.inviteTokens⟩

/-! ### Each write -/

theorem modifyMembership {f : Membership → Membership} (hd : MembersStay d d₁)
    (hf : ∀ m, (f m).organizationId = m.organizationId ∧ (f m).userId = m.userId) :
    MembersStay d (d₁.modifyMembership k f) := by
  unfold Backend.modifyMembership
  split
  · exact hd
  · next m hm =>
    have hview : ((f m).organizationId, (f m).userId) = (m.organizationId, m.userId) := by
      rw [(hf m).1, (hf m).2]
    exact ⟨hd.memberships.trans (Table.stays_insert hm hview), hd.users, hd.inviteTokens⟩

theorem setMembership {m : Membership} (hd : MembersStay d d₁)
    (hnew : d₁.memberships.lookup k = none) : MembersStay d (d₁.setMembership k m) :=
  ⟨hd.memberships.trans (Table.stays_insert_new hnew), hd.users, hd.inviteTokens⟩

theorem modifyUser {f : User → User} (hd : MembersStay d d₁) (hf : ∀ u, (f u).email = u.email) :
    MembersStay d (d₁.modifyUser userId f) := by
  unfold Backend.modifyUser
  split
  · exact hd
  · next u hu =>
    exact ⟨hd.memberships, hd.users.trans (Table.stays_insert hu (hf u)), hd.inviteTokens⟩

theorem setUser {u : User} (hd : MembersStay d d₁) (hnew : d₁.users.lookup userId = none) :
    MembersStay d (d₁.setUser userId u) :=
  ⟨hd.memberships, hd.users.trans (Table.stays_insert_new hnew), hd.inviteTokens⟩

theorem reinvite (hd : MembersStay d d₁) (hnew : d₁.inviteTokens.lookup tokenId = none) :
    MembersStay d (d₁.reinvite env tokenId k) := by
  refine ⟨hd.memberships, hd.users, hd.inviteTokens.trans ?_⟩
  refine (Table.stays_mapRows fun t => ?_).trans (Table.stays_insert_new ?_)
  · split <;> rfl
  · rw [Table.lookup_mapRows, hnew]
    rfl

theorem renewed {hasPassword : Bool} (hd : MembersStay d d₁)
    (hnew : hasPassword = false → d₁.inviteTokens.lookup (env.uuid 2) = none) :
    MembersStay d (d₁.renewed env hasPassword k) := by
  unfold Backend.renewed
  split
  · exact hd
  · next h => exact hd.reinvite (hnew (by simpa using h))

theorem acceptedBy {input : AcceptInviteDto} {hasPassword : Bool} (hd : MembersStay d d₁) :
    MembersStay d (d₁.acceptedBy env input hasPassword userId) := by
  unfold Backend.acceptedBy
  split
  · exact hd
  · exact hd.modifyUser fun _ => rfl

theorem acceptInvite (hd : MembersStay d d₁) : MembersStay d (d₁.acceptInvite env tokenId) := by
  unfold Backend.acceptInvite
  split
  · exact hd
  · next t ht =>
    exact ⟨hd.memberships, hd.users, hd.inviteTokens.trans (Table.stays_insert ht rfl)⟩

end MembersStay

/-! ## Every commit -/

section

variable {rely : Nat → Backend → Backend → Prop} {env : TeamEnv} {d d' : Backend}

theorem Invited.stay {organization : MemberContext} {input : InviteMemberDto}
    {target : InviteTarget} (h : Invited env organization input target d d') :
    MembersStay d d' := by
  cases h with
  | made unknown account new fresh members =>
    refine MembersStay.of_members members ?_
    cases account with
    | existing found => exact ((MembersStay.refl d).setMembership new).reinvite fresh
    | created unknown newUser =>
      exact (((MembersStay.refl d).setUser newUser).setMembership new).reinvite fresh
  | broughtBack found account fresh members =>
    refine MembersStay.of_members members ?_
    refine MembersStay.renewed ?_ fun hp => ?_
    · refine MembersStay.modifyUser
        (MembersStay.modifyMembership ?_ fun _ => ⟨rfl, rfl⟩) fun _ => rfl
      exact MembersStay.refl d
    · rw [Backend.inviteTokens_modifyUser, Backend.inviteTokens_modifyMembership]
      exact fresh hp

/-- **Every commit leaves the members, accounts and invites that there are.** -/
theorem MemberCommit.stay {request : MemberRequest} (h : MemberCommit rely env d d' request) :
    MembersStay d d' := by
  cases h with
  | invited seen invited => exact invited.stay
  | roleUpdated seen members =>
    exact .of_members members ((MembersStay.refl d).modifyMembership fun _ => ⟨rfl, rfl⟩)
  | logged members => exact .of_members members (MembersStay.refl d)
  | deactivated seen members =>
    exact .of_members members ((MembersStay.refl d).modifyMembership fun _ => ⟨rfl, rfl⟩)
  | reactivated seen fresh members =>
    refine .of_members members (MembersStay.renewed ?_ fun hp => ?_)
    · exact (MembersStay.refl d).modifyMembership fun _ => ⟨rfl, rfl⟩
    · rw [Backend.inviteTokens_modifyMembership]
      exact fresh hp
  | resent seen fresh members => exact .of_members members ((MembersStay.refl d).reinvite fresh)
  | accepted seen members =>
    refine .of_members members (MembersStay.acceptInvite ?_)
    refine MembersStay.modifyMembership ?_ fun _ => ⟨rfl, rfl⟩
    exact (MembersStay.refl d).acceptedBy

end

/-! ## What a call is about -/

/-- The user of the membership has a password. -/
def Backend.memberHasPassword (db : Backend) (k : Id) : Bool :=
  (db.memberships.lookup k).any fun m => (db.users.lookup m.userId).any (·.hasPassword)

/-- The call is to write over the membership: the one it names, or one of a user it invites. -/
def MemberTx.writesOver (r : MemberTx) (d : Backend) (k : Id) : Bool :=
  match r.request with
  | .inviteMember _ _ input => (d.memberships.lookup k).any fun m =>
    (d.users.lookup m.userId).any fun u => u.email == r.env.toLowerCase (r.env.trim input.email)
  | .updateMemberRole _ _ k' _ => k == k'
  | .deactivateMember _ _ k' => k == k'
  | .reactivateMember _ _ k' => k == k'
  | _ => false

/-! ## What was seen -/

section

variable {d d' : Backend} {k : Id} {m : TeamMemberRecord} {r : MemberTx}

/-- A membership that was read is still one of the same user and organization. -/
theorem MembersStay.membership (h : MembersStay d d') (hm : d.member? k = some m) :
    ∃ m', d'.memberships.lookup k = some m' ∧ m'.organizationId = m.organizationId ∧
      m'.userId = m.userId := by
  obtain ⟨m', hm', hview⟩ := h.memberships k _ (Backend.member?_eq_some hm).1
  exact ⟨m', hm', (Prod.mk.inj hview).1, (Prod.mk.inj hview).2⟩

theorem MembersStay.writesOver (h : MembersStay d d') (hw : r.writesOver d k = true) :
    r.writesOver d' k = true := by
  unfold MemberTx.writesOver at hw ⊢
  split
  · next organization actorUserId input hrequest =>
    rw [hrequest] at hw
    obtain ⟨m, hm, huser⟩ := (Option.any_eq_true _ _).mp hw
    obtain ⟨u, hu, hemail⟩ := (Option.any_eq_true _ _).mp huser
    obtain ⟨m', hm', hview⟩ := h.memberships k m hm
    obtain ⟨u', hu', hemail'⟩ := h.users m.userId u hu
    rw [hm', Option.any_some, (Prod.mk.inj hview).2, hu', Option.any_some]
    exact (congrArg (· == _) hemail').trans hemail
  all_goals simp_all

/-- The user of a membership that an invitation found has the invited e-mail. -/
theorem InviteSeen.email {rely : Nat → Backend → Backend → Prop} {env : TeamEnv}
    {organization : MemberContext} {input : InviteMemberDto} {target : InviteTarget}
    (h : InviteSeen rely env organization input target d)
    (hstay : ∀ n d d', rely n d d' → MembersStay d d') (hm : target.existingMembership = some m) :
    m.user.email = env.toLowerCase (env.trim input.email) := by
  obtain ⟨-, user, huser, d₁, hof, hrely₁⟩ := h.membership m hm
  obtain ⟨d₂, hfound, hrely₂⟩ := h.user
  rw [huser] at hfound
  -- two reads of one user, which has the same e-mail now
  have hu₁ := (Backend.member?_eq_some (Backend.memberOf?_eq_some hof).2.2).2.1
  obtain ⟨hu₂, hemail⟩ := Backend.userByEmail?_eq_some hfound
  obtain ⟨u, hu, he₁⟩ := (hstay _ _ _ hrely₁).users _ _ hu₁
  obtain ⟨u', hu', he₂⟩ := (hstay _ _ _ hrely₂).users _ _ hu₂
  obtain rfl := Option.some.inj (hu.symm.trans hu')
  exact he₁.symm.trans (he₂.trans hemail)

/-- The invitation is about the membership that it found. -/
theorem writesOver_of_memberOf {rely : Nat → Backend → Backend → Prop} {env : TeamEnv}
    {organization : MemberContext} {actorUserId organizationId : Id} {input : InviteMemberDto}
    {target : InviteTarget} {d₁ : Backend} (h : InviteSeen rely env organization input target d)
    (hstay : ∀ n d d', rely n d d' → MembersStay d d') (hm : target.existingMembership = some m)
    (hof : d₁.memberOf? organizationId m.userId = some m) :
    MemberTx.writesOver ⟨env, .inviteMember organization actorUserId input⟩ d₁ m.id = true := by
  obtain ⟨hlookup, hu, -, -⟩ := Backend.member?_eq_some (Backend.memberOf?_eq_some hof).2.2
  simp [MemberTx.writesOver, hlookup, hu, h.email hstay hm]

end

end LedgerLight
