import LedgerLight.System.TeamStays

/-!
# Nobody is made a member without accepting

Three calls make a membership active. `acceptInvitation` wants the invited user; `reactivateMember`
and the `inviteMember` of a deactivated member only want that the user has a password, which may be
one for other organizations.

* `active_accepted` : as long as these two bring back nobody who has a password and has not accepted
  an invitation, and nobody gets a password while accepting without one, a membership made in the
  run is active only after a call accepted it, authenticated if the user had a password.
* `active_unaccepted` : a user who was only invited is made active by `reactivateMember`.
-/

namespace LedgerLight

open Infra Prog ReadCommitted

/-! ## Accepting -/

namespace Backend

/-- An invite of the membership was accepted. -/
def hasAccepted (db : Backend) (k : Id) : Bool :=
  (db.inviteTokens.findRow? fun _ t => t.membershipId == k && t.acceptedAt.isSome).isSome

def isActive (db : Backend) (k : Id) : Bool :=
  (db.memberships.lookup k).any fun m => m.status == .active

/-- An invite of the membership has this hash. -/
def invites (db : Backend) (tokenHash : String) (k : Id) : Bool :=
  (db.inviteTokens.findRow? fun _ t => t.tokenHash == tokenHash && t.membershipId == k).isSome

end Backend

namespace MemberTx

variable (r : MemberTx)

/-- The call is to accept an invite of the membership. -/
def accepts (d : Backend) (k : Id) : Bool :=
  match r.request with
  | .acceptInvitation input _ => d.invites (r.env.sha256 input.token) k
  | _ => false

/-- The user the call was authenticated as. -/
def authenticatedUserId? : Option Id :=
  match r.request with
  | .acceptInvitation _ authenticatedUserId => authenticatedUserId
  | _ => none

/-- The call is to bring back the membership. -/
def bringsBack (d : Backend) (k : Id) : Bool :=
  match r.request with
  | .inviteMember _ _ _ => r.writesOver d k
  | .reactivateMember _ _ _ => r.writesOver d k
  | _ => false

/-- The user who accepts without a password has got none since the call looked. -/
def StillNew (n : Nat) (d d' : Backend) : Prop :=
  1 ≤ n → ∀ k ∈ d'.memberships.keys, r.accepts d k = true → d'.memberHasPassword k = true →
    d.memberHasPassword k = true

instance (n : Nat) (d d' : Backend) : Decidable (r.StillNew n d d') :=
  inferInstanceAs (Decidable (_ → _))

end MemberTx

/-- A step that brings back nobody with a password who has not accepted, but those in `db₀`, and
gives nobody a password who is accepting without one. -/
def OnlyAccepted (db₀ : Backend) (st : TeamSessions) (a : Move MemberTx Empty) : Prop :=
  match st.commits? a with
  | none => True
  | some (t, x) =>
    (∀ k ∈ st.db.memberships.keys, k ∉ db₀.memberships.keys → x.label.bringsBack st.db k = true →
      st.db.memberHasPassword k = true → st.db.hasAccepted k = true) ∧
    ∀ e ∈ st.sessions.entries, e.1 ≠ t → e.2.label.StillNew e.2.statements st.db (x.writes st.db)

instance (db₀ : Backend) (st : TeamSessions) (a : Move MemberTx Empty) :
    Decidable (OnlyAccepted db₀ st a) := by
  unfold OnlyAccepted
  split <;> infer_instance

/-! ## What a call relies on -/

/-- Who has a password keeps one. -/
def PasswordsStay (d d' : Backend) : Prop :=
  ∀ userId u, d.users.lookup userId = some u → u.hasPassword = true →
    ∃ u', d'.users.lookup userId = some u' ∧ u'.hasPassword = true

/-- What is committed while a call runs leaves the members that there are and their passwords, and
gives none to a user who is accepting without. -/
def acceptRely (r : MemberTx) (n : Nat) (d d' : Backend) : Prop :=
  MembersStay d d' ∧ PasswordsStay d d' ∧ r.StillNew n d d'

def acceptContract (r : MemberTx) : Contract Backend where
  rely := acceptRely r
  post d d' := MemberCommit (acceptRely r) r.env d d' r.request

section

variable {r : MemberTx} {d d₁ d' : Backend} {k : Id} {env : TeamEnv} {n : Nat}

theorem Backend.hasAccepted_iff : d.hasAccepted k = true ↔
    ∃ tokenId t, d.inviteTokens.lookup tokenId = some t ∧ t.membershipId = k ∧
      t.acceptedAt.isSome = true := by
  unfold Backend.hasAccepted
  rw [Table.findRow?_isSome]
  simp only [Bool.and_eq_true, beq_iff_eq]

theorem Backend.invites_iff {tokenHash : String} : d.invites tokenHash k = true ↔
    ∃ tokenId t, d.inviteTokens.lookup tokenId = some t ∧ t.tokenHash = tokenHash ∧
      t.membershipId = k := by
  unfold Backend.invites
  rw [Table.findRow?_isSome]
  simp only [Bool.and_eq_true, beq_iff_eq]

theorem Backend.memberHasPassword_iff : d.memberHasPassword k = true ↔
    ∃ m u, d.memberships.lookup k = some m ∧ d.users.lookup m.userId = some u ∧
      u.hasPassword = true := by
  simp only [Backend.memberHasPassword, Option.any_eq_true]
  constructor
  · rintro ⟨m, hm, u, hu, hp⟩
    exact ⟨m, u, hm, hu, hp⟩
  · rintro ⟨m, u, hm, hu, hp⟩
    exact ⟨m, hm, u, hu, hp⟩

theorem MembersStay.invites {tokenHash : String} (h : MembersStay d d')
    (hd : d.invites tokenHash k = true) : d'.invites tokenHash k = true := by
  obtain ⟨tokenId, t, ht, hhash, hk⟩ := Backend.invites_iff.mp hd
  obtain ⟨t', ht', hview⟩ := h.inviteTokens tokenId t ht
  obtain ⟨hk', hhash'⟩ := Prod.mk.inj hview
  exact Backend.invites_iff.mpr ⟨tokenId, t', ht', hhash'.trans hhash, hk'.trans hk⟩

theorem MembersStay.accepts (h : MembersStay d d') (hd : r.accepts d k = true) :
    r.accepts d' k = true := by
  obtain ⟨env, request⟩ := r
  cases request with
  | acceptInvitation input authenticatedUserId => exact h.invites hd
  | _ => cases hd

theorem PasswordsStay.refl (d : Backend) : PasswordsStay d d := fun _ u hu hp => ⟨u, hu, hp⟩

theorem PasswordsStay.trans (h : PasswordsStay d d₁) (h' : PasswordsStay d₁ d') :
    PasswordsStay d d' := by
  intro userId u hu hp
  obtain ⟨u₁, hu₁, hp₁⟩ := h userId u hu hp
  exact h' userId u₁ hu₁ hp₁

/-- A member with a password keeps it. -/
theorem PasswordsStay.member (h : PasswordsStay d d') (hstay : MembersStay d d')
    (hd : d.memberHasPassword k = true) : d'.memberHasPassword k = true := by
  obtain ⟨m, u, hm, hu, hp⟩ := Backend.memberHasPassword_iff.mp hd
  obtain ⟨m', hm', hview⟩ := hstay.memberships k m hm
  obtain ⟨u', hu', hp'⟩ := h m.userId u hu hp
  exact Backend.memberHasPassword_iff.mpr ⟨m', u', hm', (Prod.mk.inj hview).2 ▸ hu', hp'⟩

theorem Backend.mem_keys_of_memberHasPassword (h : d.memberHasPassword k = true) :
    k ∈ d.memberships.keys := by
  obtain ⟨m, -, hm, -⟩ := Backend.memberHasPassword_iff.mp h
  exact AList.lookup_isSome.mp (by rw [hm]; rfl)

theorem rely_acceptRely : Rely (acceptRely r) where
  refl _ d := ⟨MembersStay.refl d, PasswordsStay.refl d, fun _ _ _ _ h => h⟩
  trans := by
    rintro n d d' d'' ⟨hstay, hpasswords, hnew⟩ ⟨hstay', hpasswords', hnew'⟩
    refine ⟨hstay.trans hstay', hpasswords.trans hpasswords', fun hn k hk haccepts hp => ?_⟩
    have hp' := hnew' hn k hk (hstay.accepts haccepts) hp
    exact hnew hn k (Backend.mem_keys_of_memberHasPassword hp') haccepts hp'

theorem narrowing_acceptRely : Narrowing (acceptRely r) :=
  fun _ _ _ h => ⟨h.1, h.2.1, fun hn => h.2.2 (Nat.le_succ_of_le hn)⟩

/-! ## What was seen of an invitation -/

section

variable {input : AcceptInviteDto} {authenticatedUserId : Option Id}
  {invitation : TeamInvitationRecord}
  (h : AcceptSeen (acceptRely ⟨env, .acceptInvitation input authenticatedUserId⟩) env input
    authenticatedUserId invitation d)
include h

theorem AcceptSeen.invites :
    d.invites (env.sha256 input.token) invitation.membership.id = true := by
  obtain ⟨d₁, hfound, hrely⟩ := h.found
  obtain ⟨ht, hhash, hm⟩ := Backend.invitation?_eq_some hfound
  have hid := (Backend.member?_eq_some hm).2.2.1
  exact hrely.1.invites (Backend.invites_iff.mpr ⟨_, _, ht, hhash, hid.symm⟩)

/-- The token that is accepted is one of the membership. -/
theorem AcceptSeen.token : ∃ t, d.inviteTokens.lookup invitation.id = some t ∧
    t.membershipId = invitation.membership.id := by
  obtain ⟨d₁, hfound, hrely⟩ := h.found
  obtain ⟨ht, -, hm⟩ := Backend.invitation?_eq_some hfound
  obtain ⟨t, ht', hview⟩ := hrely.1.inviteTokens _ _ ht
  exact ⟨t, ht', (Prod.mk.inj hview).1.trans (Backend.member?_eq_some hm).2.2.1.symm⟩

/-- The membership is still one of the user who was seen. -/
theorem AcceptSeen.membership : ∃ m, d.memberships.lookup invitation.membership.id = some m ∧
    m.userId = invitation.membership.userId := by
  obtain ⟨d₁, hfound, hrely⟩ := h.found
  obtain ⟨-, -, hm⟩ := Backend.invitation?_eq_some hfound
  have hid := (Backend.member?_eq_some hm).2.2.1
  obtain ⟨m, hm', -, hu⟩ := hrely.1.membership (hid ▸ hm)
  exact ⟨m, hm', hu⟩

/-- Who had no password has none now. -/
theorem AcceptSeen.stillNew (hp : invitation.membership.user.hasPassword = false) :
    d.memberHasPassword invitation.membership.id = false := by
  obtain ⟨d₁, hfound, hrely⟩ := h.found
  obtain ⟨ht, hhash, hm⟩ := Backend.invitation?_eq_some hfound
  obtain ⟨hlookup, hu, hid, -⟩ := Backend.member?_eq_some hm
  by_contra hnow
  rw [Bool.not_eq_false] at hnow
  have hthen := hrely.2.2 le_rfl _ (Backend.mem_keys_of_memberHasPassword hnow)
    (Backend.invites_iff.mpr ⟨_, _, ht, hhash, hid.symm⟩) hnow
  obtain ⟨m', u', hm', hu', hp'⟩ := Backend.memberHasPassword_iff.mp hthen
  rw [hid, hlookup] at hm'
  obtain rfl := Option.some.inj hm'
  obtain rfl := Option.some.inj (hu.symm.trans hu')
  exact absurd (hp.symm.trans hp') (by simp)

end

/-! ## Passwords that stay -/

theorem PasswordsStay.of_users (h : d'.users = d₁.users) (hd : PasswordsStay d d₁) :
    PasswordsStay d d' := by
  intro userId u hu hp
  rw [h]
  exact hd userId u hu hp

theorem users_of_members (h : d'.members = d.members) : d'.users = d.users :=
  congrArg (fun p => p.2.1) h

theorem PasswordsStay.setUser {userId : Id} {u : User} (hnew : d.users.lookup userId = none) :
    PasswordsStay d (d.setUser userId u) := by
  intro userId' u' hu' hp
  refine ⟨u', ?_, hp⟩
  have hne : userId' ≠ userId := fun he => by
    rw [he, hnew] at hu'
    cases hu'
  exact (AList.lookup_insert_ne hne).trans hu'

/-- A change of a user who keeps the password, or has none. -/
theorem PasswordsStay.modifyUser {userId : Id} {f : User → User} (hd : PasswordsStay d d₁)
    (hf : ∀ u, d₁.users.lookup userId = some u → u.hasPassword = true →
      (f u).hasPassword = true) : PasswordsStay d (d₁.modifyUser userId f) := by
  refine hd.trans ?_
  intro userId' u' hu' hp
  unfold Backend.modifyUser
  split
  · exact ⟨u', hu', hp⟩
  · next u hu =>
    by_cases he : userId' = userId
    · subst he
      obtain rfl := Option.some.inj (hu.symm.trans hu')
      exact ⟨f u, AList.lookup_insert _, hf u hu hp⟩
    · exact ⟨u', (AList.lookup_insert_ne he).trans hu', hp⟩

/-- **Nobody loses a password.** -/
theorem MemberCommit.passwords (h : MemberCommit (acceptRely r) r.env d d' r.request) :
    PasswordsStay d d' := by
  obtain ⟨env, request⟩ := r
  cases h with
  | invited seen invited =>
    cases invited with
    | made unknown account new fresh members =>
      refine .of_users (users_of_members members) ?_
      cases account with
      | existing found => exact PasswordsStay.refl d
      | created unknown newUser => exact PasswordsStay.setUser newUser
    | broughtBack found account fresh members =>
      refine .of_users (users_of_members members) (.of_users Backend.users_renewed ?_)
      refine PasswordsStay.modifyUser ?_ fun u _ hp => hp
      exact .of_users Backend.users_modifyMembership (.refl d)
  | roleUpdated seen members =>
    exact .of_users (users_of_members members)
      (.of_users Backend.users_modifyMembership (.refl d))
  | logged members => exact .of_users (users_of_members members) (.refl d)
  | deactivated seen members =>
    exact .of_users (users_of_members members)
      (.of_users Backend.users_modifyMembership (.refl d))
  | reactivated seen fresh members =>
    exact .of_users (users_of_members members) (.of_users Backend.users_renewed
      (.of_users Backend.users_modifyMembership (.refl d)))
  | resent seen fresh members => exact .of_users (users_of_members members) (.refl d)
  | @accepted input authenticatedUserId invitation seen members =>
    have hkeeps : PasswordsStay d (d.acceptedBy env input invitation.membership.user.hasPassword
        invitation.membership.userId) := by
      unfold Backend.acceptedBy
      split
      · exact .refl d
      · next hp =>
        refine (PasswordsStay.refl d).modifyUser fun u hu hpassword => ?_
        -- the user has no password yet
        obtain ⟨m, hm, huser⟩ := seen.membership
        have hnew := seen.stillNew (by simpa using hp)
        rw [Backend.memberHasPassword, hm, Option.any_some, huser, hu, Option.any_some] at hnew
        exact absurd (hnew.symm.trans hpassword) (by simp)
    exact .of_users (users_of_members members) (.of_users Backend.users_acceptInvite
      (.of_users Backend.users_modifyMembership hkeeps))

/-! ## Who becomes active -/

/-- The membership is active, or was made so by accepting. -/
def Backend.joined (d : Backend) (k : Id) : Bool := d.isActive k || d.hasAccepted k

theorem isActive_of_members (h : d'.members = d.members) : d'.isActive k = d.isActive k := by
  have hm : d'.memberships = d.memberships := congrArg (·.1) h
  rw [Backend.isActive, hm, Backend.isActive]

theorem hasAccepted_of_members (h : d'.members = d.members) :
    d'.hasAccepted k = d.hasAccepted k := by
  rw [Backend.hasAccepted, inviteTokens_of_members h, Backend.hasAccepted]

theorem joined_of_members (h : d'.members = d.members) : d'.joined k = d.joined k := by
  rw [Backend.joined, isActive_of_members h, hasAccepted_of_members h, Backend.joined]

/-- A change of a membership activates no other. -/
theorem isActive_of_modifyMembership {k' : Id} {f : Membership → Membership}
    (h : (d.modifyMembership k' f).isActive k = true) :
    d.isActive k = true ∨ k = k' ∧ ∃ m, (f m).status = .active ∧
      d.memberships.lookup k = some m := by
  unfold Backend.modifyMembership at h
  split at h
  · exact Or.inl h
  · next m hm =>
    by_cases he : k = k'
    · subst he
      simp only [Backend.isActive, Backend.memberships_setMembership, AList.lookup_insert,
        Option.any_some, beq_iff_eq] at h
      exact Or.inr ⟨rfl, m, h, hm⟩
    · refine Or.inl ?_
      simpa only [Backend.isActive, Backend.memberships_setMembership,
        AList.lookup_insert_ne he] using h

/-- An invite that is made is not accepted. -/
theorem hasAccepted_of_reinvite {tokenId k' : Id}
    (h : (d.reinvite env tokenId k').hasAccepted k = true) : d.hasAccepted k = true := by
  obtain ⟨i, t, ht, hk, haccepted⟩ := Backend.hasAccepted_iff.mp h
  replace ht := (Table.lookup_insert_ite ..).symm.trans ht
  split at ht
  · cases ht
    cases haccepted
  · rw [show (d.expireInvites env k').inviteTokens = d.inviteTokens.mapRows _ from rfl,
      Table.lookup_mapRows] at ht
    obtain ⟨t', ht', rfl⟩ := Option.map_eq_some_iff.mp ht
    refine Backend.hasAccepted_iff.mpr ⟨i, t', ht', ?_⟩
    split at hk
    · next hlive => rw [if_pos hlive] at haccepted; exact ⟨hk, haccepted⟩
    · next hlive => rw [if_neg hlive] at haccepted; exact ⟨hk, haccepted⟩

theorem hasAccepted_of_renewed {hasPassword : Bool} {k' : Id}
    (h : (d.renewed env hasPassword k').hasAccepted k = true) : d.hasAccepted k = true := by
  unfold Backend.renewed at h
  split at h
  · exact h
  · exact hasAccepted_of_reinvite h

/-- Accepting an invite is accepting one of its membership. -/
theorem hasAccepted_of_acceptInvite {tokenId : Id}
    (h : (d.acceptInvite env tokenId).hasAccepted k = true) :
    d.hasAccepted k = true ∨ ∃ t, d.inviteTokens.lookup tokenId = some t ∧ t.membershipId = k := by
  unfold Backend.acceptInvite at h
  split at h
  · exact Or.inl h
  · next t ht =>
    obtain ⟨i, t', ht', hk, haccepted⟩ := Backend.hasAccepted_iff.mp h
    replace ht' := (Table.lookup_insert_ite ..).symm.trans ht'
    split at ht'
    · cases ht'
      exact Or.inr ⟨t, ht, hk⟩
    · exact Or.inl (Backend.hasAccepted_iff.mpr ⟨i, t', ht', hk, haccepted⟩)

/-- A member who was read with a password has one. -/
theorem memberHasPassword_of_member {m : TeamMemberRecord} (hm : d₁.member? k = some m)
    (hp : m.user.hasPassword = true) (hrely : acceptRely r n d₁ d) :
    d.memberHasPassword k = true := by
  obtain ⟨hlookup, hu, -, -⟩ := Backend.member?_eq_some hm
  exact hrely.2.1.member hrely.1 (Backend.memberHasPassword_iff.mpr ⟨_, _, hlookup, hu, hp⟩)

/-- A change that keeps the status activates nobody. -/
theorem joined_of_keeps {k' : Id} {f : Membership → Membership}
    (hf : ∀ m, (f m).status = .active → m.status = .active)
    (h : (d.modifyMembership k' f).joined k = true) : d.joined k = true := by
  rw [Backend.joined, Bool.or_eq_true] at h ⊢
  rcases h with hactive | haccepted
  · rcases isActive_of_modifyMembership hactive with hd | ⟨-, m, hstatus, hm⟩
    · exact Or.inl hd
    · refine Or.inl ?_
      simp [Backend.isActive, hm, hf m hstatus]
  · refine Or.inr ?_
    rwa [Backend.hasAccepted, Backend.inviteTokens_modifyMembership] at haccepted

/-- A membership that is made is not active. -/
theorem joined_of_made {db : Backend} {m : Membership} {k' tokenId k'' : Id}
    (hm : m.status ≠ .active) (hmemberships : db.memberships = d.memberships)
    (htokens : db.inviteTokens = d.inviteTokens)
    (h : ((db.setMembership k' m).reinvite env tokenId k'').joined k = true) :
    d.joined k = true := by
  rw [Backend.joined, Bool.or_eq_true] at h ⊢
  rcases h with hactive | haccepted
  · refine Or.inl ?_
    rw [Backend.isActive, Backend.memberships_reinvite, Backend.memberships_setMembership,
      Table.lookup_insert_ite] at hactive
    split at hactive
    · simp [hm] at hactive
    · rwa [hmemberships] at hactive
  · refine Or.inr ?_
    have hold := hasAccepted_of_reinvite haccepted
    rwa [Backend.hasAccepted, Backend.inviteTokens_setMembership, htokens] at hold

/-- A member who comes back without having been active had a password. -/
theorem joined_of_renewed {k' : Id} {f : Membership → Membership} {hasPassword : Bool}
    {db : Backend} (hdb : db.memberships = (d.modifyMembership k' f).memberships ∧
      db.inviteTokens = d.inviteTokens)
    (hf : ∀ m, (f m).status = .active → hasPassword = true)
    (h : (db.renewed env hasPassword k').joined k = true) :
    d.joined k = true ∨ k = k' ∧ hasPassword = true := by
  rw [Backend.joined, Bool.or_eq_true] at h
  rw [Backend.joined, Bool.or_eq_true]
  rcases h with hactive | haccepted
  · rw [Backend.isActive, Backend.memberships_renewed, hdb.1] at hactive
    rcases isActive_of_modifyMembership hactive with hd | ⟨hk, m, hstatus, -⟩
    · exact Or.inl (Or.inl hd)
    · exact Or.inr ⟨hk, hf m hstatus⟩
  · have haccepted' := hasAccepted_of_renewed haccepted
    rw [Backend.hasAccepted, hdb.2] at haccepted'
    exact Or.inl (Or.inr haccepted')

theorem reinstatedAs_active {role : Role} {hasPassword : Bool} {invitedAt : Option Date}
    {m : Membership} (h : (reinstatedAs env role hasPassword invitedAt m).status = .active) :
    hasPassword = true := by
  cases hasPassword with
  | true => rfl
  | false => cases h

/-- **A commit by which somebody joins accepts their invitation**, if nobody is brought back who has
a password and has not accepted. -/
theorem MemberCommit.joins (h : MemberCommit (acceptRely r) r.env d d' r.request)
    (hback : r.bringsBack d k = true → d.memberHasPassword k = true → d.hasAccepted k = true)
    (hjoined : d'.joined k = true) (hnot : ¬ d.joined k = true) :
    r.accepts d k = true ∧ ∃ m, d.memberships.lookup k = some m ∧
      (d.memberHasPassword k = true → r.authenticatedUserId? = some m.userId) := by
  have hnone : ¬ d.hasAccepted k = true := fun h => hnot (by simp [Backend.joined, h])
  obtain ⟨env, request⟩ := r
  cases h with
  | @invited organization actorUserId input target seen invited =>
    cases invited with
    | made unknown account new fresh members =>
      rw [joined_of_members members] at hjoined
      refine absurd ?_ hnot
      cases account with
      | existing found => exact joined_of_made (fun h => by cases h) rfl rfl hjoined
      | created unknown newUser => exact joined_of_made (fun h => by cases h) rfl rfl hjoined
    | @broughtBack userId user m found account fresh members =>
      rw [joined_of_members members] at hjoined
      rcases joined_of_renewed ⟨Backend.memberships_modifyUser, Backend.inviteTokens_modifyUser.trans
        Backend.inviteTokens_modifyMembership⟩ (fun _ => reinstatedAs_active) hjoined with
        hd | ⟨rfl, hp⟩
      · exact absurd hd hnot
      · obtain ⟨-, user', huser', d₁, hof, hrely⟩ := seen.membership m found
        obtain ⟨rfl, rfl⟩ := Prod.mk.inj (Option.some.inj (account.symm.trans huser'))
        refine absurd (hback ?_ ?_) hnone
        · exact hrely.1.writesOver
            (writesOver_of_memberOf seen (fun _ _ _ hrely => hrely.1) found hof)
        · -- the password was read with the account, which the membership is still one of
          obtain ⟨m', hm', -, huser⟩ := hrely.1.membership (Backend.memberOf?_eq_some hof).2.2
          obtain ⟨d₂, hfound, hrely₂⟩ := seen.user
          rw [account] at hfound
          have hu := (Backend.userByEmail?_eq_some hfound).1
          obtain ⟨u, hu', hp'⟩ := hrely₂.2.1 _ _ hu hp
          exact Backend.memberHasPassword_iff.mpr ⟨m', u, hm', huser ▸ hu', hp'⟩
  | roleUpdated seen members =>
    rw [joined_of_members members] at hjoined
    refine absurd (joined_of_keeps ?_ hjoined) hnot
    exact fun m h => h
  | logged members => exact absurd (joined_of_members members ▸ hjoined) hnot
  | deactivated seen members =>
    rw [joined_of_members members] at hjoined
    refine absurd (joined_of_keeps ?_ hjoined) hnot
    exact fun m h => by cases h
  | @reactivated organization actorUserId k' m seen fresh members =>
    rw [joined_of_members members] at hjoined
    rcases joined_of_renewed ⟨rfl, Backend.inviteTokens_modifyMembership⟩
      (fun m' => reinstatedAs_active (m := m')) hjoined with hd | ⟨rfl, hp⟩
    · exact absurd hd hnot
    · obtain ⟨d₁, hm, hrely⟩ := seen.member
      refine absurd (hback ?_ (memberHasPassword_of_member hm hp hrely)) hnone
      simp [MemberTx.bringsBack, MemberTx.writesOver]
  | resent seen fresh members =>
    rw [joined_of_members members, Backend.joined, Bool.or_eq_true] at hjoined
    refine absurd ?_ hnot
    rw [Backend.joined, Bool.or_eq_true]
    exact hjoined.imp_right hasAccepted_of_reinvite
  | @accepted input authenticatedUserId invitation seen members =>
    rw [joined_of_members members, Backend.joined, Bool.or_eq_true] at hjoined
    have hk : k = invitation.membership.id := by
      rcases hjoined with hactive | haccepted
      · rw [Backend.isActive, Backend.memberships_acceptInvite] at hactive
        rcases isActive_of_modifyMembership hactive with hd | ⟨hk, -⟩
        · rw [Backend.isActive, Backend.memberships_acceptedBy] at hd
          exact absurd (by rw [Backend.joined, Backend.isActive, hd]; rfl) hnot
        · exact hk
      · have htokens : ((d.acceptedBy env input invitation.membership.user.hasPassword
            invitation.membership.userId).modifyMembership invitation.membership.id
            (activated env)).inviteTokens = d.inviteTokens := by
          rw [Backend.inviteTokens_modifyMembership, Backend.inviteTokens_acceptedBy]
        rcases hasAccepted_of_acceptInvite haccepted with hd | ⟨t, ht, hk⟩
        · rw [Backend.hasAccepted, htokens] at hd
          exact absurd hd hnone
        · obtain ⟨t', ht', hk'⟩ := seen.token
          rw [htokens] at ht
          obtain rfl := Option.some.inj (ht.symm.trans ht')
          exact hk.symm.trans hk'
    subst hk
    obtain ⟨m, hm, hu⟩ := seen.membership
    refine ⟨seen.invites, m, hm, fun hp => ?_⟩
    have hread : invitation.membership.user.hasPassword = true := by
      by_contra hno
      rw [seen.stillNew (by simpa using hno)] at hp
      cases hp
    rw [hu]
    exact seen.authenticated hread

end

/-! ## Runs -/

/-- The invites of the database are for memberships that there are (a foreign key). -/
def Backend.InvitesRefer (db : Backend) : Prop :=
  ∀ e ∈ db.inviteTokens.entries, e.2.membershipId ∈ db.memberships.keys

instance (db : Backend) : Decidable db.InvitesRefer := by
  unfold Backend.InvitesRefer
  infer_instance

/-- What a step commits respects what the calls rely on. -/
theorem respects_of_onlyAccepted {db₀ : Backend} (st : TeamSessions) (a : Move MemberTx Empty)
    (h : st.Secured teamCell acceptContract) (hc : OnlyAccepted db₀ st a) :
    st.Respects acceptContract a := by
  unfold OnlyAccepted at hc
  unfold Store.Respects
  split
  · trivial
  · next t x hcommit =>
    rw [hcommit] at hc
    have hpost : MemberCommit (acceptRely x.label) x.label.env st.db (x.writes st.db)
        x.label.request := h.commit (fun _ => rely_acceptRely) hcommit
    exact fun e he hne => ⟨hpost.stay, hpost.passwords, hc.2 e he hne⟩

/-- **Nobody is made a member without accepting**: in every run of calls, in any order of their
statements, that brings back nobody who has a password and has not accepted, and gives nobody a
password who is accepting without, a membership made in the run is active only after a call has
committed that accepts an invite of it; and if its user had a password then, the call was
authenticated as that user. -/
theorem active_accepted (db₀ : Backend) (hforeign : db₀.InvitesRefer)
    (as : List (Move MemberTx Empty))
    (h : teamSessions.Meets (OnlyAccepted db₀) (Store.start db₀ ()) as) (k : Id)
    (hnew : db₀.memberships.lookup k = none)
    (hactive : (teamSessions.run (Store.start db₀ ()) as).db.isActive k = true) :
    ∃ as₁ a as₂ t x, as = as₁ ++ a :: as₂ ∧
      (teamSessions.run (Store.start db₀ ()) as₁).commits? a = some (t, x) ∧
      x.label.accepts (teamSessions.run (Store.start db₀ ()) as₁).db k = true ∧
      ∃ m, (teamSessions.run (Store.start db₀ ()) as₁).db.memberships.lookup k = some m ∧
        ((teamSessions.run (Store.start db₀ ()) as₁).db.memberHasPassword k = true →
          x.label.authenticatedUserId? = some m.userId) := by
  have hkeys : k ∉ db₀.memberships.keys := fun hmem => by
    have hsome := AList.lookup_isSome.mpr (show k ∈ db₀.memberships from hmem)
    rw [hnew] at hsome
    cases hsome
  have hstart : ¬ db₀.joined k = true := by
    rw [Backend.joined, Bool.or_eq_true, Backend.isActive, hnew]
    rintro (hno | haccepted)
    · cases hno
    · obtain ⟨tokenId, t, ht, rfl, -⟩ := Backend.hasAccepted_iff.mp haccepted
      exact hkeys (hforeign _ (Table.mem_entries_of_lookup ht))
  obtain ⟨as₁, a, as₂, rfl, hnot, hjoined⟩ := Machine.exists_step_of_run
    (P := fun st : TeamSessions => st.db.joined k = true) hstart
    (by rw [Backend.joined, hactive, Bool.true_or])
  -- the step by which the membership joins is a commit
  obtain ⟨hbefore, hc, -⟩ := (Machine.meets_append ..).mp h
  have hprog : ∀ r d, (MemberTx.prog r).Secures teamCell (acceptContract r).rely
      (fun _ _ writes d => (acceptContract r).post d (writes d)) [] 0 id d :=
    fun r d => MemberTx.secures rely_acceptRely narrowing_acceptRely r d
  obtain ⟨-, hsecured⟩ := secured_run (fun _ => rely_acceptRely) MemberTx.prog_footprint hprog
    respects_of_onlyAccepted hbefore
  cases hcommit : (teamSessions.run (Store.start db₀ ()) as₁).commits? a with
  | none =>
    have hsame : (teamSessions.step (teamSessions.run (Store.start db₀ ()) as₁) a).db = _ :=
      Store.db_of_commits?_eq_none hcommit
    exact absurd (hsame ▸ hjoined) hnot
  | some p =>
    obtain ⟨t, x⟩ := p
    have hdb : (teamSessions.step (teamSessions.run (Store.start db₀ ()) as₁) a).db = _ :=
      Store.db_of_commits? hcommit
    have hpost : MemberCommit (acceptRely x.label) x.label.env _ _ x.label.request :=
      hsecured.commit (fun _ => rely_acceptRely) hcommit
    unfold OnlyAccepted at hc
    rw [hcommit] at hc
    obtain ⟨haccepts, m, hm, hauth⟩ := hpost.joins (k := k)
      (fun hback hp => hc.1 k (Backend.mem_keys_of_memberHasPassword hp) hkeys hback hp)
      (hdb ▸ hjoined) hnot
    exact ⟨as₁, a, as₂, t, x, rfl, hcommit, haccepts, m, hm, hauth⟩

namespace Office

/-- The owner, and a user with a password who is a member of another organization only. -/
def withStranger : Backend :=
  (staffed [(annMember, membership ann .owner, user "ann")]).setUser bob (user "bob")

def invite (n : Nat) (name : String) : MemberTx :=
  { env := env n
    request := .inviteMember (acts annMember .owner) ann
      { email := name ++ "@office.test", role := .cashier } }

def accept (n : Nat) : MemberTx :=
  { env := env n
    request := .acceptInvitation { token := "token", password := some "correct horse" } none }

/-- An invitation of somebody new, who accepts it with a password. -/
def invitedAndAccepted : List (Move MemberTx Empty) :=
  .begin 0 (invite 1 "cleo") :: steps 0 10 ++ .begin 1 (accept 2) :: steps 1 7

/-- An invitation of the stranger, who is then reactivated. -/
def invitedAndReactivated : List (Move MemberTx Empty) :=
  .begin 0 (invite 1 "bob") :: steps 0 10 ++
    .begin 1 { env := env 2, request := .reactivateMember (acts annMember .owner) ann ⟨1, 1⟩ } ::
      steps 1 6

end Office

theorem active_accepted_office :
    ∃ as₁ a as₂ t x, Office.invitedAndAccepted = as₁ ++ a :: as₂ ∧
      (teamSessions.run (Store.start Office.withStranger ()) as₁).commits? a = some (t, x) ∧
      x.label.accepts (teamSessions.run (Store.start Office.withStranger ()) as₁).db ⟨1, 1⟩ =
        true := by
  obtain ⟨as₁, a, as₂, t, x, has, hcommit, haccepts, -⟩ := active_accepted Office.withStranger
    (by decide) Office.invitedAndAccepted (by decide) ⟨1, 1⟩ (by decide) (by decide)
  exact ⟨as₁, a, as₂, t, x, has, hcommit, haccepts⟩

/-- **A user who was only invited becomes active**: `reactivateMember` looks neither at the status
of the membership nor at its invitations, but at the password of the user. -/
theorem active_unaccepted :
    Office.withStranger.InvitesRefer ∧ Office.withStranger.memberships.lookup ⟨1, 1⟩ = none ∧
      (teamSessions.run (Store.start Office.withStranger ())
        Office.invitedAndReactivated).db.isActive ⟨1, 1⟩ = true ∧
      ∀ t env input authenticatedUserId,
        Move.begin t { env := env, request := .acceptInvitation input authenticatedUserId } ∉
          Office.invitedAndReactivated := by
  refine ⟨by decide, by decide, by decide, ?_⟩
  simp [Office.invitedAndReactivated, Office.steps, Office.invite]

end LedgerLight
