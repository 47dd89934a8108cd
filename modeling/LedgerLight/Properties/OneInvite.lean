import LedgerLight.Infra.Clock
import LedgerLight.Properties.InvitesOnce

/-!
# One live invite for a membership

Old invites are not deleted. What ends one is that it is accepted, that it expires, or that its
membership is not invited any more; and the status of a membership moves back and forth.

* `MemberCommit.inviteChange` : what a commit does to the invites.
* `InviteChange.live` : an invite that has ended has ended for good.
* `one_live_invite` : in every run under a clock that does not go back, a membership has one live
  invite at most; and after it has become active, or an invite of it was accepted or issued, every
  earlier one is refused.
-/

namespace LedgerLight

open Infra Prog ReadCommitted

namespace Backend

def isInvited (db : Backend) (k : Id) : Bool :=
  (db.memberships.lookup k).any fun m => m.status == .invited

/-- The invite can be accepted: it was not, it has not expired, and its membership is invited. -/
def live (db : Backend) (now : Date) (tokenId : Id) : Bool :=
  (db.inviteTokens.lookup tokenId).any fun t =>
    t.acceptedAt.isNone && decide (now < t.expiresAt) && db.isInvited t.membershipId

theorem live_iff {db : Backend} {now : Date} {i : Id} : db.live now i = true ↔
    ∃ t, db.inviteTokens.lookup i = some t ∧ t.acceptedAt = none ∧ now < t.expiresAt ∧
      db.isInvited t.membershipId = true := by
  simp only [live, Option.any_eq_true, Bool.and_eq_true, Option.isNone_iff_eq_none,
    decide_eq_true_eq, and_assoc]

end Backend

/-! ## What a commit does to the invites -/

/-- The invites after a commit: as they were; or all of one membership ended and a new one issued;
or one of them accepted, so that its membership is active. Otherwise no membership becomes
invited. -/
inductive InviteChange (env : TeamEnv) (d d' : Backend) : Prop
  | kept (tokens : d'.inviteTokens = d.inviteTokens)
      (invited : ∀ k, d'.isInvited k = true → d.isInvited k = true)
  | issued {k tokenId : Id} (fresh : d.inviteTokens.lookup tokenId = none)
      (tokens : d'.inviteTokens = (d.reinvite env tokenId k).inviteTokens)
      (invited : ∀ k', k' ≠ k → d'.isInvited k' = true → d.isInvited k' = true)
  | accepted {tokenId : Id} {t : InviteToken} (found : d.inviteTokens.lookup tokenId = some t)
      (tokens : d'.inviteTokens =
        d.inviteTokens.insert tokenId { t with acceptedAt := some env.now })
      (active : d'.isActive t.membershipId = true)
      (invited : ∀ k, d'.isInvited k = true → d.isInvited k = true)

section

variable {env : TeamEnv} {d d' : Backend} {k i j : Id} {t t' : InviteToken} {c c' : Date}

theorem not_invited_of_active (h : d.isActive k = true) : d.isInvited k = false := by
  obtain ⟨m, hm, hactive⟩ := (Option.any_eq_true _ _).mp h
  rw [beq_iff_eq] at hactive
  simp [Backend.isInvited, hm, hactive]

/-- An invite of an active membership has ended. -/
theorem not_live_of_active (ht : d.inviteTokens.lookup i = some t)
    (h : d.isActive t.membershipId = true) : d.live c i = false := by
  by_contra hlive
  rw [Bool.not_eq_false] at hlive
  obtain ⟨t', ht', -, -, hinvited⟩ := Backend.live_iff.mp hlive
  obtain rfl := Option.some.inj (ht.symm.trans ht')
  rw [not_invited_of_active h] at hinvited
  cases hinvited

/-- An invite after those of `k` have ended and a new one was made. -/
theorem lookup_reinvite_old {tokenId : Id} (hne : i ≠ tokenId) :
    (d.reinvite env tokenId k).inviteTokens.lookup i =
      (d.inviteTokens.lookup i).map fun t =>
        if t.membershipId = k ∧ t.acceptedAt = none ∧ env.now < t.expiresAt then
          { t with expiresAt := env.now }
        else t :=
  (AList.lookup_insert_ne hne).trans (Table.lookup_mapRows ..)

theorem lookup_reinvite_new {tokenId : Id} :
    (d.reinvite env tokenId k).inviteTokens.lookup tokenId = some (Backend.newInvite env k) :=
  AList.lookup_insert _

/-- What is live later was live before. -/
theorem live_of_later (hc : c ≤ c') (h : d.live c' i = true) : d.live c i = true := by
  obtain ⟨t, ht, hnone, hexpires, hinvited⟩ := Backend.live_iff.mp h
  exact Backend.live_iff.mpr ⟨t, ht, hnone, Nat.lt_of_le_of_lt hc hexpires, hinvited⟩

theorem not_live_of_later (hc : c ≤ c') (h : d.live c i = false) : d.live c' i = false := by
  by_contra hlive
  rw [live_of_later hc (by simpa using hlive)] at h
  cases h

/-- The earlier invites of a membership that is invited again have ended. -/
theorem not_live_of_reinvite {tokenId : Id} (hnow : env.now ≤ c) (hne : i ≠ tokenId)
    (htokens : d'.inviteTokens = (d.reinvite env tokenId k).inviteTokens)
    (ht : d'.inviteTokens.lookup i = some t) (hk : t.membershipId = k) :
    d'.live c i = false := by
  by_contra hlive
  rw [Bool.not_eq_false] at hlive
  obtain ⟨t', ht', hnone, hexpires, -⟩ := Backend.live_iff.mp hlive
  obtain rfl := Option.some.inj (ht.symm.trans ht')
  rw [htokens, lookup_reinvite_old hne] at ht
  obtain ⟨t₀, -, he⟩ := Option.map_eq_some_iff.mp ht
  split at he
  · -- it was live, and expired at this commit
    subst he
    exact absurd hexpires (Nat.not_lt.mpr hnow)
  · next hnot =>
    subst he
    exact hnot ⟨hk, hnone, Nat.lt_of_le_of_lt hnow hexpires⟩

/-- **An invite that has ended has ended for good.** -/
theorem InviteChange.live (h : InviteChange env d d') (hnow : env.now ≤ c') (hc : c ≤ c')
    (ht : d.inviteTokens.lookup i = some t) (hlive : d'.live c' i = true) :
    d.live c i = true := by
  obtain ⟨t', ht', hnone, hexpires, hinvited⟩ := Backend.live_iff.mp hlive
  have hlater : c < t'.expiresAt := Nat.lt_of_le_of_lt hc hexpires
  cases h with
  | kept tokens invited =>
    rw [tokens] at ht'
    exact Backend.live_iff.mpr ⟨t', ht', hnone, hlater, invited _ hinvited⟩
  | @issued k tokenId fresh tokens invited =>
    have hne : i ≠ tokenId := fun he => by
      rw [he, fresh] at ht
      cases ht
    have hk : t'.membershipId ≠ k := fun hk => by
      rw [not_live_of_reinvite hnow hne tokens ht' hk] at hlive
      cases hlive
    rw [tokens, lookup_reinvite_old hne, ht, Option.map_some] at ht'
    obtain rfl := Option.some.inj ht'
    have hsame : ¬ (t.membershipId = k ∧ t.acceptedAt = none ∧ env.now < t.expiresAt) :=
      fun hlive => hk (by rw [if_pos hlive]; exact hlive.1)
    rw [if_neg hsame] at hk hnone hlater hinvited
    exact Backend.live_iff.mpr ⟨t, ht, hnone, hlater, invited _ hk hinvited⟩
  | @accepted tokenId t₀ found tokens active invited =>
    rw [tokens, Table.lookup_insert_ite] at ht'
    split at ht'
    · obtain rfl := Option.some.inj ht'
      cases hnone
    · exact Backend.live_iff.mpr ⟨t', ht', hnone, hlater, invited _ hinvited⟩

/-- A new invite ends all others of its membership. -/
theorem InviteChange.not_live_of_issued (h : InviteChange env d d') (hnow : env.now ≤ c)
    (hnew : d.inviteTokens.lookup i = none) (hi : d'.inviteTokens.lookup i = some t)
    (hne : j ≠ i) (hj : d'.inviteTokens.lookup j = some t')
    (hk : t'.membershipId = t.membershipId) : d'.live c j = false := by
  cases h with
  | kept tokens invited =>
    rw [tokens, hnew] at hi
    cases hi
  | @issued k tokenId fresh tokens invited =>
    have he : i = tokenId := by
      by_contra hother
      rw [tokens, lookup_reinvite_old hother, hnew] at hi
      cases hi
    subst he
    rw [tokens, lookup_reinvite_new] at hi
    obtain rfl := Option.some.inj hi
    exact not_live_of_reinvite hnow hne tokens hj hk
  | @accepted tokenId t₀ found tokens active invited =>
    rw [tokens, Table.lookup_insert_ite] at hi
    split at hi
    · next he =>
      rw [he, found] at hnew
      cases hnew
    · rw [hnew] at hi
      cases hi

/-- Who has an invite accepted is active. -/
theorem InviteChange.active_of_accepted (h : InviteChange env d d')
    (ht : d.inviteTokens.lookup i = some t) (hfree : t.acceptedAt = none)
    (ht' : d'.inviteTokens.lookup i = some t') (haccepted : t'.acceptedAt.isSome = true) :
    d'.isActive t.membershipId = true := by
  cases h with
  | kept tokens invited =>
    rw [tokens, ht] at ht'
    obtain rfl := Option.some.inj ht'
    rw [hfree] at haccepted
    cases haccepted
  | @issued k tokenId fresh tokens invited =>
    have hne : i ≠ tokenId := fun he => by
      rw [he, fresh] at ht
      cases ht
    rw [tokens, lookup_reinvite_old hne, ht, Option.map_some] at ht'
    obtain rfl := Option.some.inj ht'
    have hsame : t.acceptedAt.isSome = true := by split at haccepted <;> exact haccepted
    rw [hfree] at hsame
    cases hsame
  | @accepted tokenId t₀ found tokens active invited =>
    rw [tokens, Table.lookup_insert_ite] at ht'
    split at ht'
    · next he =>
      rw [he, found] at ht
      obtain rfl := Option.some.inj ht
      exact active
    · rw [ht] at ht'
      obtain rfl := Option.some.inj ht'
      rw [hfree] at haccepted
      cases haccepted

end

/-! ## Every commit is such a change -/

/-- What others commit while a call runs leaves the members that there are. -/
def stayContract (r : MemberTx) : Contract Backend where
  rely _ d d' := MembersStay d d'
  post d d' := MemberCommit (fun _ d d' => MembersStay d d') r.env d d' r.request

theorem rely_membersStay : Rely fun _ d d' => MembersStay d d' :=
  ⟨fun _ d => MembersStay.refl d, fun h h' => h.trans h'⟩

theorem narrowing_membersStay : Narrowing fun _ d d' => MembersStay d d' := fun _ _ _ h => h

theorem stayContract_secures (r : MemberTx) (d : Backend) :
    r.prog.Secures teamCell (stayContract r).rely
      (fun _ _ writes d => (stayContract r).post d (writes d)) [] 0 id d :=
  MemberTx.secures rely_membersStay narrowing_membersStay r d

theorem respects_stayContract (st : TeamSessions) (a : Move MemberTx Empty)
    (h : st.Secured teamCell stayContract) (_ : True) : st.Respects stayContract a := by
  unfold Store.Respects
  split
  · trivial
  · next t x hcommit =>
    have hpost : MemberCommit (fun _ d d' => MembersStay d d') x.label.env st.db (x.writes st.db)
        x.label.request := h.commit (fun _ => rely_membersStay) hcommit
    exact fun _ _ _ => hpost.stay

section

variable {env : TeamEnv} {d d' db : Backend} {k k' : Id} {f : Membership → Membership}

theorem isInvited_of_memberships (h : db.memberships = d.memberships) :
    db.isInvited k = d.isInvited k := by
  rw [Backend.isInvited, h, Backend.isInvited]

theorem isInvited_of_members (h : d'.members = d.members) : d'.isInvited k = d.isInvited k :=
  isInvited_of_memberships (congrArg (·.1) h)

theorem isInvited_modifyMembership_ne (hne : k ≠ k') :
    (d.modifyMembership k' f).isInvited k = d.isInvited k := by
  unfold Backend.modifyMembership
  split
  · rfl
  · rw [Backend.isInvited, Backend.memberships_setMembership, AList.lookup_insert_ne hne,
      Backend.isInvited]

/-- A change that invites nobody. -/
theorem isInvited_of_modifyMembership (hf : ∀ m, (f m).status = .invited → m.status = .invited)
    (h : (d.modifyMembership k' f).isInvited k = true) : d.isInvited k = true := by
  by_cases he : k = k'
  · subst he
    unfold Backend.modifyMembership at h
    split at h
    · exact h
    · next m hm =>
      simp only [Backend.isInvited, Backend.memberships_setMembership, AList.lookup_insert,
        Option.any_some, beq_iff_eq] at h
      simp [Backend.isInvited, hm, hf m h]
  · rwa [isInvited_modifyMembership_ne he] at h

theorem inviteTokens_reinvite {tokenId : Id} (h : db.inviteTokens = d.inviteTokens) :
    (db.reinvite env tokenId k).inviteTokens = (d.reinvite env tokenId k).inviteTokens := by
  simp only [Backend.reinvite, Backend.setInvite, Backend.expireInvites, h]

/-- Who comes back with a password is active, who comes back without gets a new invite. -/
theorem inviteChange_of_renewed {hasPassword : Bool} {db' : Backend}
    (hdb' : db'.members = (db.renewed env hasPassword k).members)
    (hmemberships : db.memberships = (d.modifyMembership k f).memberships)
    (htokens : db.inviteTokens = d.inviteTokens)
    (hf : ∀ m, (f m).status = if hasPassword then .active else .invited)
    (fresh : hasPassword = false → d.inviteTokens.lookup (env.uuid 2) = none) :
    InviteChange env d db' := by
  have hinvited : ∀ k', db'.isInvited k' = (d.modifyMembership k f).isInvited k' := by
    intro k'
    rw [isInvited_of_members hdb', isInvited_of_memberships
      (Backend.memberships_renewed.trans hmemberships)]
  cases hasPassword with
  | true =>
    refine .kept ((inviteTokens_of_members hdb').trans htokens) fun k' hk' => ?_
    rw [hinvited] at hk'
    refine isInvited_of_modifyMembership (fun m hm => ?_) hk'
    rw [hf] at hm
    cases hm
  | false =>
    refine .issued (k := k) (fresh rfl)
      ((inviteTokens_of_members hdb').trans (inviteTokens_reinvite htokens)) fun k' hne hk' => ?_
    rwa [hinvited, isInvited_modifyMembership_ne hne] at hk'

/-- **Every commit changes the invites like this.** -/
theorem MemberCommit.inviteChange {request : MemberRequest}
    (h : MemberCommit (fun _ d d' => MembersStay d d') env d d' request) :
    InviteChange env d d' := by
  cases h with
  | invited seen invited =>
    cases invited with
    | @made userId d₁ unknown account new fresh members =>
      have hd₁ : d₁.memberships = d.memberships ∧ d₁.inviteTokens = d.inviteTokens := by
        cases account <;> exact ⟨rfl, rfl⟩
      refine .issued (k := env.uuid 1) fresh ((inviteTokens_of_members members).trans
        (inviteTokens_reinvite hd₁.2)) fun k' hne hk' => ?_
      rw [isInvited_of_members members, Backend.isInvited, Backend.memberships_reinvite,
        Backend.memberships_setMembership, AList.lookup_insert_ne hne, hd₁.1] at hk'
      exact hk'
    | broughtBack found account fresh members =>
      exact inviteChange_of_renewed members Backend.memberships_modifyUser
        (Backend.inviteTokens_modifyUser.trans Backend.inviteTokens_modifyMembership)
        (fun _ => rfl) fresh
  | roleUpdated seen members =>
    refine .kept ((inviteTokens_of_members members).trans Backend.inviteTokens_modifyMembership)
      fun k hk => ?_
    rw [isInvited_of_members members] at hk
    refine isInvited_of_modifyMembership ?_ hk
    exact fun m hm => hm
  | logged members =>
    refine .kept (inviteTokens_of_members members) fun k hk => ?_
    rwa [isInvited_of_members members] at hk
  | deactivated seen members =>
    refine .kept ((inviteTokens_of_members members).trans Backend.inviteTokens_modifyMembership)
      fun k hk => ?_
    rw [isInvited_of_members members] at hk
    exact isInvited_of_modifyMembership (fun m hm => by cases hm) hk
  | reactivated seen fresh members =>
    exact inviteChange_of_renewed members rfl Backend.inviteTokens_modifyMembership (fun _ => rfl)
      fresh
  | resent seen fresh members =>
    refine .issued fresh (inviteTokens_of_members members) fun k' _ hk' => ?_
    rwa [isInvited_of_members members] at hk'
  | @accepted input authenticatedUserId invitation seen members =>
    -- the token and the membership that were read are still there
    obtain ⟨d₁, hfound, hstay⟩ := seen.found
    obtain ⟨ht, -, hm⟩ := Backend.invitation?_eq_some hfound
    have hid := (Backend.member?_eq_some hm).2.2.1
    obtain ⟨t, ht', hview⟩ := hstay.inviteTokens _ _ ht
    have hk : t.membershipId = invitation.membership.id := (Prod.mk.inj hview).1.trans hid.symm
    obtain ⟨m, hm', -, -⟩ := hstay.membership hm
    rw [← hid] at hm'
    have htokens : ((d.acceptedBy env input invitation.membership.user.hasPassword
        invitation.membership.userId).modifyMembership invitation.membership.id
        (activated env)).inviteTokens = d.inviteTokens := by simp
    have hmemberships : ∀ k, (d.acceptedBy env input invitation.membership.user.hasPassword
        invitation.membership.userId).memberships.lookup k = d.memberships.lookup k := by simp
    refine .accepted ht' ?_ ?_ fun k hk => ?_
    · rw [inviteTokens_of_members members, Backend.acceptInvite, htokens, ht']
      exact congrArg (AList.insert invitation.id _) htokens
    · rw [isActive_of_members members, Backend.isActive, Backend.memberships_acceptInvite, hk,
        Backend.modifyMembership, hmemberships, hm']
      simp [activated]
    · rw [isInvited_of_members members,
        isInvited_of_memberships Backend.memberships_acceptInvite] at hk
      have hold := isInvited_of_modifyMembership (fun m hm => by cases hm) hk
      rwa [isInvited_of_memberships Backend.memberships_acceptedBy] at hold

end

/-! ## Refused -/

/-- An invite that has ended is refused. -/
theorem acceptInvitation_refused {db : Backend} {i : Id} {t : InviteToken} {c : Date}
    (hunique : Unique Backend.inviteHash db) (ht : db.inviteTokens.lookup i = some t)
    (hended : db.live c i = false) {env : TeamEnv} (hc : c ≤ env.now) {input : AcceptInviteDto}
    (hhash : env.sha256 input.token = t.tokenHash) (authenticatedUserId : Option Id) :
    (acceptInvitation env input authenticatedUserId : Work Unit _).runAuto db () =
      (.error (.badRequest "This invite link is invalid or expired"), db, ()) := by
  have hnone : (db.invitation? (env.sha256 input.token)).filter (·.valid env) = none := by
    rw [Option.filter_eq_none_iff]
    intro invitation hfound hvalid
    obtain ⟨ht', hhash', hm⟩ := Backend.invitation?_eq_some hfound
    obtain ⟨hlookup, -, -, -⟩ := Backend.member?_eq_some hm
    -- the invite that is found is this one
    obtain rfl : i = invitation.id := hunique i invitation.id t.tokenHash
      (by rw [Backend.inviteHash, ht]; rfl)
      (by rw [Backend.inviteHash, ht', ← hhash, ← hhash']; rfl)
    obtain rfl := Option.some.inj (ht.symm.trans ht')
    simp only [TeamInvitationRecord.valid, Bool.and_eq_true, Option.isNone_iff_eq_none,
      decide_eq_true_eq, beq_iff_eq] at hvalid
    obtain ⟨⟨hfree, hexpires⟩, hinvited⟩ := hvalid
    have hlive : db.live c invitation.id = true := Backend.live_iff.mpr ⟨_, ht, hfree,
      Nat.lt_of_le_of_lt hc hexpires, by simp [Backend.isInvited, hlookup, hinvited]⟩
    rw [hended] at hlive
    cases hlive
  have hread : (acceptInvitationRead env input authenticatedUserId : Work Unit _).runAuto db () =
      (.error (.badRequest "This invite link is invalid or expired"), db, ()) := by
    unfold acceptInvitationRead findInvitationByToken
    simp only [runAuto_bind, runAuto_select, hnone]
    rfl
  rw [acceptInvitation, runAuto_bind, hread]

/-! ## Runs under a clock -/

/-- The clock does not go back, and a call that commits has read it before. -/
def OnTime (s : TeamSessions × Date) (a : Move MemberTx Empty × Date) : Prop :=
  s.2 ≤ a.2 ∧
    match s.1.commits? a.1 with
    | none => True
    | some (_, x) => x.label.env.now ≤ a.2

instance (s : TeamSessions × Date) (a : Move MemberTx Empty × Date) : Decidable (OnTime s a) := by
  unfold OnTime
  split <;> infer_instance

/-- The state after calls from `db₀` on, which are made from the time `now₀` on. -/
abbrev timedRun (db₀ : Backend) (now₀ : Date) (as : List (Move MemberTx Empty × Date)) :
    TeamSessions × Date :=
  (teamSessions.timed Date).run (Store.start db₀ (), now₀) as

/-- What ends the invites that a membership has: one of them is accepted, another one is issued, or
it is active. -/
def Supersedes (d d' : Backend) (k : Id) : Prop :=
  (∃ i t t', d.inviteTokens.lookup i = some t ∧ t.membershipId = k ∧ t.acceptedAt = none ∧
    d'.inviteTokens.lookup i = some t' ∧ t'.acceptedAt.isSome = true) ∨
  (∃ i t, d.inviteTokens.lookup i = none ∧ d'.inviteTokens.lookup i = some t ∧
    t.membershipId = k) ∨
  d'.isActive k = true

section

variable {s : TeamSessions × Date} {a : Move MemberTx Empty × Date}
  {as : List (Move MemberTx Empty × Date)} {db₀ : Backend} {now₀ : Date}

/-- A step commits a change of the invites, or leaves the database. -/
theorem step_onTime (hsecured : s.1.Secured teamCell stayContract) (h : OnTime s a) :
    (teamSessions.step s.1 a.1).db = s.1.db ∨
      MembersStay s.1.db (teamSessions.step s.1 a.1).db ∧
        ∃ env, env.now ≤ a.2 ∧ InviteChange env s.1.db (teamSessions.step s.1 a.1).db := by
  cases hcommit : s.1.commits? a.1 with
  | none => exact Or.inl (Store.db_of_commits?_eq_none hcommit)
  | some p =>
    obtain ⟨t, x⟩ := p
    have hdb : (teamSessions.step s.1 a.1).db = _ := Store.db_of_commits? hcommit
    have hpost : MemberCommit (fun _ d d' => MembersStay d d') x.label.env s.1.db
        (x.writes s.1.db) x.label.request :=
      hsecured.commit (fun _ => rely_membersStay) hcommit
    have hnow := h.2
    rw [hcommit] at hnow
    rw [hdb]
    exact Or.inr ⟨hpost.stay, x.label.env, hnow, hpost.inviteChange⟩

/-- The rule for what the changes of the invites keep, while the clock goes on. -/
theorem run_onTime {J : Backend → Date → Prop}
    (hclock : ∀ {d c c'}, c ≤ c' → J d c → J d c')
    (hchange : ∀ {env d d' c c'}, MembersStay d d' → InviteChange env d d' → env.now ≤ c' →
      c ≤ c' → J d c → J d' c')
    (hlocked : s.1.Locked teamCell) (hsecured : s.1.Secured teamCell stayContract)
    (hs : J s.1.db s.2) (h : (teamSessions.timed Date).Meets OnTime s as) :
    J ((teamSessions.timed Date).run s as).1.db ((teamSessions.timed Date).run s as).2 := by
  refine (Machine.run_invariant (I := fun s : TeamSessions × Date =>
    (s.1.Locked teamCell ∧ s.1.Secured teamCell stayContract) ∧ J s.1.db s.2)
    (fun s a hs hc => ⟨⟨hs.1.1.step MemberTx.prog_footprint, hs.1.2.step
      (fun _ => rely_membersStay) stayContract_secures hs.1.1
      (respects_stayContract s.1 a.1 hs.1.2 trivial)⟩, ?_⟩) ⟨⟨hlocked, hsecured⟩, hs⟩ h).2
  rcases step_onTime hs.1.2 hc with hsame | ⟨hstay, env, hnow, hchanged⟩
  · rw [Machine.step_timed, hsame]
    exact hclock hc.1 hs.2
  · exact hchange hstay hchanged hnow hc.1 hs.2

theorem secured_onTime (db₀ : Backend) (now₀ : Date) (as : List (Move MemberTx Empty × Date)) :
    (timedRun db₀ now₀ as).1.Locked teamCell ∧
      (timedRun db₀ now₀ as).1.Secured teamCell stayContract := by
  rw [timedRun, Machine.run_timed_fst]
  exact secured_run (fun _ => rely_membersStay) MemberTx.prog_footprint stayContract_secures
    respects_stayContract (teamSessions.meets_true _ _)

theorem unique_onTime (now₀ : Date) (hunique : Unique Backend.inviteHash db₀)
    (as : List (Move MemberTx Empty × Date)) :
    Unique Backend.inviteHash (timedRun db₀ now₀ as).1.db := by
  rw [timedRun, Machine.run_timed_fst]
  exact unique_run MemberTx.prog_inserts hunique _

/-- What a step supersedes has ended after it. -/
theorem not_live_of_supersedes {k i : Id} {t : InviteToken}
    (hsecured : s.1.Secured teamCell stayContract) (h : OnTime s a)
    (hsuper : Supersedes s.1.db (teamSessions.step s.1 a.1).db k)
    (ht : s.1.db.inviteTokens.lookup i = some t) (hk : t.membershipId = k) :
    (∃ t', (teamSessions.step s.1 a.1).db.inviteTokens.lookup i = some t' ∧
      t'.tokenHash = t.tokenHash) ∧ (teamSessions.step s.1 a.1).db.live a.2 i = false := by
  rcases step_onTime hsecured h with hsame | ⟨hstay, env, hnow, hchange⟩
  · rw [hsame] at hsuper ⊢
    refine ⟨⟨t, ht, rfl⟩, ?_⟩
    rcases hsuper with ⟨j, t₁, t₂, h₁, -, hfree, h₂, haccepted⟩ | ⟨j, t₁, h₁, h₂, -⟩ | hactive
    · obtain rfl := Option.some.inj (h₁.symm.trans h₂)
      rw [hfree] at haccepted
      cases haccepted
    · rw [h₁] at h₂
      cases h₂
    · exact not_live_of_active ht (hk ▸ hactive)
  · obtain ⟨t', ht', hview⟩ := hstay.inviteTokens i t ht
    obtain ⟨hk', hhash⟩ := Prod.mk.inj hview
    refine ⟨⟨t', ht', hhash⟩, ?_⟩
    rcases hsuper with ⟨j, t₁, t₂, h₁, hk₁, hfree, h₂, haccepted⟩ | ⟨j, t₁, h₁, h₂, hk₁⟩ | hactive
    · have hactive := hchange.active_of_accepted h₁ hfree h₂ haccepted
      exact not_live_of_active ht' (by rw [hk', hk, ← hk₁]; exact hactive)
    · have hne : i ≠ j := fun he => by
        rw [he, h₁] at ht
        cases ht
      exact hchange.not_live_of_issued hnow h₁ h₂ hne ht' (by rw [hk', hk, hk₁])
    · exact not_live_of_active ht' (by rw [hk', hk]; exact hactive)

end

section

variable {db₀ : Backend} {now₀ : Date} {as as₁ as₂ : List (Move MemberTx Empty × Date)}
  {a : Move MemberTx Empty × Date} {k i j : Id} {t t' : InviteToken}

/-- Two live invites of one membership were live from the first on. -/
theorem both_live_before (h : (teamSessions.timed Date).Meets OnTime (Store.start db₀ (), now₀) as)
    (hi : (timedRun db₀ now₀ as).1.db.inviteTokens.lookup i = some t)
    (hj : (timedRun db₀ now₀ as).1.db.inviteTokens.lookup j = some t')
    (hk : t.membershipId = t'.membershipId) (hne : i ≠ j)
    (hlive : (timedRun db₀ now₀ as).1.db.live (timedRun db₀ now₀ as).2 i = true)
    (hlive' : (timedRun db₀ now₀ as).1.db.live (timedRun db₀ now₀ as).2 j = true) :
    db₀.live now₀ i = true ∧ db₀.live now₀ j = true := by
  obtain ⟨hlocked, hsecured⟩ := secured_onTime db₀ now₀ []
  refine run_onTime (J := fun d c => ∀ i j t t', d.inviteTokens.lookup i = some t →
    d.inviteTokens.lookup j = some t' → t.membershipId = t'.membershipId → i ≠ j →
    d.live c i = true → d.live c j = true → db₀.live now₀ i = true ∧ db₀.live now₀ j = true)
    ?_ ?_ hlocked hsecured (fun _ _ _ _ _ _ _ _ hl hl' => ⟨hl, hl'⟩) h i j t t' hi hj hk hne hlive
    hlive'
  · intro d c c' hc hJ i j t t' hi hj hk hne hl hl'
    exact hJ i j t t' hi hj hk hne (live_of_later hc hl) (live_of_later hc hl')
  · intro env d d' c c' hstay hchange hnow hc hJ i j t t' hi hj hk hne hl hl'
    cases hi₀ : d.inviteTokens.lookup i with
    | none =>
      -- the first one is new, so the second has ended
      rw [hchange.not_live_of_issued hnow hi₀ hi (Ne.symm hne) hj hk.symm] at hl'
      cases hl'
    | some t₀ =>
      cases hj₀ : d.inviteTokens.lookup j with
      | none =>
        rw [hchange.not_live_of_issued hnow hj₀ hj hne hi hk] at hl
        cases hl
      | some t₁ =>
        obtain ⟨t₂, ht₂, hview⟩ := hstay.inviteTokens i t₀ hi₀
        obtain ⟨t₃, ht₃, hview'⟩ := hstay.inviteTokens j t₁ hj₀
        obtain rfl := Option.some.inj (hi.symm.trans ht₂)
        obtain rfl := Option.some.inj (hj.symm.trans ht₃)
        refine hJ i j t₀ t₁ hi₀ hj₀ ?_ hne (hchange.live hnow hc hi₀ hl)
          (hchange.live hnow hc hj₀ hl')
        rw [← (Prod.mk.inj hview).1, ← (Prod.mk.inj hview').1, hk]

/-- An invite that was superseded is refused. -/
theorem superseded_refused (hunique : Unique Backend.inviteHash db₀)
    (h : (teamSessions.timed Date).Meets OnTime (Store.start db₀ (), now₀) (as₁ ++ a :: as₂))
    (hsuper : Supersedes (timedRun db₀ now₀ as₁).1.db (timedRun db₀ now₀ (as₁ ++ [a])).1.db k)
    (ht : (timedRun db₀ now₀ as₁).1.db.inviteTokens.lookup i = some t) (hk : t.membershipId = k)
    {env : TeamEnv} {input : AcceptInviteDto} {authenticatedUserId : Option Id}
    (hhash : env.sha256 input.token = t.tokenHash)
    (hnow : (timedRun db₀ now₀ (as₁ ++ a :: as₂)).2 ≤ env.now) :
    (acceptInvitation env input authenticatedUserId : Work Unit _).runAuto
        (timedRun db₀ now₀ (as₁ ++ a :: as₂)).1.db () =
      (.error (.badRequest "This invite link is invalid or expired"),
        (timedRun db₀ now₀ (as₁ ++ a :: as₂)).1.db, ()) := by
  obtain ⟨h₁, hc, h₂⟩ := (Machine.meets_append ..).mp h
  obtain ⟨hlocked, hsecured⟩ := secured_onTime db₀ now₀ as₁
  obtain ⟨hlocked', hsecured'⟩ := secured_onTime db₀ now₀ (as₁ ++ [a])
  have hstep : timedRun db₀ now₀ (as₁ ++ [a]) =
      (teamSessions.timed Date).step (timedRun db₀ now₀ as₁) a := Machine.run_append ..
  rw [hstep] at hsuper hlocked' hsecured'
  obtain ⟨⟨t', ht', hhash'⟩, hended⟩ := not_live_of_supersedes hsecured hc hsuper ht hk
  -- it has ended, and does so for good
  obtain ⟨⟨t₂, ht₂, hhash₂⟩, hended₂⟩ := run_onTime
    (J := fun d c => (∃ t', d.inviteTokens.lookup i = some t' ∧ t'.tokenHash = t.tokenHash) ∧
      d.live c i = false)
    (fun {d c c'} hle ⟨hstill, hdead⟩ => ⟨hstill, not_live_of_later hle hdead⟩)
    (fun {env d d' c c'} hstay hchange hnow hle ⟨⟨t', ht', he⟩, hdead⟩ => by
      obtain ⟨t₁, ht₁, hview⟩ := hstay.inviteTokens i t' ht'
      refine ⟨⟨t₁, ht₁, (Prod.mk.inj hview).2.trans he⟩, ?_⟩
      by_contra hlive
      rw [hchange.live hnow hle ht' (by simpa using hlive)] at hdead
      cases hdead)
    hlocked' hsecured' ⟨⟨t', ht', hhash'⟩, hended⟩ h₂
  have hrun : timedRun db₀ now₀ (as₁ ++ a :: as₂) =
      (teamSessions.timed Date).run ((teamSessions.timed Date).step (timedRun db₀ now₀ as₁) a) as₂ :=
    Machine.run_append ..
  have hunique' := unique_onTime now₀ hunique (as₁ ++ a :: as₂)
  rw [hrun] at hunique' hnow ⊢
  exact acceptInvitation_refused hunique' ht₂ hended₂ hnow (hhash.trans hhash₂.symm) _

end

/-- **One live invite for a membership**: in every run of calls, in any order of their statements,
under a clock that does not go back,
* two live invites of one membership were live already in the first database;
* after a step that accepts an invite of a membership, issues one for it or leaves it active, every
  call that comes with an invite which the membership had before is refused, at any later time. -/
theorem one_live_invite (db₀ : Backend) (hunique : Unique Backend.inviteHash db₀) (now₀ : Date)
    (as : List (Move MemberTx Empty × Date))
    (h : (teamSessions.timed Date).Meets OnTime (Store.start db₀ (), now₀) as) :
    (∀ now i j t t', (timedRun db₀ now₀ as).2 ≤ now →
      (timedRun db₀ now₀ as).1.db.inviteTokens.lookup i = some t →
      (timedRun db₀ now₀ as).1.db.inviteTokens.lookup j = some t' →
      t.membershipId = t'.membershipId → i ≠ j →
      (timedRun db₀ now₀ as).1.db.live now i = true →
      (timedRun db₀ now₀ as).1.db.live now j = true →
      db₀.live now₀ i = true ∧ db₀.live now₀ j = true) ∧
    ∀ as₁ a as₂ k i t, as = as₁ ++ a :: as₂ →
      Supersedes (timedRun db₀ now₀ as₁).1.db (timedRun db₀ now₀ (as₁ ++ [a])).1.db k →
      (timedRun db₀ now₀ as₁).1.db.inviteTokens.lookup i = some t → t.membershipId = k →
      ∀ env input authenticatedUserId, env.sha256 input.token = t.tokenHash →
        (timedRun db₀ now₀ as).2 ≤ env.now →
        (acceptInvitation env input authenticatedUserId : Work Unit _).runAuto
            (timedRun db₀ now₀ as).1.db () =
          (.error (.badRequest "This invite link is invalid or expired"),
            (timedRun db₀ now₀ as).1.db, ()) := by
  constructor
  · intro now i j t t' hnow hi hj hk hne hlive hlive'
    exact both_live_before h hi hj hk hne (live_of_later hnow hlive) (live_of_later hnow hlive')
  · rintro as₁ a as₂ k i t rfl hsuper ht hk env input authenticatedUserId hhash hnow
    exact superseded_refused hunique h hsuper ht hk hhash hnow

namespace Office

/-- Somebody new is invited at the time 1, and is about to accept at the time 2. -/
def toAccept : List (Move MemberTx Empty × Date) :=
  (invited.map fun a => (a, 1)) ++ (.begin 1 (accept 2) :: steps 1 6).map fun a => (a, 2)

end Office

theorem one_live_invite_office :
    (acceptInvitation (Office.env 3) { token := "token" } none : Work Unit _).runAuto
        (timedRun Office.withStranger 0 (Office.toAccept ++ [(.statement 1, 2)])).1.db () =
      (.error (.badRequest "This invite link is invalid or expired"),
        (timedRun Office.withStranger 0 (Office.toAccept ++ [(.statement 1, 2)])).1.db, ()) := by
  have hunique : Unique Backend.inviteHash Office.withStranger := fun _ _ _ h => by cases h
  have hactive : Supersedes (timedRun Office.withStranger 0 Office.toAccept).1.db
      (timedRun Office.withStranger 0 (Office.toAccept ++ [(.statement 1, 2)])).1.db ⟨1, 1⟩ :=
    Or.inr (Or.inr (by decide))
  have hon : (teamSessions.timed Date).Meets OnTime (Store.start Office.withStranger (), 0)
      (Office.toAccept ++ [(.statement 1, 2)]) := by decide
  have ht : (timedRun Office.withStranger 0 Office.toAccept).1.db.inviteTokens.lookup ⟨1, 2⟩ =
      some (Backend.newInvite (Office.env 1) ⟨1, 1⟩) := by decide
  have hnow : (timedRun Office.withStranger 0 (Office.toAccept ++ [(.statement 1, 2)])).2 ≤
      (Office.env 3).now := by decide
  exact (one_live_invite Office.withStranger hunique 0 _ hon).2 Office.toAccept (.statement 1, 2)
    [] ⟨1, 1⟩ ⟨1, 2⟩ _ rfl hactive ht rfl _ _ _ rfl hnow

end LedgerLight
