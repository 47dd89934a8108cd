import LedgerLight.System.TeamStays

/-!
# An organization keeps an owner

A call that may end an owner checks first that there is another one, or that its member is none. The
check is a statement of its own, and the write later does not look again.

* `owner_kept` : as long as nobody else's commit undoes what a call has checked, and no owner
  without a password is reactivated who is the last one, an organization with an active owner keeps
  one, in every run of concurrent calls.
* `owners_lost` : two owners deactivate each other at the same time.
-/

namespace LedgerLight

open Infra Prog ReadCommitted

/-! ## Owners -/

def Membership.activeOwnerOf (organizationId : Id) (m : Membership) : Bool :=
  m.organizationId == organizationId && m.role == .owner && m.status == .active

namespace Backend

/-- A membership of the organization is an owner and active. -/
def hasActiveOwner (db : Backend) (organizationId : Id) : Bool :=
  (db.memberships.findRow? fun _ m => m.activeOwnerOf organizationId).isSome

/-- The membership is the only one of the organization that is an owner and active. -/
def lastOwner (db : Backend) (organizationId k : Id) : Bool :=
  ((db.memberships.lookup k).any fun m => m.activeOwnerOf organizationId) &&
    db.otherOwners organizationId k == 0

variable {db db' : Backend} {o k : Id}

theorem hasActiveOwner_iff : db.hasActiveOwner o = true ↔
    ∃ k m, db.memberships.lookup k = some m ∧ m.activeOwnerOf o = true :=
  Table.findRow?_isSome

theorem otherOwners_ne_zero : db.otherOwners o k ≠ 0 ↔
    ∃ k' m, k' ≠ k ∧ db.memberships.lookup k' = some m ∧ m.activeOwnerOf o = true := by
  unfold otherOwners Table.countRows
  rw [← Nat.pos_iff_ne_zero, List.countP_pos_iff]
  constructor
  · rintro ⟨⟨k', m⟩, hmem, hp⟩
    simp only [Bool.and_eq_true, bne_iff_ne] at hp
    exact ⟨k', m, hp.2, AList.mem_lookup_iff.mpr hmem, by simp [Membership.activeOwnerOf, hp.1]⟩
  · rintro ⟨k', m, hne, hm, howner⟩
    refine ⟨⟨k', m⟩, Table.mem_entries_of_lookup hm, ?_⟩
    simp only [Membership.activeOwnerOf] at howner
    simp [howner, hne]

/-- Who is not the last owner leaves another one, whatever becomes of the membership. -/
theorem hasActiveOwner_modifyMembership {f : Membership → Membership}
    (h : db.hasActiveOwner o = true) (hlast : db.lastOwner o k = false) :
    (db.modifyMembership k f).hasActiveOwner o = true := by
  obtain ⟨k', m', hne, hm', howner⟩ : ∃ k' m', k' ≠ k ∧ db.memberships.lookup k' = some m' ∧
      m'.activeOwnerOf o = true := by
    obtain ⟨k', m', hm', howner⟩ := hasActiveOwner_iff.mp h
    by_cases hk : k' = k
    · subst hk
      rw [lastOwner, hm', Option.any_some, howner, Bool.true_and, beq_eq_false_iff_ne] at hlast
      exact otherOwners_ne_zero.mp hlast
    · exact ⟨k', m', hk, hm', howner⟩
  refine hasActiveOwner_iff.mpr ⟨k', m', ?_, howner⟩
  unfold modifyMembership
  split
  · exact hm'
  · exact (AList.lookup_insert_ne hne).trans hm'

/-- A change that leaves active owners such. -/
theorem hasActiveOwner_of_keeps {f : Membership → Membership}
    (hf : ∀ m, m.activeOwnerOf o = true → (f m).activeOwnerOf o = true)
    (h : db.hasActiveOwner o = true) : (db.modifyMembership k f).hasActiveOwner o = true := by
  obtain ⟨k', m', hm', howner⟩ := hasActiveOwner_iff.mp h
  unfold modifyMembership
  split
  · exact h
  · next m hm =>
    by_cases hk : k' = k
    · subst hk
      obtain rfl := Option.some.inj (hm.symm.trans hm')
      exact hasActiveOwner_iff.mpr ⟨k', f m, AList.lookup_insert _, hf m howner⟩
    · exact hasActiveOwner_iff.mpr ⟨k', m', (AList.lookup_insert_ne hk).trans hm', howner⟩

theorem hasActiveOwner_setMembership {m : Membership} (hnew : db.memberships.lookup k = none)
    (h : db.hasActiveOwner o = true) : (db.setMembership k m).hasActiveOwner o = true := by
  obtain ⟨k', m', hm', howner⟩ := hasActiveOwner_iff.mp h
  refine hasActiveOwner_iff.mpr ⟨k', m', ?_, howner⟩
  have hne : k' ≠ k := fun he => by
    rw [he, hnew] at hm'
    cases hm'
  exact (AList.lookup_insert_ne hne).trans hm'

theorem hasActiveOwner_congr (h : db'.memberships = db.memberships) :
    db'.hasActiveOwner o = db.hasActiveOwner o := by
  rw [hasActiveOwner, h, hasActiveOwner]

section

variable {env : TeamEnv} {hasPassword : Bool} {userId tokenId : Id} {f : User → User} {u : User}
  {input : AcceptInviteDto}

@[simp] theorem hasActiveOwner_setUser :
    (db.setUser userId u).hasActiveOwner o = db.hasActiveOwner o := rfl

@[simp] theorem hasActiveOwner_modifyUser :
    (db.modifyUser userId f).hasActiveOwner o = db.hasActiveOwner o :=
  hasActiveOwner_congr memberships_modifyUser

@[simp] theorem hasActiveOwner_reinvite :
    (db.reinvite env tokenId k).hasActiveOwner o = db.hasActiveOwner o := rfl

@[simp] theorem hasActiveOwner_renewed :
    (db.renewed env hasPassword k).hasActiveOwner o = db.hasActiveOwner o :=
  hasActiveOwner_congr memberships_renewed

@[simp] theorem hasActiveOwner_acceptedBy :
    (db.acceptedBy env input hasPassword userId).hasActiveOwner o = db.hasActiveOwner o := by
  unfold acceptedBy
  split
  · rfl
  · exact hasActiveOwner_modifyUser

@[simp] theorem hasActiveOwner_acceptInvite :
    (db.acceptInvite env tokenId).hasActiveOwner o = db.hasActiveOwner o :=
  hasActiveOwner_congr memberships_acceptInvite

end

end Backend

/-! ## What a call has checked -/

namespace MemberTx

variable (r : MemberTx) (o : Id)

/-- The call has made the check that its write rests on. -/
def hasChecked (n : Nat) : Bool :=
  match r.request with
  | .inviteMember organization _ _ => organization.organizationId == o && 3 ≤ n
  | .updateMemberRole organization _ _ role =>
    organization.organizationId == o && role != .owner && 1 ≤ n
  | .deactivateMember organization _ _ => organization.organizationId == o && 1 ≤ n
  | .reactivateMember organization _ _ => organization.organizationId == o && 1 ≤ n
  | _ => false

/-- A call that found the membership in another state would not leave the organization an owner by
writing it. `reactivateMember` leaves those active who have a password. -/
def endsOwner (d : Backend) (k : Id) : Bool :=
  d.lastOwner o k && match r.request with
    | .reactivateMember _ _ _ => d.memberHasPassword k
    | _ => true

/-- What others commit does not undo what the call has checked after `n` statements: its membership
does not become the last owner. -/
def Undisturbed (n : Nat) (d d' : Backend) : Prop :=
  r.hasChecked o n = true → ∀ k ∈ d'.memberships.keys, r.writesOver d k = true →
    r.endsOwner o d' k = true → r.endsOwner o d k = true

instance (n : Nat) (d d' : Backend) : Decidable (r.Undisturbed o n d d') :=
  inferInstanceAs (Decidable (_ → _))

/-- The call reactivates the last owner, who has no password. -/
def invitesLastOwner (d : Backend) : Bool :=
  match r.request with
  | .reactivateMember organization _ k =>
    organization.organizationId == o && d.lastOwner o k && !d.memberHasPassword k
  | _ => false

end MemberTx

/-- A step that commits nothing that undoes what others have checked, and does not turn the last
owner into an invited one. -/
def ChecksHold (o : Id) (st : TeamSessions) (a : Move MemberTx Empty) : Prop :=
  match st.commits? a with
  | none => True
  | some (t, x) => x.label.invitesLastOwner o st.db = false ∧
    ∀ e ∈ st.sessions.entries, e.1 ≠ t →
      e.2.label.Undisturbed o e.2.statements st.db (x.writes st.db)

instance (o : Id) (st : TeamSessions) (a : Move MemberTx Empty) : Decidable (ChecksHold o st a) := by
  unfold ChecksHold
  obtain _ | ⟨t, x⟩ := st.commits? a <;> infer_instance

/-! ## What a call relies on -/

/-- What is committed while a call runs leaves the members that there are, and what it checked. -/
def ownersRely (o : Id) (r : MemberTx) (n : Nat) (d d' : Backend) : Prop :=
  MembersStay d d' ∧ r.Undisturbed o n d d'

def ownersContract (o : Id) (r : MemberTx) : Contract Backend where
  rely := ownersRely o r
  post d d' := MemberCommit (ownersRely o r) r.env d d' r.request

section

variable {o k : Id} {r : MemberTx} {d d' : Backend} {organization : MemberContext}
  {env : TeamEnv}

theorem MemberTx.mem_keys_of_endsOwner (h : r.endsOwner o d k = true) : k ∈ d.memberships.keys := by
  unfold MemberTx.endsOwner Backend.lastOwner at h
  simp only [Bool.and_eq_true] at h
  obtain ⟨m, hm, -⟩ := (Option.any_eq_true _ _).mp h.1.1
  exact AList.lookup_isSome.mp (by rw [hm]; rfl)

theorem rely_ownersRely : Rely (ownersRely o r) where
  refl _ d := ⟨MembersStay.refl d, fun _ _ _ _ h => h⟩
  trans := by
    rintro n d d' d'' ⟨hstay, hchecks⟩ ⟨hstay', hchecks'⟩
    refine ⟨hstay.trans hstay', fun hn k hk hw hends => ?_⟩
    have hends' := hchecks' hn k hk (hstay.writesOver hw) hends
    exact hchecks hn k (MemberTx.mem_keys_of_endsOwner hends') hw hends'

theorem MemberTx.hasChecked_succ {n : Nat} (h : r.hasChecked o n = true) :
    r.hasChecked o (n + 1) = true := by
  have hle : ∀ {a : Bool} {m : Nat}, (a && decide (m ≤ n)) = true →
      (a && decide (m ≤ n + 1)) = true := by
    intro a m hm
    rw [Bool.and_eq_true, decide_eq_true_eq] at hm ⊢
    exact ⟨hm.1, Nat.le_succ_of_le hm.2⟩
  obtain ⟨env, request⟩ := r
  cases request with
  | inviteMember => exact hle h
  | updateMemberRole => exact hle h
  | deactivateMember => exact hle h
  | reactivateMember => exact hle h
  | _ => exact h

theorem narrowing_ownersRely : Narrowing (ownersRely o r) :=
  fun _ _ _ h => ⟨h.1, fun hn => h.2 (MemberTx.hasChecked_succ hn)⟩

/-- A membership that is no active owner of the organization is not the last one. -/
theorem Backend.lastOwner_eq_false {m : Membership} (hm : d.memberships.lookup k = some m)
    (h : m.activeOwnerOf o = false) : d.lastOwner o k = false := by
  rw [Backend.lastOwner, hm, Option.any_some, h, Bool.false_and]

theorem Backend.lastOwner_eq_false_of_others (h : d.otherOwners o k ≠ 0) :
    d.lastOwner o k = false := by
  rw [Backend.lastOwner, beq_eq_false_iff_ne.mpr h, Bool.and_false]

/-- What the write of a call would not have ended when it checked, it does not end. -/
theorem endsOwner_of_seen {n : Nat} {p : Backend → Prop} (hn : r.hasChecked o n = true)
    (hseen : Seen (ownersRely o r) n p d)
    (hk : ∀ d₁, p d₁ → ownersRely o r n d₁ d → r.writesOver d₁ k = true ∧
      r.endsOwner o d₁ k = false) : r.endsOwner o d k = false := by
  obtain ⟨d₁, hp, hrely⟩ := hseen
  obtain ⟨hw, hnot⟩ := hk d₁ hp hrely
  by_contra hends
  rw [Bool.not_eq_false] at hends
  rw [hrely.2 hn k (MemberTx.mem_keys_of_endsOwner hends) hw hends] at hnot
  cases hnot

/-- A call of one organization is about no owner of another. -/
theorem MemberSeen.lastOwner_of_ne {leaves : Prop} {m : TeamMemberRecord}
    (h : MemberSeen (ownersRely o r) organization k leaves m d)
    (hne : organization.organizationId ≠ o) : d.lastOwner o k = false := by
  obtain ⟨d₁, hm, hrely⟩ := h.member
  obtain ⟨m', hm', ho, -⟩ := hrely.1.membership hm
  refine Backend.lastOwner_eq_false hm' ?_
  rw [Membership.activeOwnerOf, ho, h.organizationId, beq_eq_false_iff_ne.mpr hne]
  rfl

/-- A call that has seen that its member is no owner, or that there are others, does not end the
last one. -/
theorem MemberSeen.lastOwner {leaves : Prop} {m : TeamMemberRecord}
    (h : MemberSeen (ownersRely o r) organization k leaves m d)
    (hchecked : organization.organizationId = o → ∀ n, 1 ≤ n → r.hasChecked o n = true)
    (hwrites : ∀ d, r.writesOver d k = true)
    (hends : ∀ d, r.endsOwner o d k = d.lastOwner o k) (hleaves : m.role = .owner → leaves) :
    d.lastOwner o k = false := by
  by_cases ho : organization.organizationId = o
  · rw [← hends]
    by_cases howner : m.role = .owner
    · refine endsOwner_of_seen (hchecked ho 2 (by decide)) (h.owners (hleaves howner))
        fun d₁ hothers _ => ⟨hwrites d₁, ?_⟩
      rw [hends]
      exact Backend.lastOwner_eq_false_of_others (ho ▸ hothers)
    · refine endsOwner_of_seen (hchecked ho 1 le_rfl) h.member fun d₁ hm _ => ⟨hwrites d₁, ?_⟩
      rw [hends]
      refine Backend.lastOwner_eq_false (Backend.member?_eq_some hm).1 ?_
      simp [Membership.activeOwnerOf, howner]
  · exact h.lastOwner_of_ne ho

/-! ## What a commit leaves -/

theorem hasActiveOwner_of_members (h : d'.members = d.members)
    (hd : d.hasActiveOwner o = true) : d'.hasActiveOwner o = true :=
  (Backend.hasActiveOwner_congr (congrArg (·.1) h)).trans hd

/-- The membership that an invitation found deactivated has not become the last owner. -/
theorem InviteSeen.lastOwner {actorUserId : Id} {input : InviteMemberDto} {target : InviteTarget}
    {m : TeamMemberRecord}
    (h : InviteSeen (ownersRely o ⟨env, .inviteMember organization actorUserId input⟩) env
      organization input target d) (hm : target.existingMembership = some m) :
    d.lastOwner o m.id = false := by
  obtain ⟨hstatus, -, -, hseen⟩ := h.membership m hm
  by_cases ho : organization.organizationId = o
  · have hends : ∀ d, MemberTx.endsOwner ⟨env, .inviteMember organization actorUserId input⟩ o d
        m.id = d.lastOwner o m.id := fun d => Bool.and_true _
    rw [← hends]
    refine endsOwner_of_seen (by simp [MemberTx.hasChecked, ho]) hseen fun d₁ hof hrely =>
      ⟨writesOver_of_memberOf h (fun _ _ _ hrely => hrely.1) hm hof, ?_⟩
    rw [hends]
    refine Backend.lastOwner_eq_false (Backend.member?_eq_some
      (Backend.memberOf?_eq_some hof).2.2).1 ?_
    simp [Membership.activeOwnerOf, hstatus]
  · obtain ⟨d₁, hof, hrely⟩ := hseen
    obtain ⟨horg, -, hmember⟩ := Backend.memberOf?_eq_some hof
    obtain ⟨m', hm', ho', -⟩ := hrely.1.membership hmember
    refine Backend.lastOwner_eq_false hm' ?_
    rw [Membership.activeOwnerOf, ho', horg, beq_eq_false_iff_ne.mpr ho]
    rfl

/-- **Every commit leaves the organization an owner**, if it does not invite its last one. -/
theorem MemberCommit.keeps_owner (h : MemberCommit (ownersRely o r) r.env d d' r.request)
    (hlast : r.invitesLastOwner o d = false) (hd : d.hasActiveOwner o = true) :
    d'.hasActiveOwner o = true := by
  obtain ⟨env, request⟩ := r
  cases h with
  | @invited organization actorUserId input target seen invited =>
    cases invited with
    | made unknown account new fresh members =>
      refine hasActiveOwner_of_members members ?_
      rw [Backend.hasActiveOwner_reinvite]
      cases account with
      | existing found => exact Backend.hasActiveOwner_setMembership new hd
      | created unknown newUser => exact Backend.hasActiveOwner_setMembership new hd
    | broughtBack found account fresh members =>
      refine hasActiveOwner_of_members members ?_
      rw [Backend.hasActiveOwner_renewed, Backend.hasActiveOwner_modifyUser]
      exact Backend.hasActiveOwner_modifyMembership hd (seen.lastOwner found)
  | @roleUpdated organization actorUserId k role m seen members =>
    by_cases hrole : role = .owner
    · refine hasActiveOwner_of_members members (Backend.hasActiveOwner_of_keeps (fun m hm => ?_) hd)
      simp only [Membership.activeOwnerOf, Bool.and_eq_true] at hm ⊢
      exact ⟨⟨hm.1.1, by simp [hrole]⟩, hm.2⟩
    · refine hasActiveOwner_of_members members (Backend.hasActiveOwner_modifyMembership hd ?_)
      refine seen.lastOwner (fun ho n hn => ?_) (fun d => ?_) (fun d => ?_) fun howner => ?_
      · simp [MemberTx.hasChecked, ho, hrole, hn]
      · simp [MemberTx.writesOver]
      · exact Bool.and_true _
      · simp [demotes, howner, hrole]
  | logged members => exact hasActiveOwner_of_members members hd
  | @deactivated organization actorUserId k m seen members =>
    refine hasActiveOwner_of_members members (Backend.hasActiveOwner_modifyMembership hd ?_)
    refine seen.lastOwner (fun ho n hn => ?_) (fun d => ?_) (fun d => ?_) id
    · simp [MemberTx.hasChecked, ho, hn]
    · simp [MemberTx.writesOver]
    · exact Bool.and_true _
  | @reactivated organization actorUserId k m seen fresh members =>
    refine hasActiveOwner_of_members members ?_
    rw [Backend.hasActiveOwner_renewed]
    by_cases hp : m.user.hasPassword = true
    · refine Backend.hasActiveOwner_of_keeps (fun m' hm' => ?_) hd
      simp only [Membership.activeOwnerOf, Bool.and_eq_true] at hm' ⊢
      exact ⟨hm'.1, by simp [reinstated, hp]⟩
    · refine Backend.hasActiveOwner_modifyMembership hd ?_
      by_cases ho : organization.organizationId = o
      · -- without a password when it was read, so not the last owner with one now
        have hends : MemberTx.endsOwner ⟨env, .reactivateMember organization actorUserId k⟩ o d k =
            false := by
          refine endsOwner_of_seen (n := 1) (by simp [MemberTx.hasChecked, ho]) seen.member
            fun d₁ hm _ => ⟨by simp [MemberTx.writesOver], ?_⟩
          obtain ⟨hlookup, hu, -, -⟩ := Backend.member?_eq_some hm
          simp [MemberTx.endsOwner, Backend.memberHasPassword, hlookup, hu, hp]
        simp only [MemberTx.invitesLastOwner, ho, BEq.rfl, Bool.true_and] at hlast
        simp only [MemberTx.endsOwner] at hends
        cases hl : d.lastOwner o k with
        | false => rfl
        | true => simp_all
      · exact seen.lastOwner_of_ne ho
  | resent seen fresh members => exact hasActiveOwner_of_members members hd
  | accepted seen members =>
    refine hasActiveOwner_of_members members ?_
    rw [Backend.hasActiveOwner_acceptInvite]
    refine Backend.hasActiveOwner_of_keeps (fun m hm => ?_)
      (Backend.hasActiveOwner_acceptedBy.trans hd)
    simp only [Membership.activeOwnerOf, Bool.and_eq_true] at hm ⊢
    exact ⟨hm.1, rfl⟩

end

/-! ## Runs -/

/-- **An organization keeps an owner**: if it has a membership that is an owner and active, it has
one after every run of calls, in any order of their statements, in which no commit undoes what
another call has checked, and no call reactivates the last owner without a password. -/
theorem owner_kept (o : Id) (db₀ : Backend) (h₀ : db₀.hasActiveOwner o = true)
    (as : List (Move MemberTx Empty))
    (h : teamSessions.Meets (ChecksHold o) (Store.start db₀ ()) as) :
    (teamSessions.run (Store.start db₀ ()) as).db.hasActiveOwner o = true := by
  have hprog : ∀ r d, (MemberTx.prog r).Secures teamCell (ownersContract o r).rely
      (fun _ _ writes d => (ownersContract o r).post d (writes d)) [] 0 id d :=
    fun r d => MemberTx.secures rely_ownersRely narrowing_ownersRely r d
  refine secured_run_invariant (J := fun db => db.hasActiveOwner o = true)
    (fun _ => rely_ownersRely) MemberTx.prog_footprint hprog
    (fun st a hsecured hc => ?_) (fun st a t x hc hcommit hpost hd => ?_) h₀ h
  · -- what is committed leaves the members that there are, whatever the run
    unfold ChecksHold at hc
    unfold Store.Respects
    split
    · trivial
    · next t x hcommit =>
      rw [hcommit] at hc
      have hpost := hsecured.commit (fun _ => rely_ownersRely) hcommit
      exact fun e he hne => ⟨MemberCommit.stay hpost, hc.2 e he hne⟩
  · unfold ChecksHold at hc
    rw [hcommit] at hc
    exact MemberCommit.keeps_owner hpost hc.1 hd

namespace Office

/-- Two owners. -/
def twoOwners : Backend :=
  staffed [(annMember, membership ann .owner, user "ann"),
    (bobMember, membership bob .owner, user "bob")]

def annDeactivatesBob : MemberTx :=
  { env := env 1, request := .deactivateMember (acts annMember .owner) ann bobMember }

def bobDeactivatesAnn : MemberTx :=
  { env := env 2, request := .deactivateMember (acts bobMember .owner) bob annMember }

/-- One owner is deactivated, and then the other one is not. -/
def inTurn : List (Move MemberTx Empty) :=
  .begin 0 annDeactivatesBob :: steps 0 7 ++ .begin 1 bobDeactivatesAnn :: steps 1 7

/-- Each of two owners counts the other one, and then deactivates it. -/
def atOnce : List (Move MemberTx Empty) :=
  .begin 0 annDeactivatesBob :: .begin 1 bobDeactivatesAnn :: steps 0 2 ++ steps 1 2 ++
    steps 0 5 ++ steps 1 5

end Office

theorem owner_kept_office :
    (teamSessions.run (Store.start Office.twoOwners ()) Office.inTurn).db.hasActiveOwner
      Office.organizationId = true :=
  owner_kept Office.organizationId Office.twoOwners (by decide) Office.inTurn (by decide)

/-- **Two owners deactivate each other**, and the organization is left without an owner. -/
theorem owners_lost :
    Office.twoOwners.hasActiveOwner Office.organizationId = true ∧
      (teamSessions.run (Store.start Office.twoOwners ()) Office.atOnce).db.hasActiveOwner
        Office.organizationId = false := by
  decide

end LedgerLight
