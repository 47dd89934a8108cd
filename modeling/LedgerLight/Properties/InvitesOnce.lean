import LedgerLight.Infra.UniqueColumn
import LedgerLight.Properties.AcceptedMembers

/-!
# An invite is accepted once

`acceptInvitation` checks an invite before its transaction, and what it writes does not look at the
invite again. What others commit in between it overwrites.

* `accepted_once` : as long as nobody accepts an invite, or deactivates its membership, while
  another call is about to accept it, one call at most accepts an invite, and a deactivated
  membership comes back by `reactivateMember` or `inviteMember` only.
* `accepted_twice` : two calls accept one invite, and the second sets its own password; and a
  membership that is deactivated in between becomes active.
-/

namespace LedgerLight

open Infra Prog ReadCommitted

/-! ## Hashes are unique -/

/-- The hashes of the invites. -/
def Backend.inviteHash (db : Backend) (tokenId : Id) : Option String :=
  (db.inviteTokens.lookup tokenId).map (·.tokenHash)

section

variable {S : Type} {env : TeamEnv} {organization : MemberContext}
  {membershipId userId actorUserId tokenId : Id}

/-- A statement that leaves the invites alone. -/
theorem quiet_of_inviteTokens {rows : List BackendKey} {fails : Backend → Option BackendError}
    {patch : Backend → Backend} (h : ∀ d, (patch d).inviteTokens = d.inviteTokens) :
    (exec rows fails patch : Work S Unit).Quiet Backend.inviteHash :=
  quiet_exec fun d => by
    funext i
    show Option.map _ ((patch d).inviteTokens.lookup i) = Option.map _ (d.inviteTokens.lookup i)
    rw [h d]

theorem membershipUpdate_quietHash {f : Membership → Membership} :
    (membershipUpdate env membershipId f : Work S Unit).Quiet Backend.inviteHash :=
  quiet_of_inviteTokens fun _ => Backend.inviteTokens_modifyMembership

theorem userUpdate_quietHash {email : Option String} {f : User → User} :
    (userUpdate env userId email f : Work S Unit).Quiet Backend.inviteHash :=
  quiet_of_inviteTokens fun _ => Backend.inviteTokens_modifyUser

theorem replaceMembershipLocations_quietHash {locationIds : List Id} :
    (replaceMembershipLocations membershipId locationIds : Work S Unit).Quiet
      Backend.inviteHash :=
  Quiet.bind (quiet_of_inviteTokens fun _ => rfl) fun _ =>
    quiet_doWhen (quiet_of_inviteTokens fun _ => rfl)

theorem inviteTokenExpire_quietHash :
    (inviteTokenExpire env membershipId : Work S Unit).Quiet Backend.inviteHash := by
  refine quiet_exec fun d => ?_
  funext i
  unfold Backend.inviteHash
  rw [Table.lookup_mapRows, Option.map_map]
  congr 1
  funext t
  dsimp only [Function.comp_def]
  split <;> rfl

theorem inviteTokenAccept_quietHash :
    (inviteTokenAccept env tokenId membershipId : Work S Unit).Quiet Backend.inviteHash := by
  refine quiet_exec fun d => ?_
  cases ht : d.inviteTokens.lookup tokenId with
  | none => rfl
  | some t =>
    funext i
    simp only [Backend.inviteHash, Table.lookup_insert_ite]
    split
    · next he => rw [he, ht]; rfl
    · rfl

/-- A new invite has a hash that no other has, and its lock. -/
theorem inviteTokenCreate_inserts {t : InviteToken} :
    (inviteTokenCreate tokenId t : Work S Unit).InsertsOnce Backend.inviteHash
      BackendKey.inviteHash := by
  refine insertsOnce_exec (i := tokenId) (v := t.tokenHash) (by simp) (fun d hfails j hj => ?_)
    fun d => ?_
  · split at hfails
    · cases hfails
    · next hnew =>
      simp only [not_or, Bool.not_eq_true, Option.isSome_eq_false_iff,
        Option.isNone_iff_eq_none] at hnew
      obtain ⟨t', ht', hhash⟩ := Option.map_eq_some_iff.mp hj
      have hne := Table.pred_of_findRow?_eq_none hnew.2 ht'
      simp [hhash] at hne
  · funext i
    rw [Function.update_apply]
    simp only [Backend.inviteHash, Table.lookup_insert_ite]
    split <;> rfl

theorem createInviteForMembership_inserts :
    (createInviteForMembership env tokenId membershipId : Work S String).InsertsOnce
      Backend.inviteHash BackendKey.inviteHash :=
  inviteTokenExpire_quietHash.bind_insertsOnce fun _ =>
    InsertsOnce.bind inviteTokenCreate_inserts fun _ => trivial

theorem createAuditLog_quietHash {organizationId entityId : Id} {actor : Option Id}
    {action : MemberAuditAction} {before after : Option MembershipSnapshot} :
    (createAuditLog env organizationId actor action entityId before after : Work S Unit).Quiet
      Backend.inviteHash :=
  quiet_of_inviteTokens fun _ => rfl

/-- The end of a transaction about a membership. -/
theorem reload_quietHash {α : Type} {organizationId : Id} {actor : Option Id}
    {action : MemberAuditAction} {before : Option MembershipSnapshot}
    {entityId : TeamMemberRecord → Id} {k : TeamMemberRecord → Unit → Work S α}
    (hk : ∀ r u, (k r u).Quiet Backend.inviteHash) :
    (loadMembershipWithRelations membershipId >>= fun updated =>
      createAuditLog env organizationId actor action (entityId updated) before
        (some (snapshotMembership updated)) >>= k updated).Quiet Backend.inviteHash :=
  loadMembershipWithRelations_readOnly.quiet.bind fun r => createAuditLog_quietHash.bind (hk r)

theorem renewAccess_inserts {hasPassword : Bool} :
    (renewAccess env hasPassword membershipId userId : Work S _).InsertsOnce Backend.inviteHash
      BackendKey.inviteHash := by
  unfold renewAccess
  split
  · exact Quiet.bind_insertsOnce (quiet_of_inviteTokens fun _ => rfl) fun _ => trivial
  · exact InsertsOnce.bind createInviteForMembership_inserts fun _ => trivial

theorem inviteMemberTx_inserts {input : InviteMemberDto} {target : InviteTarget} :
    (inviteMemberTx env organization actorUserId input target : Work S _).InsertsOnce
      Backend.inviteHash BackendKey.inviteHash := by
  have haccount : (invitedAccount env input target : Work S _).Quiet Backend.inviteHash := by
    unfold invitedAccount
    split
    · trivial
    · exact Quiet.bind (quiet_of_inviteTokens fun _ => rfl) fun _ => trivial
  refine haccount.bind_insertsOnce fun account => ?_
  dsimp only
  split
  · exact membershipUpdate_quietHash.bind_insertsOnce fun _ =>
      userUpdate_quietHash.bind_insertsOnce fun _ =>
        replaceMembershipLocations_quietHash.bind_insertsOnce fun _ =>
          InsertsOnce.bind renewAccess_inserts fun _ => reload_quietHash fun _ _ => trivial
  · exact Quiet.bind_insertsOnce (quiet_of_inviteTokens fun _ => rfl) fun _ =>
      replaceMembershipLocations_quietHash.bind_insertsOnce fun _ =>
        InsertsOnce.bind createInviteForMembership_inserts fun _ =>
          reload_quietHash fun _ _ => trivial

/-- Every call makes one invite at most. -/
theorem MemberTx.prog_inserts (r : MemberTx) :
    r.prog.InsertsOnce Backend.inviteHash BackendKey.inviteHash := by
  obtain ⟨env, request⟩ := r
  cases request with
  | inviteMember organization actorUserId input =>
    exact inviteMemberRead_readOnly.quiet.bind_insertsOnce fun _ =>
      InsertsOnce.bind inviteMemberTx_inserts fun _ => trivial
  | updateMemberRole organization actorUserId k role =>
    refine Quiet.insertsOnce ?_
    exact updateMemberRoleRead_readOnly.quiet.bind fun _ => membershipUpdate_quietHash
  | logRoleChange organization actorUserId k membership =>
    refine Quiet.insertsOnce ?_
    exact findMembershipOrThrow_readOnly.quiet.bind fun _ => createAuditLog_quietHash
  | deactivateMember organization actorUserId k =>
    refine Quiet.insertsOnce ?_
    exact deactivateMemberRead_readOnly.quiet.bind fun _ =>
      membershipUpdate_quietHash.bind fun _ => Quiet.bind (quiet_of_inviteTokens fun _ => rfl)
        fun _ => loadMembershipWithRelations_readOnly.quiet.bind fun _ => createAuditLog_quietHash
  | reactivateMember organization actorUserId k =>
    refine reactivateMemberRead_readOnly.quiet.bind_insertsOnce fun _ =>
      InsertsOnce.bind ?_ fun _ => trivial
    exact membershipUpdate_quietHash.bind_insertsOnce fun _ =>
      InsertsOnce.bind renewAccess_inserts fun _ => reload_quietHash fun _ _ => trivial
  | resendInvite organization actorUserId k =>
    refine resendInviteRead_readOnly.quiet.bind_insertsOnce fun _ =>
      InsertsOnce.bind ?_ fun _ => trivial
    exact InsertsOnce.bind createInviteForMembership_inserts fun _ =>
      reload_quietHash fun _ _ => trivial
  | acceptInvitation input authenticatedUserId =>
    refine Quiet.insertsOnce ?_
    exact acceptInvitationRead_readOnly.quiet.bind fun _ =>
      (quiet_doWhen userUpdate_quietHash).bind fun _ => membershipUpdate_quietHash.bind fun _ =>
        inviteTokenAccept_quietHash.bind fun _ =>
          loadMembershipWithRelations_readOnly.quiet.bind fun _ => createAuditLog_quietHash

end

/-! ## Who accepts, and who is in the way -/

namespace Backend

def isDeactivated (db : Backend) (k : Id) : Bool :=
  (db.memberships.lookup k).any fun m => m.status == .deactivated

def passwordOf (db : Backend) (userId : Id) : Option String :=
  (db.users.lookup userId).bind (·.passwordHash)

/-- An invite with this hash was accepted. -/
def spent (db : Backend) (tokenHash : String) : Prop :=
  ∃ i t, db.inviteTokens.lookup i = some t ∧ t.tokenHash = tokenHash ∧ t.acceptedAt.isSome = true

end Backend

namespace MemberTx

/-- The hash of the token that the call is to accept. -/
def tokenHash? (r : MemberTx) : Option String :=
  match r.request with
  | .acceptInvitation input _ => some (r.env.sha256 input.token)
  | _ => none

/-- The call is to accept the invite that `r'` is to accept, or to deactivate its membership. -/
def disturbs (r r' : MemberTx) (d : Backend) : Bool :=
  r'.tokenHash?.any fun tokenHash =>
    match r.request with
    | .acceptInvitation input _ => r.env.sha256 input.token == tokenHash
    | .deactivateMember _ _ k => d.invites tokenHash k
    | _ => false

end MemberTx

/-- A step that does not accept an invite that another call is about to accept, and does not
deactivate its membership. -/
def AcceptsAlone (st : TeamSessions) (a : Move MemberTx Empty) : Prop :=
  match st.commits? a with
  | none => True
  | some (t, x) => ∀ e ∈ st.sessions.entries, e.1 ≠ t → 1 ≤ e.2.statements →
      x.label.disturbs e.2.label st.db = false

instance (st : TeamSessions) (a : Move MemberTx Empty) : Decidable (AcceptsAlone st a) := by
  unfold AcceptsAlone
  obtain _ | ⟨t, x⟩ := st.commits? a <;> infer_instance

/-- What is not accepted of an invite, and not deactivated of its membership, is still so. -/
def Undisturbed (tokenHash : String) (d d' : Backend) : Prop :=
  ∀ i t, d.inviteTokens.lookup i = some t → t.tokenHash = tokenHash →
    (t.acceptedAt = none → ∃ t', d'.inviteTokens.lookup i = some t' ∧ t'.acceptedAt = none) ∧
    (d.isDeactivated t.membershipId = false → d'.isDeactivated t.membershipId = false)

/-- What a call that accepts relies on from its first statement on. -/
def onceRely (r : MemberTx) (n : Nat) (d d' : Backend) : Prop :=
  MembersStay d d' ∧ (1 ≤ n → ∀ tokenHash ∈ r.tokenHash?, Undisturbed tokenHash d d')

def onceContract (r : MemberTx) : Contract Backend where
  rely := onceRely r
  post d d' := MemberCommit (onceRely r) r.env d d' r.request

section

variable {r r' : MemberTx} {d d₁ d' : Backend} {k i : Id} {env : TeamEnv} {tokenHash : String}
  {t : InviteToken}

theorem Undisturbed.refl (tokenHash : String) (d : Backend) : Undisturbed tokenHash d d :=
  fun _ t ht _ => ⟨fun h => ⟨t, ht, h⟩, id⟩

theorem Undisturbed.trans (hstay : MembersStay d d₁) (h : Undisturbed tokenHash d d₁)
    (h' : Undisturbed tokenHash d₁ d') : Undisturbed tokenHash d d' := by
  intro i t ht hhash
  obtain ⟨hfree, hactive⟩ := h i t ht hhash
  obtain ⟨t₁, ht₁, hview⟩ := hstay.inviteTokens i t ht
  obtain ⟨hk, hhash₁⟩ := Prod.mk.inj hview
  obtain ⟨hfree', hactive'⟩ := h' i t₁ ht₁ (hhash₁.trans hhash)
  constructor
  · intro hnone
    obtain ⟨t₂, ht₂, hnone₂⟩ := hfree hnone
    rw [ht₁] at ht₂
    obtain rfl := Option.some.inj ht₂
    exact hfree' hnone₂
  · intro hd
    rw [← hk]
    exact hactive' (hk ▸ hactive hd)

theorem rely_onceRely : Rely (onceRely r) where
  refl _ d := ⟨MembersStay.refl d, fun _ tokenHash _ => Undisturbed.refl tokenHash d⟩
  trans := by
    rintro n d d' d'' ⟨hstay, hfree⟩ ⟨hstay', hfree'⟩
    exact ⟨hstay.trans hstay', fun hn tokenHash hr =>
      (hfree hn tokenHash hr).trans hstay (hfree' hn tokenHash hr)⟩

theorem narrowing_onceRely : Narrowing (onceRely r) :=
  fun _ _ _ h => ⟨h.1, fun hn => h.2 (Nat.le_succ_of_le hn)⟩

/-- An invite that is about to be accepted is free, and its membership is not deactivated. -/
theorem AcceptSeen.free {input : AcceptInviteDto} {authenticatedUserId : Option Id}
    {invitation : TeamInvitationRecord}
    (h : AcceptSeen (onceRely ⟨env, .acceptInvitation input authenticatedUserId⟩) env input
      authenticatedUserId invitation d) :
    (∃ t, d.inviteTokens.lookup invitation.id = some t ∧
      t.tokenHash = env.sha256 input.token ∧ t.acceptedAt = none) ∧
      d.isDeactivated invitation.membership.id = false := by
  obtain ⟨d₁, hfound, hrely⟩ := h.found
  obtain ⟨ht, hhash, hm⟩ := Backend.invitation?_eq_some hfound
  obtain ⟨hlookup, -, hid, -⟩ := Backend.member?_eq_some hm
  have hvalid := h.valid
  simp only [TeamInvitationRecord.valid, Bool.and_eq_true, Option.isNone_iff_eq_none,
    beq_iff_eq] at hvalid
  obtain ⟨⟨hnone, -⟩, hinvited⟩ := hvalid
  obtain ⟨hfree, hactive⟩ := hrely.2 le_rfl _ rfl _ _ ht hhash
  obtain ⟨t, ht', hnone'⟩ := hfree hnone
  obtain ⟨t', ht'', hview⟩ := hrely.1.inviteTokens _ _ ht
  rw [ht'] at ht''
  obtain rfl := Option.some.inj ht''
  refine ⟨⟨t, ht', (Prod.mk.inj hview).2.trans hhash, hnone'⟩, ?_⟩
  rw [hid]
  exact hactive (by simp [Backend.isDeactivated, hlookup, hinvited])

/-! ## What a commit does to an invite -/

theorem lookup_reinvite {tokenId k' : Id} {db : Backend} (hdb : db.inviteTokens = d.inviteTokens)
    (hnew : d.inviteTokens.lookup tokenId = none) (ht : d.inviteTokens.lookup i = some t) :
    ∃ t', (db.reinvite env tokenId k').inviteTokens.lookup i = some t' ∧
      t'.acceptedAt = t.acceptedAt := by
  have hne : i ≠ tokenId := fun he => by
    rw [he, hnew] at ht
    cases ht
  refine ⟨_, (AList.lookup_insert_ne hne).trans ((Table.lookup_mapRows ..).trans
    (congrArg _ (hdb ▸ ht))), ?_⟩
  dsimp only
  split <;> rfl

theorem lookup_renewed {hasPassword : Bool} {k' : Id} {db : Backend}
    (hdb : db.inviteTokens = d.inviteTokens)
    (hnew : hasPassword = false → d.inviteTokens.lookup (env.uuid 2) = none)
    (ht : d.inviteTokens.lookup i = some t) :
    ∃ t', (db.renewed env hasPassword k').inviteTokens.lookup i = some t' ∧
      t'.acceptedAt = t.acceptedAt := by
  unfold Backend.renewed
  split
  · exact ⟨t, hdb ▸ ht, rfl⟩
  · next h => exact lookup_reinvite hdb (hnew (by simpa using h)) ht

/-- An invite is accepted by a call for it only, and is never free again. -/
theorem MemberCommit.token (h : MemberCommit (onceRely r) r.env d d' r.request)
    (ht : d.inviteTokens.lookup i = some t) :
    ∃ t', d'.inviteTokens.lookup i = some t' ∧ (t'.acceptedAt = t.acceptedAt ∨
      t'.acceptedAt.isSome = true ∧ r.tokenHash? = some t.tokenHash) := by
  obtain ⟨env, request⟩ := r
  cases h with
  | invited seen invited =>
    cases invited with
    | @made userId d₁ unknown account new fresh members =>
      have htokens : d₁.inviteTokens = d.inviteTokens := by cases account <;> rfl
      rw [inviteTokens_of_members members]
      obtain ⟨t', ht', he⟩ := lookup_reinvite htokens fresh ht
      exact ⟨t', ht', Or.inl he⟩
    | broughtBack found account fresh members =>
      rw [inviteTokens_of_members members]
      obtain ⟨t', ht', he⟩ := lookup_renewed (Backend.inviteTokens_modifyUser.trans
        Backend.inviteTokens_modifyMembership) fresh ht
      exact ⟨t', ht', Or.inl he⟩
  | roleUpdated seen members =>
    rw [inviteTokens_of_members members, Backend.inviteTokens_modifyMembership]
    exact ⟨t, ht, Or.inl rfl⟩
  | logged members =>
    rw [inviteTokens_of_members members]
    exact ⟨t, ht, Or.inl rfl⟩
  | deactivated seen members =>
    rw [inviteTokens_of_members members, Backend.inviteTokens_modifyMembership]
    exact ⟨t, ht, Or.inl rfl⟩
  | reactivated seen fresh members =>
    rw [inviteTokens_of_members members]
    obtain ⟨t', ht', he⟩ := lookup_renewed Backend.inviteTokens_modifyMembership fresh ht
    exact ⟨t', ht', Or.inl he⟩
  | resent seen fresh members =>
    rw [inviteTokens_of_members members]
    obtain ⟨t', ht', he⟩ := lookup_reinvite rfl fresh ht
    exact ⟨t', ht', Or.inl he⟩
  | @accepted input authenticatedUserId invitation seen members =>
    rw [inviteTokens_of_members members]
    obtain ⟨⟨t₀, ht₀, hhash, -⟩, -⟩ := seen.free
    have hlookup : ((d.acceptedBy env input invitation.membership.user.hasPassword
        invitation.membership.userId).modifyMembership invitation.membership.id
        (activated env)).inviteTokens.lookup invitation.id = some t₀ := by simpa using ht₀
    unfold Backend.acceptInvite
    rw [hlookup]
    simp only [Backend.inviteTokens_setInvite, Backend.inviteTokens_modifyMembership,
      Backend.inviteTokens_acceptedBy, Table.lookup_insert_ite]
    split
    · next he =>
      subst he
      obtain rfl := Option.some.inj (ht.symm.trans ht₀)
      exact ⟨_, rfl, Or.inr ⟨rfl, congrArg some hhash.symm⟩⟩
    · exact ⟨t, ht, Or.inl rfl⟩

/-! ## What a commit does to a status -/

theorem isDeactivated_of_members (h : d'.members = d.members) :
    d'.isDeactivated k = d.isDeactivated k := by
  have hm : d'.memberships = d.memberships := congrArg (·.1) h
  rw [Backend.isDeactivated, hm, Backend.isDeactivated]

theorem isDeactivated_modifyMembership {k' : Id} {f : Membership → Membership} :
    (d.modifyMembership k' f).isDeactivated k =
      if k = k' then (d.memberships.lookup k').any fun m => (f m).status == .deactivated
      else d.isDeactivated k := by
  unfold Backend.modifyMembership
  split
  · next hnone =>
    split
    · next he => rw [he, Backend.isDeactivated, hnone]; rfl
    · rfl
  · next m hm =>
    rw [hm, Backend.isDeactivated, Backend.memberships_setMembership, Table.lookup_insert_ite]
    split <;> rfl

/-- A change that leaves the status of the membership. -/
theorem isDeactivated_of_keeps {k' : Id} {f : Membership → Membership}
    (hf : ∀ m, (f m).status = m.status) :
    (d.modifyMembership k' f).isDeactivated k = d.isDeactivated k := by
  rw [isDeactivated_modifyMembership]
  split
  · next he =>
    subst he
    unfold Backend.isDeactivated
    simp only [hf]
  · rfl

/-- A change after which the membership is not deactivated. -/
theorem isDeactivated_of_leaves {k' : Id} {f : Membership → Membership}
    (hf : ∀ m, (f m).status ≠ .deactivated) :
    (d.modifyMembership k' f).isDeactivated k = d.isDeactivated k ∨
      k = k' ∧ (d.modifyMembership k' f).isDeactivated k = false := by
  rw [isDeactivated_modifyMembership]
  by_cases he : k = k'
  · refine Or.inr ⟨he, ?_⟩
    rw [if_pos he, Option.any_eq_false]
    intro m _
    simp [hf m]
  · exact Or.inl (if_neg he)

theorem isDeactivated_of_made {m : Membership} {k' tokenId k'' : Id} {db : Backend}
    (hdb : db.memberships = d.memberships) (hnew : d.memberships.lookup k' = none)
    (hm : m.status ≠ .deactivated) :
    ((db.setMembership k' m).reinvite env tokenId k'').isDeactivated k = d.isDeactivated k := by
  rw [Backend.isDeactivated, Backend.memberships_reinvite, Backend.memberships_setMembership,
    Table.lookup_insert_ite, hdb, Backend.isDeactivated]
  split
  · next he => rw [he, hnew]; simp [hm]
  · rfl

theorem isDeactivated_of_memberships {db : Backend} (hdb : db.memberships = d.memberships) :
    db.isDeactivated k = d.isDeactivated k := by
  rw [Backend.isDeactivated, hdb, Backend.isDeactivated]

theorem reinstated_status (env : TeamEnv) (hasPassword : Bool) (invitedAt : Option Date)
    (m : Membership) : (reinstated env hasPassword invitedAt m).status ≠ .deactivated := by
  cases hasPassword <;> simp [reinstated]

/-- **A membership is deactivated by `deactivateMember` only, and is so no longer by
`reactivateMember` or `inviteMember` only.** -/
theorem MemberCommit.isDeactivated (h : MemberCommit (onceRely r) r.env d d' r.request) (k : Id) :
    d'.isDeactivated k = d.isDeactivated k ∨
      r.bringsBack d k = true ∧ d'.isDeactivated k = false ∨
      d'.isDeactivated k = true ∧
        ∃ organization actorUserId, r.request = .deactivateMember organization actorUserId k := by
  obtain ⟨env, request⟩ := r
  cases h with
  | @invited organization actorUserId input target seen invited =>
    cases invited with
    | @made userId d₁ unknown account new fresh members =>
      have hmemberships : d₁.memberships = d.memberships := by cases account <;> rfl
      rw [isDeactivated_of_members members]
      exact Or.inl (isDeactivated_of_made hmemberships new fun h => by cases h)
    | @broughtBack userId user m found account fresh members =>
      rw [isDeactivated_of_members members, isDeactivated_of_memberships
        (Backend.memberships_renewed.trans Backend.memberships_modifyUser)]
      refine Or.imp_right (fun ⟨he, hd⟩ => Or.inl ⟨?_, hd⟩)
        (isDeactivated_of_leaves fun m' =>
          reinstated_status env user.hasPassword m.invitedAt { m' with role := input.role })
      obtain ⟨-, user', huser', d₁, hof, hrely⟩ := seen.membership m found
      rw [he]
      exact hrely.1.writesOver
        (writesOver_of_memberOf seen (fun _ _ _ hrely => hrely.1) found hof)
  | roleUpdated seen members =>
    rw [isDeactivated_of_members members]
    exact Or.inl (isDeactivated_of_keeps fun _ => rfl)
  | logged members => exact Or.inl (isDeactivated_of_members members)
  | @deactivated organization actorUserId k' m seen members =>
    rw [isDeactivated_of_members members, isDeactivated_modifyMembership]
    by_cases he : k = k'
    · rw [if_pos he]
      cases hm : d.memberships.lookup k' with
      | none => exact Or.inl (by rw [he, Backend.isDeactivated, hm]; rfl)
      | some m' => exact Or.inr (Or.inr ⟨rfl, organization, actorUserId, by rw [he]⟩)
    · exact Or.inl (if_neg he)
  | @reactivated organization actorUserId k' m seen fresh members =>
    rw [isDeactivated_of_members members, isDeactivated_of_memberships Backend.memberships_renewed]
    refine Or.imp_right (fun ⟨he, hd⟩ => Or.inl ⟨?_, hd⟩)
      (isDeactivated_of_leaves fun m' =>
        reinstated_status env m.user.hasPassword m.invitedAt m')
    simp [MemberTx.bringsBack, MemberTx.writesOver, he]
  | resent seen fresh members =>
    rw [isDeactivated_of_members members]
    exact Or.inl rfl
  | @accepted input authenticatedUserId invitation seen members =>
    rw [isDeactivated_of_members members,
      isDeactivated_of_memberships Backend.memberships_acceptInvite]
    refine Or.inl ?_
    rw [isDeactivated_modifyMembership]
    by_cases he : k = invitation.membership.id
    · rw [if_pos he, he, seen.free.2, Option.any_eq_false]
      intro m _
      simp [activated]
    · rw [if_neg he]
      exact isDeactivated_of_memberships Backend.memberships_acceptedBy

/-- A commit that is not in the way of a call leaves what the call relies on. -/
theorem MemberCommit.undisturbed (h : MemberCommit (onceRely r) r.env d d' r.request)
    (hr' : r'.tokenHash? = some tokenHash) (hd : r.disturbs r' d = false) :
    Undisturbed tokenHash d d' := by
  intro i t ht hhash
  subst hhash
  rw [MemberTx.disturbs, hr', Option.any_some] at hd
  constructor
  · intro hnone
    obtain ⟨t', ht', hsame | ⟨-, hr⟩⟩ := h.token ht
    · exact ⟨t', ht', hsame.trans hnone⟩
    · unfold MemberTx.tokenHash? at hr
      split at hr
      · next input authenticatedUserId hrequest =>
        rw [hrequest] at hd
        simp [Option.some.inj hr] at hd
      · cases hr
  · intro hactive
    rcases h.isDeactivated t.membershipId with hsame | ⟨-, hnow⟩ | ⟨-, organization, actorUserId, hr⟩
    · exact hsame.trans hactive
    · exact hnow
    · rw [hr] at hd
      refine absurd ?_ (Bool.eq_false_iff.mp hd)
      exact Backend.invites_iff.mpr ⟨i, t, ht, rfl, rfl⟩

theorem MemberCommit.spent (h : MemberCommit (onceRely r) r.env d d' r.request)
    (hd : d.spent tokenHash) : d'.spent tokenHash := by
  obtain ⟨i, t, ht, hhash, hsome⟩ := hd
  obtain ⟨t', ht', haccepted⟩ := h.token ht
  obtain ⟨t'', ht'', hview⟩ := h.stay.inviteTokens i t ht
  obtain rfl := Option.some.inj (ht'.symm.trans ht'')
  refine ⟨i, t', ht', (Prod.mk.inj hview).2.trans hhash, ?_⟩
  rcases haccepted with hsame | ⟨hsome', -⟩
  · rw [hsame]
    exact hsome
  · exact hsome'

/-- A call that accepts finds its invite free and leaves it spent. -/
theorem MemberCommit.accepts (h : MemberCommit (onceRely r) r.env d d' r.request)
    (hr : r.tokenHash? = some tokenHash) :
    (∃ i t, d.inviteTokens.lookup i = some t ∧ t.tokenHash = tokenHash ∧ t.acceptedAt = none) ∧
      d'.spent tokenHash := by
  obtain ⟨env, request⟩ := r
  cases h with
  | @accepted input authenticatedUserId invitation seen members =>
    obtain rfl : env.sha256 input.token = tokenHash := Option.some.inj hr
    obtain ⟨⟨t, ht, hhash, hnone⟩, -⟩ := seen.free
    refine ⟨⟨_, t, ht, hhash, hnone⟩, invitation.id, { t with acceptedAt := some env.now }, ?_,
      hhash, rfl⟩
    have hlookup : ((d.acceptedBy env input invitation.membership.user.hasPassword
        invitation.membership.userId).modifyMembership invitation.membership.id
        (activated env)).inviteTokens.lookup invitation.id = some t := by simpa using ht
    rw [inviteTokens_of_members members, Backend.acceptInvite, hlookup]
    exact AList.lookup_insert _
  | _ => cases hr

end

/-! ## Runs -/

/-- What a step commits respects what the calls rely on. -/
theorem respects_of_acceptsAlone (st : TeamSessions) (a : Move MemberTx Empty)
    (h : st.Secured teamCell onceContract) (hc : AcceptsAlone st a) :
    st.Respects onceContract a := by
  unfold AcceptsAlone at hc
  unfold Store.Respects
  split
  · trivial
  · next t x hcommit =>
    rw [hcommit] at hc
    have hpost : MemberCommit (onceRely x.label) x.label.env st.db (x.writes st.db)
        x.label.request := h.commit (fun _ => rely_onceRely) hcommit
    exact fun e he hne => ⟨hpost.stay, fun hn tokenHash hr =>
      hpost.undisturbed hr (hc e he hne hn)⟩

theorem onceContract_secures (r : MemberTx) (d : Backend) :
    r.prog.Secures teamCell (onceContract r).rely
      (fun _ _ writes d => (onceContract r).post d (writes d)) [] 0 id d :=
  MemberTx.secures rely_onceRely narrowing_onceRely r d

section

variable {db₀ : Backend} {as as₁ as₂ as₃ : List (Move MemberTx Empty)} {a b : Move MemberTx Empty}

/-- What is so of the calls in every state of a run. -/
theorem secured_of_acceptsAlone (h : teamSessions.Meets AcceptsAlone (Store.start db₀ ()) as) :
    (teamSessions.run (Store.start db₀ ()) as).Locked teamCell ∧
      (teamSessions.run (Store.start db₀ ()) as).Secured teamCell onceContract :=
  secured_run (fun _ => rely_onceRely) MemberTx.prog_footprint onceContract_secures
    respects_of_acceptsAlone h

/-- An invite that is spent stays so. -/
theorem spent_stays {tokenHash : String} (has : as = as₁ ++ as₂)
    (h : teamSessions.Meets AcceptsAlone (Store.start db₀ ()) as)
    (hspent : (teamSessions.run (Store.start db₀ ()) as₁).db.spent tokenHash) :
    (teamSessions.run (Store.start db₀ ()) as).db.spent tokenHash := by
  subst has
  obtain ⟨h₁, h₂⟩ := (Machine.meets_append ..).mp h
  obtain ⟨hlocked, hsecured⟩ := secured_of_acceptsAlone h₁
  rw [Machine.run_append]
  exact Store.Secured.run (J := fun d => d.spent tokenHash) (fun _ => rely_onceRely)
    MemberTx.prog_footprint onceContract_secures respects_of_acceptsAlone
    (fun _ _ _ _ _ _ hpost hd => MemberCommit.spent hpost hd) hlocked hsecured hspent h₂

/-- What is committed in a run is what the call says. -/
theorem commit_of_acceptsAlone {t : Nat} {x : Session Backend BackendKey Unit BackendError MemberTx}
    (h : teamSessions.Meets AcceptsAlone (Store.start db₀ ()) as)
    (hcommit : (teamSessions.run (Store.start db₀ ()) as).commits? a = some (t, x)) :
    MemberCommit (onceRely x.label) x.label.env (teamSessions.run (Store.start db₀ ()) as).db
      (teamSessions.step (teamSessions.run (Store.start db₀ ()) as) a).db x.label.request := by
  have hdb : (teamSessions.step (teamSessions.run (Store.start db₀ ()) as) a).db = _ :=
    Store.db_of_commits? hcommit
  rw [hdb]
  exact (secured_of_acceptsAlone h).2.commit (fun _ => rely_onceRely) hcommit

end

/-- **An invite is accepted once**: in every run of calls, in any order of their statements, in which
nobody accepts an invite or deactivates its membership while another call is about to accept it,
* no two calls commit that accept one token, so that none overwrites the password another has set;
* a membership that is deactivated is so no longer only after a `reactivateMember` or an
  `inviteMember` of it has committed. -/
theorem accepted_once (db₀ : Backend) (hunique : Unique Backend.inviteHash db₀)
    (as : List (Move MemberTx Empty))
    (h : teamSessions.Meets AcceptsAlone (Store.start db₀ ()) as) :
    (∀ as₁ a as₂ b as₃ t x t' y tokenHash, as = as₁ ++ a :: as₂ ++ b :: as₃ →
      (teamSessions.run (Store.start db₀ ()) as₁).commits? a = some (t, x) →
      x.label.tokenHash? = some tokenHash →
      (teamSessions.run (Store.start db₀ ()) (as₁ ++ a :: as₂)).commits? b = some (t', y) →
      y.label.tokenHash? ≠ some tokenHash) ∧
    (∀ as₁ a as₂ b as₃ t x tokenHash userId, as = as₁ ++ a :: as₂ ++ b :: as₃ →
      (teamSessions.run (Store.start db₀ ()) as₁).commits? a = some (t, x) →
      x.label.tokenHash? = some tokenHash →
      (teamSessions.run (Store.start db₀ ()) (as₁ ++ a :: as₂ ++ [b])).db.passwordOf userId ≠
        (teamSessions.run (Store.start db₀ ()) (as₁ ++ a :: as₂)).db.passwordOf userId →
      ∃ t' y, (teamSessions.run (Store.start db₀ ()) (as₁ ++ a :: as₂)).commits? b =
        some (t', y) ∧ y.label.tokenHash? ≠ some tokenHash) ∧
    ∀ as₁ a as₂ k, as = as₁ ++ a :: as₂ →
      (teamSessions.run (Store.start db₀ ()) as₁).db.isDeactivated k = true →
      (teamSessions.run (Store.start db₀ ()) (as₁ ++ [a])).db.isDeactivated k = false →
      ∃ t x, (teamSessions.run (Store.start db₀ ()) as₁).commits? a = some (t, x) ∧
        x.label.bringsBack (teamSessions.run (Store.start db₀ ()) as₁).db k = true := by
  have honce : ∀ as₁ a as₂ b as₃ t x t' y tokenHash, as = as₁ ++ a :: as₂ ++ b :: as₃ →
      (teamSessions.run (Store.start db₀ ()) as₁).commits? a = some (t, x) →
      x.label.tokenHash? = some tokenHash →
      (teamSessions.run (Store.start db₀ ()) (as₁ ++ a :: as₂)).commits? b = some (t', y) →
      y.label.tokenHash? ≠ some tokenHash := by
    rintro as₁ a as₂ b as₃ t x t' y tokenHash rfl hcommit hx hcommit' hy
    obtain ⟨hbefore, -⟩ := (Machine.meets_append ..).mp h
    obtain ⟨h₁, hc, -⟩ := (Machine.meets_append ..).mp hbefore
    -- the first of the two leaves the invite spent
    have hspent := ((commit_of_acceptsAlone h₁ hcommit).accepts hx).2
    have hstays : (teamSessions.run (Store.start db₀ ()) (as₁ ++ a :: as₂)).db.spent tokenHash := by
      have hsplit : as₁ ++ a :: as₂ = (as₁ ++ [a]) ++ as₂ := by simp
      refine spent_stays hsplit hbefore ?_
      rw [Machine.run_append]
      exact hspent
    -- the second one finds it free, or another one with this hash
    obtain ⟨⟨i, tok, htok, hhash, hnone⟩, -⟩ := (commit_of_acceptsAlone hbefore hcommit').accepts hy
    obtain ⟨j, tok', htok', hhash', hsome⟩ := hstays
    have huniq : Unique Backend.inviteHash
        (teamSessions.run (Store.start db₀ ()) (as₁ ++ a :: as₂)).db :=
      unique_run MemberTx.prog_inserts hunique _
    obtain rfl : i = j := huniq i j tokenHash (by rw [Backend.inviteHash, htok, ← hhash]; rfl)
      (by rw [Backend.inviteHash, htok', ← hhash']; rfl)
    obtain rfl := Option.some.inj (htok.symm.trans htok')
    rw [hnone] at hsome
    cases hsome
  refine ⟨honce, ?_, ?_⟩
  · intro as₁ a as₂ b as₃ t x tokenHash userId has hcommit hx hpassword
    cases hcommit' : (teamSessions.run (Store.start db₀ ()) (as₁ ++ a :: as₂)).commits? b with
    | none =>
      have hsame : (teamSessions.step (teamSessions.run (Store.start db₀ ()) (as₁ ++ a :: as₂))
          b).db = _ := Store.db_of_commits?_eq_none hcommit'
      rw [Machine.run_append _ _ _ [b], Machine.run_cons, Machine.run_nil, hsame] at hpassword
      exact absurd rfl hpassword
    | some p => exact ⟨p.1, p.2, rfl, honce _ _ _ _ _ _ _ _ _ _ has hcommit hx hcommit'⟩
  · rintro as₁ a as₂ k rfl hdeactivated hleft
    obtain ⟨h₁, hc, -⟩ := (Machine.meets_append ..).mp h
    rw [Machine.run_append, Machine.run_cons, Machine.run_nil] at hleft
    cases hcommit : (teamSessions.run (Store.start db₀ ()) as₁).commits? a with
    | none =>
      have hsame : (teamSessions.step (teamSessions.run (Store.start db₀ ()) as₁) a).db = _ :=
        Store.db_of_commits?_eq_none hcommit
      rw [hsame, hdeactivated] at hleft
      cases hleft
    | some p =>
      obtain ⟨t, x⟩ := p
      refine ⟨t, x, rfl, ?_⟩
      have hpost := commit_of_acceptsAlone h₁ hcommit
      rcases hpost.isDeactivated k with hsame | ⟨hback, -⟩ | ⟨hstill, -⟩
      · rw [hsame, hdeactivated] at hleft
        cases hleft
      · exact hback
      · rw [hstill] at hleft
        cases hleft

namespace Office

/-- Accepting with a password of which this is the hash. -/
def acceptAs (n : Nat) (passwordHash : String) : MemberTx :=
  { env := { env n with bcryptHash := fun _ => passwordHash }, request := (accept n).request }

def deactivate (n : Nat) (k : Id) : MemberTx :=
  { env := env n, request := .deactivateMember (acts annMember .owner) ann k }

def reactivate (n : Nat) (k : Id) : MemberTx :=
  { env := env n, request := .reactivateMember (acts annMember .owner) ann k }

/-- An invitation of somebody new. -/
def invited : List (Move MemberTx Empty) := .begin 0 (invite 1 "cleo") :: steps 0 10

/-- The new member accepts, is deactivated, and is to be reactivated. -/
def toReactivate : List (Move MemberTx Empty) :=
  invited ++ .begin 1 (accept 2) :: steps 1 7 ++ .begin 2 (deactivate 3 ⟨1, 1⟩) :: steps 2 6 ++
    .begin 3 (reactivate 4 ⟨1, 1⟩) :: steps 3 5

/-- Two calls have read the invite, and the first is about to commit. -/
def bothRead : List (Move MemberTx Empty) :=
  invited ++ [.begin 1 (acceptAs 2 "first"), .statement 1, .begin 2 (acceptAs 3 "second"),
    .statement 2] ++ steps 1 5

/-- A call has read the invite, then its membership is deactivated, and the call is about to
commit. -/
def deactivatedMeanwhile : List (Move MemberTx Empty) :=
  invited ++ [.begin 1 (accept 2), .statement 1] ++
    .begin 2 (deactivate 3 ⟨1, 1⟩) :: steps 2 6 ++ steps 1 5

end Office

theorem accepted_once_office :
    ∃ t x, (teamSessions.run (Store.start Office.withStranger ())
        Office.toReactivate).commits? (.statement 3 : Move MemberTx Empty) = some (t, x) ∧
      x.label.bringsBack (teamSessions.run (Store.start Office.withStranger ())
        Office.toReactivate).db ⟨1, 1⟩ = true := by
  have hunique : Unique Backend.inviteHash Office.withStranger := fun _ _ _ h => by cases h
  exact (accepted_once Office.withStranger hunique (Office.toReactivate ++ [.statement 3])
    (by decide)).2.2 Office.toReactivate (.statement 3) [] ⟨1, 1⟩ rfl (by decide) (by decide)

/-- **An invite is accepted twice**, and the second call sets its own password; and a call that has
read an invite makes its membership active that was deactivated since. -/
theorem accepted_twice :
    Unique Backend.inviteHash Office.withStranger ∧
      (let st := teamSessions.run (Store.start Office.withStranger ()) Office.bothRead
       let st' := teamSessions.run st (.statement 1 :: Office.steps 2 5)
       ((st.commits? (.statement 1 : Move MemberTx Empty)).bind fun p => p.2.label.tokenHash?) =
          some ((Office.env 0).sha256 "token") ∧
        ((st'.commits? (.statement 2 : Move MemberTx Empty)).bind fun p => p.2.label.tokenHash?) =
          some ((Office.env 0).sha256 "token") ∧
        st'.db.passwordOf ⟨1, 0⟩ = some "first" ∧
        (teamSessions.step st' (.statement 2)).db.passwordOf ⟨1, 0⟩ = some "second") ∧
      (let st := teamSessions.run (Store.start Office.withStranger ()) Office.deactivatedMeanwhile
       st.db.isDeactivated ⟨1, 1⟩ = true ∧
        (teamSessions.step st (.statement 1)).db.isActive ⟨1, 1⟩ = true ∧
        ((st.commits? (.statement 1 : Move MemberTx Empty)).map fun p =>
          p.2.label.bringsBack st.db ⟨1, 1⟩) = some false) := by
  refine ⟨fun _ _ _ h => (by cases h), ?_, ?_⟩
  · decide
  · decide

end LedgerLight
