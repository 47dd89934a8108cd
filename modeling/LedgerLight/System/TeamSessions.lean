import LedgerLight.Infra.RowLocks
import LedgerLight.Team.Calls

/-!
# Concurrent calls of the team service

The calls that write memberships, statement by statement and in any order. A call reads and checks
before its transaction, so what it writes may rest on what others have changed since.

* `MemberCommit` : what a call commits, with what it read and what others may have committed
  between.
* `MemberTx.secures` : every call commits this and nothing else.
-/

namespace LedgerLight

open Infra Prog ReadCommitted

/-! ## Calls as transactions -/

/-- The transactions of the calls that write memberships, with the reads before them. The update of
`updateMemberRole` is committed by itself: `logRoleChange` is what the call does after it. -/
inductive MemberRequest where
  | inviteMember (organization : MemberContext) (actorUserId : Id) (input : InviteMemberDto)
  | updateMemberRole (organization : MemberContext) (actorUserId membershipId : Id) (role : Role)
  | logRoleChange (organization : MemberContext) (actorUserId membershipId : Id)
      (membership : TeamMemberRecord)
  | deactivateMember (organization : MemberContext) (actorUserId membershipId : Id)
  | reactivateMember (organization : MemberContext) (actorUserId membershipId : Id)
  | resendInvite (organization : MemberContext) (actorUserId membershipId : Id)
  | acceptInvitation (input : AcceptInviteDto) (authenticatedUserId : Option Id)

/-- A request with the clock and the ids it reads. -/
structure MemberTx where
  env : TeamEnv
  request : MemberRequest

namespace MemberTx

def prog (r : MemberTx) : Work Unit Unit :=
  match r.request with
  | .inviteMember organization actorUserId input => do
    let target ← inviteMemberRead r.env organization input
    let _ ← inviteMemberTx r.env organization actorUserId input target
  | .updateMemberRole organization actorUserId membershipId role => do
    let _ ← updateMemberRoleRead organization actorUserId membershipId role
    membershipUpdate r.env membershipId fun m => { m with role := role }
  | .logRoleChange organization actorUserId membershipId membership => do
    let updated ← findMembershipOrThrow organization.organizationId membershipId
    createAuditLog r.env organization.organizationId (some actorUserId) .roleChanged membershipId
      (some (snapshotMembership membership)) (some (snapshotMembership updated))
  | .deactivateMember organization actorUserId membershipId => do
    let membership ← deactivateMemberRead organization actorUserId membershipId
    deactivateMemberTx r.env organization actorUserId membershipId membership
  | .reactivateMember organization actorUserId membershipId => do
    let membership ← reactivateMemberRead organization membershipId
    let _ ← reactivateMemberTx r.env organization actorUserId membershipId membership
  | .resendInvite organization actorUserId membershipId => do
    let membership ← resendInviteRead organization membershipId
    let _ ← resendInviteTx r.env organization actorUserId membershipId membership
  | .acceptInvitation input authenticatedUserId => do
    let invitation ← acceptInvitationRead r.env input authenticatedUserId
    acceptInvitationTx r.env input invitation

end MemberTx

/-- The database while calls of the team service run. -/
abbrev TeamSessions := Store Backend BackendKey Unit BackendError MemberTx

/-- The calls, in any order of their statements. -/
def teamSessions : Machine TeamSessions (Move MemberTx Empty) :=
  transactions MemberTx.prog fun _ => id

/-! ## Locks -/

/-- What the rows of the team hold, by the lock they are under. A token may expire without the lock
of its row. -/
abbrev TeamCell : BackendKey → Type
  | .membership _ => Option Membership
  | .user _ => Option User
  | .inviteToken _ => Option (Id × String × Option Date)
  | _ => Unit

def teamCell : ∀ key, Backend → TeamCell key
  | .membership k, db => db.memberships.lookup k
  | .user userId, db => db.users.lookup userId
  | .inviteToken tokenId, db =>
    (db.inviteTokens.lookup tokenId).map fun t => (t.membershipId, t.tokenHash, t.acceptedAt)
  | .shop _, _ => ()
  | .email _, _ => ()
  | .seat _ _, _ => ()
  | .scope _, _ => ()
  | .invites _, _ => ()
  | .inviteHash _, _ => ()
  | .location _, _ => ()
  | .product _, _ => ()
  | .sku _ _, _ => ()
  | .level _ _, _ => ()
  | .levelId _, _ => ()
  | .adjustment _, _ => ()

/-- The tables that say who is a member. -/
def Backend.members (db : Backend) : Table Id Membership × Table Id User × Table Id InviteToken :=
  (db.memberships, db.users, db.inviteTokens)

theorem teamCell_of_members {db db' : Backend} (h : db'.members = db.members) (key : BackendKey) :
    teamCell key db' = teamCell key db := by
  obtain ⟨hm, hu, ht⟩ : db'.memberships = db.memberships ∧ db'.users = db.users ∧
      db'.inviteTokens = db.inviteTokens := by simpa [Backend.members] using h
  cases key with
  | membership k => show db'.memberships.lookup k = db.memberships.lookup k; rw [hm]
  | user userId => show db'.users.lookup userId = db.users.lookup userId; rw [hu]
  | inviteToken tokenId => show Option.map _ _ = Option.map _ _; rw [ht]
  | _ => rfl

section

variable {S : Type} {env : TeamEnv} {organization : MemberContext}
  {membershipId userId actorUserId : Id}

/-- A statement that leaves the tables of the team alone. -/
theorem footprint_of_members {rows : List BackendKey} {fails : Backend → Option BackendError}
    {patch : Backend → Backend} (h : ∀ d, (patch d).members = d.members) :
    (exec rows fails patch : Work S Unit).Footprint teamCell :=
  footprint_exec fun key _ d => teamCell_of_members (h d) key

theorem membershipUpdate_footprint {f : Membership → Membership} :
    (membershipUpdate env membershipId f : Work S Unit).Footprint teamCell := by
  refine footprint_exec fun key hkey d => ?_
  unfold Backend.modifyMembership
  split
  · rfl
  · cases key with
    | membership k => exact AList.lookup_insert_ne fun he => hkey (by simp [he])
    | _ => rfl

theorem membershipCreate_footprint {m : Membership} :
    (membershipCreate membershipId m : Work S Unit).Footprint teamCell := by
  refine footprint_exec fun key hkey d => ?_
  cases key with
  | membership k => exact AList.lookup_insert_ne fun he => hkey (by simp [he])
  | _ => rfl

theorem userUpdate_footprint {email : Option String} {f : User → User} :
    (userUpdate env userId email f : Work S Unit).Footprint teamCell := by
  refine footprint_exec fun key hkey d => ?_
  unfold Backend.modifyUser
  split
  · rfl
  · cases key with
    | user u => exact AList.lookup_insert_ne fun he => hkey (by simp [he])
    | _ => rfl

theorem userCreate_footprint {u : User} :
    (userCreate userId u : Work S Unit).Footprint teamCell := by
  refine footprint_exec fun key hkey d => ?_
  cases key with
  | user u => exact AList.lookup_insert_ne fun he => hkey (by simp [he])
  | _ => rfl

theorem inviteTokenExpire_footprint :
    (inviteTokenExpire env membershipId : Work S Unit).Footprint teamCell := by
  refine footprint_exec fun key _ d => ?_
  cases key with
  | inviteToken tokenId =>
    show Option.map _ _ = Option.map _ _
    rw [Table.lookup_mapRows, Option.map_map]
    congr 1
    funext t
    dsimp only [Function.comp_def]
    split <;> rfl
  | _ => rfl

theorem inviteTokenCreate_footprint {tokenId : Id} {t : InviteToken} :
    (inviteTokenCreate tokenId t : Work S Unit).Footprint teamCell := by
  refine footprint_exec fun key hkey d => ?_
  cases key with
  | inviteToken i =>
    have hne : i ≠ tokenId := fun he => hkey (by simp [he])
    exact congrArg (Option.map _) (AList.lookup_insert_ne hne)
  | _ => rfl

theorem inviteTokenAccept_footprint {tokenId : Id} :
    (inviteTokenAccept env tokenId membershipId : Work S Unit).Footprint teamCell := by
  refine footprint_exec fun key hkey d => ?_
  split
  · rfl
  · cases key with
    | inviteToken i =>
      have hne : i ≠ tokenId := fun he => hkey (by simp [he])
      exact congrArg (Option.map _) (AList.lookup_insert_ne hne)
    | _ => rfl

theorem createAuditLog_footprint {organizationId entityId : Id} {actor : Option Id}
    {action : MemberAuditAction} {before after : Option MembershipSnapshot} :
    (createAuditLog env organizationId actor action entityId before after : Work S Unit).Footprint
      teamCell :=
  footprint_of_members fun _ => rfl

theorem replaceMembershipLocations_footprint {locationIds : List Id} :
    (replaceMembershipLocations membershipId locationIds : Work S Unit).Footprint teamCell :=
  Footprint.bind (footprint_of_members fun _ => rfl) fun _ =>
    footprint_doWhen (footprint_of_members fun _ => rfl)

theorem createInviteForMembership_footprint {tokenId : Id} :
    (createInviteForMembership env tokenId membershipId : Work S String).Footprint teamCell :=
  Footprint.bind inviteTokenExpire_footprint fun _ =>
    Footprint.bind inviteTokenCreate_footprint fun _ => trivial

theorem renewAccess_footprint {hasPassword : Bool} :
    (renewAccess env hasPassword membershipId userId : Work S _).Footprint teamCell := by
  unfold renewAccess
  split
  · exact Footprint.bind (footprint_of_members fun _ => rfl) fun _ => trivial
  · exact Footprint.bind createInviteForMembership_footprint fun _ => trivial

/-- The end of a transaction about a membership. -/
theorem reload_footprint {α : Type} {k : TeamMemberRecord → Work S α}
    (hk : ∀ r, (k r).Footprint teamCell) :
    (loadMembershipWithRelations membershipId >>= k).Footprint teamCell :=
  loadMembershipWithRelations_readOnly.footprint.bind hk

theorem inviteMemberTx_footprint {input : InviteMemberDto} {target : InviteTarget} :
    (inviteMemberTx env organization actorUserId input target : Work S _).Footprint teamCell := by
  have haccount : (invitedAccount env input target : Work S _).Footprint teamCell := by
    unfold invitedAccount
    split
    · trivial
    · exact Footprint.bind userCreate_footprint fun _ => trivial
  refine haccount.bind fun account => ?_
  dsimp only
  split
  · exact Footprint.bind membershipUpdate_footprint fun _ =>
      Footprint.bind userUpdate_footprint fun _ =>
        Footprint.bind replaceMembershipLocations_footprint fun _ =>
          Footprint.bind renewAccess_footprint fun _ => reload_footprint fun _ =>
            Footprint.bind createAuditLog_footprint fun _ => trivial
  · exact Footprint.bind membershipCreate_footprint fun _ =>
      Footprint.bind replaceMembershipLocations_footprint fun _ =>
        Footprint.bind createInviteForMembership_footprint fun _ => reload_footprint fun _ =>
          Footprint.bind createAuditLog_footprint fun _ => trivial

theorem MemberTx.prog_footprint (r : MemberTx) : r.prog.Footprint teamCell := by
  obtain ⟨env, request⟩ := r
  cases request with
  | inviteMember organization actorUserId input =>
    exact inviteMemberRead_readOnly.footprint.bind fun _ =>
      Footprint.bind inviteMemberTx_footprint fun _ => trivial
  | updateMemberRole organization actorUserId k role =>
    exact updateMemberRoleRead_readOnly.footprint.bind fun _ => membershipUpdate_footprint
  | logRoleChange organization actorUserId k membership =>
    exact findMembershipOrThrow_readOnly.footprint.bind fun _ => createAuditLog_footprint
  | deactivateMember organization actorUserId k =>
    exact deactivateMemberRead_readOnly.footprint.bind fun _ =>
      Footprint.bind membershipUpdate_footprint fun _ =>
        Footprint.bind (footprint_of_members fun _ => rfl) fun _ =>
          reload_footprint fun _ => createAuditLog_footprint
  | reactivateMember organization actorUserId k =>
    refine reactivateMemberRead_readOnly.footprint.bind fun _ => Footprint.bind ?_ fun _ => trivial
    exact Footprint.bind membershipUpdate_footprint fun _ =>
      Footprint.bind renewAccess_footprint fun _ => reload_footprint fun _ =>
        Footprint.bind createAuditLog_footprint fun _ => trivial
  | resendInvite organization actorUserId k =>
    refine resendInviteRead_readOnly.footprint.bind fun _ => Footprint.bind ?_ fun _ => trivial
    exact Footprint.bind createInviteForMembership_footprint fun _ => reload_footprint fun _ =>
      Footprint.bind createAuditLog_footprint fun _ => trivial
  | acceptInvitation input authenticatedUserId =>
    exact acceptInvitationRead_readOnly.footprint.bind fun _ =>
      (footprint_doWhen userUpdate_footprint).bind fun _ =>
        Footprint.bind membershipUpdate_footprint fun _ =>
          Footprint.bind inviteTokenAccept_footprint fun _ => reload_footprint fun _ =>
            createAuditLog_footprint

end

/-! ## What a call reads -/

section

variable {S : Type} {env : TeamEnv} {organization : MemberContext} {k actorUserId : Id}
  {rely : Nat → Backend → Backend → Prop} {locks : List BackendKey} {n : Nat} {d : Backend}

theorem findMembershipOrThrow_secures {organizationId : Id} :
    (findMembershipOrThrow organizationId k : Work S _).Secures teamCell rely
      (fun r n' writes d => n' = n + 1 ∧ writes = id ∧ r.organizationId = organizationId ∧
        Seen rely (n + 1) (fun d => d.member? k = some r) d) locks n id d := by
  refine secures_select fun d₁ _ => ?_
  cases hfound : ((id d₁).member? k).filter fun m => m.organizationId == organizationId with
  | none => trivial
  | some r =>
    obtain ⟨hm, ho⟩ := Option.filter_eq_some_iff.mp hfound
    exact fun d' h => ⟨rfl, rfl, by simpa using ho, d₁, hm, h.rely⟩

/-- The check of the other owners, before the rest of a call. -/
theorem secures_ensureActiveOwnerCount {organizationId : Id} {α : Type} {x : Unit → Work S α}
    {Q : α → Nat → (Backend → Backend) → Backend → Prop}
    (h : ∀ d', rely n d d' → d'.otherOwners organizationId k ≠ 0 →
      (x ()).Secures teamCell rely Q locks (n + 1) id d') :
    (ensureActiveOwnerCount organizationId k >>= x).Secures teamCell rely Q locks n id d := by
  intro d₁ h₁
  exact secures_require fun hcount => h d₁ h₁.rely hcount

theorem secures_assertOwnerOrManageable {actorRole targetRole : Role} {message : String}
    {α : Type} {x : Unit → Work S α} {Q : α → Nat → (Backend → Backend) → Backend → Prop}
    {writes : Backend → Backend}
    (h : actorRole.Above targetRole → (x ()).Secures teamCell rely Q locks n writes d) :
    (assertOwnerOrManageable actorRole targetRole message >>= x).Secures teamCell rely Q locks n
      writes d := by
  unfold assertOwnerOrManageable
  split
  · exact secures_require fun hmanage =>
      h (above_of_canManageMember (hmanage.resolve_left Bool.false_ne_true))
  · exact secures_require fun howner => h (Or.inl howner)

/-- What a call has seen of the member it is about; and of the other owners, if that is to be an
owner no longer. -/
structure MemberSeen (rely : Nat → Backend → Backend → Prop) (organization : MemberContext)
    (k : Id) (leaves : Prop) (r : TeamMemberRecord) (d : Backend) : Prop where
  member : Seen rely 1 (fun d => d.member? k = some r) d
  organizationId : r.organizationId = organization.organizationId
  owners : leaves → Seen rely 2 (fun d => d.otherOwners organization.organizationId k ≠ 0) d

theorem MemberSeen.later (hR : Rely rely) (hN : Narrowing rely) {leaves : Prop}
    {r : TeamMemberRecord} {d' : Backend} (h : MemberSeen rely organization k leaves r d)
    (hn : 1 ≤ n) (hleaves : leaves → 2 ≤ n) (hd : rely n d d') :
    MemberSeen rely organization k leaves r d' :=
  ⟨h.member.later hR hN hn hd, h.organizationId,
    fun hl => (h.owners hl).later hR hN (hleaves hl) hd⟩

/-- The last check of a call, if its member is an owner who leaves. -/
theorem secures_lastCheck (hR : Rely rely) (hN : Narrowing rely) {leaves : Prop}
    [Decidable leaves] {r : TeamMemberRecord}
    (hm : Seen rely 1 (fun d => d.member? k = some r) d)
    (ho : r.organizationId = organization.organizationId) :
    (doWhen leaves (ensureActiveOwnerCount organization.organizationId k) >>= fun _ =>
      (pure r : Work S _)).Secures teamCell rely
      (fun r' n writes d => r' = r ∧ 1 ≤ n ∧ (leaves → 2 ≤ n) ∧ writes = id ∧
        MemberSeen rely organization k leaves r d) locks 1 id d := by
  unfold doWhen
  split
  · refine secures_ensureActiveOwnerCount fun d₂ h₂ hcount => ?_
    refine secures_pure fun d₃ h₃ => ⟨rfl, by decide, fun _ => le_rfl, rfl, ?_, ho, fun _ => ?_⟩
    · exact (hm.later hR hN le_rfl h₂).later hR hN (by decide) h₃.rely
    · exact ⟨d₂, hcount, h₃.rely⟩
  · next hstays =>
    exact secures_pure fun d₃ h₃ => ⟨rfl, le_rfl, fun h => absurd h hstays, rfl,
      hm.later hR hN le_rfl h₃.rely, ho, fun h => absurd h hstays⟩

theorem updateMemberRoleRead_secures (hR : Rely rely) (hN : Narrowing rely) {role : Role} :
    (updateMemberRoleRead organization actorUserId k role : Work S _).Secures teamCell rely
      (fun r n writes d => 1 ≤ n ∧ (demotes r role = true → 2 ≤ n) ∧ writes = id ∧
        MemberSeen rely organization k (demotes r role = true) r d) [] 0 id d := by
  refine Secures.bind hR (fun locks' n' writes' d' _ _ r hr => ?_) findMembershipOrThrow_secures
  obtain ⟨rfl, rfl, ho, hm⟩ := hr
  refine secures_require fun _ => secures_require fun _ => secures_require fun _ => ?_
  refine (secures_lastCheck hR hN hm ho).imp ?_
  rintro r' n writes d₁ ⟨rfl, hn, hleaves, rfl, hseen⟩
  exact ⟨hn, hleaves, rfl, hseen⟩

theorem deactivateMemberRead_secures (hR : Rely rely) (hN : Narrowing rely) :
    (deactivateMemberRead organization actorUserId k : Work S _).Secures teamCell rely
      (fun r n writes d => 1 ≤ n ∧ (r.role = .owner → 2 ≤ n) ∧ writes = id ∧
        MemberSeen rely organization k (r.role = .owner) r d) [] 0 id d := by
  refine Secures.bind hR (fun locks' n' writes' d' _ _ r hr => ?_) findMembershipOrThrow_secures
  obtain ⟨rfl, rfl, ho, hm⟩ := hr
  refine secures_require fun _ => secures_assertOwnerOrManageable fun _ => ?_
  refine (secures_lastCheck hR hN hm ho).imp ?_
  rintro r' n writes d₁ ⟨rfl, hn, hleaves, rfl, hseen⟩
  exact ⟨hn, hleaves, rfl, hseen⟩

theorem reactivateMemberRead_secures (hR : Rely rely) :
    (reactivateMemberRead organization k : Work S _).Secures teamCell rely
      (fun r n writes d => 1 ≤ n ∧ writes = id ∧ MemberSeen rely organization k False r d) [] 0 id
      d := by
  refine Secures.bind hR (fun locks' n' writes' d' _ _ r hr => ?_) findMembershipOrThrow_secures
  obtain ⟨rfl, rfl, ho, d₀, hm, h₀⟩ := hr
  refine secures_assertOwnerOrManageable fun _ => secures_pure fun d₁ h₁ => ?_
  exact ⟨le_rfl, rfl, ⟨d₀, hm, hR.trans h₀ h₁.rely⟩, ho, False.elim⟩

theorem resendInviteRead_secures (hR : Rely rely) :
    (resendInviteRead organization k : Work S _).Secures teamCell rely
      (fun r n writes d => 1 ≤ n ∧ writes = id ∧ MemberSeen rely organization k False r d) [] 0 id
      d := by
  refine Secures.bind hR (fun locks' n' writes' d' _ _ r hr => ?_) findMembershipOrThrow_secures
  obtain ⟨rfl, rfl, ho, d₀, hm, h₀⟩ := hr
  refine secures_require fun _ => ?_
  have hend : ∀ d₁, Later teamCell rely locks' (0 + 1) d' d₁ →
      1 ≤ 0 + 1 ∧ (id : Backend → Backend) = id ∧ MemberSeen rely organization k False r d₁ :=
    fun d₁ h₁ => ⟨le_rfl, rfl, ⟨d₀, hm, hR.trans h₀ h₁.rely⟩, ho, False.elim⟩
  unfold doWhen
  split
  · exact secures_require fun _ => secures_pure hend
  · exact secures_pure hend

/-- What `inviteMember` has seen: the account with the e-mail, and its membership. -/
structure InviteSeen (rely : Nat → Backend → Backend → Prop) (env : TeamEnv)
    (organization : MemberContext) (input : InviteMemberDto) (target : InviteTarget)
    (d : Backend) : Prop where
  normalizedEmail : target.normalizedEmail = env.toLowerCase (env.trim input.email)
  user : Seen rely 2 (fun d => d.userByEmail? (env.toLowerCase (env.trim input.email)) =
    target.existingUser) d
  membership : ∀ r ∈ target.existingMembership, r.status = .deactivated ∧
    ∃ user, target.existingUser = some (r.userId, user) ∧
      Seen rely 3 (fun d => d.memberOf? organization.organizationId r.userId = some r) d

theorem InviteSeen.later (hR : Rely rely) (hN : Narrowing rely) {input : InviteMemberDto}
    {target : InviteTarget} {d' : Backend} (h : InviteSeen rely env organization input target d)
    (hn : 2 ≤ n) (hn' : target.existingMembership.isSome = true → 3 ≤ n) (hd : rely n d d') :
    InviteSeen rely env organization input target d' := by
  refine ⟨h.normalizedEmail, h.user.later hR hN hn hd, fun r hr => ?_⟩
  obtain ⟨hstatus, user, huser, hseen⟩ := h.membership r hr
  exact ⟨hstatus, user, huser, hseen.later hR hN (hn' (by rw [Option.mem_def.mp hr]; rfl)) hd⟩

theorem inviteMemberRead_secures (hR : Rely rely) (hN : Narrowing rely)
    {input : InviteMemberDto} :
    (inviteMemberRead env organization input : Work S _).Secures teamCell rely
      (fun target n writes d => 2 ≤ n ∧ (target.existingMembership.isSome = true → 3 ≤ n) ∧
        writes = id ∧ InviteSeen rely env organization input target d) [] 0 id d := by
  unfold inviteMemberRead resolveScopedLocationIds
  simp only [bind_bind]
  refine secures_require fun _ => secures_select fun d₁ h₁ => secures_require fun _ => ?_
  refine secures_select fun d₂ h₂ => ?_
  -- the last check, for a membership that was read
  have hlast : ∀ {existing : Option TeamMemberRecord} {locks n d'},
      (∀ d'', Later teamCell rely locks n d' d'' → (∀ r ∈ existing, r.status = .deactivated) →
        2 ≤ n ∧ (existing.isSome = true → 3 ≤ n) ∧ InviteSeen rely env organization input
          { locationIds := scopedLocationIds organization input.locationIds
            normalizedEmail := env.toLowerCase (env.trim input.email)
            existingUser := (id d₂).userByEmail? (env.toLowerCase (env.trim input.email))
            existingMembership := existing } d'') →
      (do
        require (¬ existing.any fun m => m.status == .active)
          (.conflict "This person is already a member of this organization")
        require (¬ existing.any fun m => m.status == .invited)
          (.conflict "An invitation already exists for this member")
        pure { locationIds := scopedLocationIds organization input.locationIds
               normalizedEmail := env.toLowerCase (env.trim input.email)
               existingUser := (id d₂).userByEmail? (env.toLowerCase (env.trim input.email))
               existingMembership := existing } : Work S InviteTarget).Secures teamCell rely
        (fun target n writes d => 2 ≤ n ∧ (target.existingMembership.isSome = true → 3 ≤ n) ∧
          writes = id ∧ InviteSeen rely env organization input target d) locks n id d' := by
    intro existing locks n d' h
    refine secures_require fun hna => secures_require fun hni => secures_pure fun d'' hd => ?_
    obtain ⟨hn, hn', hseen⟩ := h d'' hd fun r hr => by
      simp only [Option.any_eq_true, beq_iff_eq, not_exists, not_and] at hna hni
      cases hstatus : r.status with
      | active => exact absurd hstatus (hna r hr)
      | invited => exact absurd hstatus (hni r hr)
      | deactivated => rfl
    exact ⟨hn, hn', rfl, hseen⟩
  cases huser : (id d₂).userByEmail? (env.toLowerCase (env.trim input.email)) with
  | none =>
    rw [huser] at hlast
    exact hlast fun d'' hd _ => ⟨le_rfl, fun h => (by cases h), rfl, ⟨d₂, huser, hd.rely⟩,
      fun r hr => (by cases hr)⟩
  | some user =>
    rw [huser] at hlast
    intro d₃ h₃
    refine hlast fun d'' hd hstatus => ⟨by decide, fun _ => le_rfl, rfl,
      ⟨d₂, huser, hR.trans h₃.rely (hN _ _ _ hd.rely)⟩, fun r hr => ⟨hstatus r hr, ?_⟩⟩
    obtain ⟨-, hid, -⟩ := Backend.memberOf?_eq_some (show (id d₃).memberOf? _ _ = some r from hr)
    refine ⟨user.2, ?_, d₃, ?_, hd.rely⟩
    · rw [hid]
    · rw [hid]; exact hr

/-- What `acceptInvitation` has seen. -/
structure AcceptSeen (rely : Nat → Backend → Backend → Prop) (env : TeamEnv)
    (input : AcceptInviteDto) (authenticatedUserId : Option Id)
    (invitation : TeamInvitationRecord) (d : Backend) : Prop where
  found : Seen rely 1 (fun d => d.invitation? (env.sha256 input.token) = some invitation) d
  valid : invitation.valid env = true
  authenticated : invitation.membership.user.hasPassword = true →
    authenticatedUserId = some invitation.membership.userId

theorem AcceptSeen.later (hR : Rely rely) (hN : Narrowing rely) {input : AcceptInviteDto}
    {authenticatedUserId : Option Id} {invitation : TeamInvitationRecord} {d' : Backend}
    (h : AcceptSeen rely env input authenticatedUserId invitation d) (hn : 1 ≤ n)
    (hd : rely n d d') : AcceptSeen rely env input authenticatedUserId invitation d' :=
  ⟨h.found.later hR hN hn hd, h.valid, h.authenticated⟩

theorem acceptInvitationRead_secures {input : AcceptInviteDto}
    {authenticatedUserId : Option Id} :
    (acceptInvitationRead env input authenticatedUserId : Work S _).Secures teamCell rely
      (fun invitation n writes d => 1 ≤ n ∧ writes = id ∧
        AcceptSeen rely env input authenticatedUserId invitation d) [] 0 id d := by
  refine secures_select fun d₁ h₁ => ?_
  cases hfound : ((id d₁).invitation? (env.sha256 input.token)).filter (·.valid env) with
  | none => trivial
  | some invitation =>
    obtain ⟨hinvitation, hvalid⟩ := Option.filter_eq_some_iff.mp hfound
    dsimp only
    unfold doWhen
    split
    · rw [bind_bind]
      exact secures_require fun _ => secures_require fun hauth => secures_require fun _ =>
        secures_pure fun d₂ h₂ => ⟨le_rfl, rfl, ⟨d₁, hinvitation, h₂.rely⟩, hvalid, fun _ => hauth⟩
    · next hnew =>
      exact secures_require fun _ => secures_pure fun d₂ h₂ =>
        ⟨le_rfl, rfl, ⟨d₁, hinvitation, h₂.rely⟩, hvalid, fun h => absurd h hnew⟩

end

/-! ## What a call writes -/

theorem inviteTokens_of_members {db db' : Backend} (h : db'.members = db.members) :
    db'.inviteTokens = db.inviteTokens := congrArg (fun p => p.2.2) h

theorem members_reinvite {db db' : Backend} {env : TeamEnv} {tokenId k : Id}
    (h : db'.members = db.members) :
    (db'.reinvite env tokenId k).members = (db.reinvite env tokenId k).members := by
  have hm : db'.memberships = db.memberships := congrArg (·.1) h
  have hu : db'.users = db.users := congrArg (fun p => p.2.1) h
  have ht := inviteTokens_of_members h
  simp only [Backend.members, Backend.reinvite, Backend.setInvite, Backend.expireInvites, hm, hu,
    ht]

theorem members_renewed {db db' : Backend} {env : TeamEnv} {hasPassword : Bool} {k : Id}
    (h : db'.members = db.members) :
    (db'.renewed env hasPassword k).members = (db.renewed env hasPassword k).members := by
  unfold Backend.renewed
  split
  · exact h
  · exact members_reinvite h

@[simp] theorem Backend.inviteTokens_modifyMembership {db : Backend} {k : Id}
    {f : Membership → Membership} : (db.modifyMembership k f).inviteTokens = db.inviteTokens := by
  unfold Backend.modifyMembership
  split <;> rfl

@[simp] theorem Backend.users_modifyMembership {db : Backend} {k : Id}
    {f : Membership → Membership} : (db.modifyMembership k f).users = db.users := by
  unfold Backend.modifyMembership
  split <;> rfl

@[simp] theorem Backend.inviteTokens_modifyUser {db : Backend} {userId : Id} {f : User → User} :
    (db.modifyUser userId f).inviteTokens = db.inviteTokens := by
  unfold Backend.modifyUser
  split <;> rfl

@[simp] theorem Backend.memberships_modifyUser {db : Backend} {userId : Id} {f : User → User} :
    (db.modifyUser userId f).memberships = db.memberships := by
  unfold Backend.modifyUser
  split <;> rfl

/-- The invite is accepted. -/
def Backend.acceptInvite (db : Backend) (env : TeamEnv) (tokenId : Id) : Backend :=
  match db.inviteTokens.lookup tokenId with
  | none => db
  | some t => db.setInvite tokenId { t with acceptedAt := some env.now }

@[simp] theorem Backend.users_acceptInvite {db : Backend} {env : TeamEnv} {tokenId : Id} :
    (db.acceptInvite env tokenId).users = db.users := by
  unfold Backend.acceptInvite
  split <;> rfl

@[simp] theorem Backend.memberships_acceptInvite {db : Backend} {env : TeamEnv} {tokenId : Id} :
    (db.acceptInvite env tokenId).memberships = db.memberships := by
  unfold Backend.acceptInvite
  split <;> rfl

section

variable {S : Type} {env : TeamEnv} {organization : MemberContext} {k actorUserId userId : Id}
  {rely : Nat → Backend → Backend → Prop} {locks : List BackendKey} {n : Nat}
  {writes : Backend → Backend} {d : Backend} {α : Type} {x : Unit → Work S α}
  {Q : α → Nat → (Backend → Backend) → Backend → Prop}

theorem secures_membershipUpdate {f : Membership → Membership}
    (h : ∀ d', Later teamCell rely locks n d d' → (x ()).Secures teamCell rely Q
      (.membership k :: locks) (n + 1)
      (fun d => (writes d).modifyMembership k fun m => { f m with updatedAt := env.now }) d') :
    (membershipUpdate env k f >>= x).Secures teamCell rely Q locks n writes d :=
  secures_exec fun d' hd _ => h d' hd

/-- What is created was not there. -/
theorem eq_none_of_unique {ρ ε : Type} {found : Option ρ} {taken : Prop} [Decidable taken]
    {unique : ε} {other : Option ε}
    (h : (if found.isSome = true ∨ taken then some unique else other) = none) : found = none := by
  split at h
  · cases h
  · next hnew =>
    simp only [not_or, Bool.not_eq_true, Option.isSome_eq_false_iff,
      Option.isNone_iff_eq_none] at hnew
    exact hnew.1

theorem secures_membershipCreate {m : Membership}
    (h : ∀ d', Later teamCell rely locks n d d' → (writes d').memberships.lookup k = none →
      (x ()).Secures teamCell rely Q
        (.membership k :: .seat m.organizationId m.userId :: locks) (n + 1)
        (fun d => (writes d).setMembership k m) d') :
    (membershipCreate k m >>= x).Secures teamCell rely Q locks n writes d := by
  exact secures_exec fun d' hd hfails => h d' hd (eq_none_of_unique hfails)

theorem secures_userCreate {u : User}
    (h : ∀ d', Later teamCell rely locks n d d' → (writes d').users.lookup userId = none →
      (x ()).Secures teamCell rely Q (.user userId :: .email u.email :: locks) (n + 1)
        (fun d => (writes d).setUser userId u) d') :
    (userCreate userId u >>= x).Secures teamCell rely Q locks n writes d := by
  exact secures_exec fun d' hd hfails => h d' hd (eq_none_of_unique hfails)

/-- The rest of a transaction that writes about members no more. -/
theorem secures_rest (hR : Rely rely) (hN : Narrowing rely) {y : Work S α}
    (hq : y.Quiet Backend.members) :
    y.Secures teamCell rely (fun _ _ writes' d' => (∀ d, (writes' d).members = (writes d).members) ∧
      Later teamCell rely locks n d d') locks n writes d :=
  (Quiet.secures hq).and (secures_later hR hN)

theorem loadMembershipWithRelations_quiet {k : Id} :
    (loadMembershipWithRelations k : Work S _).Quiet Backend.members :=
  loadMembershipWithRelations_readOnly.quiet

/-- The end of a transaction about a membership. -/
theorem reload_quiet {organizationId : Id} {actor : Option Id} {action : MemberAuditAction}
    {before : Option MembershipSnapshot} {entityId : TeamMemberRecord → Id} {β : Type}
    {a : TeamMemberRecord → β} :
    (do
      let updated ← loadMembershipWithRelations k
      createAuditLog env organizationId actor action (entityId updated) before
        (some (snapshotMembership updated))
      pure (a updated) : Work S β).Quiet Backend.members :=
  loadMembershipWithRelations_quiet.bind fun _ => Quiet.bind (quiet_exec fun _ => rfl) fun _ =>
    trivial

theorem replaceMembershipLocations_quiet {locationIds : List Id} :
    (replaceMembershipLocations k locationIds : Work S Unit).Quiet Backend.members :=
  Quiet.bind (quiet_exec fun _ => rfl) fun _ => quiet_doWhen (quiet_exec fun _ => rfl)

theorem refreshTokenRevoke_quiet :
    (refreshTokenRevoke env userId : Work S Unit).Quiet Backend.members :=
  quiet_exec fun _ => rfl

/-- A new invite in a transaction that writes about members no more after it. -/
theorem createInviteForMembership_secures (hR : Rely rely) (hN : Narrowing rely)
    (hw : ∀ d, (writes d).inviteTokens = d.inviteTokens) {y : String → Work S α}
    (hq : ∀ url, (y url).Quiet Backend.members) :
    (createInviteForMembership env (env.uuid 2) k >>= y).Secures teamCell rely
      (fun _ _ writes' d' => d'.inviteTokens.lookup (env.uuid 2) = none ∧
        (∀ d, (writes' d).members = ((writes d).reinvite env (env.uuid 2) k).members) ∧
        Later teamCell rely locks n d d') locks n writes d := by
  unfold createInviteForMembership
  simp only [bind_bind]
  refine secures_exec fun d₁ h₁ _ => secures_exec fun d₂ h₂ hfails => ?_
  have hfresh : d₂.inviteTokens.lookup (env.uuid 2) = none := by
    split at hfails
    · cases hfails
    · next hnew =>
      simp only [not_or, Bool.not_eq_true, Option.isSome_eq_false_iff,
        Option.isNone_iff_eq_none] at hnew
      have hlookup := hnew.1
      rw [Table.lookup_mapRows, Option.map_eq_none_iff, hw] at hlookup
      exact hlookup
  refine (secures_rest hR hN (hq _)).imp ?_
  rintro a n' writes' d₃ ⟨hmembers, h₃⟩
  refine ⟨?_, hmembers, ?_⟩
  · -- the lock of the new token holds to the end
    have hcell : Option.map _ (d₃.inviteTokens.lookup (env.uuid 2)) =
        Option.map _ (d₂.inviteTokens.lookup (env.uuid 2)) :=
      h₃.locked (.inviteToken (env.uuid 2)) (by simp)
    rw [hfresh, Option.map_none, Option.map_eq_none_iff] at hcell
    exact hcell
  · have h₂' := h₂.trans hR (h₃.earlier hN _)
    exact h₁.trans hR (h₂'.earlier hN _)

theorem renewAccess_secures (hR : Rely rely) (hN : Narrowing rely)
    (hw : ∀ d, (writes d).inviteTokens = d.inviteTokens) {hasPassword : Bool}
    {y : Option String → Work S α} (hq : ∀ url, (y url).Quiet Backend.members) :
    (renewAccess env hasPassword k userId >>= y).Secures teamCell rely
      (fun _ _ writes' d' =>
        (hasPassword = false → d'.inviteTokens.lookup (env.uuid 2) = none) ∧
        (∀ d, (writes' d).members = ((writes d).renewed env hasPassword k).members) ∧
        Later teamCell rely locks n d d') locks n writes d := by
  unfold renewAccess Backend.renewed
  cases hasPassword with
  | true =>
    rw [if_pos rfl, bind_bind]
    refine (secures_rest hR hN ?_).imp ?_
    · exact refreshTokenRevoke_quiet.bind fun _ => hq none
    · rintro a n' writes' d' ⟨hmembers, hd⟩
      exact ⟨fun h => (by cases h), hmembers, hd⟩
  | false =>
    rw [if_neg Bool.false_ne_true, bind_bind]
    refine (createInviteForMembership_secures hR hN hw fun url => hq (some url)).imp ?_
    rintro a n' writes' d' ⟨hfresh, hmembers, hd⟩
    exact ⟨fun _ => hfresh, hmembers, hd⟩

theorem inviteNewMemberTx_secures (hR : Rely rely) (hN : Narrowing rely)
    (hw : ∀ d, (writes d).memberships = d.memberships ∧ (writes d).inviteTokens = d.inviteTokens)
    {input : InviteMemberDto} {locationIds : List Id} :
    (inviteNewMemberTx env organization actorUserId input locationIds userId : Work S _).Secures
      teamCell rely (fun _ _ writes' d' => d'.memberships.lookup (env.uuid 1) = none ∧
        d'.inviteTokens.lookup (env.uuid 2) = none ∧
        (∀ d, (writes' d).members = (((writes d).setMembership (env.uuid 1)
          (invitedMembership env organization input userId)).reinvite env (env.uuid 2)
          (env.uuid 1)).members) ∧
        Later teamCell rely locks n d d') locks n writes d := by
  refine secures_membershipCreate fun d₁ h₁ hnew => ?_
  rw [(hw d₁).1] at hnew
  refine Secures.bind hR (fun locks' n' writes' d₂ hlocks hn _ h₂ => ?_)
    (secures_rest hR hN replaceMembershipLocations_quiet)
  obtain ⟨hmembers, h₂⟩ := h₂
  refine (createInviteForMembership_secures hR hN (fun d => ?_) fun _ => reload_quiet).imp ?_
  · exact (inviteTokens_of_members (hmembers d)).trans (hw d).2
  · rintro a n'' writes'' d₃ ⟨hfresh, hmembers', h₃⟩
    have h₃' := h₂.trans hR (h₃.weaken hN hlocks hn)
    refine ⟨?_, hfresh, fun d => ?_,
      h₁.trans hR (h₃'.weaken hN (fun key hkey => ?_) (Nat.le_succ n))⟩
    · -- the lock of the new membership holds to the end
      have hcell : d₃.memberships.lookup (env.uuid 1) = d₁.memberships.lookup (env.uuid 1) :=
        h₃'.locked (.membership (env.uuid 1)) (by simp)
      rw [hcell, hnew]
    · exact (hmembers' d).trans (members_reinvite (hmembers d))
    · simp [hkey]

/-- The membership that comes back by `inviteMember`. -/
def reinstatedAs (env : TeamEnv) (role : Role) (hasPassword : Bool) (invitedAt : Option Date)
    (m : Membership) : Membership :=
  { reinstated env hasPassword invitedAt { m with role := role } with updatedAt := env.now }

/-- The names an invitation gives to a user it finds. -/
def renamed (env : TeamEnv) (input : InviteMemberDto) (user u : User) : User :=
  { u with firstName := input.firstName.or user.firstName,
           lastName := input.lastName.or user.lastName, updatedAt := env.now }

theorem reinviteMemberTx_secures (hR : Rely rely) (hN : Narrowing rely) {user : User}
    {existing : TeamMemberRecord} {input : InviteMemberDto} {locationIds : List Id} :
    (reinviteMemberTx env organization actorUserId input locationIds userId user existing :
      Work S _).Secures teamCell rely (fun _ _ writes' d' =>
        (user.hasPassword = false → d'.inviteTokens.lookup (env.uuid 2) = none) ∧
        (∀ d, (writes' d).members = (((d.modifyMembership existing.id
          (reinstatedAs env input.role user.hasPassword existing.invitedAt)).modifyUser userId
          (renamed env input user)).renewed env user.hasPassword existing.id).members) ∧
        Later teamCell rely locks n d d') locks n id d := by
  refine secures_membershipUpdate fun d₁ h₁ => secures_exec fun d₂ h₂ _ => ?_
  refine Secures.bind hR (fun locks' n' writes' d₃ hlocks hn _ h₃ => ?_)
    (secures_rest hR hN replaceMembershipLocations_quiet)
  obtain ⟨hmembers, h₃⟩ := h₃
  refine (renewAccess_secures hR hN (fun d => ?_) fun _ => reload_quiet).imp ?_
  · refine (inviteTokens_of_members (hmembers d)).trans ?_
    simp [Backend.inviteTokens_modifyUser, Backend.inviteTokens_modifyMembership]
  · rintro a n'' writes'' d₄ ⟨hfresh, hmembers', h₄⟩
    refine ⟨hfresh, fun d => (hmembers' d).trans (members_renewed (hmembers d)), ?_⟩
    have h₃' := (h₃.trans hR (h₄.weaken hN hlocks hn)).earlier hN _
    exact h₁.trans hR (Later.earlier hN [_] (h₂.trans hR h₃'))

/-- The account that is invited, when the invitation is committed. -/
inductive InvitedAs (env : TeamEnv) (input : InviteMemberDto) (target : InviteTarget)
    (d : Backend) : Id → Backend → Prop
  | existing {userId : Id} {user : User} (found : target.existingUser = some (userId, user)) :
      InvitedAs env input target d userId d
  | created (unknown : target.existingUser = none) (new : d.users.lookup (env.uuid 0) = none) :
      InvitedAs env input target d (env.uuid 0)
        (d.setUser (env.uuid 0) (invitedUser env input target.normalizedEmail))

/-- What `inviteMember` commits. -/
inductive Invited (env : TeamEnv) (organization : MemberContext) (input : InviteMemberDto)
    (target : InviteTarget) (d d' : Backend) : Prop
  | made {userId : Id} {d₁ : Backend} (unknown : target.existingMembership = none)
      (account : InvitedAs env input target d userId d₁)
      (new : d.memberships.lookup (env.uuid 1) = none)
      (fresh : d.inviteTokens.lookup (env.uuid 2) = none)
      (members : d'.members = ((d₁.setMembership (env.uuid 1)
        (invitedMembership env organization input userId)).reinvite env (env.uuid 2)
        (env.uuid 1)).members)
  | broughtBack {userId : Id} {user : User} {r : TeamMemberRecord}
      (found : target.existingMembership = some r)
      (account : target.existingUser = some (userId, user))
      (fresh : user.hasPassword = false → d.inviteTokens.lookup (env.uuid 2) = none)
      (members : d'.members = (((d.modifyMembership r.id
        (reinstatedAs env input.role user.hasPassword r.invitedAt)).modifyUser userId
        (renamed env input user)).renewed env user.hasPassword r.id).members)

theorem inviteMemberTx_secures (hR : Rely rely) (hN : Narrowing rely) {input : InviteMemberDto}
    {target : InviteTarget} (hstatus : ∀ r ∈ target.existingMembership, r.status = .deactivated)
    (huser : target.existingMembership.isSome = true → target.existingUser.isSome = true) :
    (inviteMemberTx env organization actorUserId input target : Work S _).Secures teamCell rely
      (fun _ _ writes' d' => Invited env organization input target d' (writes' d') ∧
        Later teamCell rely locks n d d') locks n id d := by
  unfold inviteMemberTx invitedAccount
  cases hfound : target.existingMembership with
  | some r =>
    obtain ⟨⟨userId, user⟩, haccount⟩ := Option.isSome_iff_exists.mp (huser (by rw [hfound]; rfl))
    have hfilter : (some r).filter (fun m => m.status == .deactivated) = some r := by
      rw [Option.filter_some, if_pos (by simp [hstatus r hfound])]
    rw [haccount, hfilter]
    refine (reinviteMemberTx_secures hR hN).imp ?_
    rintro a n' writes' d' ⟨hfresh, hmembers, hd⟩
    exact ⟨.broughtBack hfound haccount hfresh (hmembers d'), hd⟩
  | none =>
    cases haccount : target.existingUser with
    | some account =>
      obtain ⟨userId, user⟩ := account
      refine (inviteNewMemberTx_secures hR hN fun _ => ⟨rfl, rfl⟩).imp ?_
      rintro a n' writes' d' ⟨hnew, hfresh, hmembers, hd⟩
      exact ⟨.made hfound (.existing haccount) hnew hfresh (hmembers d'), hd⟩
    | none =>
      rw [bind_bind]
      refine secures_userCreate fun d₁ h₁ huserNew => ?_
      have hw : ∀ d : Backend,
          (d.setUser (env.uuid 0) (invitedUser env input target.normalizedEmail)).memberships =
            d.memberships ∧
          (d.setUser (env.uuid 0) (invitedUser env input target.normalizedEmail)).inviteTokens =
            d.inviteTokens := fun _ => ⟨rfl, rfl⟩
      refine Secures.imp ?_ (inviteNewMemberTx_secures hR hN hw)
      rintro a n' writes' d' ⟨hnew, hfresh, hmembers, hd⟩
      refine ⟨.made hfound (.created haccount ?_) hnew hfresh (hmembers d'), ?_⟩
      · -- the lock of the new account holds to the end
        have hcell : d'.users.lookup (env.uuid 0) = d₁.users.lookup (env.uuid 0) :=
          hd.locked (.user (env.uuid 0)) (by simp)
        exact hcell.trans huserNew
      · exact h₁.trans hR (Later.earlier hN [_, _] hd)

theorem deactivateMemberTx_secures (hR : Rely rely) (hN : Narrowing rely) {r : TeamMemberRecord} :
    (deactivateMemberTx env organization actorUserId k r : Work S Unit).Secures teamCell rely
      (fun _ _ writes' d' => (∀ d, (writes' d).members =
        (d.modifyMembership k (deactivated env)).members) ∧ Later teamCell rely locks n d d')
      locks n id d := by
  refine secures_membershipUpdate fun d₁ h₁ => ?_
  refine (secures_rest hR hN ?_).imp ?_
  · exact refreshTokenRevoke_quiet.bind fun _ => loadMembershipWithRelations_quiet.bind fun _ =>
      quiet_exec fun _ => rfl
  · rintro a n' writes' d' ⟨hmembers, hd⟩
    exact ⟨hmembers, h₁.trans hR (Later.earlier hN [_] hd)⟩

theorem reactivateMemberTx_secures (hR : Rely rely) (hN : Narrowing rely) {r : TeamMemberRecord} :
    (reactivateMemberTx env organization actorUserId k r : Work S _).Secures teamCell rely
      (fun _ _ writes' d' =>
        (r.user.hasPassword = false → d'.inviteTokens.lookup (env.uuid 2) = none) ∧
        (∀ d, (writes' d).members = ((d.modifyMembership k fun m =>
          { reinstated env r.user.hasPassword r.invitedAt m with updatedAt := env.now }).renewed env
          r.user.hasPassword k).members) ∧ Later teamCell rely locks n d d') locks n id d := by
  refine secures_membershipUpdate fun d₁ h₁ => ?_
  refine Secures.imp ?_ (renewAccess_secures hR hN (fun d => ?_) fun _ => ?_)
  · rintro a n' writes' d' ⟨hfresh, hmembers, hd⟩
    exact ⟨hfresh, hmembers, h₁.trans hR (Later.earlier hN [_] hd)⟩
  · exact Backend.inviteTokens_modifyMembership
  · exact reload_quiet

theorem resendInviteTx_secures (hR : Rely rely) (hN : Narrowing rely) {r : TeamMemberRecord} :
    (resendInviteTx env organization actorUserId k r : Work S _).Secures teamCell rely
      (fun _ _ writes' d' => d'.inviteTokens.lookup (env.uuid 2) = none ∧
        (∀ d, (writes' d).members = (d.reinvite env (env.uuid 2) k).members) ∧
        Later teamCell rely locks n d d') locks n id d :=
  createInviteForMembership_secures hR hN (fun _ => rfl) fun _ => reload_quiet

/-- The account that accepts, with its new password if it had none. -/
def Backend.acceptedBy (db : Backend) (env : TeamEnv) (input : AcceptInviteDto)
    (hasPassword : Bool) (userId : Id) : Backend :=
  if hasPassword then db
  else db.modifyUser userId fun u => { passwordSet env input u with updatedAt := env.now }

@[simp] theorem Backend.memberships_acceptedBy {db : Backend} {input : AcceptInviteDto}
    {hasPassword : Bool} :
    (db.acceptedBy env input hasPassword userId).memberships = db.memberships := by
  unfold Backend.acceptedBy
  split
  · rfl
  · exact Backend.memberships_modifyUser

@[simp] theorem Backend.inviteTokens_acceptedBy {db : Backend} {input : AcceptInviteDto}
    {hasPassword : Bool} :
    (db.acceptedBy env input hasPassword userId).inviteTokens = db.inviteTokens := by
  unfold Backend.acceptedBy
  split
  · rfl
  · exact Backend.inviteTokens_modifyUser

/-- A member who has accepted. -/
def activated (env : TeamEnv) (m : Membership) : Membership :=
  { m with status := .active, activatedAt := some env.now, updatedAt := env.now }

theorem acceptInvitationTx_secures (hR : Rely rely) (hN : Narrowing rely)
    {input : AcceptInviteDto} {invitation : TeamInvitationRecord} :
    (acceptInvitationTx env input invitation : Work S Unit).Secures teamCell rely
      (fun _ _ writes' d' => (∀ d, (writes' d).members = (((d.acceptedBy env input
        invitation.membership.user.hasPassword invitation.membership.userId).modifyMembership
        invitation.membership.id (activated env)).acceptInvite env invitation.id).members) ∧
        Later teamCell rely locks n d d') locks n id d := by
  have hrest : ∀ {locks n d} {writes : Backend → Backend}, (do
      membershipUpdate env invitation.membership.id fun m =>
        { m with status := .active, activatedAt := some env.now }
      inviteTokenAccept env invitation.id invitation.membership.id
      let updated ← loadMembershipWithRelations invitation.membership.id
      createAuditLog env invitation.membership.organizationId (some invitation.membership.userId)
        .inviteAccepted invitation.membership.id (some (snapshotMembership invitation.membership))
        (some (snapshotMembership updated)) : Work S Unit).Secures teamCell rely
      (fun _ _ writes' d' => (∀ d, (writes' d).members = (((writes d).modifyMembership
        invitation.membership.id (activated env)).acceptInvite env invitation.id).members) ∧
        Later teamCell rely locks n d d') locks n writes d := by
    intro locks n d writes
    refine secures_membershipUpdate fun d₁ h₁ => secures_exec fun d₂ h₂ _ => ?_
    refine (secures_rest hR hN ?_).imp ?_
    · exact loadMembershipWithRelations_quiet.bind fun _ => quiet_exec fun _ => rfl
    · rintro a n' writes' d' ⟨hmembers, hd⟩
      have hd' := h₂.trans hR (Later.earlier hN [_, _] hd)
      exact ⟨hmembers, h₁.trans hR (Later.earlier hN [_] hd')⟩
  unfold acceptInvitationTx Backend.acceptedBy doWhen
  dsimp only
  by_cases hp : invitation.membership.user.hasPassword = true
  · simp only [if_pos hp, if_neg (not_not.mpr hp)]
    exact hrest
  · simp only [if_neg hp, if_pos hp]
    refine secures_exec fun d₁ h₁ _ => Secures.imp ?_ hrest
    rintro a n' writes' d' ⟨hmembers, hd⟩
    exact ⟨hmembers, h₁.trans hR (Later.earlier hN [_] hd)⟩

/-! ## What a call commits -/

/-- **What a call commits**: `d` is the committed state before and `d'` after it. What it has seen
was so at its reads; since then others may have committed what `rely` allows. -/
inductive MemberCommit (rely : Nat → Backend → Backend → Prop) (env : TeamEnv) (d d' : Backend) :
    MemberRequest → Prop
  | invited {organization : MemberContext} {actorUserId : Id} {input : InviteMemberDto}
      {target : InviteTarget} (seen : InviteSeen rely env organization input target d)
      (invited : Invited env organization input target d d') :
      MemberCommit rely env d d' (.inviteMember organization actorUserId input)
  | roleUpdated {organization : MemberContext} {actorUserId k : Id} {role : Role}
      {r : TeamMemberRecord} (seen : MemberSeen rely organization k (demotes r role = true) r d)
      (members : d'.members = (d.modifyMembership k fun m =>
        { m with role := role, updatedAt := env.now }).members) :
      MemberCommit rely env d d' (.updateMemberRole organization actorUserId k role)
  | logged {organization : MemberContext} {actorUserId k : Id} {membership : TeamMemberRecord}
      (members : d'.members = d.members) :
      MemberCommit rely env d d' (.logRoleChange organization actorUserId k membership)
  | deactivated {organization : MemberContext} {actorUserId k : Id} {r : TeamMemberRecord}
      (seen : MemberSeen rely organization k (r.role = .owner) r d)
      (members : d'.members = (d.modifyMembership k (deactivated env)).members) :
      MemberCommit rely env d d' (.deactivateMember organization actorUserId k)
  | reactivated {organization : MemberContext} {actorUserId k : Id} {r : TeamMemberRecord}
      (seen : MemberSeen rely organization k False r d)
      (fresh : r.user.hasPassword = false → d.inviteTokens.lookup (env.uuid 2) = none)
      (members : d'.members = ((d.modifyMembership k fun m =>
        { reinstated env r.user.hasPassword r.invitedAt m with updatedAt := env.now }).renewed env
        r.user.hasPassword k).members) :
      MemberCommit rely env d d' (.reactivateMember organization actorUserId k)
  | resent {organization : MemberContext} {actorUserId k : Id} {r : TeamMemberRecord}
      (seen : MemberSeen rely organization k False r d)
      (fresh : d.inviteTokens.lookup (env.uuid 2) = none)
      (members : d'.members = (d.reinvite env (env.uuid 2) k).members) :
      MemberCommit rely env d d' (.resendInvite organization actorUserId k)
  | accepted {input : AcceptInviteDto} {authenticatedUserId : Option Id}
      {invitation : TeamInvitationRecord}
      (seen : AcceptSeen rely env input authenticatedUserId invitation d)
      (members : d'.members = (((d.acceptedBy env input invitation.membership.user.hasPassword
        invitation.membership.userId).modifyMembership invitation.membership.id
        (activated env)).acceptInvite env invitation.id).members) :
      MemberCommit rely env d d' (.acceptInvitation input authenticatedUserId)

/-- **Every call commits this and nothing else.** -/
theorem MemberTx.secures (hR : Rely rely) (hN : Narrowing rely) (r : MemberTx) (d : Backend) :
    r.prog.Secures teamCell rely (fun _ _ writes d => MemberCommit rely r.env d (writes d) r.request)
      [] 0 id d := by
  obtain ⟨env, request⟩ := r
  cases request with
  | inviteMember organization actorUserId input =>
    refine Secures.bind hR (fun locks' n' writes' d' _ _ target hseen => ?_)
      (inviteMemberRead_secures hR hN)
    obtain ⟨hn, hn', rfl, hseen⟩ := hseen
    refine Secures.map ?_ (inviteMemberTx_secures hR hN (fun r hr => ?_) fun hsome => ?_)
    · rintro a n writes d'' ⟨hinvited, hd⟩
      exact .invited (hseen.later hR hN hn hn' hd.rely) hinvited
    · exact (hseen.membership r hr).1
    · obtain ⟨r, hr⟩ := Option.isSome_iff_exists.mp hsome
      obtain ⟨-, user, huser, -⟩ := hseen.membership r hr
      rw [huser]; rfl
  | updateMemberRole organization actorUserId k role =>
    refine Secures.bind hR (fun locks' n' writes' d' _ _ r hseen => ?_)
      (updateMemberRoleRead_secures hR hN)
    obtain ⟨hn, hleaves, rfl, hseen⟩ := hseen
    intro d₁ h₁ _ d₂ h₂
    have hd := h₁.trans hR (Later.earlier hN [_] h₂)
    exact .roleUpdated (hseen.later hR hN hn hleaves hd.rely) rfl
  | logRoleChange organization actorUserId k membership =>
    have hq : (MemberTx.prog ⟨env, .logRoleChange organization actorUserId k membership⟩).Quiet
        Backend.members :=
      findMembershipOrThrow_readOnly.quiet.bind fun _ => quiet_exec fun _ => rfl
    exact (Quiet.secures hq).imp fun _ _ writes d h => .logged (h d)
  | deactivateMember organization actorUserId k =>
    refine Secures.bind hR (fun locks' n' writes' d' _ _ r hseen => ?_)
      (deactivateMemberRead_secures hR hN)
    obtain ⟨hn, hleaves, rfl, hseen⟩ := hseen
    refine (deactivateMemberTx_secures hR hN).imp ?_
    rintro a n writes d'' ⟨hmembers, hd⟩
    exact .deactivated (hseen.later hR hN hn hleaves hd.rely) (hmembers d'')
  | reactivateMember organization actorUserId k =>
    refine Secures.bind hR (fun locks' n' writes' d' _ _ r hseen => ?_)
      (reactivateMemberRead_secures hR)
    obtain ⟨hn, rfl, hseen⟩ := hseen
    refine Secures.map ?_ (reactivateMemberTx_secures hR hN)
    rintro a n writes d'' ⟨hfresh, hmembers, hd⟩
    exact .reactivated (hseen.later hR hN hn False.elim hd.rely) hfresh (hmembers d'')
  | resendInvite organization actorUserId k =>
    refine Secures.bind hR (fun locks' n' writes' d' _ _ r hseen => ?_)
      (resendInviteRead_secures hR)
    obtain ⟨hn, rfl, hseen⟩ := hseen
    refine Secures.map ?_ (resendInviteTx_secures hR hN)
    rintro a n writes d'' ⟨hfresh, hmembers, hd⟩
    exact .resent (hseen.later hR hN hn False.elim hd.rely) hfresh (hmembers d'')
  | acceptInvitation input authenticatedUserId =>
    refine Secures.bind hR (fun locks' n' writes' d' _ _ invitation hseen => ?_)
      acceptInvitationRead_secures
    obtain ⟨hn, rfl, hseen⟩ := hseen
    refine (acceptInvitationTx_secures hR hN).imp ?_
    rintro a n writes d'' ⟨hmembers, hd⟩
    exact .accepted (hseen.later hR hN hn hd.rely) (hmembers d'')

end

/-- The statements of a session, and its end. -/
def Office.steps (t n : Nat) : List (Move MemberTx Empty) := List.replicate n (.statement t)

end LedgerLight
