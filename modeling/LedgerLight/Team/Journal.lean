import LedgerLight.Team.Calls

/-!
# Sessions and audit rows of the team service

Besides the members, the calls of the team service write two tables: some end the sessions of a user,
and each that changes something writes one audit row.

* `TeamCall.revokes?`, `TeamCall.auditAction` : whose sessions a call ends, and what its audit row
  says it did.
* `TeamCall.journal_ok` : what a call that succeeded did to the two tables.
-/

namespace LedgerLight

open Infra Prog

/-- The sessions and the audit rows. -/
def Backend.journal (db : Backend) : Table Id RefreshToken × List MemberAuditLog :=
  (db.refreshTokens, db.memberLogs)

/-- All sessions of a user end. -/
def revokeAll (now : Date) (userId : Id) (tokens : Table Id RefreshToken) :
    Table Id RefreshToken :=
  tokens.mapRows fun t =>
    if t.userId = userId ∧ t.revokedAt = none then { t with revokedAt := some now } else t

/-- The sessions after those of `userId?`, if anybody, have ended. -/
def revokeFor (now : Date) (userId? : Option Id) (tokens : Table Id RefreshToken) :
    Table Id RefreshToken :=
  match userId? with
  | none => tokens
  | some userId => revokeAll now userId tokens

namespace TeamCall

/-- The user who has to log in again after the call: whose membership is deactivated, or, if there
is a password, is brought back. -/
def revokes? (c : TeamCall) (db : Backend) : Option Id :=
  match c.action with
  | .deactivateMember _ _ k => (db.memberships.lookup k).map (·.userId)
  | .reactivateMember _ _ k => ((db.member? k).filter (·.user.hasPassword)).map (·.userId)
  | .inviteMember organization _ input =>
    ((db.inviteTarget c.env organization input).existingMembership.filter fun m =>
      m.status == .deactivated && m.user.hasPassword).map (·.userId)
  | _ => none

/-- The action of the audit row. A member that comes back without a password is invited. -/
def auditAction (c : TeamCall) (db : Backend) : MemberAuditAction :=
  match c.action with
  | .inviteMember organization _ input =>
    match (db.inviteTarget c.env organization input).existingMembership with
    | none => .inviteSent
    | some m => renewedAuditAction m.user.hasPassword
  | .updateMember _ _ _ _ => .update
  | .updateMemberRole _ _ _ _ => .roleChanged
  | .updateMemberLocations _ _ _ _ => .locationScopeChanged
  | .deactivateMember _ _ _ => .memberDeactivated
  | .reactivateMember _ _ k => renewedAuditAction ((db.member? k).any (·.user.hasPassword))
  | .resendInvite _ _ _ => .inviteResent
  | .acceptInvitation _ _ => .inviteAccepted

end TeamCall

/-- From `j` to `j'` the sessions of `userId?`, if anybody, have ended, and there is one audit row
more: of the membership, with the action. -/
def Journals (now : Date) (userId? : Option Id) (action : MemberAuditAction) (membershipId : Id)
    (j j' : Table Id RefreshToken × List MemberAuditLog) : Prop :=
  j'.1 = revokeFor now userId? j.1 ∧
    ∃ row, j'.2 = row :: j.2 ∧ row.entityType = .membership ∧ row.entityId = membershipId ∧
      row.action = action

/-! ## Statements -/

section

variable {S : Type} {env : TeamEnv} {organization : MemberContext}
  {membershipId userId actorUserId : Id} {action : MemberAuditAction}

/-- A statement that leaves sessions and audit rows alone. -/
theorem quiet_of_journal {rows : List BackendKey} {fails : Backend → Option BackendError}
    {patch : Backend → Backend} (h : ∀ d, (patch d).journal = d.journal) :
    (exec rows fails patch : Work S Unit).Quiet Backend.journal :=
  quiet_exec h

theorem membershipUpdate_quietJournal {f : Membership → Membership} :
    (membershipUpdate env membershipId f : Work S Unit).Quiet Backend.journal := by
  refine quiet_of_journal fun d => ?_
  unfold Backend.modifyMembership
  split <;> rfl

theorem userUpdate_quietJournal {email : Option String} {f : User → User} :
    (userUpdate env userId email f : Work S Unit).Quiet Backend.journal := by
  refine quiet_of_journal fun d => ?_
  unfold Backend.modifyUser
  split <;> rfl

theorem replaceMembershipLocations_quietJournal {locationIds : List Id} :
    (replaceMembershipLocations membershipId locationIds : Work S Unit).Quiet Backend.journal :=
  Quiet.bind (quiet_of_journal fun _ => rfl) fun _ => quiet_doWhen (quiet_of_journal fun _ => rfl)

theorem createInviteForMembership_quietJournal {tokenId : Id} :
    (createInviteForMembership env tokenId membershipId : Work S String).Quiet Backend.journal :=
  Quiet.bind (quiet_of_journal fun _ => rfl) fun _ =>
    Quiet.bind (quiet_of_journal fun _ => rfl) fun _ => trivial

theorem inviteTokenAccept_quietJournal {tokenId : Id} :
    (inviteTokenAccept env tokenId membershipId : Work S Unit).Quiet Backend.journal :=
  quiet_of_journal fun _ => by split <;> rfl

/-- The end of a call: the member is read once more and answered. -/
theorem answer_quietJournal {α : Type} {organizationId : Id} {f : TeamMemberDetail → α} :
    (getMemberDetail env organizationId membershipId >>= fun member => pure (f member) :
      Work S α).Quiet Backend.journal :=
  getMemberDetail_readOnly.quiet.bind fun _ => trivial

/-- The audit row. -/
theorem createAuditLog_journals {now : Date} {organizationId : Id} {actor : Option Id}
    {before after : Option MembershipSnapshot} :
    (createAuditLog env organizationId actor action membershipId before after : Work S Unit).Takes
      Backend.journal fun _ => Journals now none action membershipId :=
  takes_exec fun _ => ⟨rfl, _, rfl, rfl, rfl, rfl⟩

/-- The end of a transaction: the member is read once more, and the audit row is written. -/
theorem logged_journals {now : Date} {organizationId : Id} {actor : Option Id}
    {before : Option MembershipSnapshot} :
    ((loadMembershipWithRelations membershipId >>= fun updated =>
      createAuditLog env organizationId actor action membershipId before
        (some (snapshotMembership updated))) : Work S Unit).Takes Backend.journal
      fun _ => Journals now none action membershipId :=
  loadMembershipWithRelations_readOnly.quiet.bind_takes fun _ => createAuditLog_journals

theorem refreshTokenRevoke_takes :
    (refreshTokenRevoke env userId : Work S Unit).Takes Backend.journal
      fun _ j j' => j' = (revokeAll env.now userId j.1, j.2) :=
  takes_exec fun _ => rfl

/-- A member that comes back has to log in again if there is a password. -/
theorem renewAccess_takes {hasPassword : Bool} :
    (renewAccess env hasPassword membershipId userId : Work S _).Takes Backend.journal
      fun _ j j' => j' =
        (revokeFor env.now (if hasPassword then some userId else none) j.1, j.2) := by
  cases hasPassword with
  | true =>
    rw [renewAccess, if_pos rfl]
    exact refreshTokenRevoke_takes.bind_quiet fun _ => trivial
  | false =>
    rw [renewAccess, if_neg Bool.false_ne_true]
    refine Quiet.takes (Quiet.bind createInviteForMembership_quietJournal fun _ => ?_)
    trivial

/-- The audit row after the sessions of `userId?` have ended. -/
theorem Takes.bind_journals {α β : Type} {x : Work S α} {k : α → Work S β} {now : Date}
    {userId? : Option Id} {id : β → Id}
    (hx : x.Takes Backend.journal fun _ j j' => j' = (revokeFor now userId? j.1, j.2))
    (hk : ∀ a, (k a).Takes Backend.journal fun b => Journals now none action (id b)) :
    (x >>= k).Takes Backend.journal fun b => Journals now userId? action (id b) := by
  refine hx.bind hk fun b j j₁ j₂ hj h => ?_
  subst hj
  exact h

/-! ## Calls -/

theorem deactivateMemberTx_journals {r : TeamMemberRecord} :
    (deactivateMemberTx env organization actorUserId membershipId r : Work S Unit).Takes
      Backend.journal
      fun _ => Journals env.now (some r.userId) .memberDeactivated membershipId :=
  membershipUpdate_quietJournal.bind_takes fun _ =>
    Takes.bind_journals refreshTokenRevoke_takes fun _ => logged_journals

theorem reactivateMemberTx_journals {r : TeamMemberRecord} :
    (reactivateMemberTx env organization actorUserId membershipId r : Work S _).Takes
      Backend.journal
      fun _ => Journals env.now (if r.user.hasPassword then some r.userId else none)
        (renewedAuditAction r.user.hasPassword) membershipId :=
  membershipUpdate_quietJournal.bind_takes fun _ =>
    Takes.bind_journals renewAccess_takes fun _ =>
      loadMembershipWithRelations_readOnly.quiet.bind_takes fun _ =>
        createAuditLog_journals.bind_quiet fun _ => trivial

theorem reinviteMemberTx_journals {input : InviteMemberDto} {locationIds : List Id} {user : User}
    {existing : TeamMemberRecord} :
    (reinviteMemberTx env organization actorUserId input locationIds userId user existing :
      Work S _).Takes Backend.journal
      fun a => Journals env.now (if user.hasPassword then some userId else none)
        (renewedAuditAction user.hasPassword) a.1 :=
  membershipUpdate_quietJournal.bind_takes fun _ => userUpdate_quietJournal.bind_takes fun _ =>
    replaceMembershipLocations_quietJournal.bind_takes fun _ =>
      Takes.bind_journals renewAccess_takes fun _ =>
        loadMembershipWithRelations_readOnly.quiet.bind_takes fun _ =>
          Takes.bind_done createAuditLog_journals

theorem inviteNewMemberTx_journals {input : InviteMemberDto} {locationIds : List Id} :
    (inviteNewMemberTx env organization actorUserId input locationIds userId : Work S _).Takes
      Backend.journal fun a => Journals env.now none .inviteSent a.1 :=
  Quiet.bind_takes (quiet_of_journal fun _ => rfl) fun _ =>
    replaceMembershipLocations_quietJournal.bind_takes fun _ =>
      createInviteForMembership_quietJournal.bind_takes fun _ =>
        loadMembershipWithRelations_readOnly.quiet.bind_takes fun _ =>
          Takes.bind_done createAuditLog_journals

theorem updateMember_journals {input : UpdateTeamMemberDto} :
    (updateMember env organization actorUserId membershipId input : Work S _).Takes
      Backend.journal fun _ => Journals env.now none .update membershipId :=
  updateMemberRead_readOnly.quiet.bind_takes fun _ => userUpdate_quietJournal.bind_takes fun _ =>
    findMembershipOrThrow_readOnly.quiet.bind_takes fun _ =>
      createAuditLog_journals.bind_quiet fun _ => answer_quietJournal

theorem updateMemberRole_journals {role : Role} :
    (updateMemberRole env organization actorUserId membershipId role : Work S _).Takes
      Backend.journal fun _ => Journals env.now none .roleChanged membershipId :=
  updateMemberRoleRead_readOnly.quiet.bind_takes fun _ =>
    membershipUpdate_quietJournal.bind_takes fun _ =>
      findMembershipOrThrow_readOnly.quiet.bind_takes fun _ =>
        createAuditLog_journals.bind_quiet fun _ => answer_quietJournal

theorem updateMemberLocations_journals {requested : Option (List Id)} :
    (updateMemberLocations env organization actorUserId membershipId requested : Work S _).Takes
      Backend.journal fun _ => Journals env.now none .locationScopeChanged membershipId := by
  refine updateMemberLocationsRead_readOnly.quiet.bind_takes fun _ => Takes.bind_quiet ?_ fun _ =>
    answer_quietJournal
  exact Takes.transaction (replaceMembershipLocations_quietJournal.bind_takes fun _ =>
    logged_journals)

theorem resendInvite_journals :
    (resendInvite env organization actorUserId membershipId : Work S _).Takes
      Backend.journal fun _ => Journals env.now none .inviteResent membershipId := by
  refine resendInviteRead_readOnly.quiet.bind_takes fun _ => Takes.bind_quiet ?_ fun _ =>
    answer_quietJournal
  exact Takes.transaction (createInviteForMembership_quietJournal.bind_takes fun _ =>
    loadMembershipWithRelations_readOnly.quiet.bind_takes fun _ =>
      createAuditLog_journals.bind_quiet fun _ => trivial)

theorem acceptInvitationTx_journals {input : AcceptInviteDto} {invitation : TeamInvitationRecord} :
    (acceptInvitationTx env input invitation : Work S Unit).Takes
      Backend.journal fun _ => Journals env.now none .inviteAccepted invitation.membership.id :=
  (quiet_doWhen userUpdate_quietJournal).bind_takes fun _ =>
    membershipUpdate_quietJournal.bind_takes fun _ =>
      inviteTokenAccept_quietJournal.bind_takes fun _ => logged_journals

end

section

variable {S : Type} {env : TeamEnv} {organization : MemberContext} {k userId actorUserId : Id}
  {db db' : Backend} {s s' : S} {response : TeamMutationResponse}

theorem deactivateMember_journal
    (h : (deactivateMember env organization actorUserId k).run db s = (.ok (response, db'), s')) :
    let c : TeamCall := ⟨env, .deactivateMember organization actorUserId k⟩
    Journals env.now (c.revokes? db) (c.auditAction db) k db.journal db'.journal := by
  obtain ⟨r, d, t, hread, h₁⟩ := run_bind_ok.mp h
  obtain ⟨hr, -, -, -, rfl, rfl⟩ := deactivateMemberRead_ok hread
  have hjournal := (deactivateMemberTx_journals.transaction.bind_quiet fun _ =>
    answer_quietJournal) _ _ _ _ _ h₁
  dsimp only [TeamCall.revokes?, TeamCall.auditAction]
  rw [(Backend.member?_eq_some hr).1]
  exact hjournal

theorem reactivateMember_journal
    (h : (reactivateMember env organization actorUserId k).run db s = (.ok (response, db'), s')) :
    let c : TeamCall := ⟨env, .reactivateMember organization actorUserId k⟩
    Journals env.now (c.revokes? db) (c.auditAction db) k db.journal db'.journal := by
  obtain ⟨r, d, t, hread, h₁⟩ := run_bind_ok.mp h
  obtain ⟨hr, -, -, rfl, rfl⟩ := reactivateMemberRead_ok hread
  have hjournal := (reactivateMemberTx_journals.transaction.bind_quiet fun _ =>
    answer_quietJournal) _ _ _ _ _ h₁
  dsimp only [TeamCall.revokes?, TeamCall.auditAction]
  rw [hr, Option.filter_some]
  have huser : (if r.user.hasPassword then some r else none).map (·.userId) =
      if r.user.hasPassword then some r.userId else none := by split <;> rfl
  rw [huser]
  exact hjournal

theorem inviteMember_journal {input : InviteMemberDto}
    (h : (inviteMember env organization actorUserId input).run db s = (.ok (response, db'), s')) :
    let c : TeamCall := ⟨env, .inviteMember organization actorUserId input⟩
    Journals env.now (c.revokes? db) (c.auditAction db) response.member.membershipId db.journal
      db'.journal := by
  obtain ⟨target, d, t, hread, h₁⟩ := run_bind_ok.mp h
  obtain ⟨-, rfl, -, hstatus, rfl, rfl⟩ := inviteMemberRead_ok hread
  obtain ⟨a, d₂, t₂, htx, h₂⟩ := run_bind_ok.mp h₁
  obtain ⟨hk, rfl, rfl⟩ := answer_ok (fun _ => rfl) h₂
  rw [run_transaction] at htx
  rw [hk]
  obtain ⟨⟨userId, user⟩, d₃, t₃, haccount, h₃⟩ := run_bind_ok.mp htx
  dsimp only [TeamCall.revokes?, TeamCall.auditAction]
  cases hexisting : (d.inviteTarget env organization input).existingMembership with
  | none =>
    rw [hexisting] at h₃
    obtain ⟨hfor, rfl⟩ := invitedAccount_for haccount
    have hsame : d₃.journal = d.journal := by cases hfor <;> rfl
    rw [← hsame]
    exact inviteNewMemberTx_journals _ _ _ _ _ h₃
  | some r =>
    obtain ⟨hr, -, huser, -⟩ := inviteTarget_member hexisting
    have hd := hstatus r hexisting
    rw [hexisting, Option.filter_some, if_pos (by rw [hd]; rfl)] at h₃
    obtain ⟨⟨hu, rfl⟩ | ⟨hnone, -⟩, rfl⟩ := invitedAccount_ok haccount
    · cases Option.some.inj (huser.symm.trans hu)
      have hrevokes : (if r.status == .deactivated && r.user.hasPassword then some r
          else none).map (·.userId) = if r.user.hasPassword then some r.userId else none := by
        rw [hd]
        simp only [beq_self_eq_true, Bool.true_and]
        split <;> rfl
      rw [Option.filter_some, hrevokes]
      exact reinviteMemberTx_journals _ _ _ _ _ h₃
    · rw [hnone] at huser
      cases huser

theorem acceptInvitation_journal {input : AcceptInviteDto} {authenticatedUserId : Option Id}
    {member : TeamMemberDetail}
    (h : (acceptInvitation env input authenticatedUserId).run db s = (.ok (member, db'), s')) :
    Journals env.now none .inviteAccepted member.membershipId db.journal db'.journal := by
  have hchange := acceptInvitation_ok h
  generalize member.membershipId = membershipId at hchange ⊢
  obtain ⟨invitation, d, t, hread, h₁⟩ := run_bind_ok.mp h
  obtain ⟨hfound, -, -, rfl, rfl⟩ := acceptInvitationRead_ok hread
  have hjournal := (acceptInvitationTx_journals.transaction.bind_quiet
    fun _ => Quiet.bind quiet_select fun found => ?_) _ _ _ _ _ h₁
  · cases hchange with
    | accepted found =>
      cases hfound.symm.trans found
      exact hjournal
  · cases found with
    | none => trivial
    | some m => exact findMembershipOrThrow_readOnly.quiet.bind fun _ => trivial

/-- **What a call that succeeded did** to the sessions and the audit rows. -/
theorem TeamCall.journal_ok {c : TeamCall} {member : TeamMemberDetail}
    (h : c.exec db = (.ok member, db')) :
    Journals c.env.now (c.revokes? db) (c.auditAction db) member.membershipId db.journal
      db'.journal := by
  have hrun := TeamCall.run_of_exec h
  obtain ⟨env, action⟩ := c
  cases action with
  | inviteMember organization actorUserId input =>
    obtain ⟨response, rfl, h₁⟩ := run_map_ok.mp hrun
    exact inviteMember_journal h₁
  | updateMember organization actorUserId k input =>
    obtain ⟨response, rfl, h₁⟩ := run_map_ok.mp hrun
    rw [(updateMember_ok h₁).1]
    exact updateMember_journals _ _ _ _ _ h₁
  | updateMemberRole organization actorUserId k role =>
    obtain ⟨response, rfl, h₁⟩ := run_map_ok.mp hrun
    rw [(updateMemberRole_ok h₁).1]
    exact updateMemberRole_journals _ _ _ _ _ h₁
  | updateMemberLocations organization actorUserId k requested =>
    obtain ⟨response, rfl, h₁⟩ := run_map_ok.mp hrun
    rw [(updateMemberLocations_ok h₁).1]
    exact updateMemberLocations_journals _ _ _ _ _ h₁
  | deactivateMember organization actorUserId k =>
    obtain ⟨response, rfl, h₁⟩ := run_map_ok.mp hrun
    rw [(deactivateMember_ok h₁).1]
    exact deactivateMember_journal h₁
  | reactivateMember organization actorUserId k =>
    obtain ⟨response, rfl, h₁⟩ := run_map_ok.mp hrun
    rw [(reactivateMember_ok h₁).1]
    exact reactivateMember_journal h₁
  | resendInvite organization actorUserId k =>
    obtain ⟨response, rfl, h₁⟩ := run_map_ok.mp hrun
    rw [(resendInvite_ok h₁).1]
    exact resendInvite_journals _ _ _ _ _ h₁
  | acceptInvitation input authenticatedUserId => exact acceptInvitation_journal hrun

end

end LedgerLight
