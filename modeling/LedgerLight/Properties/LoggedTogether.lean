import LedgerLight.Infra.Script
import LedgerLight.Team.Journal

/-!
# A team mutation and its audit row

A statement of a call fails. Six of the calls write in one transaction, so the change is there with
its audit row or not at all; `updateMember` and `updateMemberRole` commit the change and write the
row later.

* `TeamCall.script_prog` : the calls as scripts, with their transactions.
* `whole_iff` : when a call of which a statement failed has left a change without its audit row.
-/

namespace LedgerLight

open Infra Prog

abbrev TeamScript := Script Backend BackendKey Unit BackendError

/-! ## The calls with their transactions -/

namespace TeamCall

/-- The end of most calls: the member is read once more. -/
def memberRead (env : TeamEnv) (organization : MemberContext) (membershipId : Id)
    (response : TeamMemberDetail → TeamMutationResponse) : Work Unit TeamMemberDetail :=
  (·.member) <$> do
    let member ← getMemberDetail env organization.organizationId membershipId
    pure (response member)

/-- The end of `acceptInvitation`. -/
def acceptedRead (env : TeamEnv) (membershipId : Id) : Work Unit TeamMemberDetail := do
  match ← select fun db => db.memberships.lookup membershipId with
  | none => fail (.typeError "Cannot read properties of null (reading 'organizationId')")
  | some m =>
    let member ← findMembershipOrThrow m.organizationId membershipId
    pure { mapMemberListItem env member with
      permissions := getRolePermissions member.role, activity := [] }

/-- The call, with its transactions. -/
def script (c : TeamCall) : TeamScript TeamMemberDetail :=
  match c.action with
  | .inviteMember organization actorUserId input =>
    .seq (.auto (inviteMemberRead c.env organization input)) fun target =>
    .seq (.transaction (inviteMemberTx c.env organization actorUserId input target)) fun a =>
    .auto (memberRead c.env organization a.1 fun member =>
      { member := member, action := a.2.2, inviteUrl := a.2.1 })
  | .updateMember organization actorUserId k input =>
    .auto ((·.member) <$> updateMember c.env organization actorUserId k input)
  | .updateMemberRole organization actorUserId k role =>
    .auto ((·.member) <$> updateMemberRole c.env organization actorUserId k role)
  | .updateMemberLocations organization actorUserId k requested =>
    .seq (.auto (updateMemberLocationsRead organization k requested)) fun r =>
    .seq (.transaction (updateMemberLocationsTx c.env organization actorUserId k r.1 r.2)) fun _ =>
    .auto (memberRead c.env organization k fun member =>
      { member := member, action := "locations_updated" })
  | .deactivateMember organization actorUserId k =>
    .seq (.auto (deactivateMemberRead organization actorUserId k)) fun r =>
    .seq (.transaction (deactivateMemberTx c.env organization actorUserId k r)) fun _ =>
    .auto (memberRead c.env organization k fun member =>
      { member := member, action := "member_deactivated" })
  | .reactivateMember organization actorUserId k =>
    .seq (.auto (reactivateMemberRead organization k)) fun r =>
    .seq (.transaction (reactivateMemberTx c.env organization actorUserId k r)) fun inviteUrl =>
    .auto (memberRead c.env organization k fun member =>
      { member := member, action := renewedAction r.user.hasPassword, inviteUrl := inviteUrl })
  | .resendInvite organization actorUserId k =>
    .seq (.auto (resendInviteRead organization k)) fun r =>
    .seq (.transaction (resendInviteTx c.env organization actorUserId k r)) fun inviteUrl =>
    .auto (memberRead c.env organization k fun member =>
      { member := member, action := "invite_resent", inviteUrl := some inviteUrl })
  | .acceptInvitation input authenticatedUserId =>
    .seq (.auto (acceptInvitationRead c.env input authenticatedUserId)) fun invitation =>
    .seq (.transaction (acceptInvitationTx c.env input invitation)) fun _ =>
    .auto (acceptedRead c.env invitation.membership.id)

/-- An answer may be changed at the end of a program. -/
theorem map_transaction {α β γ δ : Type} {x : Work Unit α} {y : α → Work Unit β}
    {z : α → β → Work Unit γ} {f : γ → δ} :
    (f <$> (x >>= fun a => transaction (y a) >>= fun b => z a b) : Work Unit δ) =
      x >>= fun a => transaction (y a) >>= fun b => f <$> z a b := by
  have hmap : ∀ a, (transaction (y a) >>= fun b => z a b) >>= (fun c => pure (f c)) =
      transaction (y a) >>= fun b => f <$> z a b := fun a => bind_bind _ _ _
  refine (bind_bind _ _ _).trans ?_
  exact congrArg (x >>= ·) (funext hmap)

theorem script_prog (c : TeamCall) : c.script.prog = c.prog := by
  obtain ⟨env, action⟩ := c
  cases action with
  | inviteMember => exact map_transaction.symm
  | updateMember => rfl
  | updateMemberRole => rfl
  | updateMemberLocations => exact map_transaction.symm
  | deactivateMember => exact map_transaction.symm
  | reactivateMember => exact map_transaction.symm
  | resendInvite => exact map_transaction.symm
  | acceptInvitation => rfl

/-! ## What a call leaves -/

/-- The database that is left when the `n`-th statement of the call fails. -/
def left (c : TeamCall) (n : Nat) (db : Backend) : Backend := c.script.left n db ()

/-- The call has changed nothing, or it has made its change to a member, and written one audit row
about it. -/
def Whole (c : TeamCall) (db left : Backend) : Prop :=
  left = db ∨ ∃ k, TeamChange db c.env c.action k left ∧
    ∃ row, left.memberLogs = row :: db.memberLogs ∧ row.entityType = .membership ∧
      row.entityId = k ∧ row.action = c.auditAction db

/-- The checks and the update of a call that commits its update by itself. -/
def bareUpdate? (c : TeamCall) :
    Option (Work Unit TeamMemberRecord × (TeamMemberRecord → Work Unit Unit)) :=
  match c.action with
  | .updateMember organization _ k input =>
    some (updateMemberRead c.env organization k input, fun membership =>
      userUpdate c.env membership.userId (input.normalizedEmail c.env) fun u =>
        { u with firstName := input.firstName.getD u.firstName,
                 lastName := input.lastName.getD u.lastName })
  | .updateMemberRole organization actorUserId k role =>
    some (updateMemberRoleRead organization actorUserId k role, fun _ =>
      membershipUpdate c.env k fun m => { m with role := role })
  | _ => none

/-- The call has passed its checks, its update is committed by itself and changes something, and one
of the two statements after it fails: the one that reads the member once more, or the one that
writes the audit row. -/
def FailsUnlogged (c : TeamCall) (n : Nat) (db : Backend) : Prop :=
  ∃ read update r db₁, c.bareUpdate? = some (read, update) ∧
    read.run db () = (.ok (r, db), ()) ∧ (update r).run db () = (.ok ((), db₁), ()) ∧ db₁ ≠ db ∧
    (n = read.statements db () + 1 ∨ n = read.statements db () + 2)

section

variable {c : TeamCall} {db : Backend} {n : Nat}

/-- What the call leaves when no statement fails but what has a reason to is whole. -/
theorem whole_exec : c.Whole db (c.exec db).2 := by
  rcases h : c.exec db with ⟨e | member, db'⟩
  · exact Or.inl (exec_error h)
  · exact Or.inr ⟨member.membershipId, exec_ok h, (journal_ok h).2⟩

/-- A call with one transaction. -/
theorem whole_of_atomic (h : c.script.Atomic) : c.Whole db (c.left n db) := by
  rcases Script.left_of_atomic (n := n) (d := db) (w := ()) h with hleft | hleft
  · exact Or.inl hleft
  · rw [script_prog] at hleft
    rw [left, hleft]
    exact whole_exec

theorem memberRead_readOnly {env : TeamEnv} {organization : MemberContext} {k : Id}
    {response : TeamMemberDetail → TeamMutationResponse} :
    (memberRead env organization k response).ReadOnly := by
  refine ReadOnly.bind (getMemberDetail_readOnly.bind fun _ => ?_) fun _ => ?_ <;> trivial

theorem acceptedRead_readOnly {env : TeamEnv} {k : Id} : (acceptedRead env k).ReadOnly := by
  refine readOnly_select.bind fun m => ?_
  cases m with
  | none => trivial
  | some m => exact findMembershipOrThrow_readOnly.bind fun _ => trivial

/-! ### Calls that commit their update by themselves -/

variable {env : TeamEnv} {organization : MemberContext} {o actorUserId k : Id}
  {action : MemberAuditAction} {read : Work Unit TeamMemberRecord}
  {update : TeamMemberRecord → Work Unit Unit} {response : TeamMemberDetail → TeamMutationResponse}
  {r : TeamMemberRecord} {db₁ : Backend}

/-- Such a call. -/
def bareCall (env : TeamEnv) (organization : MemberContext) (actorUserId k : Id)
    (action : MemberAuditAction) (read : Work Unit TeamMemberRecord)
    (update : TeamMemberRecord → Work Unit Unit)
    (response : TeamMemberDetail → TeamMutationResponse) : Work Unit TeamMemberDetail := do
  let membership ← read
  update membership
  let updated ← findMembershipOrThrow organization.organizationId k
  createAuditLog env organization.organizationId (some actorUserId) action k
    (some (snapshotMembership membership)) (some (snapshotMembership updated))
  memberRead env organization k response

theorem map_bareCall :
    ((·.member) <$> (do
      let membership ← read
      update membership
      let updated ← findMembershipOrThrow organization.organizationId k
      createAuditLog env organization.organizationId (some actorUserId) action k
        (some (snapshotMembership membership)) (some (snapshotMembership updated))
      let member ← getMemberDetail env organization.organizationId k
      pure (response member)) : Work Unit TeamMemberDetail) =
      bareCall env organization actorUserId k action read update response := by
  refine (bind_bind _ _ _).trans (congrArg (read >>= ·) (funext fun membership => ?_))
  refine (bind_bind _ _ _).trans (congrArg (update membership >>= ·) (funext fun _ => ?_))
  refine (bind_bind _ _ _).trans (congrArg (_ >>= ·) (funext fun updated => ?_))
  exact bind_bind _ _ _

theorem findMembershipOrThrow_statements :
    (findMembershipOrThrow o k : Work Unit _).statements db () = 1 := by
  rw [findMembershipOrThrow, statements_bind (x := select _) rfl]
  cases (db.member? k).filter fun m => m.organizationId == o <;> rfl

/-- Between the update and its audit row the change is there alone. -/
theorem bareCall_unlogged
    (hupdate : ∀ r, ∃ rows fails patch, update r = Prog.exec rows fails patch)
    (hr : read.run db () = (.ok (r, db), ())) (h : (update r).run db () = (.ok ((), db₁), ()))
    (hn : n = read.statements db () + 1 ∨ n = read.statements db () + 2) :
    (Script.auto (bareCall env organization actorUserId k action read update response)).left n db
      () = db₁ := by
  choose rows fails patch hexec using hupdate
  obtain rfl : update = fun r => Prog.exec (rows r) (fails r) (patch r) := funext hexec
  obtain ⟨hfails, rfl, -⟩ := run_exec_ok.mp h
  obtain ⟨j, hj, rfl⟩ : ∃ j, j ≤ 1 ∧ n = read.statements db () + (j + 1) := by
    rcases hn with hn | hn
    · exact ⟨0, by omega, by omega⟩
    · exact ⟨1, by omega, by omega⟩
  rw [bareCall, Script.left_after_write hr hfails]
  refine Script.left_before_write findMembershipOrThrow_readOnly ?_
  rw [findMembershipOrThrow_statements]
  exact hj

/-- Elsewhere the call leaves nothing, or all that it does. -/
theorem bareCall_whole (hread : read.ReadOnly)
    (hupdate : ∀ r, ∃ rows fails patch, update r = Prog.exec rows fails patch)
    (hn : ∀ r db₁, read.run db () = (.ok (r, db), ()) →
      (update r).run db () = (.ok ((), db₁), ()) →
        db₁ = db ∨ n ≠ read.statements db () + 1 ∧ n ≠ read.statements db () + 2) :
    (Script.auto (bareCall env organization actorUserId k action read update response)).left n db
        () = db ∨
      (Script.auto (bareCall env organization actorUserId k action read update response)).left n db
        () = ((bareCall env organization actorUserId k action read update response).runAuto db
          ()).2.1 := by
  choose rows fails patch hexec using hupdate
  obtain rfl : update = fun r => Prog.exec (rows r) (fails r) (patch r) := funext hexec
  by_cases hbefore : n ≤ read.statements db ()
  · exact Or.inl (Script.left_before_write hread hbefore)
  by_cases hwrite : ∃ r, read.run db () = (.ok (r, db), ()) ∧ fails r db = none
  case neg =>
    refine Or.inl (Script.left_of_write_fails hread fun r hr => ?_)
    rw [← Option.isSome_iff_exists, ← Option.ne_none_iff_isSome]
    exact fun hnone => hwrite ⟨r, hr, hnone⟩
  obtain ⟨r, hr, hfails⟩ := hwrite
  obtain ⟨j, rfl⟩ : ∃ j, n = read.statements db () + (j + 1) :=
    ⟨n - read.statements db () - 1, by omega⟩
  rw [bareCall, Script.left_after_write hr hfails]
  have hafter := hn r _ hr (run_exec_ok.mpr ⟨hfails, rfl, rfl⟩)
  by_cases hj : j ≤ 1
  · -- the update has run and changes nothing
    left
    have hsame : patch r db = db := hafter.resolve_right fun h => by omega
    refine (Script.left_before_write findMembershipOrThrow_readOnly ?_).trans hsame
    rw [findMembershipOrThrow_statements]
    exact hj
  · right
    rw [runAuto_bind, runAuto_ok.mpr hr]
    dsimp only
    rw [runAuto_exec_bind hfails]
    refine Script.left_one_write findMembershipOrThrow_readOnly (fun _ => memberRead_readOnly) ?_
    rw [findMembershipOrThrow_statements]
    omega

theorem script_atomic (h : c.bareUpdate? = none) : c.script.Atomic := by
  obtain ⟨env, action⟩ := c
  cases action with
  | inviteMember =>
    exact Or.inl ⟨inviteMemberRead_readOnly, fun _ => Or.inr ⟨trivial, fun _ => memberRead_readOnly⟩⟩
  | updateMember => cases h
  | updateMemberRole => cases h
  | updateMemberLocations =>
    exact Or.inl ⟨updateMemberLocationsRead_readOnly, fun _ => Or.inr ⟨trivial, fun _ =>
      memberRead_readOnly⟩⟩
  | deactivateMember =>
    exact Or.inl ⟨deactivateMemberRead_readOnly, fun _ => Or.inr ⟨trivial, fun _ =>
      memberRead_readOnly⟩⟩
  | reactivateMember =>
    exact Or.inl ⟨reactivateMemberRead_readOnly, fun _ => Or.inr ⟨trivial, fun _ =>
      memberRead_readOnly⟩⟩
  | resendInvite =>
    exact Or.inl ⟨resendInviteRead_readOnly, fun _ => Or.inr ⟨trivial, fun _ =>
      memberRead_readOnly⟩⟩
  | acceptInvitation =>
    exact Or.inl ⟨acceptInvitationRead_readOnly, fun _ => Or.inr ⟨trivial, fun _ =>
      acceptedRead_readOnly⟩⟩

/-- The calls with an update that is committed by itself. -/
theorem script_bare (h : c.bareUpdate? = some (read, update)) :
    read.ReadOnly ∧ (∀ r, (update r).Quiet Backend.journal) ∧
      (∀ r, ∃ rows fails patch, update r = Prog.exec rows fails patch) ∧
      ∃ organization actorUserId k action response, c.script =
        .auto (bareCall c.env organization actorUserId k action read update response) := by
  obtain ⟨env, action⟩ := c
  cases action with
  | updateMember organization actorUserId k input =>
    cases h
    refine ⟨updateMemberRead_readOnly, fun _ => userUpdate_quietJournal, fun _ => ⟨_, _, _, rfl⟩,
      organization, actorUserId, k, .update, fun member =>
        { member := member, action := "member_updated" }, ?_⟩
    exact congrArg Script.auto map_bareCall
  | updateMemberRole organization actorUserId k role =>
    cases h
    refine ⟨updateMemberRoleRead_readOnly, fun _ => membershipUpdate_quietJournal,
      fun _ => ⟨_, _, _, rfl⟩, organization, actorUserId, k, .roleChanged, fun member =>
        { member := member, action := "role_changed" }, ?_⟩
    exact congrArg Script.auto map_bareCall
  | inviteMember => cases h
  | updateMemberLocations => cases h
  | deactivateMember => cases h
  | reactivateMember => cases h
  | resendInvite => cases h
  | acceptInvitation => cases h

end

end TeamCall

/-- **When a change stands without its audit row**: whichever statement of a call fails, the call has
changed nothing, or has made its change and written its one audit row; but for `updateMember` and
`updateMemberRole` when one of the two statements after the update fails. -/
theorem whole_iff (c : TeamCall) (n : Nat) (db : Backend) :
    c.Whole db (c.left n db) ↔ ¬ c.FailsUnlogged n db := by
  constructor
  · rintro hwhole ⟨read, update, r, db₁, hbare, hr, hrun, hne, hn⟩
    obtain ⟨-, hquiet, hupdate, organization, actorUserId, k, action, response, hscript⟩ :=
      TeamCall.script_bare hbare
    have hleft : c.left n db = db₁ := by
      rw [TeamCall.left, hscript]
      exact TeamCall.bareCall_unlogged hupdate hr hrun hn
    rw [hleft] at hwhole
    rcases hwhole with hsame | ⟨k, -, row, hrow, -⟩
    · exact hne hsame
    · -- the update writes no audit row
      have hlogs : db₁.journal = db.journal := (hquiet r).takes _ _ _ _ _ hrun
      rw [show db₁.memberLogs = db.memberLogs from congrArg Prod.snd hlogs] at hrow
      exact absurd (congrArg List.length hrow) (by simp)
  · intro hnot
    cases hbare : c.bareUpdate? with
    | none => exact TeamCall.whole_of_atomic (TeamCall.script_atomic hbare)
    | some p =>
      obtain ⟨read, update⟩ := p
      obtain ⟨hread, -, hupdate, organization, actorUserId, k, action, response, hscript⟩ :=
        TeamCall.script_bare hbare
      have hprog := TeamCall.script_prog c
      rw [hscript] at hprog
      have hn : ∀ r db₁, read.run db () = (.ok (r, db), ()) →
          (update r).run db () = (.ok ((), db₁), ()) →
            db₁ = db ∨ n ≠ read.statements db () + 1 ∧ n ≠ read.statements db () + 2 := by
        intro r db₁ hr hrun
        by_cases hsame : db₁ = db
        · exact Or.inl hsame
        · refine Or.inr ⟨fun hn => ?_, fun hn => ?_⟩
          · exact hnot ⟨read, update, r, db₁, hbare, hr, hrun, hsame, Or.inl hn⟩
          · exact hnot ⟨read, update, r, db₁, hbare, hr, hrun, hsame, Or.inr hn⟩
      have hleft : c.left n db = db ∨ c.left n db = (c.exec db).2 := by
        rw [TeamCall.left, hscript, TeamCall.exec, ← hprog]
        exact TeamCall.bareCall_whole hread hupdate hn
      rcases hleft with hleft | hleft
      · exact Or.inl hleft
      · rw [hleft]
        exact TeamCall.whole_exec

/-! ## A run on a small office -/

/-- A cashier becomes a manager. -/
def Office.promote : TeamCall :=
  ⟨env 5, .updateMemberRole (acts annMember .owner) ann bobMember .manager⟩

/-- The database with the cashier. -/
def Office.twoMembers : Backend :=
  staffed [(annMember, membership ann .owner, user "ann"),
    (bobMember, membership bob .cashier, user "bob")]

/-- **A change without its audit row**: the audit row cannot be written, and the new role stays. -/
theorem promote_unlogged :
    (((Office.promote.left 3 Office.twoMembers).memberships.lookup Office.bobMember).map (·.role)) =
        some .manager ∧
      (Office.promote.left 3 Office.twoMembers).memberLogs = Office.twoMembers.memberLogs ∧
      ¬ Office.promote.Whole Office.twoMembers (Office.promote.left 3 Office.twoMembers) := by
  have hrole : ((Office.promote.left 3 Office.twoMembers).memberships.lookup
      Office.bobMember).map (·.role) = some .manager := by decide
  have hlogs : (Office.promote.left 3 Office.twoMembers).memberLogs =
      Office.twoMembers.memberLogs := by decide
  refine ⟨hrole, hlogs, ?_⟩
  rintro (hsame | ⟨k, -, row, hrow, -⟩)
  · rw [hsame] at hrole
    exact absurd hrole (by decide)
  · rw [hlogs] at hrow
    cases hrow

end LedgerLight
