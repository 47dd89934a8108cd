import LedgerLight.Auth.Service
import LedgerLight.Team.Journal

/-!
# Calls that open and end sessions

A session is a refresh token that is not revoked and has not expired. `login` opens one; `logout`,
and the calls of the team service that take a membership away or bring one back, end all sessions of
a user.

* `SessionCall.Returns`, `SessionCall.Strands`, `SessionCall.Ends` : the logins that open a session
  and the calls that end those of a user.
* `SessionCall.hasSession_step` : a session is there after a call if the call opened it, or if it was
  there and the call did not end it.
-/

namespace LedgerLight

open Infra Prog

/-- The calls of the auth service and of the team service. -/
inductive SessionCall where
  | login (env : AuthEnv) (input : LoginDto)
  | refresh (env : AuthEnv) (input : RefreshTokenDto)
  | logout (env : AuthEnv) (userId : Id)
  | team (c : TeamCall)

namespace SessionCall

/-- The time of the call. -/
def now : SessionCall → Date
  | .login env _ => env.now
  | .refresh env _ => env.now
  | .logout env _ => env.now
  | .team c => c.env.now

/-- The database that the call leaves. -/
def exec (c : SessionCall) (db : Backend) : Backend :=
  match c with
  | .login env input => ((LedgerLight.login env input : Work Unit _).runAuto db ()).2.1
  | .refresh env input => ((LedgerLight.refresh env input : Work Unit _).runAuto db ()).2.1
  | .logout env userId => ((LedgerLight.logout env userId : Work Unit _).runAuto db ()).2.1
  | .team c => (c.exec db).2

end SessionCall

/-- The auth service and the team service. -/
def sessions : Machine Backend SessionCall where
  step db c := c.exec db

/-! ## What a call does to the sessions -/

section

variable {env : AuthEnv} {db : Backend} {userId : Id}

/-- The end of a login, after the session was opened. -/
theorem loginAnswer_cases (db : Backend) (env : AuthEnv) (userId : Id) (user : User)
    (memberships : List MembershipWithOrganization) :
    ∃ r db', (loginAnswer env userId user memberships).runAuto db () = (r, db', ()) ∧
      db'.refreshTokens = db.refreshTokens ∧
      (memberships = [] ∧ r = .error noActiveMemberships ∨ ∃ answer, r = .ok answer ∧
        answer.user.id = userId ∧ answer.refreshTokenRaw = env.refreshTokenRaw) := by
  rw [loginAnswer, runAuto_bind]
  by_cases hsome : memberships ≠ []
  · rw [require, if_pos hsome]
    exact ⟨_, _, rfl, rfl, Or.inr ⟨_, rfl, rfl, rfl⟩⟩
  · rw [require, if_neg hsome]
    exact ⟨_, _, rfl, rfl, Or.inl ⟨not_not.mp hsome, rfl⟩⟩

/-- The login has the password of an active user. -/
def SignsIn (env : AuthEnv) (input : LoginDto) (db : Backend) (userId : Id) (user : User) : Prop :=
  db.userByEmail? input.email = some (userId, user) ∧ user.isActive = true ∧
    user.hasPassword = true ∧ env.bcryptCompare input.password (user.passwordHash.getD "") = true

/-- A login that gets past its checks opens a session; then it answers, unless the user has no
active membership. -/
theorem login_cases (env : AuthEnv) (input : LoginDto) (db : Backend) :
    (∃ e, (login env input).runAuto db () = (.error e, db, ()) ∧ e ≠ noActiveMemberships) ∨
    ∃ userId user r db', (login env input).runAuto db () = (r, db', ()) ∧
      SignsIn env input db userId user ∧ db.refreshTokens.lookup (env.uuid 0) = none ∧
      db'.refreshTokens = db.refreshTokens.insert (env.uuid 0) (openedSession env userId) ∧
      (db.activeMemberships userId = [] ∧ r = .error noActiveMemberships ∨
        ∃ answer, r = .ok answer ∧ answer.user.id = userId ∧
          answer.refreshTokenRaw = env.refreshTokenRaw) := by
  rw [login, runAuto_bind]
  rw [runAuto_select]
  dsimp only
  cases hfound : (db.userByEmail? input.email).filter fun u => u.2.isActive && u.2.hasPassword with
  | none => exact Or.inl ⟨_, rfl, by decide⟩
  | some u =>
    obtain ⟨userId, user⟩ := u
    obtain ⟨huser, hactive⟩ := Option.filter_eq_some_iff.mp hfound
    rw [Bool.and_eq_true] at hactive
    have hlookup := (Backend.userByEmail?_eq_some huser).1
    dsimp only
    rw [runAuto_bind]
    by_cases hpassword : env.bcryptCompare input.password (user.passwordHash.getD "") = true
    case neg =>
      rw [require, if_neg hpassword]
      exact Or.inl ⟨_, rfl, by decide⟩
    rw [require, if_pos hpassword]
    dsimp only [runAuto_done]
    by_cases htaken : (db.refreshTokens.lookup (env.uuid 0)).isSome ∨
        (db.refreshTokens.findRow? fun _ t =>
          t.tokenHash == env.bcryptHash env.refreshTokenRaw).isSome
    case pos =>
      refine Or.inl ⟨.prisma "P2002", ?_, by decide⟩
      rw [refreshTokenCreate, runAuto_exec_bind_error]
      exact if_pos htaken
    have hfresh : db.refreshTokens.lookup (env.uuid 0) = none := by
      rw [← Option.not_isSome_iff_eq_none]
      exact fun h => htaken (Or.inl h)
    have hexists : (db.users.lookup userId).isSome = true := by rw [hlookup]; rfl
    -- the two statements that the rest of the login comes after
    let db₁ := db.setRefreshToken (env.uuid 0) (openedSession env userId)
    let updated : User := { user with lastLoginAt := some env.now, updatedAt := env.now }
    have hmodify : db₁.modifyUser userId (fun u =>
        { u with lastLoginAt := some env.now, updatedAt := env.now }) =
        db₁.setUser userId updated := by
      unfold Backend.modifyUser
      rw [show db₁.users.lookup userId = some user from hlookup]
    have hread : (db₁.setUser userId updated).users.lookup userId = some updated :=
      AList.lookup_insert _
    obtain ⟨r, db', hanswer, htokens, hr⟩ :=
      loginAnswer_cases (db₁.setUser userId updated) env userId updated
      ((db₁.setUser userId updated).activeMemberships userId)
    refine Or.inr ⟨userId, user, r, db', ?_, ⟨huser, hactive.1, hactive.2, hpassword⟩, hfresh,
      htokens, hr⟩
    rw [refreshTokenCreate, runAuto_exec_bind, userLoggedIn, runAuto_exec_bind]
    · rw [hmodify, runAuto_bind]
      rw [runAuto_select]
      dsimp only
      rw [hread]
      exact hanswer
    · exact if_pos hexists
    · exact (if_neg htaken).trans (if_pos hexists)

theorem refresh_readOnly {input : RefreshTokenDto} :
    (refresh env input : Work Unit _).ReadOnly := by
  refine readOnly_select.bind fun _ => readOnly_require.bind fun _ => readOnly_require.bind fun _ =>
    readOnly_select.bind fun u => ?_
  cases u.filter (·.isActive) with
  | none => trivial
  | some user => exact readOnly_select.bind fun _ => readOnly_require.bind fun _ => trivial

theorem createUserAuditLogs_quiet {S : Type} {action : MemberAuditAction}
    {organizationIds : List Id} :
    (createUserAuditLogs env userId action organizationIds : Work S Unit).Quiet
      Backend.refreshTokens :=
  quiet_exec fun _ => rfl

theorem logout_sessions :
    ((logout env userId : Work Unit Unit).runAuto db ()).2.1.refreshTokens =
      db.refreshTokens.mapRows fun t =>
        if t.userId = userId ∧ env.now < t.expiresAt ∧ t.revokedAt = none then
          { t with revokedAt := some env.now }
        else t := by
  rw [logout, runAuto_bind]
  rw [runAuto_select]
  dsimp only
  rw [refreshTokenRevokeLive, runAuto_exec_bind rfl]
  exact Quiet.runAuto_left (quiet_doWhen createUserAuditLogs_quiet) _ ()

end

/-- A login of the user that answers the refresh token. -/
def SessionCall.Returns (c : SessionCall) (db : Backend) (userId : Id) (raw : String) : Prop :=
  match c with
  | .login env input => ∃ answer, ((LedgerLight.login env input).runAuto db ()).1 = .ok answer ∧
      answer.user.id = userId ∧ answer.refreshTokenRaw = raw
  | _ => False

/-- A login of the user that draws the refresh token and fails after it has opened the session. -/
def SessionCall.Strands (c : SessionCall) (db : Backend) (userId : Id) (raw : String) : Prop :=
  match c with
  | .login env input => env.refreshTokenRaw = raw ∧ (∃ user, SignsIn env input db userId user) ∧
      ((LedgerLight.login env input).runAuto db ()).1 = .error noActiveMemberships
  | _ => False

/-- A call ends the sessions of the user: a logout, or a call of the team service after which they
have to log in again. -/
def SessionCall.Ends (c : SessionCall) (db : Backend) (userId : Id) : Prop :=
  match c with
  | .logout _ u => u = userId
  | .team c => (∃ member, (c.exec db).1 = .ok member) ∧ c.revokes? db = some userId
  | _ => False

/-- There is a session of the user that is live at the time, and whose hash `raw` is compared
with. -/
def Backend.HasSession (db : Backend) (bcryptCompare : String → String → Bool) (userId : Id)
    (raw : String) (now : Date) : Prop :=
  ∃ i t, db.refreshTokens.lookup i = some t ∧ t.userId = userId ∧ now < t.expiresAt ∧
    t.revokedAt = none ∧ bcryptCompare raw t.tokenHash = true

section

variable {db db' : Backend} {userId u : Id} {raw : String} {now : Date}
  {bcryptCompare : String → String → Bool}

theorem hasSession_congr (h : db'.refreshTokens = db.refreshTokens) :
    db'.HasSession bcryptCompare u raw now ↔ db.HasSession bcryptCompare u raw now := by
  unfold Backend.HasSession
  rw [h]

/-- A session is added. -/
theorem hasSession_opened {env : AuthEnv} (hfresh : db.refreshTokens.lookup (env.uuid 0) = none)
    (htokens : db'.refreshTokens =
      db.refreshTokens.insert (env.uuid 0) (openedSession env userId)) :
    db'.HasSession bcryptCompare u raw now ↔ db.HasSession bcryptCompare u raw now ∨
      userId = u ∧ now < env.now + refreshTokenLifetime ∧
        bcryptCompare raw (env.bcryptHash env.refreshTokenRaw) = true := by
  unfold Backend.HasSession
  rw [htokens]
  constructor
  · rintro ⟨i, t, ht, huser, hexpires, hrevoked, hcompare⟩
    rw [Table.lookup_insert_ite] at ht
    split at ht
    · obtain rfl := Option.some.inj ht
      exact Or.inr ⟨huser, hexpires, hcompare⟩
    · exact Or.inl ⟨i, t, ht, huser, hexpires, hrevoked, hcompare⟩
  · rintro (⟨i, t, ht, hlive⟩ | ⟨huser, hexpires, hcompare⟩)
    · refine ⟨i, t, ?_, hlive⟩
      have hne : i ≠ env.uuid 0 := fun hi => by
        rw [hi, hfresh] at ht
        cases ht
      rw [AList.lookup_insert_ne hne]
      exact ht
    · exact ⟨env.uuid 0, _, AList.lookup_insert _, huser, hexpires, rfl, hcompare⟩

/-- The sessions of `userId` that are not over are revoked. -/
theorem hasSession_revoked (userId : Id) {p : RefreshToken → Prop} [DecidablePred p] {at' : Date}
    (htokens : db'.refreshTokens = db.refreshTokens.mapRows fun t =>
      if p t then { t with revokedAt := some at' } else t)
    (hp : ∀ t, now < t.expiresAt → (p t ↔ t.userId = userId ∧ t.revokedAt = none)) :
    db'.HasSession bcryptCompare u raw now ↔
      db.HasSession bcryptCompare u raw now ∧ userId ≠ u := by
  unfold Backend.HasSession
  rw [htokens]
  constructor
  · rintro ⟨i, t', ht', hlive⟩
    rw [Table.lookup_mapRows] at ht'
    obtain ⟨t, ht, rfl⟩ := Option.map_eq_some_iff.mp ht'
    by_cases hpt : p t
    · rw [if_pos hpt] at hlive
      cases hlive.2.2.1
    · rw [if_neg hpt] at hlive
      refine ⟨⟨i, t, ht, hlive⟩, fun hu => hpt ?_⟩
      exact (hp t hlive.2.1).mpr ⟨hlive.1.trans hu.symm, hlive.2.2.1⟩
  · rintro ⟨⟨i, t, ht, huser, hlive⟩, hne⟩
    have hpt : ¬ p t := fun h => hne (((hp t hlive.1).mp h).1.symm.trans huser)
    refine ⟨i, t, ?_, huser, hlive⟩
    rw [Table.lookup_mapRows, ht, Option.map_some, if_neg hpt]

/-- **What a call does to the sessions.** -/
theorem SessionCall.hasSession_step {c : SessionCall} (hnow : c.now ≤ now)
    (hbcrypt : ∀ env input, c = .login env input → ∀ raw,
      bcryptCompare raw (env.bcryptHash env.refreshTokenRaw) = true ↔ raw = env.refreshTokenRaw) :
    (sessions.step db c).HasSession bcryptCompare u raw now ↔
      db.HasSession bcryptCompare u raw now ∧ ¬ c.Ends db u ∨
        (c.Returns db u raw ∨ c.Strands db u raw) ∧ now < c.now + refreshTokenLifetime := by
  cases c with
  | login env input =>
    simp only [SessionCall.Ends, not_false_eq_true, and_true]
    rcases login_cases env input db with ⟨e, hrun, he⟩ | ⟨userId, user, r, db', hrun, hsigns, hfresh,
      htokens, hr⟩
    · have hstep : sessions.step db (.login env input) = db := by
        simp only [sessions, SessionCall.exec, hrun]
      have hreturns : ¬ (SessionCall.login env input).Returns db u raw := by
        rintro ⟨answer, hok, -⟩
        rw [hrun] at hok
        cases hok
      have hstrands : ¬ (SessionCall.login env input).Strands db u raw := by
        rintro ⟨-, -, herror⟩
        rw [hrun] at herror
        exact he (Except.error.inj herror)
      simp only [hstep, hreturns, hstrands, or_self, false_and, or_false]
    · have hstep : sessions.step db (.login env input) = db' := by
        simp only [sessions, SessionCall.exec, hrun]
      have hopens : (SessionCall.login env input).Returns db u raw ∨
          (SessionCall.login env input).Strands db u raw ↔
          raw = env.refreshTokenRaw ∧ userId = u := by
        constructor
        · rintro (⟨answer, hok, huser, hraw⟩ | ⟨hraw, ⟨user', huser, -⟩, -⟩)
          · rw [hrun] at hok
            rcases hr with ⟨-, rfl⟩ | ⟨answer', rfl, huser', hraw'⟩
            · cases hok
            · cases hok
              exact ⟨hraw.symm.trans hraw', huser'.symm.trans huser⟩
          · cases hsigns.1.symm.trans huser
            exact ⟨hraw.symm, rfl⟩
        · rintro ⟨rfl, rfl⟩
          rcases hr with ⟨-, rfl⟩ | ⟨answer, rfl, hanswer⟩
          · exact Or.inr ⟨rfl, ⟨user, hsigns⟩, congrArg Prod.fst hrun⟩
          · exact Or.inl ⟨answer, congrArg Prod.fst hrun, hanswer⟩
      rw [hstep, hasSession_opened hfresh htokens, hbcrypt env input rfl raw, hopens]
      refine or_congr Iff.rfl ?_
      show _ ↔ _ ∧ now < env.now + refreshTokenLifetime
      constructor
      · exact fun h => ⟨⟨h.2.2, h.1⟩, h.2.1⟩
      · exact fun h => ⟨h.1.2, h.2, h.1.1⟩
  | refresh env input =>
    have hstep : sessions.step db (.refresh env input) = db :=
      congrArg Prod.fst (refresh_readOnly.runAuto_snd db ())
    simp [hstep, SessionCall.Ends, SessionCall.Returns, SessionCall.Strands]
  | logout env userId =>
    simp only [SessionCall.Ends, SessionCall.Returns, SessionCall.Strands, or_self, false_and,
      or_false]
    refine hasSession_revoked _ logout_sessions fun t ht => ?_
    have hlive : env.now < t.expiresAt := Nat.lt_of_le_of_lt hnow ht
    simp only [hlive, true_and]
  | team c =>
    simp only [SessionCall.Returns, SessionCall.Strands, or_self, false_and, or_false]
    have hstep : sessions.step db (.team c) = (c.exec db).2 := rfl
    rcases hc : c.exec db with ⟨e | member, db'⟩
    · have hends : ¬ (SessionCall.team c).Ends db u := by
        rintro ⟨⟨member, hok⟩, -⟩
        rw [hc] at hok
        cases hok
      rw [hstep, hc, TeamCall.exec_error hc]
      simp only [hends, not_false_eq_true, and_true]
    · have hends : (SessionCall.team c).Ends db u ↔ c.revokes? db = some u :=
        and_iff_right ⟨member, by rw [hc]⟩
      have htokens := (TeamCall.journal_ok hc).1
      rw [hstep, hc, hends]
      cases hrevokes : c.revokes? db with
      | none =>
        rw [hrevokes] at htokens
        rw [hasSession_congr htokens]
        simp
      | some userId =>
        rw [hrevokes] at htokens
        rw [hasSession_revoked userId htokens fun t _ => Iff.rfl, Option.some_inj]

end

end LedgerLight
