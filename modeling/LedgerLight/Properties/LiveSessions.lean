import LedgerLight.Auth.Calls

/-!
# Refresh accepts the live sessions

Sessions are opened by `login` and ended by calls of two services. `login` opens the session before
it looks at the memberships of the user.

* `refresh_ok_iff` : what `refresh` accepts, in any database.
* `refresh_live` : after every run in which no login fails for want of an active membership,
  `refresh` accepts the refresh tokens that a login answered less than seven days ago and no call
  has ended since.
* `refresh_stranded` : a login that failed has opened a session, and `refresh` accepts its token.
-/

namespace LedgerLight

open Infra Prog

/-- The login has the password of an active user who has no active membership. -/
def SessionCall.Memberless (c : SessionCall) (db : Backend) : Prop :=
  match c with
  | .login env input =>
    ∃ userId user, SignsIn env input db userId user ∧ db.activeMemberships userId = []
  | _ => False

/-- A login has answered the refresh token less than seven days ago, and no call since has ended the
sessions of the user. -/
def LoggedIn (db₀ : Backend) (as : List SessionCall) (userId : Id) (raw : String) (now : Date) :
    Prop :=
  ∃ as₁ c as₂, as = as₁ ++ c :: as₂ ∧ c.Returns (sessions.run db₀ as₁) userId raw ∧
    now < c.now + refreshTokenLifetime ∧
    sessions.Meets (fun db c => ¬ c.Ends db userId) (sessions.run db₀ (as₁ ++ [c])) as₂

section

variable {db db₀ : Backend} {env : AuthEnv} {input : RefreshTokenDto} {userId : Id}
  {raw : String}

/-- Only a login of a user without an active membership strands a session. -/
theorem SessionCall.memberless_of_strands {c : SessionCall} (h : c.Strands db userId raw) :
    c.Memberless db := by
  cases c with
  | login env input =>
    obtain ⟨-, ⟨user, hsigns⟩, herror⟩ := h
    rcases login_cases env input db with ⟨e, hrun, he⟩ | ⟨userId', user', r, db', hrun, hsigns',
      -, -, ⟨hnone, -⟩ | ⟨answer, rfl, -⟩⟩
    · rw [hrun] at herror
      exact absurd (Except.error.inj herror) he
    · exact ⟨userId', user', hsigns', hnone⟩
    · rw [hrun] at herror
      cases herror
  | refresh env input => exact h.elim
  | logout env userId => exact h.elim
  | team c => exact h.elim

/-- The sessions after a run without such a login. -/
theorem hasSession_run {as : List SessionCall} {bcryptCompare : String → String → Bool}
    {now : Date} (hnone : db₀.refreshTokens = ∅) (hnow : ∀ c ∈ as, c.now ≤ now)
    (hbcrypt : ∀ env input, SessionCall.login env input ∈ as → ∀ raw,
      bcryptCompare raw (env.bcryptHash env.refreshTokenRaw) = true ↔ raw = env.refreshTokenRaw)
    (hlogins : sessions.Meets (fun db c => ¬ c.Memberless db) db₀ as) :
    (sessions.run db₀ as).HasSession bcryptCompare userId raw now ↔
      LoggedIn db₀ as userId raw now := by
  have hempty : ¬ db₀.HasSession bcryptCompare userId raw now := by
    rintro ⟨i, t, ht, -⟩
    rw [hnone] at ht
    cases ht
  have hsince := Machine.run_iff_since (M := sessions) (s := db₀)
    (P := fun db => db.HasSession bcryptCompare userId raw now)
    fun db c hc => SessionCall.hasSession_step (hnow c hc) fun env input he =>
      hbcrypt env input (he ▸ hc)
  rw [hsince]
  constructor
  · rintro (⟨h, -⟩ | ⟨as₁, c, as₂, rfl, ⟨hopens, hlater⟩, hrest⟩)
    · exact absurd h hempty
    · have hmember := ((sessions.meets_append _ _ _ _).mp hlogins).2.1
      refine ⟨as₁, c, as₂, rfl, ?_, hlater, hrest⟩
      exact hopens.resolve_right fun hstrands => hmember (SessionCall.memberless_of_strands hstrands)
  · rintro ⟨as₁, c, as₂, hsplit, hreturns, hlater, hrest⟩
    exact Or.inr ⟨as₁, c, as₂, hsplit, ⟨Or.inl hreturns, hlater⟩, hrest⟩

/-- The memberships that `refresh` finds. -/
theorem mem_activeMemberships {m : MembershipWithOrganization} :
    m ∈ db.activeMemberships userId ↔ db.memberships.lookup m.id = some m.toMembership ∧
      m.userId = userId ∧ m.status = .active ∧
      m.organizationName = db.organizationName m.organizationId ∧
      m.locationIds = db.scopeOf m.id := by
  simp only [Backend.activeMemberships, List.mem_map, List.mem_filter, Bool.and_eq_true,
    beq_iff_eq]
  constructor
  · rintro ⟨⟨k, m'⟩, ⟨hmem, huser, hactive⟩, rfl⟩
    exact ⟨AList.mem_lookup_iff.mpr hmem, huser, hactive, rfl, rfl⟩
  · rintro ⟨hlookup, huser, hactive, hname, hscope⟩
    refine ⟨⟨m.id, m.toMembership⟩, ⟨AList.mem_lookup_iff.mp hlookup, huser, hactive⟩, ?_⟩
    cases m
    simp only at hname hscope
    simp only [hname, hscope]

end

/-! ## What `refresh` accepts -/

/-- The access token of a user with these memberships has exactly them, as they are now. -/
def Backend.Grants (db : Backend) (userId : Id) (payload : JwtPayload) : Prop :=
  payload.sub = userId ∧ (payload.memberships.map (·.id)).Nodup ∧
    ∀ j, j ∈ payload.memberships ↔ ∃ m, db.memberships.lookup j.id = some m ∧
      m.userId = userId ∧ m.status = .active ∧
      j = { id := j.id, organizationId := m.organizationId
            organizationName := db.organizationName m.organizationId, userId := m.userId
            role := m.role, hasAllLocations := (db.scopeOf j.id).isEmpty
            allowedLocationIds := db.scopeOf j.id }

section

variable {db : Backend} {env : AuthEnv} {input : RefreshTokenDto} {userId : Id}
  {answer : RefreshResponse}

theorem validRefreshTokens_any {raw : String} :
    ((db.validRefreshTokens userId env.now).any fun t => env.bcryptCompare raw t.tokenHash) = true ↔
      db.HasSession env.bcryptCompare userId raw env.now := by
  simp only [Backend.validRefreshTokens, List.any_eq_true, List.mem_filter, List.mem_map,
    Bool.and_eq_true, beq_iff_eq, decide_eq_true_eq, Option.isNone_iff_eq_none]
  constructor
  · rintro ⟨t, ⟨⟨⟨i, t'⟩, hmem, rfl⟩, ⟨huser, hexpires⟩, hrevoked⟩, hcompare⟩
    exact ⟨i, t', AList.mem_lookup_iff.mpr hmem, huser, hexpires, hrevoked, hcompare⟩
  · rintro ⟨i, t, ht, huser, hexpires, hrevoked, hcompare⟩
    exact ⟨t, ⟨⟨⟨i, t⟩, AList.mem_lookup_iff.mp ht, rfl⟩, ⟨huser, hexpires⟩, hrevoked⟩, hcompare⟩

theorem activeMemberships_nodup : ((db.activeMemberships userId).map (·.id)).Nodup := by
  rw [Backend.activeMemberships, List.map_map]
  have hkeys : (db.memberships.entries.map Sigma.fst).Nodup := db.memberships.nodupKeys
  exact hkeys.sublist (List.filter_sublist.map _)

theorem activeMemberships_grants {user : PublicUser} :
    db.Grants userId { sub := userId, user := user
                       memberships := (db.activeMemberships userId).map serializeJwtMembership } := by
  refine ⟨rfl, ?_, fun j => ?_⟩
  · rw [List.map_map]
    exact activeMemberships_nodup
  · rw [List.mem_map]
    constructor
    · rintro ⟨m, hm, rfl⟩
      obtain ⟨hlookup, huser, hactive, hname, hscope⟩ := mem_activeMemberships.mp hm
      refine ⟨m.toMembership, hlookup, huser, hactive, ?_⟩
      simp only [serializeJwtMembership, hname, hscope]
    · rintro ⟨m, hlookup, huser, hactive, hj⟩
      refine ⟨{ m with id := j.id, organizationName := db.organizationName m.organizationId
                       locationIds := db.scopeOf j.id }, ?_, ?_⟩
      · exact mem_activeMemberships.mpr ⟨hlookup, huser, hactive, rfl, rfl⟩
      · rw [hj]
        rfl

theorem refreshAnswer_ok : (refreshAnswer env userId).run db () = (.ok (answer, db), ()) ↔
    ∃ user, db.users.lookup userId = some user ∧ user.isActive = true ∧
      db.activeMemberships userId ≠ [] ∧
      answer =
        { accessToken := env.signAsync
            { sub := userId, user := user.omitPasswordHash userId
              memberships := (db.activeMemberships userId).map serializeJwtMembership }
          user := user.omitPasswordHash userId } := by
  constructor
  · intro h
    obtain ⟨u, d, w, hselect, h⟩ := run_bind_ok.mp h
    obtain ⟨rfl, rfl, -⟩ := run_select_ok.mp hselect
    cases hfound : (d.users.lookup userId).filter (·.isActive) with
    | none => rw [hfound] at h; cases h
    | some user =>
      rw [hfound] at h
      obtain ⟨huser, hactive⟩ := Option.filter_eq_some_iff.mp hfound
      obtain ⟨memberships, d₁, w₁, hselect₁, h₁⟩ := run_bind_ok.mp h
      obtain ⟨rfl, rfl, -⟩ := run_select_ok.mp hselect₁
      obtain ⟨⟨⟩, d₂, w₂, hrequire, h₂⟩ := run_bind_ok.mp h₁
      obtain ⟨hsome, rfl, -⟩ := run_require_ok.mp hrequire
      obtain ⟨rfl, -, -⟩ := run_pure_ok.mp h₂
      exact ⟨user, huser, hactive, hsome, rfl⟩
  · rintro ⟨user, huser, hactive, hsome, rfl⟩
    refine run_bind_ok.mpr ⟨_, db, (), rfl, ?_⟩
    dsimp only
    rw [huser, Option.filter_some, if_pos hactive]
    refine run_bind_ok.mpr ⟨_, db, (), rfl, run_bind_ok.mpr ⟨(), db, (), ?_, rfl⟩⟩
    exact run_require_ok.mpr ⟨hsome, rfl, rfl⟩

/-- **What `refresh` accepts**, and what it answers. -/
theorem refresh_ok_iff :
    ((refresh env input).runAuto db ()).1 = .ok answer ↔
      db.HasSession env.bcryptCompare input.userId input.refreshTokenRaw env.now ∧
        ∃ user, db.users.lookup input.userId = some user ∧ user.isActive = true ∧
          db.activeMemberships input.userId ≠ [] ∧
          answer =
            { accessToken := env.signAsync
                { sub := input.userId, user := user.omitPasswordHash input.userId
                  memberships :=
                    (db.activeMemberships input.userId).map serializeJwtMembership }
              user := user.omitPasswordHash input.userId } := by
  have hrun : ((refresh env input).runAuto db ()).1 = .ok answer ↔
      (refresh env input).run db () = (.ok (answer, db), ()) := by
    rw [← runAuto_ok]
    have hsnd := (refresh_readOnly : (refresh env input).ReadOnly).runAuto_snd db ()
    exact ⟨fun h => Prod.ext h hsnd, fun h => congrArg Prod.fst h⟩
  rw [hrun, ← refreshAnswer_ok, ← validRefreshTokens_any]
  constructor
  · intro h
    obtain ⟨tokens, d, w, hselect, h⟩ := run_bind_ok.mp h
    obtain ⟨rfl, rfl, -⟩ := run_select_ok.mp hselect
    obtain ⟨⟨⟩, d₁, w₁, hrequire, h₁⟩ := run_bind_ok.mp h
    obtain ⟨-, rfl, -⟩ := run_require_ok.mp hrequire
    obtain ⟨⟨⟩, d₂, w₂, hrequire₁, h₂⟩ := run_bind_ok.mp h₁
    obtain ⟨hany, rfl, -⟩ := run_require_ok.mp hrequire₁
    exact ⟨hany, h₂⟩
  · rintro ⟨hany, h⟩
    have hsome : db.validRefreshTokens input.userId env.now ≠ [] := by
      intro hnone
      rw [hnone] at hany
      cases hany
    refine run_bind_ok.mpr ⟨_, db, (), rfl, run_bind_ok.mpr ⟨(), db, (), ?_, ?_⟩⟩
    · exact run_require_ok.mpr ⟨hsome, rfl, rfl⟩
    · exact run_bind_ok.mpr ⟨(), db, (), run_require_ok.mpr ⟨hany, rfl, rfl⟩, h⟩

end

/-- **After every run** in which no login is made by somebody without an active membership,
`refresh` accepts a refresh token if and only if a login of the user has answered it less than seven
days ago and no call has ended the sessions of the user since, the user is active, and has an active
membership. Then the access token has the active memberships as they are now. -/
theorem refresh_live {db₀ : Backend} {as : List SessionCall} {env : AuthEnv}
    (hnone : db₀.refreshTokens = ∅)
    (hclock : (as.map SessionCall.now ++ [env.now]).Pairwise (· ≤ ·))
    (hbcrypt : ∀ env' input', SessionCall.login env' input' ∈ as → ∀ raw,
      env.bcryptCompare raw (env'.bcryptHash env'.refreshTokenRaw) = true ↔
        raw = env'.refreshTokenRaw)
    (hlogins : sessions.Meets (fun db c => ¬ c.Memberless db) db₀ as) (input : RefreshTokenDto) :
    let db := sessions.run db₀ as
    ((∃ answer, ((refresh env input).runAuto db ()).1 = .ok answer) ↔
        LoggedIn db₀ as input.userId input.refreshTokenRaw env.now ∧
          (∃ user, db.users.lookup input.userId = some user ∧ user.isActive = true) ∧
          ∃ k m, db.memberships.lookup k = some m ∧ m.userId = input.userId ∧
            m.status = .active) ∧
      ∀ answer, ((refresh env input).runAuto db ()).1 = .ok answer →
        ∃ payload, answer.accessToken = env.signAsync payload ∧ db.Grants input.userId payload := by
  intro db
  have hnow : ∀ c ∈ as, c.now ≤ env.now := fun c hc =>
    (List.pairwise_append.mp hclock).2.2 _ (List.mem_map_of_mem hc) _ List.mem_cons_self
  have hsession : db.HasSession env.bcryptCompare input.userId input.refreshTokenRaw env.now ↔
      LoggedIn db₀ as input.userId input.refreshTokenRaw env.now :=
    hasSession_run hnone hnow hbcrypt hlogins
  have hmember : db.activeMemberships input.userId ≠ [] ↔ ∃ k m,
      db.memberships.lookup k = some m ∧ m.userId = input.userId ∧ m.status = .active := by
    constructor
    · intro hsome
      obtain ⟨m, hm⟩ := List.exists_mem_of_ne_nil _ hsome
      obtain ⟨hlookup, huser, hactive, -⟩ := mem_activeMemberships.mp hm
      exact ⟨m.id, m.toMembership, hlookup, huser, hactive⟩
    · rintro ⟨k, m, hlookup, huser, hactive⟩
      refine List.ne_nil_of_mem (a := { m with
        id := k
        organizationName := db.organizationName m.organizationId
        locationIds := db.scopeOf k }) ?_
      exact mem_activeMemberships.mpr ⟨hlookup, huser, hactive, rfl, rfl⟩
  constructor
  · rw [← hsession, ← hmember]
    constructor
    · rintro ⟨answer, hok⟩
      obtain ⟨hlive, user, huser, hactive, hsome, -⟩ := refresh_ok_iff.mp hok
      exact ⟨hlive, ⟨user, huser, hactive⟩, hsome⟩
    · rintro ⟨hlive, ⟨user, huser, hactive⟩, hsome⟩
      exact ⟨_, refresh_ok_iff.mpr ⟨hlive, user, huser, hactive, hsome, rfl⟩⟩
  · intro answer hok
    obtain ⟨-, user, -, -, -, rfl⟩ := refresh_ok_iff.mp hok
    exact ⟨_, rfl, activeMemberships_grants⟩

/-! ## Runs on a small office -/

namespace Office

/-- A request of the auth service at the time `n`. -/
def authEnv (n : Nat) : AuthEnv :=
  { toEnv := (env n).toEnv, refreshTokenRaw := "raw"
    bcryptHash := fun raw => "$2b$10$" ++ raw
    bcryptCompare := fun raw hash => hash == "$2b$10$" ++ raw
    signAsync := fun _ => "jwt" }

/-- The owner, and a cashier or somebody who has no membership here. -/
def withCashier : Backend :=
  staffed [(annMember, membership ann .owner, user "ann"),
    (bobMember, membership bob .cashier, { user "bob" with passwordHash := some "$2b$10$bob" })]

/-- The cashier logs in, and the owner logs out. -/
def loggedIn : List SessionCall :=
  [.login (authEnv 1) ⟨"bob@office.test", "bob"⟩, .logout (authEnv 2) ann]

/-- The user has another organization's membership only, and that was deactivated. -/
def withoutMembership : Backend :=
  (staffed [(annMember, membership ann .owner, user "ann")]).setUser bob
    { user "bob" with passwordHash := some "$2b$10$bob" }

/-- The user is invited, cannot log in since the membership is not active, and accepts with the
access token of an earlier login. -/
def failedLogin : List SessionCall :=
  [.team ⟨env 1, .inviteMember (acts annMember .owner) ann
      { email := "bob@office.test", role := .cashier }⟩,
    .login (authEnv 2) ⟨"bob@office.test", "bob"⟩,
    .team ⟨env 3, .acceptInvitation { token := "token" } (some bob)⟩]

end Office

/-- The hashes of the office are those of one refresh token only. -/
theorem Office.bcryptCompare_hash {n m : Nat} {raw raw' : String} :
    (Office.authEnv n).bcryptCompare raw ((Office.authEnv m).bcryptHash raw') = true ↔
      raw = raw' := by
  show ("$2b$10$" ++ raw' == "$2b$10$" ++ raw) = true ↔ raw = raw'
  rw [beq_iff_eq, String.append_right_inj, eq_comm]

theorem refresh_live_office :
    ∃ answer, ((refresh (Office.authEnv 3) ⟨"raw", Office.bob⟩).runAuto
      (sessions.run Office.withCashier Office.loggedIn) ()).1 = .ok answer := by
  have hclock : (Office.loggedIn.map SessionCall.now ++ [(Office.authEnv 3).now]).Pairwise
      (· ≤ ·) := by decide
  have hbcrypt : ∀ env' input', SessionCall.login env' input' ∈ Office.loggedIn → ∀ raw,
      (Office.authEnv 3).bcryptCompare raw (env'.bcryptHash env'.refreshTokenRaw) = true ↔
        raw = env'.refreshTokenRaw := by
    intro env' input' hmem raw
    rcases List.mem_cons.mp hmem with h | h
    · cases h
      exact Office.bcryptCompare_hash
    · cases List.mem_singleton.mp h
  have hlogins : sessions.Meets (fun db c => ¬ c.Memberless db) Office.withCashier
      Office.loggedIn := by
    refine ⟨?_, fun h => h, trivial⟩
    rintro ⟨userId, user, ⟨huser, -⟩, hnone⟩
    have hbob : userId = Office.bob := congrArg Prod.fst (Option.some.inj huser).symm
    rw [hbob] at hnone
    exact absurd hnone (by decide)
  have hloggedIn : LoggedIn Office.withCashier Office.loggedIn Office.bob "raw"
      (Office.authEnv 3).now := by
    refine ⟨[], _, _, rfl, ⟨_, rfl, rfl, rfl⟩, by decide, ⟨?_, trivial⟩⟩
    show ¬ Office.ann = Office.bob
    decide
  have hrefresh := refresh_live rfl hclock hbcrypt hlogins
  exact (hrefresh ⟨"raw", Office.bob⟩).1.mpr
    ⟨hloggedIn, ⟨_, rfl, rfl⟩, Office.bobMember, _, rfl, rfl, rfl⟩

/-- **A login that failed has opened a session**: its refresh token, which no login has answered, is
accepted once the user has an active membership. -/
theorem refresh_stranded :
    Office.withoutMembership.refreshTokens = ∅ ∧
      (Office.failedLogin.map SessionCall.now ++ [(Office.authEnv 4).now]).Pairwise (· ≤ ·) ∧
      (∀ raw raw', (Office.authEnv 4).bcryptCompare raw ((Office.authEnv 2).bcryptHash raw') = true ↔
        raw = raw') ∧
      (∃ answer, ((refresh (Office.authEnv 4) ⟨"raw", Office.bob⟩).runAuto
        (sessions.run Office.withoutMembership Office.failedLogin) ()).1 = .ok answer) ∧
      ¬ LoggedIn Office.withoutMembership Office.failedLogin Office.bob "raw"
        (Office.authEnv 4).now := by
  refine ⟨rfl, by decide, fun _ _ => Office.bcryptCompare_hash, ⟨_, rfl⟩, ?_⟩
  rintro ⟨as₁, c, as₂, hsplit, hreturns, -⟩
  rcases as₁ with _ | ⟨_, _ | ⟨_, _ | ⟨_, _ | _⟩⟩⟩ <;> cases hsplit
  · exact hreturns
  · -- the login
    obtain ⟨answer, hok, -⟩ := hreturns
    cases hok
  · exact hreturns

end LedgerLight
