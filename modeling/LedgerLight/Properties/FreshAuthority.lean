import LedgerLight.Properties.LiveSessions
import LedgerLight.Stripe.Account
import LedgerLight.System.Api

/-!
# How long a membership is trusted

The guards of a route look at the access token only, and the token repeats the memberships of the
moment it was signed in. Whoever gets through them has lost the membership for less than fifteen
minutes.

* `answered_run` : every token that is out was signed in the run, for what the database had then.
* `authority_fresh` : a request that is let through is one of a user who had the membership, with
  its role and its locations, when a token was signed less than fifteen minutes ago.
-/

namespace LedgerLight

open Infra Prog

variable {S M : Type}

/-- The database has the user, active, with an active membership as the request has it. -/
structure Backend.Authorizes (db : Backend) (userId : Id) (organization : MemberContext) : Prop where
  user : ∃ u, db.users.lookup userId = some u ∧ u.isActive = true
  membership : ∃ m, db.memberships.lookup organization.membershipId = some m ∧ m.userId = userId ∧
    m.organizationId = organization.organizationId ∧ m.status = .active ∧
    m.role = organization.role
  locations : organization.allowedLocationIds = db.scopeOf organization.membershipId

/-- When the call signs a token, if it does. -/
def ApiCall.signsAt? : ApiCall M → Option Date
  | .login env _ => some env.now
  | .refresh env _ => some env.now
  | _ => none

/-! ## What is signed -/

section

variable {db db' : Backend} {env : AuthEnv}

theorem loginAnswer_ok {userId : Id} {user : User} {memberships : List MembershipWithOrganization}
    {answer : LoginResponse}
    (h : (loginAnswer env userId user memberships).run db () = (.ok (answer, db'), ())) :
    answer.user = user.omitPasswordHash userId ∧
      answer.accessToken = env.signAsync
        { sub := userId, user := user.omitPasswordHash userId
          memberships := memberships.map serializeJwtMembership } ∧
      db'.users = db.users ∧ db'.memberships = db.memberships ∧
      db'.activeMemberships userId = db.activeMemberships userId := by
  obtain ⟨⟨⟩, d₁, w₁, hrequire, h₁⟩ := run_bind_ok.mp h
  obtain ⟨-, rfl, -⟩ := run_require_ok.mp hrequire
  obtain ⟨⟨⟩, d₂, w₂, hlogs, h₂⟩ := run_bind_ok.mp h₁
  obtain ⟨-, rfl, -⟩ := run_exec_ok.mp hlogs
  obtain ⟨rfl, rfl, -⟩ := run_pure_ok.mp h₂
  exact ⟨rfl, rfl, rfl, rfl, rfl⟩

theorem lookup_modifyUser {userId : Id} {f : User → User} {u : User}
    (h : db.users.lookup userId = some u) :
    (db.modifyUser userId f).users.lookup userId = some (f u) := by
  unfold Backend.modifyUser
  rw [h]
  exact AList.lookup_insert _

/-- **A login that answers** has signed the memberships that the database has then, for a user that
is active. -/
theorem login_signs {input : LoginDto} {answer : LoginResponse}
    (h : (login env input).runAuto db () = (.ok answer, db', ())) :
    answer.accessToken = env.signAsync (db'.jwtPayload answer.user) ∧
      ∃ u, db'.users.lookup answer.user.id = some u ∧ u.isActive = true := by
  have hrun := runAuto_ok.mp h
  obtain ⟨found, d₀, w₀, hselect, h₀⟩ := run_bind_ok.mp hrun
  obtain ⟨rfl, rfl, -⟩ := run_select_ok.mp hselect
  cases hfound : (d₀.userByEmail? input.email).filter fun u => u.2.isActive && u.2.hasPassword with
  | none => rw [hfound] at h₀; cases h₀
  | some u =>
    obtain ⟨userId, user⟩ := u
    obtain ⟨huser, hactive⟩ := Option.filter_eq_some_iff.mp hfound
    rw [Bool.and_eq_true] at hactive
    rw [hfound] at h₀
    obtain ⟨⟨⟩, d₁, w₁, hrequire, h₁⟩ := run_bind_ok.mp h₀
    obtain ⟨-, rfl, -⟩ := run_require_ok.mp hrequire
    obtain ⟨⟨⟩, d₂, w₂, hcreate, h₂⟩ := run_bind_ok.mp h₁
    obtain ⟨-, rfl, -⟩ := run_exec_ok.mp hcreate
    obtain ⟨⟨⟩, d₃, w₃, hupdate, h₃⟩ := run_bind_ok.mp h₂
    obtain ⟨-, rfl, -⟩ := run_exec_ok.mp hupdate
    obtain ⟨found', d₄, w₄, hread, h₄⟩ := run_bind_ok.mp h₃
    obtain ⟨rfl, rfl, -⟩ := run_select_ok.mp hread
    -- the row that the login reads again is the one it has just written
    have hlookup : (d₁.setRefreshToken (env.uuid 0) (openedSession env userId)).users.lookup userId =
        some user := (Backend.userByEmail?_eq_some huser).1
    rw [lookup_modifyUser hlookup, Option.map_some] at h₄
    obtain ⟨huser, htoken, husers, -, hmemberships⟩ := loginAnswer_ok h₄
    rw [huser]
    have hrow := (congrArg (·.lookup userId) husers).trans (lookup_modifyUser hlookup)
    refine ⟨htoken.trans ?_, _, hrow, hactive.1⟩
    unfold Backend.jwtPayload
    rw [show (User.omitPasswordHash userId _).id = userId from rfl, hmemberships]

/-- So has a refresh that answers. -/
theorem refresh_signs {input : RefreshTokenDto} {answer : RefreshResponse}
    (h : (refresh env input).runAuto db () = (.ok answer, db', ())) :
    answer.accessToken = env.signAsync (db'.jwtPayload answer.user) ∧
      ∃ u, db'.users.lookup answer.user.id = some u ∧ u.isActive = true := by
  have hsnd := (refresh_readOnly : (refresh env input).ReadOnly).runAuto_snd db ()
  rw [h] at hsnd
  obtain rfl : db' = db := congrArg Prod.fst hsnd
  obtain ⟨-, user, huser, hactive, -, rfl⟩ := refresh_ok_iff.mp (congrArg Prod.fst h)
  exact ⟨rfl, user, huser, hactive⟩

/-- A membership of the payload is an active one of the user. -/
theorem jwtPayload_mem {user : PublicUser} {j : JwtMembership}
    (hj : j ∈ (db.jwtPayload user).memberships) :
    ∃ m, db.memberships.lookup j.id = some m ∧ m.userId = user.id ∧ m.status = .active ∧
      j.organizationId = m.organizationId ∧ j.role = m.role ∧
      j.allowedLocationIds = db.scopeOf j.id := by
  obtain ⟨m, hlookup, huser, hactive, hj⟩ :=
    ((activeMemberships_grants : db.Grants user.id (db.jwtPayload user)).2.2 j).mp hj
  exact ⟨m, hlookup, huser, hactive, congrArg JwtMembership.organizationId hj,
    congrArg JwtMembership.role hj, congrArg JwtMembership.allowedLocationIds hj⟩

end

/-! ## What is out -/

section

variable {jwt : Jwt} {stripe : StripeService S M} {st : Api S} {c : ApiCall M}
  {token : AnsweredToken}

/-- A token that comes out in a step was signed in it, with what the database has after it. -/
theorem answered_step (hout : token ∉ st.answered)
    (hnew : token ∈ ((api jwt stripe).step st c).answered) :
    ∃ signedAt user u, c.signsAt? = some signedAt ∧ token.issuedAt = signedAt / 1000 ∧
      token.payload = ((api jwt stripe).step st c).db.jwtPayload user ∧
      ((api jwt stripe).step st c).db.users.lookup user.id = some u ∧ u.isActive = true := by
  have hanswering : ∀ {now db r}, token ∈ (st.answering now db r).answered →
      ∃ text user, r = .ok (text, user) ∧ token = ⟨text, db.jwtPayload user, now / 1000⟩ := by
    intro now db r h
    cases r with
    | error e => exact absurd h hout
    | ok r => exact ⟨r.1, r.2, rfl, (List.mem_cons.mp h).resolve_right hout⟩
  cases c with
  | login env input =>
    rcases hr : (login (env.signing jwt) input : Work Unit _).runAuto st.db () with ⟨r, db', u⟩
    have hstep : (api jwt stripe).step st (.login env input) =
        st.answering env.now db' (r.map fun answer => (answer.accessToken, answer.user)) := by
      simp only [api, Api.step, hr]
    rw [hstep] at hnew ⊢
    obtain ⟨text, user, hok, rfl⟩ := hanswering hnew
    cases r with
    | error e => cases hok
    | ok answer =>
      cases hok
      obtain ⟨-, row, hrow, hactive⟩ := login_signs hr
      exact ⟨env.now, answer.user, row, rfl, rfl, rfl, hrow, hactive⟩
  | refresh env input =>
    rcases hr : (refresh (env.signing jwt) input : Work Unit _).runAuto st.db () with ⟨r, db', u⟩
    have hstep : (api jwt stripe).step st (.refresh env input) =
        st.answering env.now db' (r.map fun answer => (answer.accessToken, answer.user)) := by
      simp only [api, Api.step, hr]
    rw [hstep] at hnew ⊢
    obtain ⟨text, user, hok, rfl⟩ := hanswering hnew
    cases r with
    | error e => cases hok
    | ok answer =>
      cases hok
      obtain ⟨-, row, hrow, hactive⟩ := refresh_signs hr
      exact ⟨env.now, answer.user, row, rfl, rfl, rfl, hrow, hactive⟩
  | logout env bearer =>
    refine absurd ?_ hout
    replace hnew : token ∈ (Api.step jwt stripe st (.logout env bearer)).answered := hnew
    unfold Api.step at hnew
    cases hguard : jwtAuthGuard jwt env.now bearer with
    | error e => simpa only [hguard] using hnew
    | ok user => simpa only [hguard] using hnew
  | acceptInvitation env bearer input => exact absurd hnew hout
  | request r => exact absurd hnew hout
  | webhook env event => exact absurd hnew hout
  | stripe move => exact absurd hnew hout

/-- The times of a token are cut to seconds. -/
theorem age_lt {now signedAt issuedAt : Nat} (hissued : issuedAt = signedAt / 1000)
    (hlive : now / 1000 < issuedAt + accessTokenLifetime) : now < signedAt + 15 * 60 * 1000 := by
  unfold accessTokenLifetime at hlive
  omega

/-- **Every token that is out** was signed by a step of the run. -/
theorem answered_run {cs : List (ApiCall M)} (hnone : st.answered = [])
    (hout : token ∈ ((api jwt stripe).run st cs).answered) :
    ∃ cs₁ c cs₂ signedAt user u, cs = cs₁ ++ c :: cs₂ ∧ c.signsAt? = some signedAt ∧
      token.issuedAt = signedAt / 1000 ∧
      token.payload = ((api jwt stripe).run st (cs₁ ++ [c])).db.jwtPayload user ∧
      ((api jwt stripe).run st (cs₁ ++ [c])).db.users.lookup user.id = some u ∧
      u.isActive = true := by
  have hnot : token ∉ st.answered := by simp [hnone]
  obtain ⟨cs₁, c, cs₂, rfl, hbefore, hafter⟩ :=
    Machine.exists_step_of_run (P := fun st : Api S => token ∈ st.answered) hnot hout
  obtain ⟨signedAt, user, u, hsigns, hissued, hpayload, huser, hactive⟩ :=
    answered_step hbefore hafter
  refine ⟨cs₁, c, cs₂, signedAt, user, u, rfl, hsigns, hissued, ?_, ?_, hactive⟩
  · rw [Machine.run_append]
    exact hpayload
  · rw [Machine.run_append]
    exact huser

/-! ## Who gets through -/

/-- Less than fifteen minutes ago, in the run, the database had the membership that the request is
made under. -/
def ApiRequest.FreshIn (r : ApiRequest) (jwt : Jwt) (stripe : StripeService S M) (st : Api S)
    (cs : List (ApiCall M)) (user : RequestUser) (organization : MemberContext) : Prop :=
  ∃ cs₁ c cs₂ signedAt, cs = cs₁ ++ c :: cs₂ ∧ c.signsAt? = some signedAt ∧
    r.env.now < signedAt + 15 * 60 * 1000 ∧
    ((api jwt stripe).run st (cs₁ ++ [c])).db.Authorizes user.user.id organization

/-- What the guards find in a token that is out, some step of the run has put there. -/
theorem guards_fresh {cs : List (ApiCall M)} {r : ApiRequest} {user : RequestUser}
    {organization : MemberContext} (hnone : st.answered = [])
    (hunforged : ((api jwt stripe).run st cs).Unforged jwt (.request r : ApiCall M))
    (hpass : r.guards jwt = .ok (user, organization)) :
    r.FreshIn jwt stripe st cs user organization := by
  obtain ⟨text, token, hbearer, hverify, hlive, rfl, j, hmem, horg, -, rfl, -⟩ :=
    orgProtected_ok.mp hpass
  obtain ⟨cs₁, c, cs₂, signedAt, publicUser, u, hsplit, hsigns, hissued, hpayload, huser,
    hactive⟩ := answered_run hnone (hunforged text token hbearer hverify)
  refine ⟨cs₁, c, cs₂, signedAt, hsplit, hsigns, ?_, ?_⟩
  · exact age_lt hissued (of_decide_eq_true hlive)
  · have hpayload : token.payload = _ := hpayload
    have hid : (validate token).user = publicUser := congrArg JwtPayload.user hpayload
    have hj : j ∈ token.payload.memberships := hmem
    rw [hpayload] at hj
    obtain ⟨m, hm, hmuser, hmactive, hmorg, hmrole, hscope⟩ := jwtPayload_mem hj
    rw [← hid] at huser hmuser
    exact ⟨⟨u, huser, hactive⟩, ⟨m, hm, hmuser, hmorg.symm, hmactive, hmrole.symm⟩, hscope⟩

/-- **Authority is fresh.** In every run from a state in which no token is out, a request that the
guards let pass is one of a user for whom, less than fifteen minutes ago, the database had an active
membership in the organization of the request, with the role and the locations of the request; and
the role has the permissions of the route. -/
theorem authority_fresh (jwt : Jwt) (stripe : StripeService S M) (st : Api S)
    (hnone : st.answered = []) (cs : List (ApiCall M)) (r : ApiRequest)
    (hunforged : ((api jwt stripe).run st cs).Unforged jwt (.request r : ApiCall M))
    (user : RequestUser) (organization : MemberContext)
    (hpass : r.guards jwt = .ok (user, organization)) :
    r.organizationId = some organization.organizationId ∧
      r.route.permissions.Allow organization.role ∧
      r.FreshIn jwt stripe st cs user organization := by
  obtain ⟨_, _, _, _, _, _, _, _, horg, _, rfl, hallow⟩ := orgProtected_ok.mp hpass
  exact ⟨horg, hallow, guards_fresh hnone hunforged hpass⟩

end

namespace Office

/-- What the token of the cashier carries who has logged in at the time 5000. -/
def bobSigned : SignedPayload :=
  { payload :=
      { sub := bob
        user := User.omitPasswordHash bob
          { user "bob" with lastLoginAt := some 5000, updatedAt := 5000 }
        memberships :=
          [{ id := bobMember, organizationId := organizationId, organizationName := "office"
             userId := bob, role := .cashier, hasAllLocations := true
             allowedLocationIds := [] }] }
    issuedAt := 5
    serialized := by decide }

/-- One token is out. -/
def jwt : Jwt :=
  { sign := fun _ _ => "jwt"
    verify := fun text => if text = "jwt" then some bobSigned else none }

def bobLogsIn : ApiCall StripeMove := .login (authEnv 5000) ⟨"bob@office.test", "bob"⟩

/-- The cashier looks at the orders, five minutes later. -/
def bobReads : ApiRequest :=
  { env := env 305000, bearer := some "jwt", organizationId := some organizationId
    route := .read .getOrders }

end Office

/-- The cashier of the office, who has logged in five minutes ago. -/
theorem authority_fresh_office :
    Office.bobReads.guards Office.jwt =
        .ok (validate Office.bobSigned, Office.acts Office.bobMember .cashier) ∧
      Office.bobReads.FreshIn Office.jwt stripeAccount ⟨Office.withCashier, .empty, []⟩
        [Office.bobLogsIn] (validate Office.bobSigned) (Office.acts Office.bobMember .cashier) := by
  have hpass : Office.bobReads.guards Office.jwt =
      .ok (validate Office.bobSigned, Office.acts Office.bobMember .cashier) := rfl
  have hunforged : ((api Office.jwt stripeAccount).run ⟨Office.withCashier, .empty, []⟩
      [Office.bobLogsIn]).Unforged Office.jwt (.request Office.bobReads : ApiCall StripeMove) := by
    rintro text token ⟨⟩ hverify
    obtain rfl : Office.bobSigned = token := Option.some.inj hverify
    decide
  exact ⟨hpass, (authority_fresh Office.jwt stripeAccount _ rfl _ _ hunforged _ _ hpass).2.2⟩

end LedgerLight
