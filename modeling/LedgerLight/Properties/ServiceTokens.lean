import LedgerLight.Mcp.TokenManager
import LedgerLight.Properties.FreshAuthority
import LedgerLight.System.Footprints

/-!
# The tokens of the MCP server

Calls of `getAccessToken` overlap: a refresh may be answered after another call has dropped the
state, or has logged in again. What the manager keeps is still of one account, and what a call
returns is good for a minute after it was made.

* `Service.wellKept_step` : what every step keeps, whatever goes on in between.
* `returned_token_accepted` : the backend accepts a returned token until a minute after the call.
* `refresh_session` : a refresh names the user and the refresh token of one and the same login, and
  the backend refuses it for its session or its user only.
-/

namespace LedgerLight.Mcp

open Infra Prog

/-! ## What the manager keeps -/

/-- What the backend has answered: access tokens, to anybody, and the logins of the manager. -/
structure Known where
  answered : List AnsweredToken
  sessions : List (Id × String)

namespace Known

variable (k : Known)

/-- The backend has answered the token, for a user whom the manager has logged in. -/
def Issued (token : AnsweredToken) : Prop :=
  token ∈ k.answered ∧ ∃ raw, (token.payload.user.id, raw) ∈ k.sessions

/-- The user and the refresh token are those of one login, or both are missing. -/
def Paired (refreshToken : Option String) (userId : Option Id) : Prop :=
  refreshToken = none ∧ userId = none ∨
    ∃ raw user, refreshToken = some raw ∧ userId = some user ∧ (user, raw) ∈ k.sessions

/-- The answer to a call is of a token that was issued after the call was made. -/
def Answers (nowSec : Nat) : TokenAnswer → Prop
  | .thrown => True
  | .refreshed text => ∃ token, k.Issued token ∧ token.text = text ∧ nowSec ≤ token.issuedAt
  | .loggedIn text raw userId => (userId, raw) ∈ k.sessions ∧
      ∃ token, k.Issued token ∧ token.text = text ∧ nowSec ≤ token.issuedAt

/-- What was answered stays so. -/
structure Grows (k' : Known) : Prop where
  answered : ∀ token ∈ k.answered, token ∈ k'.answered
  sessions : ∀ session ∈ k.sessions, session ∈ k'.sessions

end Known

/-- The expiry that is kept for a token is the one that was read from it. -/
def ExpiresAt (decodeJwt : TokenManager.DecodeJwt) (text : String) (expSec : Int) : Prop :=
  ∃ exp nowSec, decodeJwt text = some exp ∧ expSec = TokenManager.expSec nowSec exp

structure TokenState.WellKept (decodeJwt : TokenManager.DecodeJwt) (k : Known)
    (state : TokenState) : Prop where
  issued : ∃ token, k.Issued token ∧ token.text = state.accessToken
  expires : ExpiresAt decodeJwt state.accessToken state.accessTokenExpSec
  paired : k.Paired state.refreshToken state.userId

structure TokenCall.WellKept (k : Known) (c : TokenCall) : Prop where
  request : ∀ raw userId, c.request = .refresh raw userId →
    ∃ user, userId = some user ∧ (user, raw) ∈ k.sessions
  answer : ∀ answer, c.answer = some answer → k.Answers c.nowSec answer

/-- A returned token has been issued since the call was made, or has more than a minute left. -/
def ReturnedToken.WellKept (decodeJwt : TokenManager.DecodeJwt) (k : Known)
    (r : ReturnedToken) : Prop :=
  ∃ token, k.Issued token ∧ token.text = r.accessToken ∧ (r.nowSec ≤ token.issuedAt ∨
    ∃ expSec, ExpiresAt decodeJwt r.accessToken expSec ∧ (r.nowSec + bufferSec : Int) < expSec)

structure TokenManager.WellKept (decodeJwt : TokenManager.DecodeJwt) (k : Known)
    (m : TokenManager) : Prop where
  state : ∀ state, m.state = some state → state.WellKept decodeJwt k
  calls : ∀ c ∈ m.calls, c.WellKept k
  returned : ∀ r ∈ m.returned, r.WellKept decodeJwt k

section

variable {k k' : Known} {decodeJwt : TokenManager.DecodeJwt} {m : TokenManager}

theorem Known.Issued.grows {token : AnsweredToken} (h : k.Issued token) (hgrows : k.Grows k') :
    k'.Issued token := by
  obtain ⟨hanswered, raw, hraw⟩ := h
  exact ⟨hgrows.answered _ hanswered, raw, hgrows.sessions _ hraw⟩

theorem Known.Answers.grows {nowSec : Nat} {answer : TokenAnswer} (h : k.Answers nowSec answer)
    (hgrows : k.Grows k') : k'.Answers nowSec answer := by
  cases answer with
  | thrown => trivial
  | refreshed text =>
    obtain ⟨token, hissued, htext, hnow⟩ := h
    exact ⟨token, hissued.grows hgrows, htext, hnow⟩
  | loggedIn text raw userId =>
    obtain ⟨hmem, token, hissued, htext, hnow⟩ := h
    exact ⟨hgrows.sessions _ hmem, token, hissued.grows hgrows, htext, hnow⟩

namespace TokenManager

theorem WellKept.grows (h : m.WellKept decodeJwt k) (hgrows : k.Grows k') :
    m.WellKept decodeJwt k' where
  state state hstate := by
    obtain ⟨⟨token, hissued, htext⟩, hexpires, hpaired⟩ := h.state state hstate
    refine ⟨⟨token, hissued.grows hgrows, htext⟩, hexpires, ?_⟩
    obtain hnone | ⟨raw, user, hraw, huser, hmem⟩ := hpaired
    · exact Or.inl hnone
    · exact Or.inr ⟨raw, user, hraw, huser, hgrows.sessions _ hmem⟩
  calls c hc := by
    constructor
    · intro raw userId hrequest
      obtain ⟨user, huser, hmem⟩ := (h.calls c hc).request raw userId hrequest
      exact ⟨user, huser, hgrows.sessions _ hmem⟩
    · intro answer hanswer
      exact ((h.calls c hc).answer answer hanswer).grows hgrows
  returned r hr := by
    obtain ⟨token, hissued, htext⟩ := h.returned r hr
    exact ⟨token, hissued.grows hgrows, htext⟩

/-! ## A step of the manager -/

variable {id nowSec : Nat} {text : String}

theorem WellKept.setState (h : m.WellKept decodeJwt k) (state? : Option TokenState)
    (hstate : ∀ state, state? = some state → state.WellKept decodeJwt k) :
    WellKept decodeJwt k { m with state := state? } :=
  ⟨hstate, h.calls, h.returned⟩

theorem WellKept.without (h : m.WellKept decodeJwt k) : (m.without id).WellKept decodeJwt k :=
  ⟨h.state, fun c hc => h.calls c (List.mem_filter.mp hc).1, h.returned⟩

/-- A call asks the backend. -/
theorem WellKept.ask (h : m.WellKept decodeJwt k) {request : TokenRequest}
    (hrequest : ∀ raw userId, request = .refresh raw userId →
      ∃ user, userId = some user ∧ (user, raw) ∈ k.sessions) :
    (m.ask id nowSec request).WellKept decodeJwt k := by
  refine ⟨h.state, fun c hc => ?_, h.returned⟩
  obtain rfl | hc := List.mem_cons.mp hc
  · exact ⟨hrequest, nofun⟩
  · exact h.calls c hc

theorem WellKept.relogin (h : m.WellKept decodeJwt k) :
    (m.relogin id nowSec).WellKept decodeJwt k :=
  (h.setState none nofun).ask nofun

/-- A call returns. -/
theorem WellKept.returning (h : m.WellKept decodeJwt k)
    (hreturned : ReturnedToken.WellKept decodeJwt k ⟨id, nowSec, text⟩) :
    (m.returning id nowSec text).WellKept decodeJwt k := by
  refine ⟨h.state, h.calls, fun r hr => ?_⟩
  obtain rfl | hr := List.mem_cons.mp hr
  · exact hreturned
  · exact h.returned r hr

/-- Calls are marked with answers. -/
theorem WellKept.mapCalls (h : m.WellKept decodeJwt k) {f : TokenCall → TokenCall}
    (hf : ∀ c ∈ m.calls, f c = c ∨ ∃ answer, f c = { c with answer := some answer } ∧
      k.Answers c.nowSec answer) :
    WellKept decodeJwt k { m with calls := m.calls.map f } := by
  refine ⟨h.state, fun c hc => ?_, h.returned⟩
  obtain ⟨c, hmem, rfl⟩ := List.mem_map.mp hc
  obtain he | ⟨answer, he, hanswers⟩ := hf c hmem
  · rw [he]
    exact h.calls c hmem
  · rw [he]
    refine ⟨(h.calls c hmem).request, ?_⟩
    rintro _ ⟨⟩
    exact hanswers

theorem WellKept.lost (h : m.WellKept decodeJwt k) : (m.lost id).WellKept decodeJwt k := by
  refine h.mapCalls fun c _ => ?_
  by_cases hid : c.id = id
  · rw [if_pos hid]
    exact Or.inr ⟨.thrown, rfl, trivial⟩
  · rw [if_neg hid]
    exact Or.inl rfl

theorem WellKept.answered (h : m.WellKept decodeJwt k) {answer : TokenAnswer}
    (hanswers : ∀ c ∈ m.calls, c.id = id → k.Answers c.nowSec answer) :
    (m.answered id answer).WellKept decodeJwt k := by
  refine h.mapCalls fun c hc => ?_
  by_cases hid : c.id = id ∧ c.answer = none
  · rw [if_pos hid]
    exact Or.inr ⟨answer, rfl, hanswers c hc hid.1⟩
  · rw [if_neg hid]
    exact Or.inl rfl

theorem WellKept.thrown (h : m.WellKept decodeJwt k) :
    (m.answered id .thrown).WellKept decodeJwt k :=
  h.answered fun _ _ _ => (trivial : k.Answers _ .thrown)

theorem nonempty?_eq_some {s : Option String} {t : String} (h : nonempty? s = some t) :
    s = some t :=
  (Option.filter_eq_some_iff.mp h).1

/-- What a call asks for, with the state as it finds it. -/
theorem WellKept.nextRequest (h : m.WellKept decodeJwt k) {raw : String} {userId : Option Id}
    (hrequest : m.nextRequest = .refresh raw userId) :
    ∃ user, userId = some user ∧ (user, raw) ∈ k.sessions := by
  unfold TokenManager.nextRequest at hrequest
  cases hstate : m.state with
  | none => rw [hstate] at hrequest; cases hrequest
  | some state =>
    rw [hstate] at hrequest
    dsimp only at hrequest
    cases htoken : nonempty? state.refreshToken with
    | none => rw [htoken] at hrequest; cases hrequest
    | some refreshToken =>
      rw [htoken] at hrequest
      cases hrequest
      obtain ⟨hnone, -⟩ | ⟨raw, user, hraw, huser, hmem⟩ := (h.state state hstate).paired
      · rw [hnone] at htoken
        cases htoken
      · obtain rfl : raw = _ := Option.some.inj (hraw.symm.trans (nonempty?_eq_some htoken))
        exact ⟨user, huser, hmem⟩

theorem WellKept.getAccessToken (h : m.WellKept decodeJwt k) {now : Date} :
    (m.getAccessToken now).WellKept decodeJwt k := by
  have hcalled : WellKept decodeJwt k { m with made := m.made + 1 } :=
    ⟨h.state, h.calls, h.returned⟩
  unfold TokenManager.getAccessToken
  dsimp only
  split
  · next state hstate =>
    obtain ⟨hstate, hlive⟩ := Option.filter_eq_some_iff.mp hstate
    obtain ⟨⟨token, hissued, htext⟩, hexpires, -⟩ := h.state state hstate
    exact hcalled.returning ⟨token, hissued, htext, Or.inr ⟨_, hexpires, of_decide_eq_true hlive⟩⟩
  · exact hcalled.ask fun raw userId => h.nextRequest

/-- A refresh that was answered: the session is the one that is kept when the answer comes. -/
theorem WellKept.reissued (h : m.WellKept decodeJwt k) {exp : Option Int}
    (hdecode : decodeJwt text = some exp)
    (hissued : ∃ token, k.Issued token ∧ token.text = text) :
    (m.reissued text (expSec nowSec exp)).WellKept decodeJwt k := by
  refine ⟨hissued, ⟨exp, nowSec, hdecode, rfl⟩, ?_⟩
  unfold TokenManager.reissued
  cases hstate : m.state with
  | none => exact Or.inl ⟨rfl, rfl⟩
  | some state => exact (h.state state hstate).paired

theorem WellKept.goOn (h : m.WellKept decodeJwt k) {request : TokenRequest} {answer : TokenAnswer}
    (hanswer : k.Answers nowSec answer) :
    (m.goOn decodeJwt id nowSec request answer).WellKept decodeJwt k := by
  cases answer with
  | thrown =>
    cases request with
    | refresh raw userId => exact h.relogin
    | login => exact h
  | refreshed text =>
    obtain ⟨token, hissued, htext, hnow⟩ := hanswer
    simp only [TokenManager.goOn]
    cases hdecode : decodeJwt text with
    | none => exact h.relogin
    | some exp =>
      refine (h.setState (some _) ?_).returning ⟨token, hissued, htext, Or.inl hnow⟩
      rintro _ ⟨⟩
      exact h.reissued hdecode ⟨token, hissued, htext⟩
  | loggedIn text raw userId =>
    obtain ⟨hsession, token, hissued, htext, hnow⟩ := hanswer
    simp only [TokenManager.goOn]
    cases hdecode : decodeJwt text with
    | none => exact h
    | some exp =>
      refine (h.setState (some _) ?_).returning ⟨token, hissued, htext, Or.inl hnow⟩
      rintro _ ⟨⟩
      exact ⟨⟨token, hissued, htext⟩, ⟨exp, nowSec, hdecode, rfl⟩,
        Or.inr ⟨raw, userId, rfl, rfl, hsession⟩⟩

theorem WellKept.resume (h : m.WellKept decodeJwt k) : (m.resume decodeJwt id).WellKept decodeJwt k := by
  unfold TokenManager.resume
  cases hcall : m.call? id with
  | none => exact h
  | some c =>
    dsimp only
    cases hanswer : c.answer with
    | none => exact h
    | some answer =>
      have hmem : c ∈ m.calls := List.mem_of_find?_eq_some hcall
      exact h.without.goOn ((h.calls c hmem).answer answer hanswer)

end TokenManager

end

/-! ## Beside the backend -/

variable {S M : Type}

def Service.known (st : Service S) : Known := ⟨st.backend.answered, st.sessions⟩

def Service.WellKept (decodeJwt : TokenManager.DecodeJwt) (st : Service S) : Prop :=
  st.tokens.WellKept decodeJwt st.known

/-- No request is served before it was made. -/
def Service.InOrder (st : Service S) : ServiceMove M → Prop
  | .serve id env => ∀ c ∈ st.tokens.calls, c.id = id → c.nowSec ≤ env.now / 1000
  | _ => True

section

variable {jwt : Jwt} {stripe : StripeService S M} {config : LoginDto}
  {decodeJwt : TokenManager.DecodeJwt} {st : Service S} {id : Nat} {env : AuthEnv}

/-- What comes of the moves after the server has started. -/
abbrev after (jwt : Jwt) (stripe : StripeService S M) (config : LoginDto)
    (decodeJwt : TokenManager.DecodeJwt) (backend : Api S) (moves : List (ServiceMove M)) :
    Service S :=
  (service jwt stripe config decodeJwt).run (.started backend) moves

/-- What the backend has answered it has answered. -/
theorem answered_subset {api' : Api S} {c : ApiCall M} {token : AnsweredToken}
    (h : token ∈ api'.answered) : token ∈ ((api jwt stripe).step api' c).answered := by
  have hanswering : ∀ {now db r}, token ∈ (api'.answering now db r).answered := by
    intro now db r
    cases r with
    | error e => exact h
    | ok r => exact List.mem_cons_of_mem _ h
  cases c with
  | login env input => exact hanswering
  | refresh env input => exact hanswering
  | logout env bearer =>
    show token ∈ (Api.step jwt stripe api' (.logout env bearer)).answered
    unfold Api.step
    cases hguard : jwtAuthGuard jwt env.now bearer with
    | error e => simpa only [hguard] using h
    | ok user => simpa only [hguard] using h
  | acceptInvitation env bearer input => exact h
  | request r => exact h
  | webhook env event => exact h
  | stripe move => exact h

/-- A login of the manager that is answered. -/
theorem login_issues (stripe : StripeService S M) {input : LoginDto} {api' : Api S} {r : LoginResponse}
    (h : ((login (env.signing jwt) input : Work Unit _).runAuto api'.db ()).1 = .ok r) :
    ∃ token ∈ ((api jwt stripe).step api' (.login env input)).answered,
      token.text = r.accessToken ∧ token.payload.user = r.user ∧
        token.issuedAt = env.now / 1000 := by
  let db' := ((login (env.signing jwt) input : Work Unit _).runAuto api'.db ()).2.1
  refine ⟨⟨r.accessToken, db'.jwtPayload r.user, env.now / 1000⟩, ?_, rfl, rfl, rfl⟩
  show _ ∈ (Api.answering ..).answered
  rw [h]
  exact List.mem_cons_self

/-- A refresh of the manager that is answered. -/
theorem refresh_issues (stripe : StripeService S M) {input : RefreshTokenDto} {api' : Api S} {r : RefreshResponse}
    (h : ((refresh (env.signing jwt) input : Work Unit _).runAuto api'.db ()).1 = .ok r) :
    ∃ token ∈ ((api jwt stripe).step api' (.refresh env input)).answered,
      token.text = r.accessToken ∧ token.payload.user.id = input.userId ∧
        token.issuedAt = env.now / 1000 := by
  let db' := ((refresh (env.signing jwt) input : Work Unit _).runAuto api'.db ()).2.1
  have huser : r.user.id = input.userId := by
    obtain ⟨-, user, -, -, -, rfl⟩ := refresh_ok_iff.mp h
    rfl
  refine ⟨⟨r.accessToken, db'.jwtPayload r.user, env.now / 1000⟩, ?_, rfl, huser, rfl⟩
  show _ ∈ (Api.answering ..).answered
  rw [h]
  exact List.mem_cons_self

theorem Service.wellKept_serveLogin (h : st.WellKept decodeJwt)
    (hnow : ∀ c ∈ st.tokens.calls, c.id = id → c.nowSec ≤ env.now / 1000) :
    (st.serveLogin jwt stripe config id env).WellKept decodeJwt := by
  unfold Service.serveLogin
  dsimp only
  split
  · exact h.thrown.grows ⟨fun _ => answered_subset, fun _ hs => hs⟩
  · next r hr =>
    obtain ⟨token, hmem, htext, huser, hissued⟩ := login_issues stripe hr
    have hgrows : st.known.Grows ⟨((api jwt stripe).step st.backend (.login env config)).answered,
        (r.user.id, r.refreshTokenRaw) :: st.sessions⟩ :=
      ⟨fun _ => answered_subset, fun _ => List.mem_cons_of_mem _⟩
    refine TokenManager.WellKept.answered (h.grows hgrows) fun c hc hid => ?_
    refine ⟨List.mem_cons_self, token, ⟨hmem, r.refreshTokenRaw, ?_⟩, htext, ?_⟩
    · rw [huser]
      exact List.mem_cons_self
    · exact (hnow c hc hid).trans hissued.ge

theorem Service.wellKept_serveRefresh {raw : String} {userId : Option Id}
    (h : st.WellKept decodeJwt)
    (hrequest : ∃ user, userId = some user ∧ (user, raw) ∈ st.sessions)
    (hnow : ∀ c ∈ st.tokens.calls, c.id = id → c.nowSec ≤ env.now / 1000) :
    (st.serveRefresh jwt stripe id env raw userId).WellKept decodeJwt := by
  obtain ⟨user, rfl, hsession⟩ := hrequest
  unfold Service.serveRefresh
  dsimp only
  split
  · exact h.thrown.grows ⟨fun _ => answered_subset, fun _ hs => hs⟩
  · next r hr =>
    obtain ⟨token, hmem, htext, huser, hissued⟩ := refresh_issues stripe hr
    have hgrows : st.known.Grows
        ⟨((api jwt stripe).step st.backend (.refresh env ⟨raw, user⟩)).answered, st.sessions⟩ :=
      ⟨fun _ => answered_subset, fun _ hs => hs⟩
    refine TokenManager.WellKept.answered (h.grows hgrows) fun c hc hid => ?_
    refine ⟨token, ⟨hmem, raw, ?_⟩, htext, ?_⟩
    · rw [huser]
      exact hsession
    · exact (hnow c hc hid).trans hissued.ge

/-- **What every step keeps.** -/
theorem Service.wellKept_step {move : ServiceMove M} (h : st.WellKept decodeJwt)
    (horder : st.InOrder move) :
    ((service jwt stripe config decodeJwt).step st move).WellKept decodeJwt := by
  cases move with
  | backend c => exact h.grows ⟨fun _ => answered_subset, fun _ hs => hs⟩
  | getAccessToken now => exact h.getAccessToken
  | lose id => exact h.lost
  | resume id => exact h.resume
  | serve id env =>
    show (st.serve jwt stripe config id env).WellKept decodeJwt
    unfold Service.serve
    cases hcall : (st.tokens.call? id).filter (·.answer.isNone) with
    | none => exact h
    | some c =>
      have hmem : c ∈ st.tokens.calls :=
        List.mem_of_find?_eq_some (Option.filter_eq_some_iff.mp hcall).1
      dsimp only
      cases hrequest : c.request with
      | login => exact wellKept_serveLogin h horder
      | refresh raw userId =>
        exact wellKept_serveRefresh h ((h.calls c hmem).request raw userId hrequest) horder

theorem Service.wellKept_started {backend : Api S} :
    (Service.started backend).WellKept decodeJwt :=
  ⟨nofun, nofun, nofun⟩

/-- A token of the backend verifies, and its expiry can be read from it. -/
def Genuine (jwt : Jwt) (decodeJwt : TokenManager.DecodeJwt) (token : AnsweredToken) : Prop :=
  decodeJwt token.text = some (some ((token.issuedAt + accessTokenLifetime : Nat) : Int)) ∧
    ∃ h, jwt.verify token.text = some ⟨token.payload, token.issuedAt, h⟩

/-- A well-kept returned token is good for a minute. -/
theorem ReturnedToken.WellKept.accepted {k : Known} {r : ReturnedToken} (h : r.WellKept decodeJwt k)
    (hgenuine : ∀ token ∈ k.answered, Genuine jwt decodeJwt token) :
    ∃ user raw, (user.user.id, raw) ∈ k.sessions ∧
      ∀ now : Date, now / 1000 ≤ r.nowSec + bufferSec →
        jwtAuthGuard jwt now (some r.accessToken) = .ok user := by
  obtain ⟨token, ⟨hmem, raw, hsession⟩, htext, hfresh⟩ := h
  obtain ⟨hdecode, hserialized, hverify⟩ := hgenuine token hmem
  have hexpiry : r.nowSec + bufferSec < token.issuedAt + accessTokenLifetime := by
    obtain hissued | ⟨expSec, ⟨exp, n, hread, rfl⟩, hlater⟩ := hfresh
    · unfold bufferSec accessTokenLifetime
      omega
    · rw [← htext, hdecode] at hread
      cases hread
      simp only [TokenManager.expSec, Option.getD_some] at hlater
      exact_mod_cast hlater
  refine ⟨validate ⟨token.payload, token.issuedAt, hserialized⟩, raw, hsession, ?_⟩
  intro now hnow
  have hlive : (⟨token.payload, token.issuedAt, hserialized⟩ : SignedPayload).live now = true :=
    decide_eq_true (lt_of_le_of_lt hnow hexpiry)
  exact jwtAuthGuard_ok.mpr ⟨_, _, rfl, htext ▸ hverify, hlive, rfl⟩

/-- **What a call returns the backend accepts**, from whichever of the calls that overlap, until a
minute after the call was made, and for the account of the manager. -/
theorem returned_token_accepted (jwt : Jwt) (stripe : StripeService S M) (config : LoginDto)
    (decodeJwt : TokenManager.DecodeJwt) (backend : Api S) (moves : List (ServiceMove M))
    (horder : (service jwt stripe config decodeJwt).Meets Service.InOrder (.started backend) moves)
    (hgenuine : ∀ token ∈ (after jwt stripe config decodeJwt backend moves).backend.answered,
      Genuine jwt decodeJwt token)
    (r : ReturnedToken)
    (hr : r ∈ (after jwt stripe config decodeJwt backend moves).tokens.returned) :
    ∃ user raw,
      (user.user.id, raw) ∈ (after jwt stripe config decodeJwt backend moves).sessions ∧
        ∀ now : Date, now / 1000 ≤ r.nowSec + bufferSec →
          jwtAuthGuard jwt now (some r.accessToken) = .ok user := by
  have hkept : (after jwt stripe config decodeJwt backend moves).WellKept decodeJwt :=
    Machine.run_invariant (I := Service.WellKept decodeJwt)
      (fun _ _ => Service.wellKept_step) Service.wellKept_started horder
  exact (hkept.returned r hr).accepted hgenuine

/-! ## The sessions of the manager -/

/-- The session is one of the backend: its hash is the one that the refresh token compares with. -/
def Known.Stored (k : Known) (bcryptCompare : String → String → Bool) (db : Backend) : Prop :=
  ∀ user raw, (user, raw) ∈ k.sessions → ∃ i t, db.refreshTokens.lookup i = some t ∧
    t.userId = user ∧ bcryptCompare raw t.tokenHash = true

/-- The backend hashes the refresh token that it answers, and compares as it has hashed. -/
def Hashes (bcryptCompare : String → String → Bool) : ServiceMove M → Prop
  | .serve _ env => env.bcryptCompare = bcryptCompare ∧
      bcryptCompare env.refreshTokenRaw (env.bcryptHash env.refreshTokenRaw) = true
  | _ => True

variable {bcryptCompare : String → String → Bool}

theorem Known.Stored.stays {k : Known} {db db' : Backend} (h : k.Stored bcryptCompare db)
    (hstays : db.refreshTokens.Stays RefreshToken.session db'.refreshTokens) :
    k.Stored bcryptCompare db' := by
  intro user raw hmem
  obtain ⟨i, t, ht, rfl, hcompare⟩ := h user raw hmem
  obtain ⟨t', ht', hsession⟩ := hstays i t ht
  simp only [RefreshToken.session, Prod.mk.injEq] at hsession
  exact ⟨i, t', ht', hsession.1, hsession.2.1 ▸ hcompare⟩

/-- The session that a login opens is stored with its hash. -/
theorem login_stored {input : LoginDto} {db : Backend} {r : LoginResponse}
    (h : ((login env input : Work Unit _).runAuto db ()).1 = .ok r) :
    ∃ i t, ((login env input : Work Unit _).runAuto db ()).2.1.refreshTokens.lookup i = some t ∧
      t.userId = r.user.id ∧ t.tokenHash = env.bcryptHash r.refreshTokenRaw ∧
        r.refreshTokenRaw = env.refreshTokenRaw := by
  rcases login_cases env input db with ⟨e, hrun, -⟩ | ⟨userId, user, r', db', hrun, -, -, htokens,
    ⟨-, rfl⟩ | ⟨answer, rfl, huser, hraw⟩⟩
  · rw [hrun] at h
    cases h
  · rw [hrun] at h
    cases h
  · rw [hrun] at h ⊢
    cases h
    refine ⟨env.uuid 0, openedSession env userId, ?_, huser.symm, ?_, hraw⟩
    · rw [htokens]
      exact AList.lookup_insert _
    · rw [hraw]
      rfl

/-- **What every step keeps** of the sessions. -/
theorem Service.stored_step {move : ServiceMove M}
    (h : st.known.Stored bcryptCompare st.backend.db) (hhashes : Hashes bcryptCompare move) :
    ((service jwt stripe config decodeJwt).step st move).known.Stored bcryptCompare
      ((service jwt stripe config decodeJwt).step st move).backend.db := by
  cases move with
  | backend c => exact h.stays (Api.sessions_stay c)
  | getAccessToken now => exact h
  | lose id => exact h
  | resume id => exact h
  | serve id env =>
    obtain ⟨rfl, hcompare⟩ := hhashes
    show (st.serve jwt stripe config id env).known.Stored _
      (st.serve jwt stripe config id env).backend.db
    unfold Service.serve
    split
    · exact h
    · next c _ =>
      cases c.request with
      | login =>
        dsimp only
        unfold Service.serveLogin
        dsimp only
        split
        · exact h.stays (Api.sessions_stay _)
        · next r hr =>
          intro user raw hmem
          obtain he | hmem := List.mem_cons.mp hmem
          · cases he
            obtain ⟨i, t, ht, huser, hhash, hraw⟩ := login_stored hr
            refine ⟨i, t, ?_, huser, ?_⟩
            · show (Api.answering ..).db.refreshTokens.lookup i = some t
              rw [hr]
              exact ht
            · rw [hhash, hraw]
              exact hcompare
          · exact h.stays (Api.sessions_stay _) user raw hmem
      | refresh raw userId =>
        dsimp only
        cases userId with
        | none => exact h
        | some user =>
          unfold Service.serveRefresh
          dsimp only
          split
          · exact h.stays (Api.sessions_stay _)
          · exact h.stays (Api.sessions_stay _)

/-- The backend has a session of the user for which it accepts the refresh token, unless the session
was ended or has expired, or the user may not log in any more. -/
def AcceptsRefresh (bcryptCompare : String → String → Bool) (db : Backend) (user : Id) (raw : String) :
    Prop :=
  ∃ i t, db.refreshTokens.lookup i = some t ∧ t.userId = user ∧
    ∀ (env : AuthEnv) (u : User), env.bcryptCompare = bcryptCompare → t.revokedAt = none →
      env.now < t.expiresAt → db.users.lookup user = some u → u.isActive = true →
      db.activeMemberships user ≠ [] →
      ∃ answer, ((refresh env ⟨raw, user⟩ : Work Unit _).runAuto db ()).1 = .ok answer

/-- **A refresh is one of a session.** In every run, and whichever calls overlap, a refresh that the
manager sends names a user and a refresh token that one login has answered together, and the backend
accepts it as long as that session and its user are good. -/
theorem refresh_session (jwt : Jwt) (stripe : StripeService S M) (config : LoginDto)
    (decodeJwt : TokenManager.DecodeJwt) (bcryptCompare : String → String → Bool) (backend : Api S)
    (moves : List (ServiceMove M))
    (horder : (service jwt stripe config decodeJwt).Meets Service.InOrder (.started backend) moves)
    (hhashes : (service jwt stripe config decodeJwt).Meets (fun _ => Hashes bcryptCompare)
      (.started backend) moves)
    (c : TokenCall) (raw : String) (userId : Option Id)
    (hc : c ∈ (after jwt stripe config decodeJwt backend moves).tokens.calls)
    (hrequest : c.request = .refresh raw userId) :
    ∃ user, userId = some user ∧
      (user, raw) ∈ (after jwt stripe config decodeJwt backend moves).sessions ∧
        AcceptsRefresh bcryptCompare
          (after jwt stripe config decodeJwt backend moves).backend.db user raw := by
  have hkept : (after jwt stripe config decodeJwt backend moves).WellKept decodeJwt :=
    Machine.run_invariant (I := Service.WellKept decodeJwt)
      (fun _ _ => Service.wellKept_step) Service.wellKept_started horder
  have hstored := Machine.run_invariant
    (I := fun st : Service S => st.known.Stored bcryptCompare st.backend.db)
    (fun _ _ => Service.stored_step) (fun _ _ h => absurd h List.not_mem_nil) hhashes
  obtain ⟨user, huser, hmem⟩ := (hkept.calls c hc).request raw userId hrequest
  obtain ⟨i, t, ht, hid, hcompare⟩ := hstored user raw hmem
  refine ⟨user, huser, hmem, i, t, ht, hid, fun env u hbcrypt hopen hlater hu hactive hsome => ?_⟩
  refine ⟨_, refresh_ok_iff.mpr ⟨⟨i, t, ht, hid, hlater, hopen, ?_⟩, u, hu, hactive, hsome, rfl⟩⟩
  rw [hbcrypt]
  exact hcompare

end

/-! ## An account of the office -/

/-- `decodeJwt` of the one token that is out. -/
def officeDecode : TokenManager.DecodeJwt := fun text =>
  if text = "jwt" then some (some 905) else none

/-- Two tools start at once, the first of them gets its token, and a third finds that one. -/
def officeTools : List (ServiceMove StripeMove) :=
  [.getAccessToken 4998, .getAccessToken 4999, .serve 0 (Office.authEnv 5000), .resume 0,
    .getAccessToken 30000]

/-- A tool starts fifteen minutes later, when the token has expired. -/
def officeToolsLater : List (ServiceMove StripeMove) := officeTools ++ [.getAccessToken 905000]

/-- The third tool returns a token that the backend accepts until a minute later. -/
theorem returned_token_accepted_office :
    ∃ user raw, (user.user.id, raw) ∈ (after Office.jwt stripeAccount ⟨"bob@office.test", "bob"⟩
        officeDecode ⟨Office.withCashier, .empty, []⟩ officeTools).sessions ∧
      ∀ now : Date, now / 1000 ≤ 30 + bufferSec →
        jwtAuthGuard Office.jwt now (some "jwt") = .ok user := by
  have hanswered : (after Office.jwt stripeAccount ⟨"bob@office.test", "bob"⟩ officeDecode
      ⟨Office.withCashier, .empty, []⟩ officeTools).backend.answered =
        [⟨"jwt", Office.bobSigned.payload, 5⟩] := by decide
  have horder : (service Office.jwt stripeAccount ⟨"bob@office.test", "bob"⟩ officeDecode).Meets
      Service.InOrder (.started ⟨Office.withCashier, .empty, []⟩) officeTools := by
    refine ⟨trivial, trivial, ?_, trivial, trivial, trivial⟩
    show ∀ c ∈ [_, _], _
    decide
  refine returned_token_accepted Office.jwt stripeAccount ⟨"bob@office.test", "bob"⟩ officeDecode
    ⟨Office.withCashier, .empty, []⟩ officeTools horder ?_ ⟨2, 30, "jwt"⟩ (by decide)
  intro token htoken
  rw [hanswered, List.mem_singleton] at htoken
  subst htoken
  exact ⟨rfl, Office.bobSigned.serialized, rfl⟩

/-- The refresh of the last tool is for the session of the office's cashier. -/
theorem refresh_session_office :
    ∃ user, some Office.bob = some user ∧
      (user, "raw") ∈ (after Office.jwt stripeAccount ⟨"bob@office.test", "bob"⟩ officeDecode
        ⟨Office.withCashier, .empty, []⟩ officeToolsLater).sessions ∧
        AcceptsRefresh (fun raw hash => hash == "$2b$10$" ++ raw)
          (after Office.jwt stripeAccount ⟨"bob@office.test", "bob"⟩ officeDecode
            ⟨Office.withCashier, .empty, []⟩ officeToolsLater).backend.db user "raw" := by
  have horder : (service Office.jwt stripeAccount ⟨"bob@office.test", "bob"⟩ officeDecode).Meets
      Service.InOrder (.started ⟨Office.withCashier, .empty, []⟩) officeToolsLater := by
    refine ⟨trivial, trivial, ?_, trivial, trivial, trivial, trivial⟩
    show ∀ c ∈ [_, _], _
    decide
  have hhashes : (service Office.jwt stripeAccount ⟨"bob@office.test", "bob"⟩ officeDecode).Meets
      (fun _ => Hashes fun raw hash => hash == "$2b$10$" ++ raw)
      (.started ⟨Office.withCashier, .empty, []⟩) officeToolsLater :=
    ⟨trivial, trivial, ⟨rfl, by decide⟩, trivial, trivial, trivial, trivial⟩
  exact refresh_session Office.jwt stripeAccount ⟨"bob@office.test", "bob"⟩ officeDecode _
    ⟨Office.withCashier, .empty, []⟩ officeToolsLater horder hhashes
    ⟨3, 905, .refresh "raw" (some Office.bob), none⟩ "raw" (some Office.bob)
    (by decide) rfl

end LedgerLight.Mcp
