import LedgerLight.Prisma.Service
import LedgerLight.System.Api

/-!
# The token manager of the MCP server

`mcp-server/src/auth/token-manager.ts`, as a machine beside the backend. Tools that run at the same
time share one manager: `getAccessToken` goes on only when one of its requests is answered, and
between two of its steps anything else may happen, here and at the backend.
-/

namespace LedgerLight.Mcp

open Infra

/-- What the manager keeps. A field is missing where `...this.state` spread over `null`. -/
structure TokenState where
  accessToken : String
  accessTokenExpSec : Int
  refreshToken : Option String
  userId : Option Id
deriving DecidableEq, Repr

/-- The body of a request. -/
inductive TokenRequest where
  | refresh (refreshTokenRaw : String) (userId : Option Id)
  | login
deriving DecidableEq, Repr

/-- What `axios.post` resolves to, or that it throws. -/
inductive TokenAnswer where
  | thrown
  | refreshed (accessToken : String)
  | loggedIn (accessToken refreshTokenRaw : String) (userId : Id)
deriving DecidableEq, Repr

/-- A call that awaits the answer of its request. -/
structure TokenCall where
  id : Nat
  nowSec : Nat
  request : TokenRequest
  answer : Option TokenAnswer
deriving DecidableEq, Repr

/-- A call that has returned. -/
structure ReturnedToken where
  id : Nat
  nowSec : Nat
  accessToken : String
deriving DecidableEq, Repr

structure TokenManager where
  state : Option TokenState
  calls : List TokenCall
  returned : List ReturnedToken
  /-- How many calls were made. -/
  made : Nat
deriving DecidableEq, Repr

def TokenManager.empty : TokenManager :=
  { state := none, calls := [], returned := [], made := 0 }

def bufferSec : Nat := 60

namespace TokenManager

variable (m : TokenManager)

def ask (id nowSec : Nat) (request : TokenRequest) : TokenManager :=
  { m with calls := ⟨id, nowSec, request, none⟩ :: m.calls }

def returning (id nowSec : Nat) (accessToken : String) : TokenManager :=
  { m with returned := ⟨id, nowSec, accessToken⟩ :: m.returned }

/-- The request of a call that finds nothing to return. -/
def nextRequest : TokenRequest :=
  match m.state with
  | none => .login
  | some state =>
    match nonempty? state.refreshToken with
    | none => .login
    | some refreshToken => .refresh refreshToken state.userId

/-- `getAccessToken`, to its first `await`. -/
def getAccessToken (now : Date) : TokenManager :=
  let nowSec := now / 1000
  let called := { m with made := m.made + 1 }
  match m.state.filter fun state => decide ((nowSec + bufferSec : Int) < state.accessTokenExpSec) with
  | some state => called.returning m.made nowSec state.accessToken
  | none => called.ask m.made nowSec m.nextRequest

/-- `typeof claims.exp === "number" ? claims.exp : nowSec + 900`. -/
def expSec (nowSec : Nat) (exp : Option Int) : Int := exp.getD (nowSec + 900)

/-- `{ ...this.state, accessToken, accessTokenExpSec }`. -/
def reissued (accessToken : String) (accessTokenExpSec : Int) : TokenState :=
  { accessToken := accessToken, accessTokenExpSec := accessTokenExpSec
    refreshToken := m.state.bind (·.refreshToken), userId := m.state.bind (·.userId) }

/-- `decodeJwt` : it throws, or has the claim `exp` where that is a number. -/
abbrev DecodeJwt := String → Option (Option Int)

/-- The `catch` of the refresh: the state is dropped, and the call logs in. -/
def relogin (id nowSec : Nat) : TokenManager := { m with state := none }.ask id nowSec .login

/-- A call goes on with the answer of its request. -/
def goOn (decodeJwt : DecodeJwt) (id nowSec : Nat) (request : TokenRequest) :
    TokenAnswer → TokenManager
  | .thrown =>
    match request with
    | .refresh .. => m.relogin id nowSec
    | .login => m
  | .refreshed accessToken =>
    match decodeJwt accessToken with
    | none => m.relogin id nowSec
    | some exp =>
      { m with state := some (m.reissued accessToken (expSec nowSec exp)) }.returning id nowSec
        accessToken
  | .loggedIn accessToken refreshTokenRaw userId =>
    match decodeJwt accessToken with
    | none => m
    | some exp =>
      { m with
        state := some ⟨accessToken, expSec nowSec exp, some refreshTokenRaw, some userId⟩ }.returning
          id nowSec accessToken

def call? (id : Nat) : Option TokenCall := m.calls.find? fun c => c.id == id

def without (id : Nat) : TokenManager := { m with calls := m.calls.filter fun c => c.id != id }

/-- The answer of a call's request, if it has come, is taken up. -/
def resume (decodeJwt : DecodeJwt) (id : Nat) : TokenManager :=
  match m.call? id with
  | none => m
  | some c =>
    match c.answer with
    | none => m
    | some answer => (m.without id).goOn decodeJwt id c.nowSec c.request answer

/-- The request of a call is answered. -/
def answered (id : Nat) (answer : TokenAnswer) : TokenManager :=
  { m with calls := m.calls.map fun c =>
      if c.id = id ∧ c.answer = none then { c with answer := some answer } else c }

/-- Or it fails, also where the backend has served it. -/
def lost (id : Nat) : TokenManager :=
  { m with calls := m.calls.map fun c => if c.id = id then { c with answer := some .thrown } else c }

end TokenManager

/-! ## Beside the backend -/

variable {S M : Type}

/-- The backend, the manager, and what the manager's logins were answered: whose session was opened,
and its refresh token. -/
structure Service (S : Type) where
  backend : Api S
  tokens : TokenManager
  sessions : List (Id × String)

inductive ServiceMove (M : Type) where
  /-- Anybody calls the backend. -/
  | backend (c : ApiCall M)
  | getAccessToken (now : Date)
  /-- The backend serves the request of a call. -/
  | serve (id : Nat) (env : AuthEnv)
  /-- The request of a call fails on its way, or its answer does. -/
  | lose (id : Nat)
  | resume (id : Nat)

namespace Service

variable (jwt : Jwt) (stripe : StripeService S M) (config : LoginDto)

/-- The backend serves a login of the manager. -/
def serveLogin (st : Service S) (id : Nat) (env : AuthEnv) : Service S :=
  let backend' := (api jwt stripe).step st.backend (.login env config)
  match ((login (env.signing jwt) config : Work Unit _).runAuto st.backend.db ()).1 with
  | .error _ => { st with backend := backend', tokens := st.tokens.answered id .thrown }
  | .ok r =>
    { backend := backend'
      tokens := st.tokens.answered id (.loggedIn r.accessToken r.refreshTokenRaw r.user.id)
      sessions := (r.user.id, r.refreshTokenRaw) :: st.sessions }

/-- The backend serves a refresh of the manager; it takes none without a user. -/
def serveRefresh (st : Service S) (id : Nat) (env : AuthEnv) (refreshTokenRaw : String) :
    Option Id → Service S
  | none => { st with tokens := st.tokens.answered id .thrown }
  | some userId =>
    let input : RefreshTokenDto := ⟨refreshTokenRaw, userId⟩
    let backend' := (api jwt stripe).step st.backend (.refresh env input)
    match ((refresh (env.signing jwt) input : Work Unit _).runAuto st.backend.db ()).1 with
    | .error _ => { st with backend := backend', tokens := st.tokens.answered id .thrown }
    | .ok r => { st with backend := backend', tokens := st.tokens.answered id (.refreshed r.accessToken) }

def serve (st : Service S) (id : Nat) (env : AuthEnv) : Service S :=
  match (st.tokens.call? id).filter (·.answer.isNone) with
  | none => st
  | some c =>
    match c.request with
    | .login => st.serveLogin jwt stripe config id env
    | .refresh refreshTokenRaw userId => st.serveRefresh jwt stripe id env refreshTokenRaw userId

end Service

/-- The MCP server and the backend, with the credentials of the server's configuration. -/
def service (jwt : Jwt) (stripe : StripeService S M) (config : LoginDto)
    (decodeJwt : TokenManager.DecodeJwt) : Machine (Service S) (ServiceMove M) where
  step st
    | .backend c => { st with backend := (api jwt stripe).step st.backend c }
    | .getAccessToken now => { st with tokens := st.tokens.getAccessToken now }
    | .serve id env => st.serve jwt stripe config id env
    | .lose id => { st with tokens := st.tokens.lost id }
    | .resume id => { st with tokens := st.tokens.resume decodeJwt id }

/-- The server has started. -/
def Service.started (backend : Api S) : Service S :=
  { backend := backend, tokens := .empty, sessions := [] }

end LedgerLight.Mcp
