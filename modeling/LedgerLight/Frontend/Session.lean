import LedgerLight.Domain.Schema
import LedgerLight.Infra.Machine

/-!
# The session of the browser

`middlewares/auth.ts`, `lib/route-access.ts` and the handlers under `app/api/auth` : the four cookies
that they set, and what a browser is shown that follows their redirects. What the backend answers is a
part of the request.
-/

namespace LedgerLight.Frontend

open Infra

/-! ## Cookies -/

structure Cookie where
  value : String
  /-- From `maxAge`. A cookie without it is there until the browser is closed. -/
  expires : Option Date
deriving DecidableEq, Repr

/-- `AUTH_COOKIE_MAP`. -/
structure CookieJar where
  accessToken : Option Cookie := none
  refreshToken : Option Cookie := none
  userId : Option Cookie := none
  organizationId : Option Cookie := none
deriving DecidableEq, Repr

/-- `cookies.get(name)?.value`, as far as the empty text is not for nothing. -/
def cookieValue (now : Date) (c : Option Cookie) : Option String :=
  ((c.filter fun c => c.expires.all fun e => decide (now < e)).map (·.value)).filter (· ≠ "")

def sessionCookie (value : String) : Cookie := { value := value, expires := none }

/-- `maxAge` is in seconds. -/
def cookieFor (now : Date) (value : String) (maxAge : Nat) : Cookie :=
  { value := value, expires := some (now + maxAge * 1000) }

def accessMaxAge : Nat := 15 * 60

def refreshMaxAge : Nat := 7 * 24 * 60 * 60

namespace CookieJar

def setAccessToken (jar : CookieJar) (now : Date) (accessToken : String) : CookieJar :=
  { jar with accessToken := some (cookieFor now accessToken accessMaxAge) }

/-- A refresh that failed clears the session, and keeps the organization. -/
def clearSession (jar : CookieJar) : CookieJar :=
  { jar with accessToken := none, refreshToken := none, userId := none }

/-- The browser is closed. -/
def close (jar : CookieJar) : CookieJar :=
  let kept (c : Option Cookie) := c.filter (·.expires.isSome)
  { accessToken := kept jar.accessToken, refreshToken := kept jar.refreshToken
    userId := kept jar.userId, organizationId := kept jar.organizationId }

end CookieJar

/-! ## Routes -/

def privateRoutes : List String :=
  ["/", "/orders", "/customers", "/products", "/inventory", "/locations", "/team", "/reports",
    "/settings"]

def publicRoutes : List String := ["/login", "/invite"]

def matchesRoute (pathname route : String) : Bool :=
  if route = "/" then pathname = route
  else pathname = route || (route ++ "/").toList.isPrefixOf pathname.toList

def isPrivateRoute (pathname : String) : Bool := privateRoutes.any (matchesRoute pathname)

def isPublicRoute (pathname : String) : Bool := publicRoutes.any (matchesRoute pathname)

/-! ## The middleware -/

/-- What the middleware reads besides the request: the payload of a token, which cannot be read or may
have no `exp` that is a number, and the backend's answer to a refresh. -/
structure AuthWorld where
  exp : String → Option (Option Int)
  /-- `POST /auth/refresh` for a user and a refresh token: it fails, or has an access token. -/
  refreshed : String → String → Option String

/-- The token expires within 60 seconds, or cannot be read. A comparison with `NaN` is false. -/
def isTokenExpired (w : AuthWorld) (now : Date) (token : String) : Bool :=
  match w.exp token with
  | none => true
  | some none => false
  | some (some exp) => exp * 1000 < (now + 60000 : Nat)

inductive MiddlewareResponse where
  | next
  | redirect (pathname : String)
deriving DecidableEq, Repr

/-- `redirectToLogin`; `returnTo` is for the page. -/
def redirectToLogin : MiddlewareResponse := .redirect "/login"

/-- There is an access token that has not expired. -/
def signedIn (w : AuthWorld) (now : Date) (jar : CookieJar) : Bool :=
  (cookieValue now jar.accessToken).any fun token => !isTokenExpired w now token

/-- The response, and the cookies after it. -/
def authMiddleware (w : AuthWorld) (now : Date) (jar : CookieJar) (pathname : String) :
    MiddlewareResponse × CookieJar :=
  let publicRoute := isPublicRoute pathname
  let privateRoute := isPrivateRoute pathname
  if !publicRoute && !privateRoute then (.next, jar)
  else if pathname = "/login" then
    if signedIn w now jar then (.redirect "/", jar) else (.next, jar)
  else if publicRoute then (.next, jar)
  else
    match cookieValue now jar.refreshToken, cookieValue now jar.userId with
    | some refreshToken, some userId =>
      if signedIn w now jar then (.next, jar)
      else
        match (w.refreshed userId refreshToken).filter (· ≠ "") with
        | none => (redirectToLogin, jar.clearSession)
        | some accessToken => (.next, jar.setAccessToken now accessToken)
    | _, _ => (redirectToLogin, jar)

/-! ## Following redirects -/

/-- A browser on its way to a page. The clock stands still on the way. -/
structure Visit where
  pathname : String
  jar : CookieJar
  shown : Bool
deriving DecidableEq, Repr

/-- The next request of the way, if there is one. -/
def Visit.step (w : AuthWorld) (now : Date) (v : Visit) : Visit :=
  if v.shown then v
  else
    match authMiddleware w now v.jar v.pathname with
    | (.next, jar) => { v with jar := jar, shown := true }
    | (.redirect pathname, jar) => { v with jar := jar, pathname := pathname }

/-- After `n` requests. -/
def Visit.follow (w : AuthWorld) (now : Date) : Nat → Visit → Visit
  | 0, v => v
  | n + 1, v => (v.step w now).follow w now n

/-- The way to a page begins. -/
def visit (jar : CookieJar) (pathname : String) : Visit := ⟨pathname, jar, false⟩

/-! ## The browser -/

/-- What `/api/auth/login` checks of the backend's answer. -/
structure LoginData where
  accessToken : String
  refreshTokenRaw : String
  userId : String
  organizationId : String
  accessToken_ne : accessToken ≠ ""
  refreshTokenRaw_ne : refreshTokenRaw ≠ ""
  userId_ne : userId ≠ ""
deriving DecidableEq, Repr

inductive BrowserMove where
  /-- `/api/auth/login`, with an answer that has everything. -/
  | login (now : Date) (data : LoginData)
  /-- `/api/auth/logout`. -/
  | logout
  /-- `/api/auth/refresh`. -/
  | refresh (w : AuthWorld) (now : Date)
  /-- One request for a page. -/
  | request (w : AuthWorld) (now : Date) (pathname : String)
  /-- `switchOrganization`. -/
  | switchOrganization (organizationId : String)
  | close

def loginRoute (jar : CookieJar) (now : Date) (data : LoginData) : CookieJar :=
  { jar with
    accessToken := some (cookieFor now data.accessToken accessMaxAge)
    refreshToken := some (cookieFor now data.refreshTokenRaw refreshMaxAge)
    userId := some (sessionCookie data.userId)
    organizationId := some (sessionCookie data.organizationId) }

def refreshRoute (w : AuthWorld) (jar : CookieJar) (now : Date) : CookieJar :=
  match cookieValue now jar.refreshToken, cookieValue now jar.userId with
  | some refreshTokenRaw, some userId =>
    match (w.refreshed userId refreshTokenRaw).filter (· ≠ "") with
    | none => jar
    | some accessToken => jar.setAccessToken now accessToken
  | _, _ => jar

def browser : Machine CookieJar BrowserMove where
  step jar
    | .login now data => loginRoute jar now data
    | .logout => {}
    | .refresh w now => refreshRoute w jar now
    | .request w now pathname => (authMiddleware w now jar pathname).2
    | .switchOrganization organizationId =>
      { jar with organizationId := some (sessionCookie organizationId) }
    | .close => jar.close

end LedgerLight.Frontend
