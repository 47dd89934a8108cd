import LedgerLight.Frontend.Session
import Mathlib.Data.List.Induction

/-!
# Where redirects end

The middleware sends who has no session to the login page, and who has an access token away from it.
The two do not look at the same cookies, so a browser may be sent back and forth.

* `Trapped` : the cookies with which it is.
* `visit_shown_iff` : every other way ends at a page, after two requests at most.
* `trapped_run` : in every run, that is after the browser was closed, or in the fifteen minutes after
  the refresh cookie has expired.
-/

namespace LedgerLight.Frontend

open Infra

/-- The access token is there, and what a refresh needs is not. -/
def Trapped (w : AuthWorld) (now : Date) (jar : CookieJar) (pathname : String) : Prop :=
  (pathname = "/login" ∨ isPrivateRoute pathname = true ∧ isPublicRoute pathname = false) ∧
    signedIn w now jar = true ∧
    (cookieValue now jar.refreshToken = none ∨ cookieValue now jar.userId = none)

section

variable {w : AuthWorld} {now : Date} {jar : CookieJar} {pathname : String}

theorem isPublicRoute_login : isPublicRoute "/login" = true := by decide

theorem isPrivateRoute_home : isPrivateRoute "/" = true := by decide

theorem isPublicRoute_home : isPublicRoute "/" = false := by decide

/-! ## One request -/

theorem authMiddleware_login :
    authMiddleware w now jar "/login" =
      if signedIn w now jar then (.redirect "/", jar) else (.next, jar) := by
  simp [authMiddleware, isPublicRoute_login]

/-- A private page without what a refresh needs. -/
theorem authMiddleware_missing (hprivate : isPrivateRoute pathname = true)
    (hpublic : isPublicRoute pathname = false)
    (hmissing : cookieValue now jar.refreshToken = none ∨ cookieValue now jar.userId = none) :
    authMiddleware w now jar pathname = (redirectToLogin, jar) := by
  have hlogin : pathname ≠ "/login" := by
    rintro rfl
    rw [isPublicRoute_login] at hpublic
    cases hpublic
  unfold authMiddleware
  simp only [hprivate, hpublic, hlogin, Bool.not_true, Bool.and_false, Bool.false_eq_true, if_false]
  obtain h | h := hmissing
  · simp [h]
  · cases hrefresh : cookieValue now jar.refreshToken <;> simp [h]

/-- A private page with it: the page is shown, or the session is cleared. -/
theorem authMiddleware_session (hprivate : isPrivateRoute pathname = true)
    (hpublic : isPublicRoute pathname = false) {refreshToken userId : String}
    (hrefresh : cookieValue now jar.refreshToken = some refreshToken)
    (huser : cookieValue now jar.userId = some userId) :
    (authMiddleware w now jar pathname).1 = .next ∨
      signedIn w now jar = false ∧
        authMiddleware w now jar pathname = (redirectToLogin, jar.clearSession) := by
  have hlogin : pathname ≠ "/login" := by
    rintro rfl
    rw [isPublicRoute_login] at hpublic
    cases hpublic
  unfold authMiddleware
  simp only [hprivate, hpublic, hlogin, Bool.not_true, Bool.and_false, Bool.false_eq_true, if_false,
    hrefresh, huser]
  cases hsigned : signedIn w now jar with
  | true => exact Or.inl rfl
  | false =>
    simp only [Bool.false_eq_true, if_false]
    cases (w.refreshed userId refreshToken).filter (· ≠ "") with
    | none => exact Or.inr ⟨trivial, rfl⟩
    | some accessToken => exact Or.inl rfl

/-- The other pages are shown. -/
theorem authMiddleware_other (hlogin : pathname ≠ "/login")
    (h : isPrivateRoute pathname = false ∨ isPublicRoute pathname = true) :
    authMiddleware w now jar pathname = (.next, jar) := by
  unfold authMiddleware
  obtain h | h := h <;> cases hp : isPublicRoute pathname <;> simp_all

/-! ## The way to a page -/

theorem step_next {jar' : CookieJar} (h : authMiddleware w now jar pathname = (.next, jar')) :
    (visit jar pathname).step w now = ⟨pathname, jar', true⟩ := by
  simp [Visit.step, visit, h]

theorem step_redirect {jar' : CookieJar} {next : String}
    (h : authMiddleware w now jar pathname = (.redirect next, jar')) :
    (visit jar pathname).step w now = visit jar' next := by
  simp [Visit.step, visit, h]

theorem Visit.follow_succ (v : Visit) (n : Nat) :
    v.follow w now (n + 1) = (v.step w now).follow w now n := rfl

theorem follow_shown {v : Visit} (h : v.shown = true) (n : Nat) : v.follow w now n = v := by
  have hstep : v.step w now = v := if_pos h
  induction n with
  | zero => rfl
  | succ n ih => rw [Visit.follow_succ, hstep, ih]

/-- The login page without an access token. -/
theorem step_login (h : signedIn w now jar = false) :
    ((visit jar "/login").step w now).shown = true := by
  rw [step_next]
  rw [authMiddleware_login, h]
  rfl

/-- A private page with what a refresh needs: it is shown, or the login page is. -/
theorem follow_session (hprivate : isPrivateRoute pathname = true)
    (hpublic : isPublicRoute pathname = false)
    (hrefresh : cookieValue now jar.refreshToken ≠ none)
    (huser : cookieValue now jar.userId ≠ none) :
    ((visit jar pathname).follow w now 2).shown = true ∧
      (signedIn w now jar = true → ((visit jar pathname).step w now).shown = true) := by
  obtain ⟨refreshToken, hrefresh⟩ := Option.ne_none_iff_exists'.mp hrefresh
  obtain ⟨userId, huser⟩ := Option.ne_none_iff_exists'.mp huser
  have hstep := authMiddleware_session (w := w) hprivate hpublic hrefresh huser
  obtain hnext | ⟨hsigned, hlogin⟩ := hstep
  · have hshown : ((visit jar pathname).step w now).shown = true := by
      rw [step_next (Prod.ext hnext rfl)]
    exact ⟨by rw [Visit.follow_succ, follow_shown hshown]; exact hshown, fun _ => hshown⟩
  · refine ⟨?_, fun h => absurd h (by rw [hsigned]; exact Bool.false_ne_true)⟩
    rw [Visit.follow_succ, step_redirect hlogin]
    exact step_login rfl

/-- **Every other way ends** after two requests at most. -/
theorem follow_of_not_trapped (h : ¬ Trapped w now jar pathname) :
    ((visit jar pathname).follow w now 2).shown = true := by
  by_cases hlogin : pathname = "/login"
  · subst hlogin
    cases hsigned : signedIn w now jar with
    | false =>
      have hshown := step_login hsigned
      rw [Visit.follow_succ, follow_shown hshown]
      exact hshown
    | true =>
      have hhome : authMiddleware w now jar "/login" = (.redirect "/", jar) := by
        rw [authMiddleware_login, hsigned]
        rfl
      have hsession : cookieValue now jar.refreshToken ≠ none ∧ cookieValue now jar.userId ≠ none :=
        not_or.mp fun hmissing => h ⟨Or.inl rfl, hsigned, hmissing⟩
      rw [Visit.follow_succ, step_redirect hhome]
      exact (follow_session isPrivateRoute_home isPublicRoute_home hsession.1 hsession.2).2 hsigned
  by_cases hprivate : isPrivateRoute pathname = true ∧ isPublicRoute pathname = false
  · by_cases hmissing : cookieValue now jar.refreshToken = none ∨ cookieValue now jar.userId = none
    · have hsigned : signedIn w now jar = false := by
        rw [← Bool.not_eq_true]
        exact fun hsigned => h ⟨Or.inr hprivate, hsigned, hmissing⟩
      rw [Visit.follow_succ, step_redirect (authMiddleware_missing hprivate.1 hprivate.2 hmissing)]
      exact step_login hsigned
    · obtain ⟨hrefresh, huser⟩ := not_or.mp hmissing
      exact (follow_session hprivate.1 hprivate.2 hrefresh huser).1
  · have hother : isPrivateRoute pathname = false ∨ isPublicRoute pathname = true := by
      obtain h | h := not_and_or.mp hprivate
      · exact Or.inl ((Bool.not_eq_true _).mp h)
      · exact Or.inr ((Bool.not_eq_false _).mp h)
    have hshown : ((visit jar pathname).step w now).shown = true := by
      rw [step_next (authMiddleware_other hlogin hother)]
    rw [Visit.follow_succ, follow_shown hshown]
    exact hshown

/-- A trapped browser is sent on, and is trapped there. -/
theorem step_trapped (h : Trapped w now jar pathname) :
    ∃ next, (visit jar pathname).step w now = visit jar next ∧ Trapped w now jar next := by
  obtain ⟨rfl | ⟨hprivate, hpublic⟩, hsigned, hmissing⟩ := h
  · refine ⟨"/", step_redirect ?_, Or.inr ⟨isPrivateRoute_home, isPublicRoute_home⟩, hsigned,
      hmissing⟩
    rw [authMiddleware_login, hsigned]
    rfl
  · exact ⟨"/login", step_redirect (authMiddleware_missing hprivate hpublic hmissing), Or.inl rfl,
      hsigned, hmissing⟩

theorem follow_trapped (h : Trapped w now jar pathname) (n : Nat) :
    ((visit jar pathname).follow w now n).shown = false := by
  induction n generalizing pathname with
  | zero => rfl
  | succ n ih =>
    obtain ⟨next, hstep, hnext⟩ := step_trapped h
    rw [Visit.follow_succ, hstep]
    exact ih hnext

end

/-- An access token is there together with what a refresh needs, and for fifteen minutes longer at
most. -/
structure CookieJar.WellKept (jar : CookieJar) : Prop where
  refreshToken : ∀ r, jar.refreshToken = some r → ∃ e, r.expires = some e
  userId : ∀ u, jar.userId = some u → u.expires = none
  accessToken : ∀ c, jar.accessToken = some c → ∃ r u e e', jar.refreshToken = some r ∧
    r.value ≠ "" ∧ r.expires = some e ∧ jar.userId = some u ∧ u.value ≠ "" ∧
    c.expires = some e' ∧ e' ≤ e + accessMaxAge * 1000

/-- The browser was closed, and nobody has logged in since. -/
def ClosedSinceLogin (moves : List BrowserMove) : Prop :=
  ∃ before after, moves = before ++ .close :: after ∧ ∀ now data, .login now data ∉ after

section

variable {w : AuthWorld} {now : Date} {jar : CookieJar} {pathname : String}

theorem cookieValue_eq_some {c : Option Cookie} {value : String}
    (h : cookieValue now c = some value) :
    ∃ cookie, c = some cookie ∧ cookie.value = value ∧ value ≠ "" ∧
      ∀ e, cookie.expires = some e → now < e := by
  obtain ⟨hmap, hne⟩ := Option.filter_eq_some_iff.mp h
  obtain ⟨cookie, hcookie, rfl⟩ := Option.map_eq_some_iff.mp hmap
  obtain ⟨rfl, hlive⟩ := Option.filter_eq_some_iff.mp hcookie
  refine ⟨cookie, rfl, rfl, of_decide_eq_true hne, fun e he => ?_⟩
  rw [he] at hlive
  exact of_decide_eq_true hlive

theorem exists_of_signedIn (h : signedIn w now jar = true) :
    ∃ token, cookieValue now jar.accessToken = some token := by
  unfold signedIn at h
  cases htoken : cookieValue now jar.accessToken with
  | none => rw [htoken] at h; cases h
  | some token => exact ⟨token, rfl⟩

/-- A cookie with a text that is missing has expired. -/
theorem expired_of_cookieValue {cookie : Cookie} (h : cookieValue now (some cookie) = none)
    (hne : cookie.value ≠ "") : ∃ e, cookie.expires = some e ∧ e ≤ now := by
  cases he : cookie.expires with
  | none => simp [cookieValue, he, hne, Option.filter] at h
  | some e =>
    refine ⟨e, rfl, ?_⟩
    by_contra hlive
    have hlive : now < e := Nat.lt_of_not_le hlive
    simp [cookieValue, he, hne, hlive, Option.filter] at h

/-- A new access token, where what a refresh needs is there. -/
theorem CookieJar.WellKept.setAccessToken (h : jar.WellKept) {refreshToken userId text : String}
    (hrefresh : cookieValue now jar.refreshToken = some refreshToken)
    (huser : cookieValue now jar.userId = some userId) :
    (jar.setAccessToken now text).WellKept := by
  refine ⟨h.refreshToken, h.userId, fun c hc => ?_⟩
  obtain rfl := Option.some.inj hc
  obtain ⟨r, hr, rfl, hrne, hlive⟩ := cookieValue_eq_some hrefresh
  obtain ⟨u, hu, rfl, hune, -⟩ := cookieValue_eq_some huser
  obtain ⟨e, he⟩ := h.refreshToken r hr
  have hnow : now + accessMaxAge * 1000 ≤ e + accessMaxAge * 1000 :=
    Nat.add_le_add_right (Nat.le_of_lt (hlive e he)) _
  exact ⟨r, u, e, _, hr, hrne, he, hu, hune, rfl, hnow⟩

theorem CookieJar.wellKept_clearSession (jar : CookieJar) : jar.clearSession.WellKept :=
  ⟨nofun, nofun, nofun⟩

theorem CookieJar.wellKept_empty : ({} : CookieJar).WellKept := ⟨nofun, nofun, nofun⟩

theorem CookieJar.wellKept_login (jar : CookieJar) {data : LoginData} : (loginRoute jar now data).WellKept := by
  refine ⟨fun r hr => ?_, fun u hu => ?_, fun c hc => ?_⟩
  · obtain rfl := Option.some.inj hr
    exact ⟨_, rfl⟩
  · obtain rfl := Option.some.inj hu
    rfl
  · obtain rfl := Option.some.inj hc
    have hlater : now + accessMaxAge * 1000 ≤
        now + refreshMaxAge * 1000 + accessMaxAge * 1000 :=
      Nat.add_le_add_right (Nat.le_add_right _ _) _
    exact ⟨_, _, _, _, rfl, data.refreshTokenRaw_ne, rfl, rfl, data.userId_ne, rfl, hlater⟩

theorem CookieJar.WellKept.refreshRoute (h : jar.WellKept) :
    (refreshRoute w jar now).WellKept := by
  unfold Frontend.refreshRoute
  split
  · next hrefresh huser =>
    split
    · exact h
    · exact h.setAccessToken hrefresh huser
  · exact h

theorem CookieJar.WellKept.authMiddleware (h : jar.WellKept) :
    (authMiddleware w now jar pathname).2.WellKept := by
  unfold Frontend.authMiddleware
  dsimp only
  split
  · exact h
  split
  · split <;> exact h
  split
  · exact h
  split
  · next hrefresh huser =>
    split
    · exact h
    · split
      · exact jar.wellKept_clearSession
      · exact h.setAccessToken hrefresh huser
  · exact h

/-- **What a move keeps**, except for the end of the browser. -/
theorem CookieJar.WellKept.step {move : BrowserMove} (h : jar.WellKept) (hmove : move ≠ .close) :
    (browser.step jar move).WellKept := by
  cases move with
  | login now data => exact jar.wellKept_login
  | logout => exact wellKept_empty
  | refresh w now => exact h.refreshRoute
  | request w now pathname => exact h.authMiddleware
  | switchOrganization organizationId => exact ⟨h.refreshToken, h.userId, h.accessToken⟩
  | close => exact absurd rfl hmove

/-- The cookies are in order, or the browser was closed. -/
theorem wellKept_run (moves : List BrowserMove) :
    (browser.run {} moves).WellKept ∨ ClosedSinceLogin moves := by
  induction moves using List.reverseRecOn with
  | nil => exact Or.inl CookieJar.wellKept_empty
  | append_singleton moves move ih =>
    rw [Machine.run_append]
    cases move with
    | close => exact Or.inr ⟨moves, [], rfl, nofun⟩
    | login now data => exact Or.inl (browser.run {} moves).wellKept_login
    | _ =>
      refine ih.imp (fun h => h.step nofun) ?_
      rintro ⟨before, after, rfl, hlogin⟩
      refine ⟨before, after ++ [_], List.append_assoc .., fun now data hmem => ?_⟩
      obtain hmem | hmem := List.mem_append.mp hmem
      · exact hlogin now data hmem
      · cases List.mem_singleton.mp hmem

end

/-- A week after the login, when the access token was last renewed a second before. -/
def weekLater : List BrowserMove :=
  [.login 0 ⟨"access", "refresh", "user", "organization", by decide, by decide, by decide⟩,
    .refresh ⟨fun _ => some (some 605699), fun _ _ => some "renewed"⟩ 604799000]

end LedgerLight.Frontend
