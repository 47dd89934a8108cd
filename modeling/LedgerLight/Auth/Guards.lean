import LedgerLight.Auth.Permissions

/-!
# The guards of a route

`common/guards` and the decorator `OrgProtected` : how a request becomes a user and the context of an
organization. The access token is a text, of which only the signature and the expiry count; who
signed it is for `System.Api`.

* `orgProtected_ok` : what the guards of a route let pass.
-/

namespace LedgerLight

/-! ## Access tokens -/

/-- What an access token carries: a payload of `login` or `refresh`, whose memberships
`serializeJwtMembership` made, and the second it was signed in. -/
structure SignedPayload where
  payload : JwtPayload
  issuedAt : Nat
  serialized : ∀ m ∈ payload.memberships, m.hasAllLocations = m.allowedLocationIds.isEmpty
deriving DecidableEq, Repr

/-- The library behind `JwtService` and `passport-jwt`, with the secret of the backend. -/
structure Jwt where
  /-- `signAsync` of a payload at a time in seconds. -/
  sign : JwtPayload → Nat → String
  /-- What a token with the right signature carries, whether it has expired or not. -/
  verify : String → Option SignedPayload

/-- `expiresIn: '15m'`, in seconds. -/
def accessTokenLifetime : Nat := 15 * 60

/-- The token has not expired: its expiry is after the second of the request. -/
def SignedPayload.live (token : SignedPayload) (now : Date) : Bool :=
  now / 1000 < token.issuedAt + accessTokenLifetime

/-- What a request reads when it signs: the payload is signed at its time. -/
def AuthEnv.signing (env : AuthEnv) (jwt : Jwt) : AuthEnv :=
  { env with signAsync := fun payload => jwt.sign payload (env.now / 1000) }

/-! ## Guards -/

/-- `req.user`, from a token that was verified. -/
structure RequestUser extends UserWithMemberships where
  serialized : ∀ m ∈ memberships, m.hasAllLocations = m.allowedLocationIds.isEmpty

/-- `JwtStrategy.validate`. -/
def validate (token : SignedPayload) : RequestUser :=
  { user := token.payload.user, memberships := token.payload.memberships
    serialized := token.serialized }

/-- `JwtAuthGuard`, with the token of the header `Authorization`. -/
def jwtAuthGuard (jwt : Jwt) (now : Date) (bearer : Option String) :
    Except BackendError RequestUser :=
  match (bearer.bind jwt.verify).filter (·.live now) with
  | none => .error (.unauthorized "Unauthorized")
  | some token => .ok (validate token)

/-- `OptionalJwtAuthGuard`. -/
def optionalJwtAuthGuard (jwt : Jwt) (now : Date) (bearer : Option String) : Option RequestUser :=
  (jwtAuthGuard jwt now bearer).toOption

/-- The context that a membership of the token gives. -/
def RequestUser.context (user : RequestUser) (membership : JwtMembership)
    (h : membership ∈ user.memberships) : MemberContext :=
  { organizationId := membership.organizationId
    hasAllLocations := membership.hasAllLocations
    allowedLocationIds := membership.allowedLocationIds
    membershipId := membership.id
    role := membership.role
    serialized := user.serialized membership h }

/-- `OrganizationContextGuard.canActivate`, with the header `x-organization-id`. -/
def organizationContextGuard (user : RequestUser) (orgId : Option Id) :
    Except BackendError MemberContext :=
  match orgId with
  | none => .error (.forbidden "X-Organization-Id header is required")
  | some orgId =>
    match h : user.memberships.find? fun m => m.organizationId == orgId with
    | none => .error (.forbidden "User does not have access to the specified organization")
    | some membership => .ok (user.context membership (List.mem_of_find?_eq_some h))

/-- `OrgProtected` : the three guards of a route, one after the other. -/
def orgProtected (jwt : Jwt) (now : Date) (bearer : Option String) (orgId : Option Id)
    (route : RoutePermissions) : Except BackendError (RequestUser × MemberContext) := do
  let user ← jwtAuthGuard jwt now bearer
  let organization ← organizationContextGuard user orgId
  permissionsGuard user.toUserWithMemberships (some organization.organizationId) route
  pure (user, organization)

section

variable {jwt : Jwt} {now : Date} {bearer : Option String} {orgId : Option Id}
  {route : RoutePermissions} {user : RequestUser} {organization : MemberContext}

theorem jwtAuthGuard_ok :
    jwtAuthGuard jwt now bearer = .ok user ↔
      ∃ text token, bearer = some text ∧ jwt.verify text = some token ∧ token.live now = true ∧
        user = validate token := by
  unfold jwtAuthGuard
  constructor
  · intro h
    split at h
    · cases h
    · next token htoken =>
      obtain ⟨hverify, hlive⟩ := Option.filter_eq_some_iff.mp htoken
      obtain ⟨text, hbearer, hverify⟩ := Option.bind_eq_some_iff.mp hverify
      exact ⟨text, token, hbearer, hverify, hlive, (Except.ok.inj h).symm⟩
  · rintro ⟨text, token, rfl, hverify, hlive, rfl⟩
    rw [Option.bind_some, hverify, Option.filter_some, if_pos hlive]

theorem organizationContextGuard_ok :
    organizationContextGuard user orgId = .ok organization ↔
      ∃ m, ∃ h : m ∈ user.memberships, orgId = some m.organizationId ∧
        user.memberships.find? (fun m' => m'.organizationId == m.organizationId) = some m ∧
        organization = user.context m h := by
  unfold organizationContextGuard
  constructor
  · intro h
    split at h
    · cases h
    · next orgId =>
      split at h
      · cases h
      · next m hm =>
        have hid : m.organizationId = orgId := by simpa using List.find?_some hm
        exact ⟨m, List.mem_of_find?_eq_some hm, congrArg some hid.symm, hid ▸ hm,
          (Except.ok.inj h).symm⟩
  · rintro ⟨m, hmem, rfl, hfind, rfl⟩
    dsimp only
    split
    · next hnone => rw [hfind] at hnone; cases hnone
    · next m' hm' =>
      rw [hfind] at hm'
      cases hm'
      rfl

/-- **The guards of a route** let a request pass with a verified token that has not expired, in an
organization in which the token has a membership whose role the route allows. -/
theorem orgProtected_ok :
    orgProtected jwt now bearer orgId route = .ok (user, organization) ↔
      ∃ text token, bearer = some text ∧ jwt.verify text = some token ∧ token.live now = true ∧
        user = validate token ∧ ∃ m, ∃ h : m ∈ user.memberships, orgId = some m.organizationId ∧
          user.memberships.find? (fun m' => m'.organizationId == m.organizationId) = some m ∧
          organization = user.context m h ∧ route.Allow m.role := by
  unfold orgProtected
  constructor
  · intro h
    cases huser : jwtAuthGuard jwt now bearer with
    | error e => rw [huser] at h; cases h
    | ok user' =>
      rw [huser] at h
      cases horg : organizationContextGuard user' orgId with
      | error e => simp only [bind, Except.bind, horg] at h; cases h
      | ok organization' =>
        cases hperm : permissionsGuard user'.toUserWithMemberships
            (some organization'.organizationId) route with
        | error e => simp only [bind, Except.bind, horg, hperm] at h; cases h
        | ok u =>
          simp only [bind, Except.bind, horg, hperm, pure, Except.pure, Except.ok.injEq,
            Prod.mk.injEq] at h
          obtain ⟨rfl, rfl⟩ := h
          obtain ⟨text, token, hbearer, hverify, hlive, hvalid⟩ := jwtAuthGuard_ok.mp huser
          obtain ⟨m, hmem, horgId, hfind, rfl⟩ := organizationContextGuard_ok.mp horg
          obtain ⟨m', hm', hallow⟩ := permissionsGuard_ok.mp hperm
          obtain rfl : m = m' := Option.some.inj (hfind.symm.trans hm')
          exact ⟨text, token, hbearer, hverify, hlive, hvalid, m, hmem, horgId, hfind, rfl, hallow⟩
  · rintro ⟨text, token, hbearer, hverify, hlive, hvalid, m, hmem, horgId, hfind, rfl, hallow⟩
    have huser := jwtAuthGuard_ok.mpr ⟨text, token, hbearer, hverify, hlive, hvalid⟩
    have horg := organizationContextGuard_ok.mpr ⟨m, hmem, horgId, hfind, rfl⟩
    have hperm : permissionsGuard user.toUserWithMemberships
        (some (user.context m hmem).organizationId) route = .ok () :=
      permissionsGuard_ok.mpr ⟨m, hfind, hallow⟩
    rw [huser]
    simp only [bind, Except.bind, horg, hperm]
    rfl

end

end LedgerLight
