import LedgerLight.Auth.Context
import LedgerLight.Order.Spec

/-!
# The location guards decide alike

What a membership's location rows become on the way to the services, and what the three guards make
of it.

* `requestOrganization_reads` : the context of a request has the rows of the membership, and all
  locations if there is none.
* `ensureLocationAccessible_reads`, `satisfies_reads`, `assertOrderAccessible_reads` : on a context
  that reads like this, the guards are those of the services.
* `guards_agree` : the guards let the same orders through.
-/

namespace LedgerLight

open Infra

namespace Objects

section

variable {org : Organization} {c : CurrentOrg} {m : MembershipRow} {memberships : List MembershipRow}
  {rows : List MembershipLocation} {organizationId : Id} {user : PublicUser}

/-- What the services read from an organization context. -/
structure Reads (org : Organization) (c : CurrentOrg) : Prop where
  organizationId : org.organizationId = .literal c.organizationId
  hasAllLocations : org.hasAllLocations.get? = some c.hasAllLocations
  allowedLocationIds : org.allowedLocationIds.get? = some c.allowedLocationIds

/-! ## On the way to the services -/

/-- The context of a membership with these location rows. -/
def scopeOfRows (organizationId : Id) (rows : List MembershipLocation) : CurrentOrg :=
  { organizationId := organizationId, hasAllLocations := rows.isEmpty
    allowedLocationIds := rows.map (·.locationId) }

/-- A membership of a token, with all its properties. -/
def literal (m : LedgerLight.JwtMembership) : JwtMembership :=
  { id := .literal m.id, organizationId := .literal m.organizationId
    organizationName := .literal m.organizationName, userId := .literal m.userId
    role := .literal m.role, hasAllLocations := .literal m.hasAllLocations
    allowedLocationIds := .literal m.allowedLocationIds }

/-- These are the memberships in the tokens of `login` and `refresh`. -/
theorem serializeJwtMembership_rows {db : Backend} {userId : Id} :
    (membershipRows db userId).map serializeJwtMembership =
      ((db.activeMemberships userId).map LedgerLight.serializeJwtMembership).map literal := by
  unfold membershipRows Backend.activeMemberships
  rw [List.map_map, List.map_map, List.map_map]
  rfl

/-- The guard finds in the token what the database has. -/
theorem find?_jwtPayload :
    ((jwtPayload user memberships).json.memberships.find? fun m =>
        m.organizationId.get? == some organizationId) =
      (memberships.find? fun m => m.organizationId == organizationId).map fun m =>
        (serializeJwtMembership m).json := by
  show (((memberships.map serializeJwtMembership).map JwtMembership.json).find? _) = _
  rw [List.map_map, List.find?_map]
  rfl

/-- The scope fields of a resolved context are read as before, hidden or not. -/
theorem Reads.resolve (h : Reads org c) :
    Reads (resolveOrganizationScope (.object org)) c := by
  have hscope : hasResolvedLocationScope (.object org) = true := by
    have hall := Property.isIn_of_get? h.hasAllLocations
    simp [hasResolvedLocationScope, hall]
  unfold resolveOrganizationScope
  dsimp only
  rw [if_pos hscope]
  refine ⟨?_, ?_, ?_⟩
  · dsimp only
    rw [h.organizationId, Property.spread_literal]
  · dsimp only
    rw [h.hasAllLocations, Option.getD_some, Property.get?_literal]
  · dsimp only
    rw [h.allowedLocationIds, Option.getD_some, Property.get?_literal]

/-- **The context of a request** has the rows of the membership. -/
theorem requestOrganization_reads (user : PublicUser)
    (hfind : (memberships.find? fun m => m.organizationId == organizationId) = some m)
    (hrows : m.locations = some rows) :
    ∃ org, requestOrganization user memberships (some organizationId) = .ok org ∧
      Reads org (scopeOfRows organizationId rows) := by
  have hguard : ∃ org, canActivate
      { user := (jwtPayload user memberships).json.user
        memberships := (jwtPayload user memberships).json.memberships }
      (some organizationId) = .ok org ∧ Reads org (scopeOfRows organizationId rows) := by
    unfold canActivate
    dsimp only
    rw [find?_jwtPayload, hfind]
    refine ⟨_, rfl, rfl, ?_, ?_⟩
    · simp [serializeJwtMembership, JwtMembership.json, hrows, scopeOfRows]
    · simp [serializeJwtMembership, JwtMembership.json, hrows, scopeOfRows]
  obtain ⟨org, horg, hreads⟩ := hguard
  refine ⟨resolveOrganizationScope (.object org), ?_, hreads.resolve⟩
  show (canActivate _ _ >>= fun organization => _) = _
  rw [horg]
  rfl

/-- The guard finds the membership, as there is one for a user in an organization. -/
theorem find?_membershipRows {db : Backend} {k : Id} {row : Membership}
    (hrow : db.memberships.lookup k = some row) (hactive : row.status = .active)
    (hunique : ∀ k' row', db.memberships.lookup k' = some row' →
      row'.organizationId = row.organizationId → row'.userId = row.userId → k' = k) :
    ((membershipRows db row.userId).find? fun m => m.organizationId == row.organizationId) =
      some (membershipRow db k row) := by
  have hmem : membershipRow db k row ∈ membershipRows db row.userId := by
    refine List.mem_map.mpr ⟨⟨k, row⟩, List.mem_filter.mpr ⟨?_, by simp [hactive]⟩, rfl⟩
    exact Table.mem_entries_of_lookup hrow
  cases hfind : (membershipRows db row.userId).find? fun m =>
      m.organizationId == row.organizationId with
  | none =>
    have hnot := List.find?_eq_none.mp hfind _ hmem
    simp [membershipRow] at hnot
  | some m =>
    -- what is found is of the same user, so it is the same
    obtain ⟨⟨k', row'⟩, he, rfl⟩ := List.mem_map.mp (List.mem_of_find?_eq_some hfind)
    obtain ⟨hentry, htest⟩ := List.mem_filter.mp he
    have horg : row'.organizationId = row.organizationId := by
      simpa [membershipRow] using List.find?_some hfind
    have huser : row'.userId = row.userId := by
      rw [Bool.and_eq_true] at htest
      exact beq_iff_eq.mp htest.1
    have hlookup : db.memberships.lookup k' = some row' := AList.mem_lookup_iff.mpr hentry
    obtain rfl := hunique k' row' hlookup horg huser
    rw [hrow] at hlookup
    rw [Option.some.inj hlookup]

/-! ## The guards on what they read -/

theorem hasRestrictedLocations_reads (h : Reads org c) :
    hasRestrictedLocations (.object org) = LedgerLight.hasRestrictedLocations c := by
  unfold hasRestrictedLocations truthy LedgerLight.hasRestrictedLocations
  rw [h.resolve.hasAllLocations]
  cases c.hasAllLocations with
  | false => rfl
  | true => rfl

theorem ensureLocationAccessible_reads (h : Reads org c) (locationId : Option Id)
    (allowUnspecified : Bool) (missingMessage forbiddenMessage : String) :
    ensureLocationAccessible (.object org) locationId allowUnspecified missingMessage
        forbiddenMessage =
      (LedgerLight.ensureLocationAccessible c locationId allowUnspecified missingMessage
        forbiddenMessage).mapError .app := by
  unfold ensureLocationAccessible LedgerLight.ensureLocationAccessible truthy field
  dsimp only
  rw [h.resolve.hasAllLocations, h.resolve.allowedLocationIds]
  cases locationId with
  | none =>
    cases allowUnspecified with
    | true => rfl
    | false =>
      cases c.allowedLocationIds with
      | nil => rfl
      | cons l ids => rfl
  | some l =>
    cases c.hasAllLocations with
    | true => rfl
    | false =>
      show (if c.allowedLocationIds.contains l = true then Except.ok ()
          else .error (BackendError.forbidden forbiddenMessage)) =
        (if c.allowedLocationIds.contains l = true then Except.ok ()
          else .error (AppError.forbidden forbiddenMessage)).mapError BackendError.app
      cases c.allowedLocationIds.contains l with
      | true => rfl
      | false => rfl

theorem satisfies_reads (h : Reads org c) (value : Option Id) :
    satisfies (getLocationScopeWhere (.object org)) value =
      LedgerLight.getLocationScopeWhere c value := by
  unfold getLocationScopeWhere LedgerLight.getLocationScopeWhere truthy
  dsimp only
  rw [h.resolve.hasAllLocations, h.resolve.allowedLocationIds]
  cases c.hasAllLocations with
  | true => rfl
  | false =>
    cases value with
    | none => rfl
    | some l => rfl

theorem assertOrderAccessible_reads (h : Reads org c) {db : Database} {orderId : Id} :
    assertOrderAccessible db org orderId =
      ((LedgerLight.assertOrderAccessible c orderId : Tx Unit Unit).runAuto db ()).1.mapError
        .app := by
  unfold assertOrderAccessible LedgerLight.assertOrderAccessible
  have hfound : ((db.order? orderId).filter fun o =>
      org.organizationId.get?.all (· == o.organizationId)) =
        (db.order? orderId).filter fun o => o.organizationId == c.organizationId := by
    congr 1
    funext o
    rw [h.organizationId, Property.get?_literal, Option.all_some]
    exact Bool.beq_comm
  rw [hasRestrictedLocations_reads h, hfound, Prog.runAuto_select_bind]
  cases (db.order? orderId).filter fun o => o.organizationId == c.organizationId with
  | none => rfl
  | some o =>
    dsimp only
    rw [Prog.runAuto_require]
    unfold field
    rw [h.allowedLocationIds]
    cases LedgerLight.hasRestrictedLocations c with
    | false => rfl
    | true =>
      cases o.locationId with
      | none => rfl
      | some l =>
        show (if c.allowedLocationIds.contains l = true then Except.ok ()
            else .error (BackendError.forbidden "You do not have access to this order")) = _
        rw [Option.any_some]
        cases c.allowedLocationIds.contains l with
        | true => rfl
        | false => rfl

/-! ## Alike -/

theorem mapError_eq_ok {ε ε' α : Type} {f : ε → ε'} {x : Except ε α} {a : α} :
    x.mapError f = .ok a ↔ x = .ok a := by
  cases x with
  | error e => exact ⟨nofun, nofun⟩
  | ok b =>
    show Except.ok b = Except.ok a ↔ Except.ok b = Except.ok a
    rw [Except.ok.injEq, Except.ok.injEq]

/-- The three guards let an order at the location through exactly if `allowed`. -/
structure DecideAlike (org : Organization) (organizationId : Id) (locationId : Option Id)
    (allowUnspecified : Bool) (allowed : Prop) : Prop where
  ensureLocationAccessible :
    ensureLocationAccessible (.object org) locationId allowUnspecified = .ok () ↔ allowed
  getLocationScopeWhere : ∀ o : OrderRecord, o.locationId = locationId →
    (satisfies (getLocationScopeWhere (.object org)) o.locationId = true ↔ allowed)
  assertOrderAccessible : ∀ (db : Database) (orderId : Id) (o : OrderRecord),
    db.order? orderId = some o → o.organizationId = organizationId → o.locationId = locationId →
    (assertOrderAccessible db org orderId = .ok () ↔ allowed)

theorem assertOrderAccessible_iff (h : Reads org c) {db : Database} {orderId : Id} {o : OrderRecord}
    (ho : db.order? orderId = some o) (horg : o.organizationId = c.organizationId) :
    assertOrderAccessible db org orderId = .ok () ↔
      LedgerLight.getLocationScopeWhere c o.locationId = true := by
  have hfound : ((db.order? orderId).filter fun o => o.organizationId == c.organizationId) =
      some o := by
    rw [ho, Option.filter_some, if_pos (beq_iff_eq.mpr horg)]
  rw [assertOrderAccessible_reads h, ← OrderRecord.accessibleTo_eq]
  unfold LedgerLight.assertOrderAccessible OrderRecord.accessibleTo
  rw [Prog.runAuto_select_bind, hfound]
  dsimp only
  rw [Prog.runAuto_require]
  cases LedgerLight.hasRestrictedLocations c with
  | false => simp [Except.mapError]
  | true =>
    cases o.locationId.any fun l => c.allowedLocationIds.contains l with
    | false => simp [Except.mapError]
    | true => simp [Except.mapError]

/-- A scope without rows is open, the others have the locations of their rows. -/
theorem scopeOfRows_some {l : Id} :
    LedgerLight.getLocationScopeWhere (scopeOfRows organizationId rows) (some l) = true ↔
      rows = [] ∨ ∃ row ∈ rows, row.locationId = l := by
  simp [LedgerLight.getLocationScopeWhere, scopeOfRows]

theorem scopeOfRows_none :
    LedgerLight.getLocationScopeWhere (scopeOfRows organizationId rows) none = true ↔
      rows = [] := by
  simp [LedgerLight.getLocationScopeWhere, scopeOfRows]

/-- `ensureLocationAccessible` tests the locations of a context as its filter does, and asks for one
unless the context is open. -/
theorem ensureLocationAccessible_some {l : Id} {allowUnspecified : Bool}
    {missingMessage forbiddenMessage : String} :
    LedgerLight.ensureLocationAccessible c (some l) allowUnspecified missingMessage
        forbiddenMessage = .ok () ↔
      LedgerLight.getLocationScopeWhere c (some l) = true := by
  unfold LedgerLight.ensureLocationAccessible LedgerLight.getLocationScopeWhere
  cases c.hasAllLocations with
  | true => simp
  | false => simp

theorem ensureLocationAccessible_none {missingMessage forbiddenMessage : String} :
    LedgerLight.ensureLocationAccessible c none false missingMessage forbiddenMessage = .ok () ↔
      c.allowedLocationIds = [] := by
  simp [LedgerLight.ensureLocationAccessible]

theorem decideAlike_some (h : Reads org (scopeOfRows organizationId rows)) (l : Id)
    (allowUnspecified : Bool) :
    DecideAlike org organizationId (some l) allowUnspecified
      (rows = [] ∨ ∃ row ∈ rows, row.locationId = l) := by
  refine ⟨?_, fun o ho => ?_, fun db orderId o hfound horg ho => ?_⟩
  · rw [ensureLocationAccessible_reads h, mapError_eq_ok, ensureLocationAccessible_some]
    exact scopeOfRows_some
  · rw [satisfies_reads h, ho]
    exact scopeOfRows_some
  · rw [assertOrderAccessible_iff h hfound horg, ho]
    exact scopeOfRows_some

theorem decideAlike_none (h : Reads org (scopeOfRows organizationId rows)) :
    DecideAlike org organizationId none false (rows = []) := by
  refine ⟨?_, fun o ho => ?_, fun db orderId o hfound horg ho => ?_⟩
  · rw [ensureLocationAccessible_reads h, mapError_eq_ok, ensureLocationAccessible_none]
    exact List.map_eq_nil_iff
  · rw [satisfies_reads h, ho]
    exact scopeOfRows_none
  · rw [assertOrderAccessible_iff h hfound horg, ho]
    exact scopeOfRows_none

/-- **From the row of a membership**: its user gets through the guards at a location exactly if the
membership has no location rows or one of the location. -/
theorem requestOrganization_of_row (user : PublicUser) {db : Backend} {k : Id} {row : Membership}
    (hrow : db.memberships.lookup k = some row) (hactive : row.status = .active)
    (hunique : ∀ k' row', db.memberships.lookup k' = some row' →
      row'.organizationId = row.organizationId → row'.userId = row.userId → k' = k) :
    ∃ org, requestOrganization user (membershipRows db row.userId) (some row.organizationId) =
        .ok org ∧
      (∀ (l : Id) (allowUnspecified : Bool),
        DecideAlike org row.organizationId (some l) allowUnspecified
          (db.scopeOf k = [] ∨ l ∈ db.scopeOf k)) ∧
      DecideAlike org row.organizationId none false (db.scopeOf k = []) := by
  obtain ⟨rows, hrows⟩ : ∃ rows,
      (db.membershipLocations.filter fun row => row.membershipId == k) = rows := ⟨_, rfl⟩
  obtain ⟨org, horg, hreads⟩ := requestOrganization_reads user
    (find?_membershipRows hrow hactive hunique) rfl
  have hscope : db.scopeOf k = rows.map (·.locationId) := by rw [← hrows]; rfl
  rw [hrows] at hreads
  refine ⟨org, horg, fun l allowUnspecified => ?_, ?_⟩
  · rw [hscope, List.map_eq_nil_iff, List.mem_map]
    exact decideAlike_some hreads l allowUnspecified
  · rw [hscope, List.map_eq_nil_iff]
    exact decideAlike_none hreads

/-- **The guards decide alike**: whatever location rows a membership has, an order at a location gets
through all three exactly if there are no rows or one is of the location, and an order without a
location exactly if there are none. -/
theorem guards_agree (user : PublicUser)
    (hfind : (memberships.find? fun m => m.organizationId == organizationId) = some m)
    (hrows : m.locations = some rows) :
    ∃ org, requestOrganization user memberships (some organizationId) = .ok org ∧
      (∀ (l : Id) (allowUnspecified : Bool),
        DecideAlike org organizationId (some l) allowUnspecified
          (rows = [] ∨ ∃ row ∈ rows, row.locationId = l)) ∧
      DecideAlike org organizationId none false (rows = []) := by
  obtain ⟨org, horg, hreads⟩ := requestOrganization_reads user hfind hrows
  exact ⟨org, horg, decideAlike_some hreads, decideAlike_none hreads⟩

/-- A member of one location. -/
def scopedMember : MembershipRow :=
  { id := ⟨1, 1⟩, userId := some ⟨0, 0⟩, organizationId := ⟨1, 0⟩, role := some .cashier
    organizationName := "", locations := some [⟨⟨1, 1⟩, ⟨3, 0⟩⟩] }

def scopedUser : PublicUser :=
  { id := ⟨0, 0⟩, email := "", firstName := none, lastName := none, isActive := true
    lastLoginAt := none, createdAt := 0, updatedAt := 0 }

/-- The member gets to the location, not to another one, and not without one. -/
theorem guards_agree_scoped :
    ∃ org, requestOrganization scopedUser [scopedMember] (some ⟨1, 0⟩) = .ok org ∧
      ensureLocationAccessible (.object org) (some ⟨3, 0⟩) = .ok () ∧
      ensureLocationAccessible (.object org) (some ⟨4, 0⟩) ≠ .ok () ∧
      ensureLocationAccessible (.object org) none false ≠ .ok () := by
  obtain ⟨org, horg, hsome, hnone⟩ := guards_agree scopedUser
    (show [scopedMember].find? (fun m => m.organizationId == ⟨1, 0⟩) = some scopedMember from rfl) rfl
  refine ⟨org, horg, ?_, ?_, ?_⟩
  · refine (hsome ⟨3, 0⟩ true).ensureLocationAccessible.mpr (Or.inr ?_)
    exact ⟨_, List.mem_singleton_self _, rfl⟩
  · intro hpasses
    have hother := (hsome ⟨4, 0⟩ true).ensureLocationAccessible.mp hpasses
    simp at hother
  · intro hpasses
    have hopen := hnone.ensureLocationAccessible.mp hpasses
    simp at hopen

end

end Objects

end LedgerLight
