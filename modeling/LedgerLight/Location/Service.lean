import LedgerLight.Common.LocationScope
import LedgerLight.Domain.Backend

/-!
# The location service

`domain/location/location.service.ts`, the calls that change something. Each reads and checks, and
ends with one write: a failed call leaves the database as it was.

Deleting a location deletes by foreign key what belongs to it: the location rows of memberships,
the inventory levels and the adjustments; its orders stay, with no location.
-/

namespace LedgerLight

open Infra Prog

/-! ## Requests -/

structure CreateLocationDto where
  name : String
  code : Option String := none
  type : LocationType
  addressLine1 : String
  addressLine2 : Option String := none
  city : String
  stateProvince : Option String := none
  postalCode : Option String := none
  countryCode : String
  notes : Option String := none
deriving DecidableEq, Repr

/-- A missing field is left alone, `null` clears the column. -/
structure UpdateLocationDto where
  name : Option String := none
  code : Option (Option String) := none
  type : Option LocationType := none
  status : Option LocationStatus := none
  addressLine1 : Option String := none
  addressLine2 : Option (Option String) := none
  city : Option String := none
  stateProvince : Option (Option String) := none
  postalCode : Option (Option String) := none
  countryCode : Option String := none
  notes : Option (Option String) := none
deriving DecidableEq, Repr

/-- The row of `location.create`. -/
def createdLocation (env : Env) (org : CurrentOrg) (data : CreateLocationDto) : LocationRecord :=
  { organizationId := org.organizationId, name := data.name, code := data.code, type := data.type
    status := .active, addressLine1 := data.addressLine1, addressLine2 := data.addressLine2
    city := data.city, stateProvince := data.stateProvince, postalCode := data.postalCode
    countryCode := data.countryCode, notes := data.notes, createdAt := env.now
    updatedAt := env.now }

/-- The row after `location.update`. -/
def updatedLocation (env : Env) (data : UpdateLocationDto) (l : LocationRecord) :
    LocationRecord :=
  { l with
    name := data.name.getD l.name
    code := data.code.getD l.code
    type := data.type.getD l.type
    status := data.status.getD l.status
    addressLine1 := data.addressLine1.getD l.addressLine1
    addressLine2 := data.addressLine2.getD l.addressLine2
    city := data.city.getD l.city
    stateProvince := data.stateProvince.getD l.stateProvince
    postalCode := data.postalCode.getD l.postalCode
    countryCode := data.countryCode.getD l.countryCode
    notes := data.notes.getD l.notes
    updatedAt := env.now }

/-- The columns are wide enough. -/
def LocationRecord.fits (l : LocationRecord) : Bool :=
  l.name.length ≤ 200 && l.code.all (fun s => s.length ≤ 50) && l.addressLine1.length ≤ 255 &&
    l.addressLine2.all (fun s => s.length ≤ 255) && l.city.length ≤ 120 &&
    l.stateProvince.all (fun s => s.length ≤ 120) &&
    l.postalCode.all (fun s => s.length ≤ 40) && l.countryCode.length ≤ 2

/-! ## Reads -/

namespace Backend

variable (db : Backend)

/-- The location, if it is one of the organization that the actor may see. -/
def visibleLocation? (org : CurrentOrg) (locationId : Id) : Option LocationRecord :=
  (db.locations.lookup locationId).filter fun l =>
    l.organizationId == org.organizationId && getLocationScopeWhere org (some locationId)

/-- The number of locations that the actor may see. -/
def visibleLocations (org : CurrentOrg) : Nat :=
  db.locations.countRows fun id l =>
    l.organizationId == org.organizationId && getLocationScopeWhere org (some id)

/-- The inventory levels of a location that are above zero. -/
def onHand (locationId : Id) : Nat :=
  db.inventoryLevels.countRows fun _ level => level.locationId == locationId && 0 < level.quantity

def ordersAt (organizationId locationId : Id) : Nat :=
  db.orders.countRows fun _ o =>
    o.organizationId == organizationId && o.locationId == some locationId

/-- Another location of the organization has the name or the code of `l`. -/
def locationTaken (locationId : Id) (l : LocationRecord) : Bool :=
  (db.locations.findRow? fun id l' => id != locationId && l'.organizationId == l.organizationId &&
    (l'.name == l.name || (l.code.isSome && l'.code == l.code))).isSome

def setLocation (locationId : Id) (l : LocationRecord) : Backend :=
  { db with locations := db.locations.insert locationId l }

/-- `db` without a location and without what belongs to it. -/
def removeLocation (locationId : Id) : Backend :=
  { db with
    locations := db.locations.erase locationId
    membershipLocations := db.membershipLocations.filter fun row => row.locationId != locationId
    inventoryLevels := db.inventoryLevels.filterRows fun _ level => level.locationId != locationId
    inventoryAdjustments := db.inventoryAdjustments.filterRows fun _ a =>
      a.locationId != locationId
    orders := db.orders.mapRows fun o =>
      if o.locationId = some locationId then { o with locationId := none } else o }

end Backend

variable {S : Type}

def findLocationOrThrow (org : CurrentOrg) (locationId : Id) : Work S LocationRecord := do
  let existing ← select fun db => db.visibleLocation? org locationId
  match existing with
  | none => fail (.notFound "Location not found")
  | some existing => pure existing

def assertNoInventoryOnHand (locationId : Id) (e : BackendError) : Work S Unit := do
  let inventoryOnHand ← select fun db => db.onHand locationId
  require (inventoryOnHand = 0) e

def assertNoLocationHistory (organizationId locationId : Id) : Work S Unit := do
  let orderCount ← select fun db => db.ordersAt organizationId locationId
  require (orderCount = 0) (.conflict "Cannot delete a location with order history")

/-! ## Statements -/

/-- `location.create`. -/
def locationCreate (locationId : Id) (l : LocationRecord) : Work S Unit :=
  exec [.location locationId]
    (fun db =>
      if l.fits = false then some (.prisma "P2000")
      else if (db.locations.lookup locationId).isSome ∨ db.locationTaken locationId l = true then
        some (.prisma "P2002")
      else if (db.organizations.lookup l.organizationId).isSome then none
      else some (.prisma "P2003"))
    (fun db => db.setLocation locationId l)

/-- `location.update` by `id` and `organizationId`, with the row it answers. -/
def locationUpdate (organizationId locationId : Id) (f : LocationRecord → LocationRecord) :
    Work S LocationRecord :=
  returning [.location locationId]
    (fun db =>
      match (db.locations.lookup locationId).filter fun l => l.organizationId == organizationId with
      | none => some (.prisma "P2025")
      | some l =>
        if (f l).fits = false then some (.prisma "P2000")
        else if db.locationTaken locationId (f l) = true then some (.prisma "P2002")
        else none)
    (fun db =>
      match db.locations.lookup locationId with
      | none => db
      | some l => db.setLocation locationId (f l))
    (fun db => (db.locations.lookup locationId).elim (.error (.prisma "P2025")) .ok)

/-- `location.delete` by `id` and `organizationId`. -/
def locationDelete (organizationId locationId : Id) : Work S Unit :=
  exec [.location locationId]
    (fun db =>
      if ((db.locations.lookup locationId).any fun l => l.organizationId == organizationId) = true
      then none
      else some (.prisma "P2025"))
    (fun db => db.removeLocation locationId)

/-! ## Calls -/

/-- `createLocation`; the new row gets the id `env.uuid 0`. -/
def createLocation (env : Env) (org : CurrentOrg) (data : CreateLocationDto) :
    Work S LocationRecord := do
  require (org.hasAllLocations = true)
    (.forbidden "Only memberships with all-location access can create locations")
  locationCreate (env.uuid 0) (createdLocation env org data)
  pure (createdLocation env org data)

def updateLocation (env : Env) (org : CurrentOrg) (locationId : Id) (data : UpdateLocationDto) :
    Work S LocationRecord := do
  let _ ← findLocationOrThrow org locationId
  doWhen (data.status = some .archived)
    (assertNoInventoryOnHand locationId
      (.badRequest "Cannot archive a location with inventory on hand"))
  locationUpdate org.organizationId locationId (updatedLocation env data)

/-- `deleteLocation`; it answers the row that is deleted. -/
def deleteLocation (org : CurrentOrg) (locationId : Id) : Work S LocationRecord := do
  let existing ← findLocationOrThrow org locationId
  let locationCount ← select fun db => db.visibleLocations org
  require (1 < locationCount) (.conflict "Cannot delete the only location in an organization")
  assertNoInventoryOnHand locationId
    (.conflict "Cannot delete a location with inventory on hand")
  assertNoLocationHistory org.organizationId locationId
  locationDelete org.organizationId locationId
  pure existing

/-! ## What the calls do -/

section

variable {env : Env} {org : CurrentOrg} {locationId : Id} {db db' : Backend} {s s' : S}
  {l : LocationRecord} {u : Unit}

theorem Backend.visibleLocation?_eq_some (h : db.visibleLocation? org locationId = some l) :
    db.locations.lookup locationId = some l ∧ l.organizationId = org.organizationId ∧
      getLocationScopeWhere org (some locationId) = true := by
  obtain ⟨hl, htest⟩ := Option.filter_eq_some_iff.mp h
  simp only [Bool.and_eq_true, beq_iff_eq] at htest
  exact ⟨hl, htest.1, htest.2⟩

theorem findLocationOrThrow_ok
    (h : (findLocationOrThrow org locationId).run db s = (.ok (l, db'), s')) :
    db.visibleLocation? org locationId = some l ∧ db' = db ∧ s' = s := by
  obtain ⟨found, d, t, hread, h₁⟩ := run_bind_ok.mp h
  obtain ⟨rfl, rfl, rfl⟩ := run_select_ok.mp hread
  cases hfound : d.visibleLocation? org locationId with
  | none => rw [hfound] at h₁; exact (run_fail_ok.mp h₁).elim
  | some l' =>
    rw [hfound] at h₁
    obtain ⟨rfl, rfl, rfl⟩ := run_pure_ok.mp h₁
    exact ⟨rfl, rfl, rfl⟩

theorem assertNoInventoryOnHand_ok {e : BackendError}
    (h : (assertNoInventoryOnHand locationId e).run db s = (.ok (u, db'), s')) :
    db.onHand locationId = 0 ∧ db' = db ∧ s' = s := by
  obtain ⟨count, d, t, hread, h₁⟩ := run_bind_ok.mp h
  obtain ⟨rfl, rfl, rfl⟩ := run_select_ok.mp hread
  exact run_require_ok.mp h₁

theorem createLocation_ok {data : CreateLocationDto}
    (h : (createLocation env org data).run db s = (.ok (l, db'), s')) :
    org.hasAllLocations = true ∧ db.locations.lookup (env.uuid 0) = none ∧
      l = createdLocation env org data ∧
      db' = db.setLocation (env.uuid 0) (createdLocation env org data) ∧ s' = s := by
  obtain ⟨v, d, t, hall, h₁⟩ := run_bind_ok.mp h
  obtain ⟨hc, rfl, rfl⟩ := run_require_ok.mp hall
  obtain ⟨v₂, d₂, t₂, hcreate, h₂⟩ := run_bind_ok.mp h₁
  obtain ⟨hfails, rfl, rfl⟩ := run_exec_ok.mp hcreate
  obtain ⟨rfl, rfl, rfl⟩ := run_pure_ok.mp h₂
  split at hfails
  · cases hfails
  · split at hfails
    · cases hfails
    · next hnew =>
      simp only [not_or, Bool.not_eq_true, Option.isSome_eq_false_iff,
        Option.isNone_iff_eq_none] at hnew
      exact ⟨hc, hnew.1, rfl, rfl, rfl⟩

theorem updateLocation_ok {data : UpdateLocationDto}
    (h : (updateLocation env org locationId data).run db s = (.ok (l, db'), s')) :
    ∃ l₀, db.visibleLocation? org locationId = some l₀ ∧
      (data.status = some .archived → db.onHand locationId = 0) ∧
      l = updatedLocation env data l₀ ∧
      db' = db.setLocation locationId (updatedLocation env data l₀) ∧ s' = s := by
  obtain ⟨l₀, d, t, hfind, h₁⟩ := run_bind_ok.mp h
  obtain ⟨hl₀, rfl, rfl⟩ := findLocationOrThrow_ok hfind
  obtain ⟨v, d₂, t₂, hhand, h₂⟩ := run_bind_ok.mp h₁
  have hguard : (data.status = some .archived → d.onHand locationId = 0) ∧ d₂ = d ∧ t₂ = t := by
    rcases run_doWhen_ok.mp hhand with ⟨-, hrun⟩ | ⟨hno, rfl, rfl⟩
    · obtain ⟨h0, rfl, rfl⟩ := assertNoInventoryOnHand_ok hrun
      exact ⟨fun _ => h0, rfl, rfl⟩
    · exact ⟨fun h => absurd h hno, rfl, rfl⟩
  obtain ⟨hguard, rfl, rfl⟩ := hguard
  obtain ⟨-, hanswer, rfl, rfl⟩ := run_returning_ok.mp h₂
  obtain ⟨hlookup, -, -⟩ := Backend.visibleLocation?_eq_some hl₀
  refine ⟨l₀, hl₀, hguard, ?_, by rw [hlookup], rfl⟩
  rw [hlookup] at hanswer
  simp only [Backend.setLocation, AList.lookup_insert, Option.elim_some, Except.ok.injEq] at hanswer
  exact hanswer.symm

theorem deleteLocation_ok
    (h : (deleteLocation org locationId).run db s = (.ok (l, db'), s')) :
    db.visibleLocation? org locationId = some l ∧ 1 < db.visibleLocations org ∧
      db.onHand locationId = 0 ∧ db.ordersAt org.organizationId locationId = 0 ∧
      db' = db.removeLocation locationId ∧ s' = s := by
  obtain ⟨l₀, d, t, hfind, h₁⟩ := run_bind_ok.mp h
  obtain ⟨hl₀, rfl, rfl⟩ := findLocationOrThrow_ok hfind
  obtain ⟨count, d₂, t₂, hcount, h₂⟩ := run_bind_ok.mp h₁
  obtain ⟨rfl, rfl, rfl⟩ := run_select_ok.mp hcount
  obtain ⟨v₃, d₃, t₃, hrequire, h₃⟩ := run_bind_ok.mp h₂
  obtain ⟨hmore, rfl, rfl⟩ := run_require_ok.mp hrequire
  obtain ⟨v₄, d₄, t₄, hassert, h₄⟩ := run_bind_ok.mp h₃
  obtain ⟨hhand, rfl, rfl⟩ := assertNoInventoryOnHand_ok hassert
  obtain ⟨v₅, d₅, t₅, hhistory, h₅⟩ := run_bind_ok.mp h₄
  obtain ⟨orders, d₆, t₆, hread, h₆⟩ := run_bind_ok.mp hhistory
  obtain ⟨rfl, rfl, rfl⟩ := run_select_ok.mp hread
  obtain ⟨hnone, rfl, rfl⟩ := run_require_ok.mp h₆
  obtain ⟨v₇, d₇, t₇, hdelete, h₇⟩ := run_bind_ok.mp h₅
  obtain ⟨-, rfl, rfl⟩ := run_exec_ok.mp hdelete
  obtain ⟨rfl, rfl, rfl⟩ := run_pure_ok.mp h₇
  exact ⟨hl₀, hmore, hhand, hnone, rfl, rfl⟩

/-- What `deleteLocation` wants, and nothing more. -/
theorem deleteLocation_of_unused (hl : db.visibleLocation? org locationId = some l)
    (hmore : 1 < db.visibleLocations org) (hhand : db.onHand locationId = 0)
    (horders : db.ordersAt org.organizationId locationId = 0) :
    (deleteLocation org locationId).run db s = (.ok (l, db.removeLocation locationId), s) := by
  have hfind : (findLocationOrThrow org locationId).run db s = (.ok (l, db), s) := by
    refine run_bind_ok.mpr ⟨some l, db, s, run_select_ok.mpr ⟨hl.symm, rfl, rfl⟩, rfl⟩
  have hnoHand : (assertNoInventoryOnHand locationId
      (.conflict "Cannot delete a location with inventory on hand")).run db s =
      (.ok ((), db), s) :=
    run_bind_ok.mpr ⟨_, db, s, rfl, run_require_ok.mpr ⟨hhand, rfl, rfl⟩⟩
  have hnoOrders : (assertNoLocationHistory org.organizationId locationId).run db s =
      (.ok ((), db), s) :=
    run_bind_ok.mpr ⟨_, db, s, rfl, run_require_ok.mpr ⟨horders, rfl, rfl⟩⟩
  obtain ⟨hlookup, horganization, -⟩ := Backend.visibleLocation?_eq_some hl
  refine run_bind_ok.mpr ⟨l, db, s, hfind, run_bind_ok.mpr ⟨_, db, s, rfl, ?_⟩⟩
  refine run_bind_ok.mpr ⟨(), db, s, run_require_ok.mpr ⟨hmore, rfl, rfl⟩, ?_⟩
  refine run_bind_ok.mpr ⟨(), db, s, hnoHand, run_bind_ok.mpr ⟨(), db, s, hnoOrders, ?_⟩⟩
  refine run_bind_ok.mpr ⟨(), _, s, run_exec_ok.mpr ⟨?_, rfl, rfl⟩, rfl⟩
  rw [hlookup]
  simp [horganization]

/-! ## Calls that fail -/

theorem findLocationOrThrow_readOnly : (findLocationOrThrow org locationId : Work S _).ReadOnly :=
  readOnly_select.bind fun l => by cases l <;> trivial

theorem assertNoInventoryOnHand_readOnly {e : BackendError} :
    (assertNoInventoryOnHand locationId e : Work S _).ReadOnly :=
  readOnly_select.bind fun _ => readOnly_require

theorem createLocation_failsClean {data : CreateLocationDto} :
    (createLocation env org data : Work S _).FailsClean :=
  readOnly_require.bind_failsClean fun _ => failsClean_exec.bind_pure

theorem updateLocation_failsClean {data : UpdateLocationDto} :
    (updateLocation env org locationId data : Work S _).FailsClean := by
  refine findLocationOrThrow_readOnly.bind_failsClean fun _ =>
    (readOnly_doWhen assertNoInventoryOnHand_readOnly).bind_failsClean fun _ =>
      failsClean_returning fun db hfails => ?_
  cases hl : db.locations.lookup locationId with
  | none => rw [hl] at hfails; cases hfails
  | some l => exact ⟨_, by simp only [Backend.setLocation, AList.lookup_insert]; rfl⟩

theorem deleteLocation_failsClean :
    (deleteLocation org locationId : Work S _).FailsClean :=
  findLocationOrThrow_readOnly.bind_failsClean fun _ => readOnly_select.bind_failsClean fun _ =>
    readOnly_require.bind_failsClean fun _ =>
      assertNoInventoryOnHand_readOnly.bind_failsClean fun _ =>
        (readOnly_select.bind fun _ => readOnly_require).bind_failsClean fun _ =>
          failsClean_exec.bind_pure

end

/-! ## The service -/

/-- The calls that change something. -/
inductive LocationAction where
  | createLocation (org : CurrentOrg) (data : CreateLocationDto)
  | updateLocation (org : CurrentOrg) (locationId : Id) (data : UpdateLocationDto)
  | deleteLocation (org : CurrentOrg) (locationId : Id)

/-- A call with the clock and the ids it reads. -/
structure LocationCall where
  env : Env
  action : LocationAction

namespace LocationCall

def prog (c : LocationCall) : Work Unit LocationRecord :=
  match c.action with
  | .createLocation org data => createLocation c.env org data
  | .updateLocation org locationId data => updateLocation c.env org locationId data
  | .deleteLocation org locationId => deleteLocation org locationId

/-- The answer of the call and the database it leaves. -/
def exec (c : LocationCall) (db : Backend) : Except BackendError LocationRecord × Backend :=
  let r := c.prog.runAuto db ()
  (r.1, r.2.1)

theorem prog_failsClean (c : LocationCall) : c.prog.FailsClean := by
  unfold prog
  split
  · exact createLocation_failsClean
  · exact updateLocation_failsClean
  · exact deleteLocation_failsClean

variable {c : LocationCall} {db db' : Backend} {l : LocationRecord} {e : BackendError}

theorem exec_error (h : c.exec db = (.error e, db')) : db' = db := by
  obtain ⟨herror, hdb⟩ := Prod.ext_iff.mp h
  exact (c.prog_failsClean db () e db' () (Prod.ext herror (Prod.ext hdb rfl))).1

theorem run_of_exec (h : c.exec db = (.ok l, db')) : c.prog.run db () = (.ok (l, db'), ()) := by
  obtain ⟨hok, hdb⟩ := Prod.ext_iff.mp h
  exact runAuto_ok.mp (Prod.ext hok (Prod.ext hdb rfl))

end LocationCall

end LedgerLight
