import LedgerLight.Properties.Tenants
import LedgerLight.Location.Service

/-!
# Archived locations are empty

A location is archived only when nothing is in stock there. The calls that write stock do not look
at the status of the location, so they can bring stock to one that is archived.

* `archived_empty` : from a database in which archived locations are empty, they are so after every
  part of a run, exactly if no call of it leaves stock at one of them, the other checks passed.
* `archived_stocked` : a location is archived, and then stock comes in.
-/

namespace LedgerLight

open Infra

/-! ## Locations and stock -/

/-- A call of the location service, or one that writes stock. -/
inductive ShelfCall where
  | location (c : LocationCall)
  | stock (c : StockCall)

/-- The location service beside the services that write stock. -/
def shelves : Machine Backend ShelfCall where
  step db
    | .location c => (c.exec db).2
    | .stock c => (c.exec db).2

namespace Backend

variable (db : Backend)

def isArchived (locationId : Id) : Bool :=
  (db.locations.lookup locationId).any fun l => l.status == .archived

/-- Nothing is in stock at an archived location. -/
def ArchivedEmpty : Prop :=
  ∀ k level, db.inventoryLevels.lookup k = some level → db.isArchived level.locationId = true →
    level.quantity ≤ 0

/-- The adjustment is at an archived location, and something is in stock there after it. -/
def overstocks (data : AdjustmentData) : Bool :=
  db.isArchived data.locationId &&
    (int4? data.delta).any fun delta => 0 < db.inStock data.productId data.locationId + delta

/-- A call that leaves stock at an archived location, and passes the checks that are made. -/
def FillsArchived : ShelfCall → Prop
  | .location _ => False
  | .stock c => db.admits c.env c.action = true ∧
      ∃ data ∈ c.action.adjustment? c.env, db.overstocks data = true

end Backend

section

variable {db db' : Backend} {env : Env} {data : AdjustmentData} {quantity : Int}
  {locationId : Id} {l : LocationRecord} {org : CurrentOrg}

/-! ## What a call leaves -/

theorem Backend.isArchived_setLocation (id : Id) :
    (db.setLocation locationId l).isArchived id =
      if id = locationId then l.status == .archived else db.isArchived id := by
  simp only [isArchived, setLocation, Table.lookup_insert_ite]
  by_cases hid : id = locationId
  · rw [if_pos hid, if_pos hid, Option.any_some]
  · rw [if_neg hid, if_neg hid]

/-- A location is written, and is not archived or is empty. -/
theorem Backend.ArchivedEmpty.setLocation (h : db.ArchivedEmpty)
    (hempty : l.status = .archived → ∀ k level, db.inventoryLevels.lookup k = some level →
      level.locationId = locationId → level.quantity ≤ 0) :
    (db.setLocation locationId l).ArchivedEmpty := by
  intro k level hk harchived
  have hlookup : db.inventoryLevels.lookup k = some level := hk
  rw [isArchived_setLocation] at harchived
  by_cases hid : level.locationId = locationId
  · rw [if_pos hid, beq_iff_eq] at harchived
    exact hempty harchived k level hlookup hid
  · rw [if_neg hid] at harchived
    exact h k level hlookup harchived

/-- A location is deleted with its levels. -/
theorem Backend.ArchivedEmpty.removeLocation (h : db.ArchivedEmpty) :
    (db.removeLocation locationId).ArchivedEmpty := by
  intro k level hk harchived
  rw [Backend.removeLocation, Table.lookup_filterRows] at hk
  obtain ⟨hlookup, hother⟩ := Option.filter_eq_some_iff.mp hk
  have hne : level.locationId ≠ locationId := by simpa using hother
  refine h k level hlookup ?_
  rw [isArchived, Backend.removeLocation] at harchived
  rw [isArchived, ← AList.lookup_erase_ne hne]
  exact harchived

theorem onHand_eq_zero (h : db.onHand locationId = 0) {k : Id} {level : InventoryLevel}
    (hk : db.inventoryLevels.lookup k = some level) (hat : level.locationId = locationId) :
    level.quantity ≤ 0 := by
  have hnone := Table.countRows_eq_zero.mp h k level hk
  rw [hat] at hnone
  simp only [beq_self_eq_true, Bool.true_and, decide_eq_false_iff_not] at hnone
  omega

/-- An adjustment leaves archived locations empty, unless it leaves stock at one. -/
theorem Backend.ArchivedEmpty.adjusted_iff (h : db.ArchivedEmpty) :
    (db.adjusted env data quantity).ArchivedEmpty ↔
      (db.isArchived data.locationId = true → quantity ≤ 0) := by
  obtain ⟨-, hplace⟩ := levelFound_pair db env data.productId data.locationId
  constructor
  · intro hafter harchived
    refine hafter (db.levelFound env data.productId data.locationId).1 _
      (AList.lookup_insert _) ?_
    show db.isArchived (db.levelFound env data.productId data.locationId).2.locationId = true
    rw [hplace]
    exact harchived
  · intro hquantity k level hk harchived
    have hat : db.isArchived level.locationId = true := harchived
    replace hk := (Table.lookup_insert_ite ..).symm.trans hk
    split at hk
    · cases hk
      refine hquantity ?_
      rw [← hplace]
      exact hat
    · exact h k level hk hat

/-- An adjustment that passes its checks overstocks exactly if it leaves stock. -/
theorem Backend.Adjustable.overstocks_iff (h : db.Adjustable env data quantity) :
    db.overstocks data = true ↔ db.isArchived data.locationId = true ∧ 0 < quantity := by
  have hq := h.quantity_eq
  rw [← inStock_eq env] at hq
  rw [overstocks, h.delta, Option.any_some, ← hq, Bool.and_eq_true, decide_eq_true_eq]

theorem Backend.ArchivedEmpty.withProduct {productData : CreateProductDto}
    (h : db.ArchivedEmpty) : (db.withProduct env org productData).ArchivedEmpty := h

/-- A call leaves archived locations empty, unless it is one of those that fill one. -/
theorem archivedEmpty_iff (h : db.ArchivedEmpty) (c : ShelfCall) :
    ¬ db.FillsArchived c ↔ (shelves.step db c).ArchivedEmpty := by
  cases c with
  | location c =>
    refine iff_of_true id ?_
    show (c.exec db).2.ArchivedEmpty
    rcases hexec : c.exec db with ⟨e | l, db'⟩
    · rw [LocationCall.exec_error hexec]
      exact h
    · have hrun := LocationCall.run_of_exec hexec
      obtain ⟨env, action⟩ := c
      cases action with
      | createLocation org data =>
        obtain ⟨-, -, -, rfl, -⟩ := createLocation_ok hrun
        exact h.setLocation fun hstatus => by cases hstatus
      | updateLocation org locationId data =>
        obtain ⟨l₀, hvisible, hguard, -, rfl, -⟩ := updateLocation_ok hrun
        refine h.setLocation fun hstatus k level hk hat => ?_
        have hnew : data.status.getD l₀.status = .archived := hstatus
        cases hdata : data.status with
        | some status =>
          rw [hdata, Option.getD_some] at hnew
          rw [hnew] at hdata
          exact onHand_eq_zero (hguard hdata) hk hat
        | none =>
          -- it was archived before
          rw [hdata, Option.getD_none] at hnew
          obtain ⟨hlookup, -, -⟩ := Backend.visibleLocation?_eq_some hvisible
          refine h k level hk ?_
          rw [hat, Backend.isArchived, hlookup, Option.any_some, hnew]
          rfl
      | deleteLocation org locationId =>
        obtain ⟨-, -, -, -, rfl, -⟩ := deleteLocation_ok hrun
        exact h.removeLocation
  | stock c =>
    show ¬ (_ ∧ _) ↔ (c.exec db).2.ArchivedEmpty
    rcases hexec : c.exec db with ⟨e | u, db'⟩
    · -- no check of a call that fails is missing
      have hfails : db.admits c.env c.action ≠ true := fun hadmits => by
        obtain ⟨db₁, hchange⟩ := Backend.admits_iff.mp hadmits
        have hok : c.exec db = (.ok (), db₁) := StockCall.exec_ok.mpr hchange
        rw [hok] at hexec
        cases hexec
      rw [StockCall.exec_error hexec]
      exact iff_of_true (fun hfills => hfails hfills.1) h
    · have hchange := StockCall.exec_ok.mp hexec
      have hadmits := Backend.admits_iff.mpr ⟨db', hchange⟩
      rw [and_iff_right hadmits]
      obtain ⟨env, action⟩ := c
      cases hchange with
      | @adjusted data quantity adjustable =>
        simp only [StockAction.adjustment?, Option.mem_some_iff, exists_eq_left',
          adjustable.overstocks_iff, h.adjusted_iff, not_and, not_lt]
      | @created org productData actorUserId db' creatable created =>
        cases created with
        | bare missing =>
          refine iff_of_true ?_ h.withProduct
          simp [StockAction.adjustment?, missing]
        | @stocked inventoryData quantity given adjustable =>
          have hsame : ∀ data, db.overstocks data =
              (db.withProduct env org productData).overstocks data := fun _ => rfl
          simp only [StockAction.adjustment?, given, Option.join_some, Option.map_some,
            Option.mem_some_iff, exists_eq_left', hsame, adjustable.overstocks_iff,
            h.withProduct.adjusted_iff, not_and, not_lt]

end

/-- **Archived locations stay empty** in every state that a run goes through, exactly if no call of
it that passes its checks leaves stock at an archived location. -/
theorem archived_empty (db : Backend) (h : db.ArchivedEmpty) (cs : List ShelfCall) :
    shelves.Meets (fun db c => ¬ db.FillsArchived c) db cs ↔
      ∀ cs₁ cs₂, cs = cs₁ ++ cs₂ → (shelves.run db cs₁).ArchivedEmpty :=
  Machine.meets_iff_invariant (I := Backend.ArchivedEmpty)
    (fun _ c hdb => archivedEmpty_iff hdb c) h

/-! ## A store that was archived -/

namespace Stockroom

theorem archivedEmpty_empty : empty.ArchivedEmpty := by
  intro k level hk
  cases hk

/-- Some tea comes to the store. -/
def delivered : ShelfCall := .stock (stocked 2 { organizationId := here } store 5)

/-- The store is archived. -/
def archived : ShelfCall :=
  .location
    { env := env 1
      action :=
        .updateLocation { organizationId := here } store { status := some .archived } }

end Stockroom

open Stockroom

/-- While it has stock, the store is not archived. -/
theorem archived_empty_stockroom :
    (shelves.run Stockroom.empty [delivered, archived]).ArchivedEmpty := by
  refine (archived_empty _ archivedEmpty_empty [delivered, archived]).mp ⟨?_, id, trivial⟩
    _ [] rfl
  rintro ⟨-, data, hdata, hfills⟩
  cases hdata
  exact absurd hfills (by decide)

/-- **Stock comes to an archived store.** The store is empty and is archived, and then an adjustment
brings five packets of tea there. -/
theorem archived_stocked :
    Stockroom.empty.ArchivedEmpty ∧
      ¬ (shelves.run Stockroom.empty [archived, delivered]).ArchivedEmpty := by
  refine ⟨archivedEmpty_empty, fun hafter => ?_⟩
  have hlevel : ((shelves.run Stockroom.empty [archived, delivered]).inventoryLevels.lookup
      ⟨2, 1⟩).any (fun level => level.locationId == store && level.quantity == 5) = true := by
    decide +kernel
  obtain ⟨level, hlookup, htest⟩ := (Option.any_eq_true _ _).mp hlevel
  simp only [Bool.and_eq_true, beq_iff_eq] at htest
  have hfull := hafter ⟨2, 1⟩ level hlookup (by rw [htest.1]; decide +kernel)
  omega

end LedgerLight
