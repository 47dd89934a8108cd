import LedgerLight.Inventory.Service
import Mathlib.Algebra.Order.Ring.Unbundled.Rat

/-!
# What an adjustment does

When `createAdjustmentWithTx` succeeds, and the database it leaves.

* `createAdjustmentWithTx_ok` : both, for a call that runs alone.
* `Adjustable.quantity_eq` : the new quantity is the old one and the delta.
-/

namespace LedgerLight

open Infra Prog

/-! ## Numbers -/

theorem int4?_eq_some {x : Rat} {n : Int} (h : int4? x = some n) :
    (n : Rat) = x ∧ isInt4 n = true := by
  unfold int4? at h
  split at h
  · next hc =>
    obtain rfl := Option.some.inj h
    exact ⟨Rat.coe_int_num_of_den_eq_one hc.1, hc.2⟩
  · cases h

theorem int4?_add {q n m : Int} {x : Rat} (hn : int4? (q + x) = some n) (hm : int4? x = some m) :
    n = q + m := by
  obtain ⟨hn, -⟩ := int4?_eq_some hn
  obtain ⟨hm, -⟩ := int4?_eq_some hm
  rw [← hm] at hn
  exact_mod_cast hn

theorem nonneg_of_int4? {x : Rat} {n : Int} (h : int4? x = some n) (hx : ¬ x < 0) : 0 ≤ n := by
  obtain ⟨hn, -⟩ := int4?_eq_some h
  rw [← hn, not_lt] at hx
  exact_mod_cast hx

theorem not_neg_of_int4? {x : Rat} {n : Int} (h : int4? x = some n) (hn : 0 ≤ n) : ¬ x < 0 := by
  obtain ⟨hx, -⟩ := int4?_eq_some h
  rw [← hx, not_lt]
  exact_mod_cast hn

/-! ## Levels -/

namespace Backend

variable (db : Backend)

/-- The level that an adjustment finds or makes. -/
def levelFound (env : Env) (productId locationId : Id) : Id × InventoryLevel :=
  (db.levelOf? productId locationId).getD (env.uuid 1, newLevel env productId locationId)

/-- The database with this level. -/
def upserted (env : Env) (productId locationId : Id) : Backend :=
  if (db.levelOf? productId locationId).isSome ∨ (db.inventoryLevels.lookup (env.uuid 1)).isSome
  then db
  else db.setLevel (env.uuid 1) (newLevel env productId locationId)

/-- The database after an adjustment to `quantity`. -/
def adjusted (env : Env) (data : AdjustmentData) (quantity : Int) : Backend :=
  let level := db.levelFound env data.productId data.locationId
  (db.setLevel level.1 { level.2 with quantity := quantity, updatedAt := env.now }).setAdjustment
    (env.uuid 2) (adjustmentRow env data)

variable {db} {env : Env} {productId locationId levelId : Id} {level : InventoryLevel}
  {found : Id × InventoryLevel}

theorem levelOf?_eq_some (h : db.levelOf? productId locationId = some found) :
    db.inventoryLevels.lookup found.1 = some found.2 ∧ found.2.productId = productId ∧
      found.2.locationId = locationId := by
  have htest := Table.pred_of_findRow? h
  simp only [Bool.and_eq_true, beq_iff_eq] at htest
  exact ⟨Table.lookup_of_findRow? h, htest.1, htest.2⟩

theorem levelFound_pair (db : Backend) (env : Env) (productId locationId : Id) :
    (db.levelFound env productId locationId).2.productId = productId ∧
      (db.levelFound env productId locationId).2.locationId = locationId := by
  unfold levelFound
  cases h : db.levelOf? productId locationId with
  | none => exact ⟨rfl, rfl⟩
  | some found => exact (levelOf?_eq_some h).2

theorem levelOf?_setLevel_new :
    (db.setLevel (env.uuid 1) (newLevel env productId locationId)).levelOf? productId locationId =
      some (env.uuid 1, newLevel env productId locationId) :=
  Table.findRow?_insert_of_pos (by simp [newLevel])

theorem setLevel_setLevel {l : InventoryLevel} :
    (db.setLevel levelId level).setLevel levelId l = db.setLevel levelId l := by
  unfold setLevel
  rw [AList.insert_insert]

/-- The level that was found or made is there, and writing it over is as if it had been there. -/
theorem lookup_upserted (env : Env)
    (hnew : db.levelOf? productId locationId = none →
      db.inventoryLevels.lookup (env.uuid 1) = none) :
    (db.upserted env productId locationId).levelOf? productId locationId =
        some (db.levelFound env productId locationId) ∧
      (db.upserted env productId locationId).inventoryLevels.lookup
        (db.levelFound env productId locationId).1 =
        some (db.levelFound env productId locationId).2 ∧
      ∀ l, (db.upserted env productId locationId).setLevel
          (db.levelFound env productId locationId).1 l =
        db.setLevel (db.levelFound env productId locationId).1 l := by
  unfold upserted levelFound
  cases h : db.levelOf? productId locationId with
  | none =>
    rw [hnew h, if_neg (by simp)]
    exact ⟨levelOf?_setLevel_new, AList.lookup_insert _, fun l => setLevel_setLevel⟩
  | some found =>
    simp only [Option.isSome_some, true_or, if_true]
    exact ⟨h, (levelOf?_eq_some h).1, fun _ => trivial⟩

end Backend

/-! ## Adjustments -/

/-- Everything that an adjustment to `quantity` wants. -/
structure Backend.Adjustable (db : Backend) (env : Env) (data : AdjustmentData) (quantity : Int) :
    Prop where
  accessible : ∀ org ∈ data.organization, getLocationScopeWhere org (some data.locationId) = true
  product : (db.products.lookup data.productId).isSome = true
  location : (db.locations.lookup data.locationId).isSome = true
  newLevel : db.levelOf? data.productId data.locationId = none →
    db.inventoryLevels.lookup (env.uuid 1) = none
  sum : int4? ((db.levelFound env data.productId data.locationId).2.quantity + data.delta) =
    some quantity
  nonneg : 0 ≤ quantity
  delta : int4? data.delta = some (adjustmentRow env data).delta
  reason : data.reason ≠ some none
  newAdjustment : db.inventoryAdjustments.lookup (env.uuid 2) = none
  organization : (db.organizations.lookup data.organizationId).isSome = true
  actor : (data.actorUserId.all fun userId => (db.users.lookup userId).isSome) = true

/-- The new quantity is the old one and the delta. -/
theorem Backend.Adjustable.quantity_eq {db : Backend} {env : Env} {data : AdjustmentData}
    {quantity : Int} (h : db.Adjustable env data quantity) :
    quantity = (db.levelFound env data.productId data.locationId).2.quantity +
      (adjustmentRow env data).delta :=
  int4?_add h.sum h.delta

section

variable {S : Type} {env : Env} {data : AdjustmentData} {db db' : Backend} {s s' : S} {u : Unit}
  {org : CurrentOrg} {productId locationId : Id}

theorem ensureAccessible_ok :
    (ensureAccessible org locationId).run db s = (.ok (u, db'), s') ↔
      getLocationScopeWhere org (some locationId) = true ∧ db' = db ∧ s' = s := by
  unfold ensureAccessible
  rw [run_ofExcept_ok]
  refine and_congr_left fun _ => ?_
  unfold ensureLocationAccessible getLocationScopeWhere
  cases org.hasAllLocations with
  | true => simp [Except.mapError]
  | false => by_cases h : locationId ∈ org.allowedLocationIds <;> simp [Except.mapError, h]

theorem ensureOrganizationAccessible_ok :
    (ensureOrganizationAccessible data).run db s = (.ok (u, db'), s') ↔
      (∀ org ∈ data.organization, getLocationScopeWhere org (some data.locationId) = true) ∧
        db' = db ∧ s' = s := by
  unfold ensureOrganizationAccessible
  cases data.organization with
  | none => simp [run_pure_ok]
  | some org => simp [ensureAccessible_ok]

theorem inventoryLevelUpsert_ok {found : Id × InventoryLevel} :
    (inventoryLevelUpsert env (env.uuid 1) productId locationId).run db s =
        (.ok (found, db'), s') ↔
      (db.levelOf? productId locationId = none →
        db.inventoryLevels.lookup (env.uuid 1) = none ∧
          (db.products.lookup productId).isSome = true ∧
          (db.locations.lookup locationId).isSome = true) ∧
      db.levelFound env productId locationId = found ∧
      db' = db.upserted env productId locationId ∧ s' = s := by
  rw [inventoryLevelUpsert, run_returning_ok]
  show _ ∧ ((db.upserted env productId locationId).levelOf? productId locationId).elim _ _ = _ ∧
    db' = db.upserted env productId locationId ∧ s' = s ↔ _
  cases h : db.levelOf? productId locationId with
  | some level =>
    have hnew : db.levelOf? productId locationId = none →
      db.inventoryLevels.lookup (env.uuid 1) = none := fun hno => by rw [hno] at h; cases h
    rw [(Backend.lookup_upserted env hnew).1]
    simp
  | none =>
    cases hid : db.inventoryLevels.lookup (env.uuid 1) with
    | some l => simp
    | none =>
      rw [(Backend.lookup_upserted env fun _ => hid).1]
      by_cases hforeign : (db.products.lookup productId).isSome = true ∧
        (db.locations.lookup locationId).isSome = true
      · simp [hforeign]
      · simp [hforeign]

/-- The level that was found or made, at its new quantity. -/
theorem inventoryLevelUpdate_ok {found updated : Id × InventoryLevel} {quantity : Rat}
    (hfound : db.inventoryLevels.lookup found.1 = some found.2) :
    (inventoryLevelUpdate env found quantity).run db s = (.ok (updated, db'), s') ↔
      ∃ n, int4? quantity = some n ∧
        (found.1, { found.2 with quantity := n, updatedAt := env.now }) = updated ∧
        db' = db.setLevel found.1 { found.2 with quantity := n, updatedAt := env.now } ∧
        s' = s := by
  rw [inventoryLevelUpdate, run_returning_ok]
  cases hn : int4? quantity with
  | none => simp
  | some n => simp [hfound, Backend.setLevel]

theorem inventoryAdjustmentCreate_ok {a : Id × InventoryAdjustment} :
    (inventoryAdjustmentCreate env (env.uuid 2) data).run db s = (.ok (a, db'), s') ↔
      (int4? data.delta = some (adjustmentRow env data).delta ∧ data.reason ≠ some none ∧
        db.inventoryAdjustments.lookup (env.uuid 2) = none ∧
        (db.organizations.lookup data.organizationId).isSome = true ∧
        (db.products.lookup data.productId).isSome = true ∧
        (db.locations.lookup data.locationId).isSome = true ∧
        (data.actorUserId.all fun userId => (db.users.lookup userId).isSome) = true) ∧
      a = (env.uuid 2, adjustmentRow env data) ∧
      db' = db.setAdjustment (env.uuid 2) (adjustmentRow env data) ∧ s' = s := by
  unfold inventoryAdjustmentCreate
  rw [run_bind_ok]
  simp only [run_exec_ok, run_pure_ok]
  have hdelta :
      int4? data.delta = some (adjustmentRow env data).delta ↔ int4? data.delta ≠ none := by
    cases h : int4? data.delta <;> simp [adjustmentRow, h]
  rw [hdelta]
  constructor
  · rintro ⟨v, d, t, ⟨hfails, rfl, rfl⟩, rfl, rfl, rfl⟩
    refine ⟨?_, rfl, rfl, rfl⟩
    split at hfails
    · cases hfails
    · next hvalid =>
      split at hfails
      · cases hfails
      · next hid =>
        split at hfails
        · next hforeign =>
          rw [not_or] at hvalid
          exact ⟨hvalid.1, hvalid.2, by simpa using hid, hforeign⟩
        · cases hfails
  · rintro ⟨⟨hdelta, hreason, hid, hforeign⟩, rfl, rfl, rfl⟩
    refine ⟨(), _, _, ⟨?_, rfl, rfl⟩, rfl, rfl, rfl⟩
    rw [if_neg (not_or.mpr ⟨hdelta, hreason⟩), hid, if_neg (by simp), if_pos hforeign]

/-- **When an adjustment succeeds**, and the database it leaves. -/
theorem createAdjustmentWithTx_ok {r : AdjustmentResponse} :
    (createAdjustmentWithTx env data).run db s = (.ok (r, db'), s') ↔
      ∃ quantity, db.Adjustable env data quantity ∧ db' = db.adjusted env data quantity ∧
        s' = s ∧
        r = { inventoryLevel := ((db.levelFound env data.productId data.locationId).1,
                { (db.levelFound env data.productId data.locationId).2 with
                  quantity := quantity, updatedAt := env.now })
              adjustment := (env.uuid 2, adjustmentRow env data) } := by
  unfold createAdjustmentWithTx
  constructor
  · intro h
    obtain ⟨v, d, t, hensure, h₁⟩ := run_bind_ok.mp h
    obtain ⟨haccess, rfl, rfl⟩ := ensureOrganizationAccessible_ok.mp hensure
    obtain ⟨found, d₁, t₁, hupsert, h₂⟩ := run_bind_ok.mp h₁
    obtain ⟨hnew, rfl, rfl, rfl⟩ := inventoryLevelUpsert_ok.mp hupsert
    obtain ⟨v₂, d₂, t₂, hrequire, h₃⟩ := run_bind_ok.mp h₂
    obtain ⟨hnonneg, rfl, rfl⟩ := run_require_ok.mp hrequire
    obtain ⟨updated, d₃, t₃, hupdate, h₄⟩ := run_bind_ok.mp h₃
    obtain ⟨-, hlookup, hset⟩ := Backend.lookup_upserted env fun hno => (hnew hno).1
    obtain ⟨n, hn, rfl, rfl, rfl⟩ := (inventoryLevelUpdate_ok hlookup).mp hupdate
    obtain ⟨a, d₅, t₅, hcreate, h₅⟩ := run_bind_ok.mp h₄
    obtain ⟨⟨hdelta, hreason, hid, horg, hproduct, hlocation, hactor⟩, rfl, rfl, rfl⟩ :=
      inventoryAdjustmentCreate_ok.mp hcreate
    obtain ⟨rfl, rfl, rfl⟩ := run_pure_ok.mp h₅
    rw [hset] at hid horg hproduct hlocation hactor
    refine ⟨n, ?_, by rw [hset]; rfl, rfl, rfl⟩
    exact { accessible := haccess, product := hproduct, location := hlocation
            newLevel := fun hno => (hnew hno).1, sum := hn, nonneg := nonneg_of_int4? hn hnonneg
            delta := hdelta, reason := hreason, newAdjustment := hid, organization := horg
            actor := hactor }
  · rintro ⟨quantity, hc, rfl, rfl, rfl⟩
    obtain ⟨-, hlookup, hset⟩ := Backend.lookup_upserted env hc.newLevel
    have hnonneg : ¬ ((db.levelFound env data.productId data.locationId).2.quantity : Rat) +
        data.delta < 0 := not_neg_of_int4? hc.sum hc.nonneg
    have hcreate : (inventoryAdjustmentCreate env (env.uuid 2) data).run
        (db.setLevel (db.levelFound env data.productId data.locationId).1
          { (db.levelFound env data.productId data.locationId).2 with
            quantity := quantity, updatedAt := env.now }) s' =
        (.ok ((env.uuid 2, adjustmentRow env data), db.adjusted env data quantity), s') :=
      inventoryAdjustmentCreate_ok.mpr ⟨⟨hc.delta, hc.reason, hc.newAdjustment, hc.organization,
        hc.product, hc.location, hc.actor⟩, rfl, rfl, rfl⟩
    refine run_bind_ok.mpr ⟨(), db, s', ensureOrganizationAccessible_ok.mpr
      ⟨hc.accessible, rfl, rfl⟩, ?_⟩
    refine run_bind_ok.mpr ⟨_, _, s', inventoryLevelUpsert_ok.mpr
      ⟨fun hno => ⟨hc.newLevel hno, hc.product, hc.location⟩, rfl, rfl, rfl⟩, ?_⟩
    refine run_bind_ok.mpr ⟨(), _, s', run_require_ok.mpr ⟨hnonneg, rfl, rfl⟩, ?_⟩
    refine run_bind_ok.mpr ⟨_, _, s', (inventoryLevelUpdate_ok hlookup).mpr
      ⟨quantity, hc.sum, rfl, rfl, rfl⟩, ?_⟩
    rw [hset]
    exact run_bind_ok.mpr ⟨_, _, s', hcreate, rfl⟩

end

end LedgerLight
