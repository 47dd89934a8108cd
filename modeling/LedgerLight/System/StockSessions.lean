import LedgerLight.Infra.RowLocks
import LedgerLight.Inventory.Calls

/-!
# Concurrent calls that write stock

The calls that write inventory levels, statement by statement and in any order.

* `StockCommit` : what a call commits, said of the database that it is committed to.
* `StockCall.secures` : every call commits this and nothing else.
-/

namespace LedgerLight

open Infra Prog ReadCommitted

/-! ## Calls as transactions -/

namespace StockCall

/-- The call: its check of the location and its transaction. -/
def sessionProg (c : StockCall) : Work Unit Unit :=
  match c.action with
  | .createAdjustment data => do
    ensureOrganizationAccessible data
    let _ ← createAdjustmentWithTx c.env data
  | .createProduct org productData actorUserId =>
    match productData.inventory.join with
    | none => do
      let _ ← createProductTx c.env org productData actorUserId
    | some inventoryData => do
      ensureAccessible org inventoryData.locationId
      let _ ← createProductTx c.env org productData actorUserId

end StockCall

/-- The database while calls that write stock run. -/
abbrev StockSessions := Store Backend BackendKey Unit BackendError StockCall

/-- The calls, in any order of their statements. -/
def stockSessions : Machine StockSessions (Move StockCall Empty) :=
  transactions StockCall.sessionProg fun _ => id

/-! ## Locks -/

/-- What the rows of the stock hold, by the lock they are under. -/
abbrev StockCell : BackendKey → Type
  | .level _ _ => Option (Id × InventoryLevel)
  | .levelId _ => Bool
  | .adjustment _ => Bool
  | _ => Unit

def stockCell : ∀ key, Backend → StockCell key
  | .level productId locationId, db => db.levelOf? productId locationId
  | .levelId levelId, db => (db.inventoryLevels.lookup levelId).isSome
  | .adjustment adjustmentId, db => (db.inventoryAdjustments.lookup adjustmentId).isSome
  | .shop _, _ => ()
  | .user _, _ => ()
  | .email _, _ => ()
  | .membership _, _ => ()
  | .seat _ _, _ => ()
  | .scope _, _ => ()
  | .invites _, _ => ()
  | .inviteToken _, _ => ()
  | .inviteHash _, _ => ()
  | .location _, _ => ()
  | .product _, _ => ()
  | .sku _ _, _ => ()

/-- The tables of the stock. -/
def Backend.stockTables (db : Backend) : Table Id InventoryLevel × Table Id InventoryAdjustment :=
  (db.inventoryLevels, db.inventoryAdjustments)

section

variable {S : Type} {env : Env} {data : AdjustmentData} {db db' : Backend}
  {productId locationId levelId : Id} {level : InventoryLevel}

theorem stockCell_of_stockTables (h : db'.stockTables = db.stockTables) (key : BackendKey) :
    stockCell key db' = stockCell key db := by
  obtain ⟨hl, ha⟩ : db'.inventoryLevels = db.inventoryLevels ∧
      db'.inventoryAdjustments = db.inventoryAdjustments := by simpa [Backend.stockTables] using h
  cases key with
  | level p l => simp only [stockCell, Backend.levelOf?, hl]
  | levelId id => simp only [stockCell, hl]
  | adjustment id => simp only [stockCell, ha]
  | _ => rfl

/-- A level that is written is under the locks of its pair and of its id. -/
theorem stockCell_setLevel
    (hold : ∀ l, db.inventoryLevels.lookup levelId = some l →
      l.productId = level.productId ∧ l.locationId = level.locationId)
    {key : BackendKey} (hpair : key ≠ .level level.productId level.locationId)
    (hid : key = .levelId levelId → (db.inventoryLevels.lookup levelId).isSome = true) :
    stockCell key (db.setLevel levelId level) = stockCell key db := by
  cases key with
  | level p l =>
    have hother : ∀ l' : InventoryLevel, l'.productId = level.productId →
        l'.locationId = level.locationId → (l'.productId == p && l'.locationId == l) = false := by
      intro l' hp hl
      rw [Bool.and_eq_false_iff, beq_eq_false_iff_ne, beq_eq_false_iff_ne, hp, hl]
      by_contra h
      rw [not_or, not_not, not_not] at h
      exact hpair (by rw [h.1, h.2])
    have holds : ∀ l', db.inventoryLevels.lookup levelId = some l' →
        (l'.productId == p && l'.locationId == l) = false :=
      fun l' hl' => hother l' (hold l' hl').1 (hold l' hl').2
    show (db.setLevel levelId level).levelOf? p l = db.levelOf? p l
    unfold Backend.levelOf? Backend.setLevel
    exact Table.findRow?_insert_of_not (k := levelId) (v := level) (hother level rfl rfl) holds
  | levelId id =>
    show ((db.inventoryLevels.insert levelId level).lookup id).isSome = _
    rw [Table.lookup_insert_ite]
    split
    · next he =>
      subst he
      exact (hid rfl).symm
    · rfl
  | _ => rfl

theorem inventoryLevelUpsert_footprint :
    (inventoryLevelUpsert env levelId productId locationId : Work S _).Footprint stockCell := by
  refine footprint_returning fun key hkey d => ?_
  split
  · rfl
  · next hnew =>
    simp only [not_or, Bool.not_eq_true, Option.isSome_eq_false_iff,
      Option.isNone_iff_eq_none] at hnew
    refine stockCell_setLevel (fun l hl => ?_) (fun he => hkey ?_) fun he => ?_
    · rw [hnew.2] at hl
      cases hl
    · rw [he]
      exact List.mem_cons_self
    · rw [he] at hkey
      exact absurd (by simp) hkey

theorem inventoryLevelUpdate_footprint {found : Id × InventoryLevel} {quantity : Rat} :
    (inventoryLevelUpdate env found quantity : Work S _).Footprint stockCell := by
  refine footprint_returning fun key hkey d => ?_
  split
  · rfl
  · next l hl =>
    split
    · next hpair =>
      refine stockCell_setLevel (fun l' hl' => ?_) (fun he => hkey ?_) fun _ => by rw [hl]; rfl
      · cases hl.symm.trans hl'
        exact ⟨rfl, rfl⟩
      · rw [he, List.mem_singleton]
        exact congrArg₂ BackendKey.level hpair.1 hpair.2
    · rfl

theorem inventoryAdjustmentCreate_footprint {adjustmentId : Id} :
    (inventoryAdjustmentCreate env adjustmentId data : Work S _).Footprint stockCell := by
  refine Footprint.bind (footprint_exec fun key hkey d => ?_) fun _ => trivial
  cases key with
  | adjustment id =>
    have hne : id ≠ adjustmentId := fun he => hkey (by simp [he])
    exact congrArg Option.isSome (AList.lookup_insert_ne hne)
  | _ => rfl

theorem createAdjustmentWithTx_footprint :
    (createAdjustmentWithTx env data : Work S _).Footprint stockCell :=
  ensureOrganizationAccessible_readOnly.footprint.bind fun _ =>
    inventoryLevelUpsert_footprint.bind fun _ => readOnly_require.footprint.bind fun _ =>
      inventoryLevelUpdate_footprint.bind fun _ =>
        Footprint.bind inventoryAdjustmentCreate_footprint fun _ => trivial

theorem createProductTx_footprint {org : CurrentOrg} {productData : CreateProductDto}
    {actorUserId : Option Id} :
    (createProductTx env org productData actorUserId : Work S _).Footprint stockCell := by
  have hproduct : (productCreate env (env.uuid 0) org productData : Work S _).Footprint
      stockCell := by
    refine Footprint.bind (footprint_exec fun key _ d => ?_) fun _ => trivial
    have htables : (d.withProduct env org productData).stockTables = d.stockTables := rfl
    exact stockCell_of_stockTables htables key
  refine hproduct.bind fun _ => ?_
  split
  · trivial
  · trivial
  · exact Footprint.bind createAdjustmentWithTx_footprint fun _ => trivial

theorem StockCall.sessionProg_footprint (c : StockCall) : c.sessionProg.Footprint stockCell := by
  unfold sessionProg
  split
  · exact ensureOrganizationAccessible_readOnly.footprint.bind fun _ =>
      Footprint.bind createAdjustmentWithTx_footprint fun _ => trivial
  · split
    · exact Footprint.bind createProductTx_footprint fun _ => trivial
    · exact ensureAccessible_readOnly.footprint.bind fun _ =>
        Footprint.bind createProductTx_footprint fun _ => trivial

end

/-! ## What a call commits -/

/-- From `d` to `d'` the stock is adjusted: the level of the product at the location, or a new one,
is changed by the delta, and there is a new adjustment. -/
structure Backend.Adjusts (d : Backend) (env : Env) (data : AdjustmentData) (d' : Backend) :
    Prop where
  newLevel : d.levelOf? data.productId data.locationId = none →
    d.inventoryLevels.lookup (env.uuid 1) = none
  newAdjustment : d.inventoryAdjustments.lookup (env.uuid 2) = none
  nonneg : 0 ≤ (d.levelFound env data.productId data.locationId).2.quantity +
    (adjustmentRow env data).delta
  levels : d'.inventoryLevels =
    d.inventoryLevels.insert (d.levelFound env data.productId data.locationId).1
      { (d.levelFound env data.productId data.locationId).2 with
        quantity := (d.levelFound env data.productId data.locationId).2.quantity +
          (adjustmentRow env data).delta
        updatedAt := env.now }
  adjustments : d'.inventoryAdjustments =
    d.inventoryAdjustments.insert (env.uuid 2) (adjustmentRow env data)

/-- What a call commits: its adjustment, and nothing else of the stock. -/
def StockCommit (c : StockCall) (d d' : Backend) : Prop :=
  match c.action.adjustment? c.env with
  | none => d'.stockTables = d.stockTables
  | some data => d.Adjusts c.env data d'

section

variable {S : Type} {env : Env} {data : AdjustmentData} {level : Id × InventoryLevel}
  {rely : Nat → Backend → Backend → Prop} {locks : List BackendKey} {n : Nat}
  {writes : Backend → Backend} {d d' : Backend}

/-- The level that the call read is the one it would find now. -/
structure Backend.Finds (d : Backend) (env : Env) (data : AdjustmentData)
    (level : Id × InventoryLevel) : Prop where
  found : d.levelFound env data.productId data.locationId = level
  newLevel : d.levelOf? data.productId data.locationId = none →
    d.inventoryLevels.lookup (env.uuid 1) = none

/-- What the call holds under its locks. -/
theorem Backend.Finds.of_cells (h : d.Finds env data level)
    (hpair : stockCell (.level data.productId data.locationId) d' =
      stockCell (.level data.productId data.locationId) d)
    (hid : stockCell (.levelId (env.uuid 1)) d' = stockCell (.levelId (env.uuid 1)) d) :
    d'.Finds env data level := by
  replace hpair : d'.levelOf? data.productId data.locationId =
    d.levelOf? data.productId data.locationId := hpair
  replace hid : (d'.inventoryLevels.lookup (env.uuid 1)).isSome =
    (d.inventoryLevels.lookup (env.uuid 1)).isSome := hid
  constructor
  · rw [← h.found, levelFound, levelFound, hpair]
  · intro hno
    rw [hpair] at hno
    rw [h.newLevel hno] at hid
    exact Option.isNone_iff_eq_none.mp (by rw [← Option.not_isSome, hid]; rfl)

theorem Backend.Finds.of_tables (h : d.Finds env data level)
    (hw : d'.stockTables = d.stockTables) : d'.Finds env data level :=
  h.of_cells (stockCell_of_stockTables hw _) (stockCell_of_stockTables hw _)

theorem secures_ensureAccessible {org : CurrentOrg} {locationId : Id} {α : Type}
    {k : Unit → Work S α} {Q : α → Nat → (Backend → Backend) → Backend → Prop}
    (h : (k ()).Secures stockCell rely Q locks n writes d) :
    (ensureAccessible org locationId >>= k).Secures stockCell rely Q locks n writes d :=
  secures_ofExcept fun _ _ => h

theorem secures_ensureOrganizationAccessible {α : Type} {k : Unit → Work S α}
    {Q : α → Nat → (Backend → Backend) → Backend → Prop}
    (h : (k ()).Secures stockCell rely Q locks n writes d) :
    (ensureOrganizationAccessible data >>= k).Secures stockCell rely Q locks n writes d := by
  unfold ensureOrganizationAccessible
  split
  · exact h
  · exact secures_ensureAccessible h

/-- An upsert makes a level under an id that is new. -/
theorem upsert_new {db : Backend} {levelId productId locationId : Id} {other : Option BackendError}
    (h : (if (db.levelOf? productId locationId).isSome then none
      else if (db.inventoryLevels.lookup levelId).isSome then some (.prisma "P2002")
      else other) = none) :
    db.levelOf? productId locationId = none → db.inventoryLevels.lookup levelId = none := by
  intro hno
  rw [hno] at h
  cases hid : db.inventoryLevels.lookup levelId with
  | none => rfl
  | some l => rw [hid] at h; cases h

/-- The write of a level's quantity. -/
def inventoryLevelWrite (env : Env) (level : Id × InventoryLevel) (quantity : Rat) (db : Backend) :
    Backend :=
  match db.inventoryLevels.lookup level.1 with
  | none => db
  | some l =>
    if l.productId = level.2.productId ∧ l.locationId = level.2.locationId then
      db.setLevel level.1 { l with quantity := (int4? quantity).getD 0, updatedAt := env.now }
    else db

/-- The level that was found or made gets the quantity. -/
theorem Backend.Finds.write {quantity : Rat} {q : Int} (h : d.Finds env data level)
    (hq : int4? quantity = some q) :
    inventoryLevelWrite env level quantity (d.upserted env data.productId data.locationId) =
      d.setLevel level.1 { level.2 with quantity := q, updatedAt := env.now } := by
  obtain ⟨-, hlookup, hset⟩ := lookup_upserted env h.newLevel
  rw [h.found] at hlookup hset
  unfold inventoryLevelWrite
  simp only [hlookup, and_self, if_true, hq, Option.getD_some]
  exact hset _

/-- **What an adjustment commits**, with what it read under its locks. -/
theorem createAdjustmentWithTx_secures (hw : ∀ d, (writes d).stockTables = d.stockTables) :
    (createAdjustmentWithTx env data : Work S _).Secures stockCell rely
      (fun _ _ writes d => d.Adjusts env data (writes d)) locks n writes d := by
  unfold createAdjustmentWithTx
  refine secures_ensureOrganizationAccessible ?_
  refine secures_returning fun d₁ d₂ level _ hfails h₂ hlevel => ?_
  -- the level is found or made, and locked
  have hfinds : d₂.Finds env data level := by
    have hseen : (writes d₁).Finds env data _ := ⟨rfl, upsert_new hfails⟩
    have hheld := (hseen.of_tables (hw d₁).symm).of_cells (h₂.locked _ (by simp))
      (h₂.locked _ (by simp))
    have hwritten := hheld.of_tables (hw d₂)
    replace hlevel : (((writes d₂).upserted env data.productId data.locationId).levelOf?
        data.productId data.locationId).elim (.error (BackendError.prisma "P2025")) Except.ok =
      .ok level := hlevel
    rw [(Backend.lookup_upserted env hwritten.newLevel).1, hwritten.found] at hlevel
    cases hlevel
    exact hheld
  refine secures_require fun hnonneg => ?_
  refine secures_returning fun d₃ d₄ updated h₃ hfits h₄ _ => ?_
  intro d₅ h₅ hcreates d₆ h₆
  have hfinds₅ : d₅.Finds env data level :=
    ((hfinds.of_cells (h₃.locked _ (by simp)) (h₃.locked _ (by simp))).of_cells
      (h₄.locked _ (by simp)) (h₄.locked _ (by simp))).of_cells
        (h₅.locked _ (by simp)) (h₅.locked _ (by simp))
  have hfinds₆ := hfinds₅.of_cells (h₆.locked _ (by simp)) (h₆.locked _ (by simp))
  obtain ⟨q, hq⟩ : ∃ q, int4? ((level.2.quantity : Rat) + data.delta) = some q := by
    rw [← Option.isSome_iff_exists, ← Option.ne_none_iff_isSome]
    intro hno
    rw [hno, if_pos rfl] at hfits
    cases hfits
  have hwritten : ∀ d, d.Finds env data level →
      inventoryLevelWrite env level (level.2.quantity + data.delta)
        ((writes d).upserted env data.productId data.locationId) =
      (writes d).setLevel level.1 { level.2 with quantity := q, updatedAt := env.now } :=
    fun d h => (h.of_tables (hw d)).write hq
  -- the adjustment is made in the state with the new quantity
  have hcreate : (inventoryAdjustmentCreate env (env.uuid 2) data : Work Unit _).run
      (inventoryLevelWrite env level (level.2.quantity + data.delta)
        ((writes d₅).upserted env data.productId data.locationId)) () = (.ok (_, _), ()) :=
    run_bind_ok.mpr ⟨(), _, _, run_exec_ok.mpr ⟨hcreates, rfl, rfl⟩, rfl⟩
  obtain ⟨⟨hdelta, -, hid, -⟩, -, -, -⟩ := inventoryAdjustmentCreate_ok.mp hcreate
  rw [hwritten d₅ hfinds₅] at hid
  have hnew₅ : (stockCell (.adjustment (env.uuid 2)) d₅ : Bool) = false := by
    rw [← stockCell_of_stockTables (hw d₅)]
    exact (congrArg Option.isSome hid).trans rfl
  have hnew₆ : (d₆.inventoryAdjustments.lookup (env.uuid 2)).isSome = false :=
    (h₆.locked (.adjustment (env.uuid 2)) (by simp)).trans hnew₅
  obtain rfl := int4?_add hq hdelta
  show d₆.Adjusts env data ((inventoryLevelWrite env level (level.2.quantity + data.delta)
    ((writes d₆).upserted env data.productId data.locationId)).setAdjustment (env.uuid 2)
      (adjustmentRow env data))
  rw [hwritten d₆ hfinds₆]
  obtain ⟨hl, ha⟩ := Prod.ext_iff.mp (hw d₆)
  obtain ⟨rfl, hnew⟩ := hfinds₆
  exact { newLevel := hnew
          newAdjustment := by simpa using hnew₆
          nonneg := nonneg_of_int4? hq hnonneg
          levels := congrArg (AList.insert _ _) hl
          adjustments := congrArg (AList.insert _ _) ha }

theorem createProductTx_secures {org : CurrentOrg} {productData : CreateProductDto}
    {actorUserId : Option Id} :
    (createProductTx env org productData actorUserId : Work S _).Secures stockCell rely
      (fun _ _ writes d =>
        StockCommit ⟨env, .createProduct org productData actorUserId⟩ d (writes d))
      locks n id d := by
  have hw : ∀ d : Backend, (d.withProduct env org productData).stockTables = d.stockTables :=
    fun _ => rfl
  unfold createProductTx productCreate
  rw [bind_bind]
  refine secures_exec fun d₁ _ _ => ?_
  show Secures _ _ _ (Prog.bind (Prog.done _) _) _ _ _ _
  rw [Prog.bind]
  cases hinventory : productData.inventory with
  | none =>
    intro d₂ _
    simp only [StockCommit, StockAction.adjustment?, hinventory]
    exact hw d₂
  | some inventory =>
    cases inventory with
    | none => trivial
    | some inventoryData =>
      refine Secures.map (fun _ _ writes' d' h => ?_) (createAdjustmentWithTx_secures hw)
      simp only [StockCommit, StockAction.adjustment?, hinventory]
      exact h

/-- **Every call commits** its adjustment and nothing else of the stock. -/
theorem StockCall.secures (c : StockCall) :
    c.sessionProg.Secures stockCell rely (fun _ _ writes d => StockCommit c d (writes d)) [] 0 id
      d := by
  obtain ⟨env, action⟩ := c
  cases action with
  | createAdjustment data =>
    refine secures_ensureOrganizationAccessible ?_
    exact Secures.map (fun _ _ _ _ h => h) (createAdjustmentWithTx_secures fun _ => rfl)
  | createProduct org productData actorUserId =>
    unfold sessionProg
    dsimp only
    cases productData.inventory.join with
    | none => exact Secures.map (fun _ _ _ _ h => h) createProductTx_secures
    | some inventoryData =>
      exact secures_ensureAccessible
        (Secures.map (fun _ _ _ _ h => h) createProductTx_secures)

end

end LedgerLight
