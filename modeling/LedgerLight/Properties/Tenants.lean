import LedgerLight.Inventory.Calls

/-!
# Stock and organizations

A level joins a product and a location, and the organization of both should be the same one. The
calls that write stock do not look at the organization of the product and of the location that a
request names.

* `tenants_kept` : in every run, the stock stays within organizations and a call that names rows of
  another one is refused, exactly if such a call is refused for another reason.
* `tenants_mixed` : an organization stocks the product of another one.
-/

namespace LedgerLight

open Infra

/-! ## Owners -/

/-- The organization a call is made under. -/
def StockAction.organizationId : StockAction → Id
  | .createAdjustment data => data.organizationId
  | .createProduct org _ _ => org.organizationId

/-- The product a call names. -/
def StockAction.productId? : StockAction → Option Id
  | .createAdjustment data => some data.productId
  | .createProduct _ _ _ => none

/-- The location a call names. -/
def StockAction.locationId? : StockAction → Option Id
  | .createAdjustment data => some data.locationId
  | .createProduct _ productData _ => productData.inventory.join.map (·.locationId)

namespace Backend

variable (db : Backend)

def productOwner? (productId : Id) : Option Id :=
  (db.products.lookup productId).map (·.organizationId)

def locationOwner? (locationId : Id) : Option Id :=
  (db.locations.lookup locationId).map (·.organizationId)

/-- Every level joins a product and a location of one organization, and every adjustment has the
organization of its product and of its location. -/
structure Tenants : Prop where
  levels : ∀ k level, db.inventoryLevels.lookup k = some level →
    ∃ o, db.productOwner? level.productId = some o ∧ db.locationOwner? level.locationId = some o
  adjustments : ∀ k a, db.inventoryAdjustments.lookup k = some a →
    db.productOwner? a.productId = some a.organizationId ∧
      db.locationOwner? a.locationId = some a.organizationId

/-- The call names a product or a location of another organization. -/
def foreign (action : StockAction) : Bool :=
  ((action.productId?.bind db.productOwner?).any fun o => o != action.organizationId) ||
    ((action.locationId?.bind db.locationOwner?).any fun o => o != action.organizationId)

/-! ## The checks of a call -/

/-- What is in stock of a product at a location. -/
def inStock (productId locationId : Id) : Int :=
  (db.levelOf? productId locationId).elim 0 (·.2.quantity)

/-- The checks of an adjustment: the actor may use the location, the rows it names exist, its
numbers are ones the columns hold, and the stock does not fall below zero. -/
def admitsAdjustment (env : Env) (data : AdjustmentData) : Bool :=
  (data.organization.all fun org => getLocationScopeWhere org (some data.locationId)) &&
    ((db.levelOf? data.productId data.locationId).isSome ||
      (db.inventoryLevels.lookup (env.uuid 1)).isNone) &&
    (db.products.lookup data.productId).isSome && (db.locations.lookup data.locationId).isSome &&
    (int4? data.delta).any (fun delta =>
      0 ≤ db.inStock data.productId data.locationId + delta &&
        isInt4 (db.inStock data.productId data.locationId + delta)) &&
    data.reason != some none && (db.inventoryAdjustments.lookup (env.uuid 2)).isNone &&
    (db.organizations.lookup data.organizationId).isSome &&
    data.actorUserId.all fun userId => (db.users.lookup userId).isSome

/-- The checks of a new product. -/
def admitsProduct (env : Env) (org : CurrentOrg) (productData : CreateProductDto) : Bool :=
  (int4? productData.priceCents).isSome && isInt4 productData.reorderThreshold &&
    (productRow env org productData).fits && (db.products.lookup (env.uuid 0)).isNone &&
    !db.skuTaken org.organizationId productData.sku &&
    (db.organizations.lookup org.organizationId).isSome

/-- The checks of a call, those of its initial stock included. None of them is about the
organization of what the call names. -/
def admits (env : Env) : StockAction → Bool
  | .createAdjustment data => db.admitsAdjustment env data
  | .createProduct org productData actorUserId =>
    db.admitsProduct env org productData &&
      match productData.inventory with
      | none => true
      | some none => false
      | some (some inventoryData) =>
        (db.withProduct env org productData).admitsAdjustment env
          (initialStock org (env.uuid 0) inventoryData actorUserId)

end Backend

section

variable {db db' : Backend} {env : Env} {data : AdjustmentData} {quantity : Int} {o : Id}
  {action : StockAction}

theorem int4?_of_isInt4 {n : Int} (h : isInt4 n = true) : int4? (n : Rat) = some n := by
  unfold int4?
  rw [if_pos ⟨Rat.den_intCast n, h⟩]
  rfl

theorem Backend.inStock_eq (env : Env) :
    db.inStock data.productId data.locationId =
      (db.levelFound env data.productId data.locationId).2.quantity := by
  unfold inStock levelFound
  cases db.levelOf? data.productId data.locationId <;> rfl

theorem Backend.admitsAdjustment_iff :
    db.admitsAdjustment env data = true ↔ ∃ quantity, db.Adjustable env data quantity := by
  have hnew : ((db.levelOf? data.productId data.locationId).isSome = true ∨
      db.inventoryLevels.lookup (env.uuid 1) = none) ↔
      (db.levelOf? data.productId data.locationId = none →
        db.inventoryLevels.lookup (env.uuid 1) = none) := by
    cases db.levelOf? data.productId data.locationId <;> simp
  simp only [admitsAdjustment, Bool.and_eq_true, Bool.or_eq_true, bne_iff_ne, Option.all_eq_true,
    Option.any_eq_true, decide_eq_true_eq, Option.isNone_iff_eq_none, hnew]
  constructor
  · rintro ⟨⟨⟨⟨⟨⟨⟨⟨haccess, hnew⟩, hproduct⟩, hlocation⟩, delta, hdelta, hnonneg, hfits⟩, hreason⟩,
      hid⟩, horg⟩, hactor⟩
    have hrow : int4? data.delta = some (adjustmentRow env data).delta := by
      simp [adjustmentRow, hdelta]
    have hsum := int4?_of_isInt4 hfits
    rw [Rat.intCast_add, (int4?_eq_some hdelta).1, inStock_eq env] at hsum
    exact ⟨_, { accessible := haccess, product := hproduct, location := hlocation
                newLevel := hnew, sum := hsum, nonneg := inStock_eq env ▸ hnonneg
                delta := hrow, reason := hreason, newAdjustment := hid, organization := horg
                actor := by rw [Option.all_eq_true]; exact hactor }⟩
  · rintro ⟨quantity, h⟩
    have hq := h.quantity_eq
    rw [← inStock_eq env] at hq
    have hactor := h.actor
    rw [Option.all_eq_true] at hactor
    exact ⟨⟨⟨⟨⟨⟨⟨⟨h.accessible, h.newLevel⟩, h.product⟩, h.location⟩, _, h.delta,
      hq ▸ h.nonneg, hq ▸ (int4?_eq_some h.sum).2⟩, h.reason⟩, h.newAdjustment⟩, h.organization⟩,
      hactor⟩

theorem Backend.admitsProduct_iff {org : CurrentOrg} {productData : CreateProductDto} :
    db.admitsProduct env org productData = true ↔ db.Creatable env org productData := by
  have hprice : (int4? productData.priceCents).isSome = true ↔
      int4? productData.priceCents = some (productRow env org productData).priceCents := by
    cases h : int4? productData.priceCents <;> simp [productRow, h]
  simp only [admitsProduct, Bool.and_eq_true, Bool.not_eq_true', Option.isNone_iff_eq_none, hprice]
  constructor
  · rintro ⟨⟨⟨⟨⟨price, threshold⟩, fits⟩, new⟩, sku⟩, organization⟩
    exact ⟨price, threshold, fits, new, sku, organization⟩
  · rintro ⟨price, threshold, fits, new, sku, organization⟩
    exact ⟨⟨⟨⟨⟨price, threshold⟩, fits⟩, new⟩, sku⟩, organization⟩

/-- A call succeeds if its checks pass. -/
theorem Backend.admits_iff :
    db.admits env action = true ↔ ∃ db', StockChange db env action db' := by
  cases action with
  | createAdjustment data =>
    refine admitsAdjustment_iff.trans ?_
    constructor
    · rintro ⟨quantity, h⟩
      exact ⟨_, .adjusted h⟩
    · rintro ⟨_, ⟨h⟩⟩
      exact ⟨_, h⟩
  | createProduct org productData actorUserId =>
    simp only [admits, Bool.and_eq_true, admitsProduct_iff]
    constructor
    · rintro ⟨hcreatable, hstock⟩
      split at hstock
      · next missing => exact ⟨_, .created hcreatable (.bare missing)⟩
      · cases hstock
      · next inventoryData given =>
        obtain ⟨quantity, h⟩ := admitsAdjustment_iff.mp hstock
        exact ⟨_, .created hcreatable (.stocked given h)⟩
    · rintro ⟨_, _ | ⟨hcreatable, hcreated⟩⟩
      refine ⟨hcreatable, ?_⟩
      cases hcreated with
      | bare missing => rw [missing]
      | stocked given adjustable =>
        rw [given]
        exact admitsAdjustment_iff.mpr ⟨_, adjustable⟩

/-! ## What a call leaves -/

/-- An adjustment of a product and a location of the organization it is made under. -/
theorem Backend.Tenants.adjusted (h : db.Tenants)
    (hproduct : db.productOwner? data.productId = some data.organizationId)
    (hlocation : db.locationOwner? data.locationId = some data.organizationId) :
    (db.adjusted env data quantity).Tenants := by
  obtain ⟨hp, hl⟩ := levelFound_pair db env data.productId data.locationId
  constructor
  · intro k level hk
    replace hk := (Table.lookup_insert_ite ..).symm.trans hk
    split at hk
    · cases hk
      exact ⟨data.organizationId, by rw [hp]; exact hproduct, by rw [hl]; exact hlocation⟩
    · exact h.levels k level hk
  · intro k a hk
    replace hk := (Table.lookup_insert_ite ..).symm.trans hk
    split at hk
    · cases hk
      exact ⟨hproduct, hlocation⟩
    · exact h.adjustments k a hk

/-- The level of an adjustment joins the product and the location that it names. -/
theorem Backend.Tenants.of_adjusted (h : (db.adjusted env data quantity).Tenants) :
    ∃ o, db.productOwner? data.productId = some o ∧ db.locationOwner? data.locationId = some o := by
  obtain ⟨hp, hl⟩ := levelFound_pair db env data.productId data.locationId
  have howner := h.levels (db.levelFound env data.productId data.locationId).1 _
    (AList.lookup_insert _)
  dsimp only at howner
  rw [hp, hl] at howner
  exact howner

theorem Backend.productOwner?_withProduct {org : CurrentOrg} {productData : CreateProductDto} :
    (db.withProduct env org productData).productOwner? (env.uuid 0) = some org.organizationId := by
  show Option.map _ ((db.products.insert _ _).lookup _) = _
  rw [AList.lookup_insert]
  rfl

/-- A product that did not exist. -/
theorem Backend.Tenants.withProduct (h : db.Tenants) (org : CurrentOrg)
    (productData : CreateProductDto) (hnew : db.products.lookup (env.uuid 0) = none) :
    (db.withProduct env org productData).Tenants := by
  have howner : ∀ p o, db.productOwner? p = some o →
      (db.withProduct env org productData).productOwner? p = some o := by
    intro p o hp
    show Option.map _ ((db.products.insert _ _).lookup p) = some o
    rw [Table.lookup_insert_ite, if_neg]
    · exact hp
    · rintro rfl
      rw [productOwner?, hnew] at hp
      cases hp
  constructor
  · intro k level hk
    obtain ⟨o, hp, hl⟩ := h.levels k level hk
    exact ⟨o, howner _ _ hp, hl⟩
  · intro k a hk
    obtain ⟨hp, hl⟩ := h.adjustments k a hk
    exact ⟨howner _ _ hp, hl⟩

/-- The owner of a row that exists is the organization, if none is another one. -/
theorem owner_of_not_foreign {α : Type} {owner : α → Id} {row : Option α}
    (hrow : row.isSome = true) (h : (row.map owner).any (fun x => x != o) = false) :
    row.map owner = some o := by
  obtain ⟨a, rfl⟩ := Option.isSome_iff_exists.mp hrow
  simpa using h

/-- A call that names no rows of other organizations. -/
theorem StockChange.tenants (h : StockChange db env action db')
    (hforeign : db.foreign action = false) (ht : db.Tenants) : db'.Tenants := by
  rw [Backend.foreign, Bool.or_eq_false_iff] at hforeign
  cases h with
  | adjusted adjustable =>
    exact ht.adjusted (owner_of_not_foreign adjustable.product hforeign.1)
      (owner_of_not_foreign adjustable.location hforeign.2)
  | @created org productData actorUserId db' creatable created =>
    have hproduct := ht.withProduct org productData creatable.new
    cases created with
    | bare missing => exact hproduct
    | @stocked inventoryData quantity given adjustable =>
      have hlocation : db.locationOwner? inventoryData.locationId = some org.organizationId := by
        have hnamed := hforeign.2
        simp only [StockAction.locationId?, given] at hnamed
        exact owner_of_not_foreign adjustable.location hnamed
      exact hproduct.adjusted Backend.productOwner?_withProduct hlocation

end

/-! ## Runs -/

/-- A call that names rows of another organization and passes the other checks. -/
def Backend.Trespasses (db : Backend) (c : StockCall) : Prop :=
  db.foreign c.action = true ∧ db.admits c.env c.action = true

/-- The call keeps the stock within organizations; one that names rows of another organization
fails, and leaves all rows as they are. -/
def Backend.StaysWithin (db : Backend) (c : StockCall) : Prop :=
  (stock.step db c).Tenants ∧
    (db.foreign c.action = true → ∃ e, c.exec db = (.error e, db))

theorem Backend.Tenants.staysWithin_iff {db : Backend} (h : db.Tenants) (c : StockCall) :
    ¬ db.Trespasses c ↔ db.StaysWithin c := by
  constructor
  · intro hno
    rcases hexec : c.exec db with ⟨e | u, db'⟩
    · -- a call that fails is rolled back
      obtain rfl := StockCall.exec_error hexec
      have hstep : stock.step db' c = db' := congrArg Prod.snd hexec
      exact ⟨by rw [hstep]; exact h, fun _ => ⟨e, hexec⟩⟩
    · have hchange := StockCall.exec_ok.mp hexec
      have hstep : stock.step db c = db' := congrArg Prod.snd hexec
      have hforeign : db.foreign c.action = false := by
        rw [← Bool.not_eq_true]
        exact fun hforeign => hno ⟨hforeign, admits_iff.mpr ⟨db', hchange⟩⟩
      refine ⟨by rw [hstep]; exact hchange.tenants hforeign h, fun hnamed => ?_⟩
      rw [hforeign] at hnamed
      cases hnamed
  · rintro ⟨-, hfails⟩ ⟨hforeign, hadmits⟩
    obtain ⟨db', hchange⟩ := admits_iff.mp hadmits
    obtain ⟨e, herror⟩ := hfails hforeign
    have hok : c.exec db = (.ok (), db') := StockCall.exec_ok.mpr hchange
    rw [hok] at herror
    cases herror

/-- **Stock stays within organizations**: in every run every call does so, exactly if no call that
names rows of another organization passes the other checks. -/
theorem tenants_kept (db : Backend) (h : db.Tenants) (cs : List StockCall) :
    stock.Meets (fun db c => ¬ db.Trespasses c) db cs ↔ stock.Meets Backend.StaysWithin db cs :=
  Machine.meets_iff (fun _ c hdb => hdb.staysWithin_iff c)
    (fun _ c hdb hc => ((hdb.staysWithin_iff c).mp hc).1) h

namespace Stockroom

/-- A member of the other organization who may use all its locations stocks the tea in the annex. -/
def trespass : StockCall := stocked 1 { organizationId := elsewhere } annex 5

theorem tenants_empty : empty.Tenants := by
  constructor
  · intro k level hk
    cases hk
  · intro k a hk
    cases hk

end Stockroom

/-- Some tea is stocked in the store, and a member of the other organization who may only use the
annex is refused the store. -/
theorem tenants_kept_stockroom :
    stock.Meets Backend.StaysWithin Stockroom.empty
      [Stockroom.stocked 1 { organizationId := Stockroom.here } Stockroom.store 5,
        Stockroom.stocked 2
          { organizationId := Stockroom.elsewhere, hasAllLocations := false
            allowedLocationIds := [Stockroom.annex] } Stockroom.store 5] := by
  refine (tenants_kept _ Stockroom.tenants_empty _).mp ⟨?_, ?_, trivial⟩
  · rintro ⟨hforeign, -⟩
    exact absurd hforeign (by decide)
  · rintro ⟨-, hadmits⟩
    exact absurd hadmits (by decide)

/-- The other organization stocks the tea in its annex. -/
theorem tenants_mixed :
    Stockroom.empty.Tenants ∧ ¬ Stockroom.empty.StaysWithin Stockroom.trespass ∧
      ¬ (stock.step Stockroom.empty Stockroom.trespass).Tenants := by
  have hadmitted : Stockroom.empty.Trespasses Stockroom.trespass := by
    constructor <;> decide
  refine ⟨Stockroom.tenants_empty, fun hstays => ?_, fun hafter => ?_⟩
  · exact (Stockroom.tenants_empty.staysWithin_iff _).mpr hstays hadmitted
  · obtain ⟨db', hchange⟩ := Backend.admits_iff.mp hadmitted.2
    have hstep : stock.step Stockroom.empty Stockroom.trespass = db' :=
      congrArg Prod.snd (StockCall.exec_ok (u := ()) |>.mpr hchange)
    rw [hstep] at hafter
    cases hchange with
    | adjusted adjustable =>
      obtain ⟨o, hproduct, hlocation⟩ := hafter.of_adjusted
      have hhere : some o = some Stockroom.here := hproduct.symm.trans (by decide)
      have helsewhere : some o = some Stockroom.elsewhere := hlocation.symm.trans (by decide)
      exact absurd (hhere.symm.trans helsewhere) (by decide)

end LedgerLight
