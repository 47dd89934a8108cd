import LedgerLight.Dashboard.Service
import LedgerLight.Location.Reads
import LedgerLight.Payment.CallsSpec
import LedgerLight.Properties.ScopedWrites

/-!
# Reads of a member of some locations

Two databases with the same rows where a membership may look: every read answers alike in both. The
tests of a query let only such rows through, and a cursor that was returned is the id of one.

The foreign keys do not tie an order's customer to its organization, so the customers of the orders
are among the rows that have to be the same.

* `AgreeIn` : the rows of an organization, and of the locations in a scope, are the same.
* `orderRows_filter`, `levelRows_filter`, `locationRows_filter`, `products_filter` : what the
  queries see.
* `reads_in_scope` : the ten reads answer alike.
-/

namespace LedgerLight

open Infra

/-! ## Two databases alike in a scope -/

/-- The location is in the allowed set of the membership. -/
def CurrentOrg.Allows (org : CurrentOrg) (locationId : Option Id) : Prop :=
  ∃ l ∈ org.allowedLocationIds, locationId = some l

/-- The databases have the same products and customers of the organization, and the same locations,
levels and orders, with items and payments, at the allowed locations. -/
structure AgreeIn (org : CurrentOrg) (db db' : Backend) : Prop where
  products : ∀ k product, product.organizationId = org.organizationId →
    (db.products.lookup k = some product ↔ db'.products.lookup k = some product)
  customers : ∀ k customer, customer.organizationId = org.organizationId →
    (db.customers.lookup k = some customer ↔ db'.customers.lookup k = some customer)
  locations : ∀ k location, org.Allows (some k) →
    (db.locations.lookup k = some location ↔ db'.locations.lookup k = some location)
  inventoryLevels : ∀ k level, org.Allows (some level.locationId) →
    (db.inventoryLevels.lookup k = some level ↔ db'.inventoryLevels.lookup k = some level)
  orders : ∀ k o, org.Allows o.locationId →
    (db.orders.lookup k = some o ↔ db'.orders.lookup k = some o)

/-- The customers of the organization's orders at the allowed locations are the same. -/
def SameCustomers (org : CurrentOrg) (db db' : Backend) : Prop :=
  ∀ k o c, db.orders.lookup k = some o → o.organizationId = org.organizationId →
    org.Allows o.locationId → o.customerId = some c →
    db.customers.lookup c = db'.customers.lookup c

variable {p : Platform} {org : CurrentOrg} {db db' : Backend}

theorem AgreeIn.symm (h : AgreeIn org db db') : AgreeIn org db' db where
  products k product hp := (h.products k product hp).symm
  customers k customer hc := (h.customers k customer hc).symm
  locations k location hl := (h.locations k location hl).symm
  inventoryLevels k level hl := (h.inventoryLevels k level hl).symm
  orders k o ho := (h.orders k o ho).symm

theorem AgreeIn.sameCustomers_symm (h : AgreeIn org db db') (hc : SameCustomers org db db') :
    SameCustomers org db' db :=
  fun k o c ho horg hl hoc => (hc k o c ((h.orders k o hl).mpr ho) horg hl hoc).symm

/-- Where the orders have customers of their organization, these are the same. -/
theorem AgreeIn.sameCustomers (h : AgreeIn org db db')
    (hdb : ∀ k o c, db.orders.lookup k = some o → o.customerId = some c →
      ∃ customer, db.customers.lookup c = some customer ∧
        customer.organizationId = o.organizationId) : SameCustomers org db db' := by
  intro k o c ho horg _ hc
  obtain ⟨customer, hcustomer, hown⟩ := hdb k o c ho hc
  rw [hcustomer, (h.customers c customer (hown.trans horg)).mp hcustomer]

/-! ## Scopes -/

/-- The scope of a restricted membership is its allowed set. -/
theorem getLocationScopeWhere_iff (hrestricted : org.hasAllLocations = false)
    {locationId : Option Id} :
    getLocationScopeWhere org locationId = true ↔ org.Allows locationId := by
  unfold getLocationScopeWhere CurrentOrg.Allows
  rw [hrestricted, Bool.false_or]
  cases locationId with
  | none => exact ⟨fun h => (by cases h), fun ⟨_, _, h⟩ => (by cases h)⟩
  | some l =>
    refine List.contains_iff_mem.trans ⟨fun h => ⟨l, h, rfl⟩, ?_⟩
    rintro ⟨l', hl', he⟩
    cases he
    exact hl'

theorem visibleTo_iff (hrestricted : org.hasAllLocations = false) {o : OrderRecord} :
    o.visibleTo org = true ↔
      o.organizationId = org.organizationId ∧ org.Allows o.locationId := by
  unfold OrderRecord.visibleTo
  rw [Bool.and_eq_true, beq_iff_eq, getLocationScopeWhere_iff hrestricted]

theorem scopedLocation_iff (hrestricted : org.hasAllLocations = false)
    {row : Id × LocationRecord} :
    scopedLocation org row = true ↔
      row.2.organizationId = org.organizationId ∧ org.Allows (some row.1) := by
  unfold scopedLocation
  rw [Bool.and_eq_true, beq_iff_eq, getLocationScopeWhere_iff hrestricted]

/-- A location that was asked for is checked before it takes the place of the scope. -/
theorem allows_of_accessible (hrestricted : org.hasAllLocations = false)
    {locationId : Option Id} {allowUnspecified : Bool} {missing forbidden : String}
    (h : appResult (match locationId with
      | some l => ensureLocationAccessible org (some l) allowUnspecified missing forbidden
      | none => .ok ()) = .ok ()) (l : Id) (hl : locationId = some l) : org.Allows (some l) := by
  subst hl
  unfold ensureLocationAccessible at h
  dsimp only at h
  rw [hrestricted, if_neg Bool.false_ne_true] at h
  split at h
  · next hmem => exact ⟨l, List.contains_iff_mem.mp hmem, rfl⟩
  · cases h

/-- A row is at the location that was asked for, or in the scope. -/
theorem allows_of_located (hrestricted : org.hasAllLocations = false)
    {asked locationId : Option Id}
    (h : (match asked with
      | some l => locationId == some l
      | none => getLocationScopeWhere org locationId) = true)
    (hasked : ∀ l, asked = some l → org.Allows (some l)) : org.Allows locationId := by
  cases asked with
  | none => exact (getLocationScopeWhere_iff hrestricted).mp h
  | some l =>
    rw [beq_iff_eq.mp h]
    exact hasked l rfl

/-- Only visible orders count as sales. -/
theorem visible_of_sale {start stop : Instant} {o : OrderRecord}
    (h : salesWhere org start stop o = true) : o.visibleTo org = true := by
  unfold salesWhere at h
  rw [Bool.and_eq_true, Bool.and_eq_true] at h
  exact h.1.1

/-! ## What the queries see -/

namespace AgreeIn

theorem location_eq (h : AgreeIn org db db') {l : Id} (hl : org.Allows (some l)) :
    db.locations.lookup l = db'.locations.lookup l :=
  Option.ext fun location => h.locations l location hl

theorem locationRow?_eq (h : AgreeIn org db db') {locationId : Option Id}
    (hl : org.Allows locationId) : db.locationRow? locationId = db'.locationRow? locationId := by
  obtain ⟨l, hmem, rfl⟩ := hl
  show (db.locations.lookup l).map _ = (db'.locations.lookup l).map _
  rw [h.location_eq ⟨l, hmem, rfl⟩]

theorem orderRow_eq (h : AgreeIn org db db') (hc : SameCustomers org db db') {k : Id}
    {o : OrderRecord} (ho : db.orders.lookup k = some o)
    (horg : o.organizationId = org.organizationId) (hl : org.Allows o.locationId) :
    db'.orderRow k o = db.orderRow k o := by
  have hcustomer : db'.customerRow? o.customerId = db.customerRow? o.customerId := by
    unfold Backend.customerRow?
    cases hid : o.customerId with
    | none => rfl
    | some c =>
      rw [Option.bind_some, Option.bind_some, hc k o c ho horg hl hid]
  unfold Backend.orderRow
  rw [hcustomer, h.locationRow?_eq hl]

/-- **The orders** that a query of the member lets through. -/
theorem orderRows_filter (h : AgreeIn org db db') (hc : SameCustomers org db db')
    (hrestricted : org.hasAllLocations = false) {test : OrderRow → Bool}
    (htest : ∀ r, test r = true → r.order.visibleTo org = true) :
    db.orderRows.filter test = db'.orderRows.filter test := by
  have hshown {d d' : Backend} (h : AgreeIn org d d') (hc : SameCustomers org d d') (k : Id)
      (o : OrderRecord) (ho : d.orders.lookup k = some o) (hpass : test (d.orderRow k o) = true) :
      d'.orders.lookup k = some o ∧ d'.orderRow k o = d.orderRow k o := by
    have hvisible : o.visibleTo org = true := htest _ hpass
    obtain ⟨horg, hl⟩ := (visibleTo_iff hrestricted).mp hvisible
    exact ⟨(h.orders k o hl).mp ho, h.orderRow_eq hc ho horg hl⟩
  exact Table.joined_congr (hshown h hc) (hshown h.symm (h.sameCustomers_symm hc))

/-- **The locations** that the member may see. -/
theorem locationRows_filter (h : AgreeIn org db db') (hrestricted : org.hasAllLocations = false) :
    db.locationRows.filter (scopedLocation org) = db'.locationRows.filter (scopedLocation org) := by
  have hselect : db.locations.select (fun k location => scopedLocation org (k, location)) =
      db'.locations.select fun k location => scopedLocation org (k, location) :=
    Table.select_congr fun k location => and_congr_left fun hscoped =>
      h.locations k location ((scopedLocation_iff hrestricted).mp hscoped).2
  exact hselect

theorem select_levels (h : AgreeIn org db db') {test : Id → InventoryLevel → Bool}
    (htest : ∀ k level, test k level = true → org.Allows (some level.locationId)) :
    db.inventoryLevels.select test = db'.inventoryLevels.select test :=
  Table.select_congr fun k level =>
    and_congr_left fun hpass => h.inventoryLevels k level (htest k level hpass)

/-- **The locations with their stock.** -/
theorem locationListRows_filter (h : AgreeIn org db db')
    (hrestricted : org.hasAllLocations = false) {test : LocationListRow → Bool}
    (htest : ∀ r, test r = true → scopedLocation org r.row = true) :
    (db.locationListRows p).filter test = (db'.locationListRows p).filter test := by
  have hshown {d d' : Backend} (h : AgreeIn org d d') (k : Id) (location : LocationRecord)
      (hk : d.locations.lookup k = some location)
      (hpass : test (d.locationListRow p k location) = true) :
      d'.locations.lookup k = some location ∧
        d'.locationListRow p k location = d.locationListRow p k location := by
    have hscoped : scopedLocation org (k, location) = true := htest _ hpass
    have hl := ((scopedLocation_iff hrestricted).mp hscoped).2
    refine ⟨(h.locations k location hl).mp hk, ?_⟩
    unfold Backend.locationListRow
    rw [h.select_levels fun _ level hlevel => by rwa [beq_iff_eq.mp hlevel]]
  exact Table.joined_congr (hshown h) (hshown h.symm)

theorem product_of_organization (h : AgreeIn org db db') {k : Id} {product : ProductRecord}
    (hk : db.products.lookup k = some product)
    (horg : product.organizationId = org.organizationId) :
    db'.products.lookup k = db.products.lookup k := by
  rw [hk]
  exact (h.products k product horg).mp hk

/-- **The levels** that a query of the member lets through, with products and locations. -/
theorem levelRows_filter (h : AgreeIn org db db') {test : LevelRow → Bool}
    (htest : ∀ r, test r = true → org.Allows (some r.level.locationId) ∧
      ∃ product, r.product = some product ∧ product.2.organizationId = org.organizationId) :
    db.levelRows.filter test = db'.levelRows.filter test := by
  have hshown {d d' : Backend} (h : AgreeIn org d d') (k : Id) (level : InventoryLevel)
      (hk : d.inventoryLevels.lookup k = some level) (hpass : test (d.levelRow k level) = true) :
      d'.inventoryLevels.lookup k = some level ∧ d'.levelRow k level = d.levelRow k level := by
    obtain ⟨hl, product, hproduct, horg⟩ := htest _ hpass
    obtain ⟨row, hrow, rfl⟩ := Option.map_eq_some_iff.mp hproduct
    refine ⟨(h.inventoryLevels k level hl).mp hk, ?_⟩
    have hlocation : d'.locationRow? (some level.locationId) =
        d.locationRow? (some level.locationId) := (h.locationRow?_eq hl).symm
    unfold Backend.levelRow
    rw [h.product_of_organization hrow horg, hlocation]
  exact Table.joined_congr (hshown h) (hshown h.symm)

/-- **The products** of the organization, with what is in stock at the allowed locations. -/
theorem products_filter (h : AgreeIn org db db') (hrestricted : org.hasAllLocations = false) :
    ((db.productsWithLevels p org).filter fun r =>
        r.product.organizationId == org.organizationId) =
      (db'.productsWithLevels p org).filter fun r =>
        r.product.organizationId == org.organizationId := by
  have hshown {d d' : Backend} (h : AgreeIn org d d') (k : Id) (product : ProductRecord)
      (hk : d.products.lookup k = some product)
      (hpass : (product.organizationId == org.organizationId) = true) :
      d'.products.lookup k = some product ∧
        d'.productWithLevels p org k product = d.productWithLevels p org k product := by
    have hallowed (level : InventoryLevel) (hlevel : (level.productId == k &&
        getLocationScopeWhere org (some level.locationId)) = true) :
        org.Allows (some level.locationId) :=
      (getLocationScopeWhere_iff hrestricted).mp (Bool.and_eq_true _ _ ▸ hlevel).2
    refine ⟨(h.products k product (beq_iff_eq.mp hpass)).mp hk, ?_⟩
    unfold Backend.productWithLevels
    rw [h.select_levels fun _ => hallowed]
    congr 1
    refine List.map_congr_left fun row hrow => ?_
    have hmem := (p.arrange_perm _).subset hrow
    have hrowIn := hallowed row.2 (Table.mem_select.mp (show (row.1, row.2) ∈ _ from hmem)).2
    unfold Backend.levelAt
    rw [h.locationRow?_eq hrowIn]
  exact Table.joined_congr (hshown h) (hshown h.symm)

end AgreeIn

/-! ## Pages -/

/-- The cursor, if any, was returned by an earlier page. -/
def FromEarlierPage (next : Option Cursor → Except BackendError (Option Cursor))
    (cursor : Option Cursor) : Prop := ∀ c, cursor = some c → Returned next c

theorem FromEarlierPage.mono {next next' : Option Cursor → Except BackendError (Option Cursor)}
    (hnext : ∀ c c', next c = .ok (some c') → next' c = .ok (some c')) {cursor : Option Cursor}
    (h : FromEarlierPage next cursor) : FromEarlierPage next' cursor :=
  fun c hc => (h c hc).mono hnext

theorem nodup_orderRows (db : Backend) : (db.orderRows.map orderModel.id).Nodup :=
  Table.nodup_joined (fun _ _ => rfl) db.orders

theorem nodup_levelRows (db : Backend) : (db.levelRows.map levelModel.id).Nodup :=
  Table.nodup_joined (fun _ _ => rfl) db.inventoryLevels

theorem nodup_locationListRows (p : Platform) (db : Backend) :
    ((db.locationListRows p).map (locationModel LocationListRow.row).id).Nodup :=
  Table.nodup_joined (fun _ _ => rfl) db.locations

namespace AgreeIn

/-! ## Lists -/

theorem findMany_orders (h : AgreeIn org db db') (hc : SameCustomers org db db')
    (hrestricted : org.hasAllLocations = false) {test : OrderRow → Bool}
    (htest : ∀ r, test r = true → r.order.visibleTo org = true)
    {orderBy : List (OrderBy OrderRow)} :
    findMany p orderModel db.orderRows { test := test, orderBy := orderBy } =
      findMany p orderModel db'.orderRows { test := test, orderBy := orderBy } :=
  findMany_congr (h.orderRows_filter hc hrestricted htest) fun _ hnone => (by cases hnone)

theorem findMany_locations (h : AgreeIn org db db') (hrestricted : org.hasAllLocations = false)
    {orderBy : List (OrderBy (Id × LocationRecord))} :
    findMany p (locationModel id) db.locationRows
        { test := scopedLocation org, orderBy := orderBy } =
      findMany p (locationModel id) db'.locationRows
        { test := scopedLocation org, orderBy := orderBy } :=
  findMany_congr (h.locationRows_filter hrestricted) fun _ hnone => (by cases hnone)

/-! ## Orders -/

theorem getOrders_eq (h : AgreeIn org db db') (hc : SameCustomers org db db')
    (hrestricted : org.hasAllLocations = false) {query : GetOrdersQueryDto}
    (hcursor : FromEarlierPage (fun c =>
      (getOrders p db org { query with cursor := c }).map (·.nextCursor)) query.cursor) :
    getOrders p db org query = getOrders p db' org query := by
  unfold getOrders
  refine bind_congr_ok fun _ hchecked => ?_
  have hallowed := allows_of_accessible hrestricted hchecked
  have hvisible (r : OrderRow) (hr : ordersWhere p org query r = true) :
      r.order.visibleTo org = true := by
    unfold ordersWhere at hr
    simp only [Bool.and_eq_true, beq_iff_eq] at hr
    obtain ⟨⟨⟨horg, hlocation⟩, -⟩, -⟩ := hr
    exact (visibleTo_iff hrestricted).mpr
      ⟨horg, allows_of_located hrestricted hlocation hallowed⟩
  have hpage : paginateMany p orderModel db.orderRows (ordersWhere p org query)
        { limit := query.limit, cursor := query.cursor, sortBy := query.sortBy,
          sortOrder := query.sortOrder } =
      paginateMany p orderModel db'.orderRows (ordersWhere p org query)
        { limit := query.limit, cursor := query.cursor, sortBy := query.sortBy,
          sortOrder := query.sortOrder } :=
    paginateMany_congr_of_returned (nodup_orderRows db) (nodup_orderRows db')
      (h.orderRows_filter hc hrestricted hvisible) <| hcursor.mono fun c c' hnext => by
        obtain ⟨answer, hanswer, he⟩ := map_eq_ok.mp hnext
        obtain ⟨_, -, hanswer⟩ := bind_eq_ok.mp hanswer
        obtain ⟨page, hpage, hanswer⟩ := bind_eq_ok.mp hanswer
        obtain ⟨locations, -, hanswer⟩ := bind_eq_ok.mp hanswer
        cases hanswer
        exact map_eq_ok.mpr ⟨page, hpage, he⟩
  rw [hpage, h.findMany_locations hrestricted]

theorem getOrderById_eq (h : AgreeIn org db db') (hc : SameCustomers org db db')
    (hrestricted : org.hasAllLocations = false) (orderId : Id) (withItems : Bool) :
    getOrderById p db org orderId withItems = getOrderById p db' org orderId withItems := by
  unfold getOrderById
  have hvisible (r : OrderRow) (hr : orderByIdWhere org orderId r = true) :
      r.order.visibleTo org = true := (Bool.and_eq_true _ _ ▸ hr).2
  rw [h.findMany_orders hc hrestricted hvisible]

/-! ## The stock -/

theorem snapshot_eq (h : AgreeIn org db db') (hrestricted : org.hasAllLocations = false) :
    getAggregatedInventorySnapshot p db org = getAggregatedInventorySnapshot p db' org := by
  unfold getAggregatedInventorySnapshot
  rw [h.products_filter hrestricted]

theorem getInventory_eq (h : AgreeIn org db db') (hrestricted : org.hasAllLocations = false)
    (query : GetInventoryQueryDto) :
    getInventory p db org query = getInventory p db' org query := by
  unfold getInventory
  rw [h.snapshot_eq hrestricted]

/-- A restricted member's count is of the rows of the stock page. -/
theorem getLowStockProductCount_eq (h : AgreeIn org db db')
    (hrestricted : org.hasAllLocations = false) :
    getLowStockProductCount p db org = getLowStockProductCount p db' org := by
  have hown : hasRestrictedLocations org = true := by
    unfold hasRestrictedLocations
    rw [hrestricted]
    rfl
  unfold getLowStockProductCount
  rw [if_pos hown, if_pos hown, h.snapshot_eq hrestricted]

theorem levelsPage_eq (h : AgreeIn org db db') (hrestricted : org.hasAllLocations = false)
    {query : GetLevelsQueryDto}
    (hallowed : ∀ l, query.locationId = some l → org.Allows (some l))
    (hcursor : FromEarlierPage (fun c =>
      (levelsPage p db org { query with cursor := c }).map (·.nextCursor)) query.cursor) :
    levelsPage p db org query = levelsPage p db' org query := by
  have hrows : db.levelRows.filter (levelsWhere p org query) =
      db'.levelRows.filter (levelsWhere p org query) := by
    refine h.levelRows_filter fun r hr => ?_
    unfold levelsWhere at hr
    obtain ⟨hproduct, hlocation⟩ := (Bool.and_eq_true _ _).mp hr
    constructor
    · refine allows_of_located hrestricted ?_ hallowed
      rw [← hlocation]
      cases query.locationId with
      | none => rfl
      | some l => rfl
    · cases hsome : r.product with
      | none =>
        rw [hsome] at hproduct
        cases hproduct
      | some product =>
        rw [hsome] at hproduct
        simp only [Option.any_some, Bool.and_eq_true, beq_iff_eq] at hproduct
        exact ⟨product, rfl, hproduct.1.1⟩
  unfold levelsPage at hcursor ⊢
  by_cases hlow : query.lowStockOnly = true
  · rw [if_pos hlow, if_pos hlow]
    unfold lowLevels
    rw [findMany_congr hrows fun _ hnone => (by cases hnone)]
  · rw [if_neg hlow, if_neg hlow]
    refine paginateMany_congr_of_returned (nodup_levelRows db) (nodup_levelRows db') hrows ?_
    refine hcursor.mono fun c c' hnext => ?_
    dsimp only at hnext
    rw [if_neg hlow] at hnext
    exact hnext

theorem getLevels_eq (h : AgreeIn org db db') (hrestricted : org.hasAllLocations = false)
    {query : GetLevelsQueryDto}
    (hcursor : FromEarlierPage (fun c =>
      (getLevels p db org { query with cursor := c }).map (·.nextCursor)) query.cursor) :
    getLevels p db org query = getLevels p db' org query := by
  unfold getLevels
  refine bind_congr_ok fun _ hchecked => ?_
  have hallowed := allows_of_accessible hrestricted hchecked
  have hpage : levelsPage p db org query = levelsPage p db' org query :=
    h.levelsPage_eq hrestricted hallowed <| hcursor.mono fun c c' hnext => by
      obtain ⟨answer, hanswer, he⟩ := map_eq_ok.mp hnext
      obtain ⟨_, -, hanswer⟩ := bind_eq_ok.mp hanswer
      obtain ⟨page, hpage, hanswer⟩ := bind_eq_ok.mp hanswer
      obtain ⟨locations, -, hanswer⟩ := bind_eq_ok.mp hanswer
      cases hanswer
      exact map_eq_ok.mpr ⟨page, hpage, he⟩
  rw [hpage, h.findMany_locations hrestricted, h.getLowStockProductCount_eq hrestricted]

/-! ## The dashboard -/

theorem select_orders (h : AgreeIn org db db') {test : Id → OrderRecord → Bool}
    (htest : ∀ k o, test k o = true → org.Allows o.locationId) :
    db.orders.select test = db'.orders.select test :=
  Table.select_congr fun k o => and_congr_left fun hpass => h.orders k o (htest k o hpass)

theorem getSummary_eq (h : AgreeIn org db db') (hrestricted : org.hasAllLocations = false)
    (now : Instant) : getSummary p now db org = getSummary p now db' org := by
  have hsales (start stop : Instant) :
      db.orders.select (fun _ o => salesWhere org start stop o) =
        db'.orders.select fun _ o => salesWhere org start stop o :=
    h.select_orders fun _ _ ho => ((visibleTo_iff hrestricted).mp (visible_of_sale ho)).2
  have hcustomers : db.customers.select
        (fun _ c => c.organizationId == org.organizationId && c.status == .active) =
      db'.customers.select
        fun _ c => c.organizationId == org.organizationId && c.status == .active :=
    Table.select_congr fun k c => and_congr_left fun hc =>
      h.customers k c (beq_iff_eq.mp (Bool.and_eq_true _ _ ▸ hc).1)
  unfold getSummary
  dsimp only
  rw [Table.sumRows_eq, Table.sumRows_eq, Table.countRows_eq_length, Table.countRows_eq_length,
    Table.countRows_eq_length, Table.countRows_eq_length, hsales, hcustomers,
    h.getLowStockProductCount_eq hrestricted]

theorem getSalesOverview_eq (h : AgreeIn org db db') (hc : SameCustomers org db db')
    (hrestricted : org.hasAllLocations = false) (now : Instant)
    (query : DashboardSalesOverviewQueryDto) :
    getSalesOverview p now db org query = getSalesOverview p now db' org query := by
  unfold getSalesOverview
  refine bind_congr_ok fun anchor _ => ?_
  dsimp only
  rw [h.findMany_orders hc hrestricted fun _ => visible_of_sale]

/-! ## Locations -/

theorem getLocations_eq (h : AgreeIn org db db') (hrestricted : org.hasAllLocations = false)
    {query : GetLocationsQueryDto}
    (hcursor : FromEarlierPage (fun c =>
      (getLocations p db org { query with cursor := c }).map (·.nextCursor)) query.cursor) :
    getLocations p db org query = getLocations p db' org query := by
  have hscoped (r : LocationListRow) (hr : locationsWhere p org query r = true) :
      scopedLocation org r.row = true := by
    unfold locationsWhere at hr
    simp only [Bool.and_eq_true] at hr
    exact hr.1.1.1
  have hpage : paginateMany p (locationModel (·.row)) (db.locationListRows p)
        (locationsWhere p org query)
        { limit := query.limit, cursor := query.cursor, orderBy := some (locationsOrder query),
          sortBy := query.sortBy, sortOrder := query.sortOrder } =
      paginateMany p (locationModel (·.row)) (db'.locationListRows p) (locationsWhere p org query)
        { limit := query.limit, cursor := query.cursor, orderBy := some (locationsOrder query),
          sortBy := query.sortBy, sortOrder := query.sortOrder } :=
    paginateMany_congr_of_returned (nodup_locationListRows p db) (nodup_locationListRows p db')
      (h.locationListRows_filter hrestricted hscoped) <| hcursor.mono fun c c' hnext => by
        obtain ⟨answer, hanswer, he⟩ := map_eq_ok.mp hnext
        obtain ⟨page, hpage, hanswer⟩ := bind_eq_ok.mp hanswer
        cases hanswer
        exact map_eq_ok.mpr ⟨page, hpage, he⟩
  unfold getLocations
  rw [hpage]

theorem getLocationById_eq (h : AgreeIn org db db') (hrestricted : org.hasAllLocations = false)
    (locationId : Id) : getLocationById db org locationId = getLocationById db' org locationId := by
  have hvisible : db.visibleLocation? org locationId = db'.visibleLocation? org locationId := by
    refine Option.ext fun location => ?_
    unfold Backend.visibleLocation?
    rw [Option.filter_eq_some_iff, Option.filter_eq_some_iff]
    refine and_congr_left fun hpass => h.locations locationId location ?_
    have hscoped : scopedLocation org (locationId, location) = true := hpass
    exact ((scopedLocation_iff hrestricted).mp hscoped).2
  unfold getLocationById
  rw [hvisible]

/-! ## Payments -/

theorem getPaymentByOrderId_eq {S : Type} (h : AgreeIn org db db')
    (hrestricted : org.hasAllLocations = false) (env : Env) (orderId : Id) (s s' : S) :
    ((getPaymentByOrderId env org orderId : Tx S PaymentDto).runAuto db.shop s).1 =
      ((getPaymentByOrderId env org orderId : Tx S PaymentDto).runAuto db'.shop s').1 := by
  have hvisible : (db.shop.order? orderId).filter (·.visibleTo org) =
      (db'.shop.order? orderId).filter (·.visibleTo org) := by
    refine Option.ext fun o => ?_
    rw [Option.filter_eq_some_iff, Option.filter_eq_some_iff]
    exact and_congr_left fun hv => h.orders orderId o ((visibleTo_iff hrestricted).mp hv).2
  rw [getPaymentByOrderId_answer, getPaymentByOrderId_answer, hvisible]

end AgreeIn

/-! ## All reads -/

/-- The reads of the member answer alike, for every query whose cursor was returned. -/
structure AnswersAlike (p : Platform) (org : CurrentOrg) (db db' : Backend) : Prop where
  getOrders : ∀ query : GetOrdersQueryDto,
    FromEarlierPage (fun c => (getOrders p db org { query with cursor := c }).map (·.nextCursor))
      query.cursor →
    getOrders p db org query = getOrders p db' org query
  getOrderById : ∀ orderId withItems,
    getOrderById p db org orderId withItems = getOrderById p db' org orderId withItems
  getPaymentByOrderId : ∀ (S : Type) (env : Env) (orderId : Id) (s s' : S),
    ((getPaymentByOrderId env org orderId : Tx S PaymentDto).runAuto db.shop s).1 =
      ((getPaymentByOrderId env org orderId : Tx S PaymentDto).runAuto db'.shop s').1
  getInventory : ∀ query : GetInventoryQueryDto,
    FromEarlierPage
      (fun c => (getInventory p db org { query with cursor := c }).map (·.nextCursor))
      query.cursor →
    getInventory p db org query = getInventory p db' org query
  getLevels : ∀ query : GetLevelsQueryDto,
    FromEarlierPage (fun c => (getLevels p db org { query with cursor := c }).map (·.nextCursor))
      query.cursor →
    getLevels p db org query = getLevels p db' org query
  getLowStockProductCount : getLowStockProductCount p db org = getLowStockProductCount p db' org
  getSummary : ∀ now, getSummary p now db org = getSummary p now db' org
  getSalesOverview : ∀ now query,
    getSalesOverview p now db org query = getSalesOverview p now db' org query
  getLocations : ∀ query : GetLocationsQueryDto,
    FromEarlierPage
      (fun c => (getLocations p db org { query with cursor := c }).map (·.nextCursor))
      query.cursor →
    getLocations p db org query = getLocations p db' org query
  getLocationById : ∀ locationId,
    getLocationById db org locationId = getLocationById db' org locationId

/-- **What a restricted member reads does not depend on other locations.** -/
theorem reads_in_scope (hrestricted : org.hasAllLocations = false) (h : AgreeIn org db db')
    (hc : SameCustomers org db db') : AnswersAlike p org db db' where
  getOrders _ hcursor := h.getOrders_eq hc hrestricted hcursor
  getOrderById := h.getOrderById_eq hc hrestricted
  getPaymentByOrderId _ := h.getPaymentByOrderId_eq hrestricted
  getInventory query _ := h.getInventory_eq hrestricted query
  getLevels _ hcursor := h.getLevels_eq hrestricted hcursor
  getLowStockProductCount := h.getLowStockProductCount_eq hrestricted
  getSummary := h.getSummary_eq hrestricted
  getSalesOverview := h.getSalesOverview_eq hc hrestricted
  getLocations _ hcursor := h.getLocations_eq hrestricted hcursor
  getLocationById := h.getLocationById_eq hrestricted

/-! ## A member of one store -/

namespace Stockroom

def annexLevel : Id := ⟨0, 60⟩

/-- Tea comes to the annex, which the member may not see. -/
def teaAtAnnex : Backend :=
  { selling with
    inventoryLevels := AList.insert annexLevel
      { productId := tea, locationId := annex, quantity := 5, createdAt := 0, updatedAt := 0 } ∅ }

theorem agreeIn_teaAtAnnex : AgreeIn storeOnly selling teaAtAnnex where
  products _ _ _ := Iff.rfl
  customers _ _ _ := Iff.rfl
  locations _ _ _ := Iff.rfl
  orders _ _ _ := Iff.rfl
  inventoryLevels k level hl := by
    refine ⟨fun h => (by cases h), fun h => ?_⟩
    exfalso
    obtain ⟨l, hmem, he⟩ := hl
    rw [show teaAtAnnex.inventoryLevels.lookup k = _ from
      Table.lookup_insert_ite ∅ annexLevel k _] at h
    split at h
    · cases h
      cases he
      exact absurd hmem (by decide)
    · cases h

def visitor : Id := ⟨0, 50⟩

/-- A customer of another organization. -/
def visitorNamed (name : String) : CustomerRecord :=
  { organizationId := elsewhere, name := name, email := "", phone := none, status := .active
    internalNote := none, createdAt := 0, updatedAt := 0 }

/-- The order at the store has that customer. -/
def soldTo (name : String) : Backend :=
  { empty with
    customers := AList.insert visitor (visitorNamed name) ∅
    orders := AList.insert sale { saleAtStore with customerId := some visitor } ∅ }

theorem agreeIn_soldTo (name name' : String) :
    AgreeIn storeOnly (soldTo name) (soldTo name') where
  products _ _ _ := Iff.rfl
  locations _ _ _ := Iff.rfl
  inventoryLevels _ _ _ := Iff.rfl
  orders _ _ _ := Iff.rfl
  customers k customer hown := by
    have hforeign (name : String) : (soldTo name).customers.lookup k ≠ some customer := by
      intro h
      rw [show (soldTo name).customers.lookup k = _ from
        Table.lookup_insert_ite ∅ visitor k _] at h
      split at h
      · cases h
        exact absurd hown (show elsewhere ≠ here by decide)
      · cases h
    exact ⟨fun h => absurd h (hforeign name), fun h => absurd h (hforeign name')⟩

end Stockroom

open Stockroom

theorem reads_in_scope_annex : AnswersAlike .plain storeOnly selling teaAtAnnex :=
  reads_in_scope rfl agreeIn_teaAtAnnex <| agreeIn_teaAtAnnex.sameCustomers fun k o c ho hc => by
    rw [show selling.orders.lookup k = _ from Table.lookup_insert_ite ∅ sale k _] at ho
    split at ho
    · cases ho
      cases hc
    · cases ho

/-- **A customer of another organization is shown** with an order at the store, if the order has
one: nothing in the database says that it has not. -/
theorem visitor_shown :
    ¬ (storeOnly.hasAllLocations = false → storeOnly.allowedLocationIds ≠ [] →
      AgreeIn storeOnly (soldTo "Ann") (soldTo "Bob") →
      AnswersAlike .plain storeOnly (soldTo "Ann") (soldTo "Bob")) := by
  intro h
  have hsame := (h rfl (by decide) (agreeIn_soldTo "Ann" "Bob")).getOrderById sale false
  have hname := congrArg
    (fun answer => answer.toOption.bind fun o => o.customer.map (·.name)) hsame
  exact absurd hname (by decide)

end LedgerLight
