import LedgerLight.Properties.OtherOrganizations
import LedgerLight.Properties.ScopesStay
import LedgerLight.Properties.Tenants
import LedgerLight.Stripe.Account
import LedgerLight.System.Footprints
import LedgerLight.System.OrderRefs

/-!
# References stay in their organization

Every row belongs to an organization, and names other rows by their ids. What the foreign keys do
not say, the services keep: an order has a customer, a location, products and a payment of its own
organization, and a member has locations of the organization it is a member of.

* `Backend.TenantStep` : what a call under an organization does, and leaves of the others.
* `references_stay` : in every run of the backend, references stay within organizations.
-/

namespace LedgerLight

open Infra Prog

variable {S M : Type}

namespace Backend

variable (db : Backend)

def customerOwner? (customerId : Id) : Option Id :=
  (db.customers.lookup customerId).map (·.organizationId)

/-- What an order refers to is of its organization. -/
structure OrderRefs (o : OrderRecord) : Prop where
  customer : ∀ c, o.customerId = some c → db.customerOwner? c = some o.organizationId
  location : ∀ l, o.locationId = some l → db.locationOwner? l = some o.organizationId
  items : ∀ item ∈ o.items, item.organizationId = o.organizationId ∧
    db.productOwner? item.productId = some o.organizationId
  payment : ∀ p, o.payment = some p → p.organizationId = o.organizationId

/-- What orders and memberships refer to is of their organization. -/
structure TenantRefs : Prop where
  orders : ∀ orderId o, db.orders.lookup orderId = some o → db.OrderRefs o
  scopes : ∀ k m, db.memberships.lookup k = some m →
    ∀ l ∈ db.scopeOf k, db.locationOwner? l = some m.organizationId

/-- From `db` to `db'` the orders, the catalog and the team of the organization `y` are the same. -/
structure Spares (y : Id) (db' : Backend) : Prop where
  orders : db.orders.ChangesWithin (fun _ o => o.organizationId ≠ y) db'.orders
  customers : db.customers.ChangesWithin (fun _ c => c.organizationId ≠ y) db'.customers
  products : db.products.ChangesWithin (fun _ p => p.organizationId ≠ y) db'.products
  locations : db.locations.ChangesWithin (fun _ l => l.organizationId ≠ y) db'.locations
  team : db.SameTeam y db'

/-- What a call under the organization `x` does where references stay within organizations: they
still do, and the other organizations are left alone. -/
structure TenantStep (x : Id) (db' : Backend) : Prop where
  refs : db'.TenantRefs
  spares : ∀ y, y ≠ x → db.Spares y db'

/-- The tables that hold the references. -/
def tenancy : Table Id OrderRecord × Table Id CustomerRecord × Table Id ProductRecord ×
    Table Id LocationRecord × Table Id Membership × List MembershipLocation ×
    Table Id InviteToken :=
  (db.orders, db.customers, db.products, db.locations, db.memberships, db.membershipLocations,
    db.inviteTokens)

end Backend

/-! ## Sparing an organization -/

section

variable {db db' db'' : Backend} {x y : Id}

theorem Backend.SameTeam.trans (h : db.SameTeam y db') (h' : db'.SameTeam y db'') :
    db.SameTeam y db'' where
  memberships k m ho := (h'.memberships k m ho).trans (h.memberships k m ho)
  scopes k m hm ho :=
    (h'.scopes k m ((h.memberships k m ho).mpr hm) ho).trans (h.scopes k m hm ho)
  inviteTokens tokenId t m hm ho :=
    (h'.inviteTokens tokenId t m ((h.memberships _ m ho).mpr hm) ho).trans
      (h.inviteTokens tokenId t m hm ho)

theorem Backend.Spares.trans (h : db.Spares y db') (h' : db'.Spares y db'') : db.Spares y db'' where
  orders := h.orders.trans h'.orders
  customers := h.customers.trans h'.customers
  products := h.products.trans h'.products
  locations := h.locations.trans h'.locations
  team := h.team.trans h'.team

theorem Backend.spares_refl (db : Backend) (y : Id) : db.Spares y db where
  orders := Table.changesWithin_refl _ _
  customers := Table.changesWithin_refl _ _
  products := Table.changesWithin_refl _ _
  locations := Table.changesWithin_refl _ _
  team := db.sameTeam_refl y

/-! ## References that stay -/

/-- Every row of the catalog is still there, of the organization it was of. -/
structure Backend.OwnersKept (db db' : Backend) : Prop where
  customers : db.customers.Stays (·.organizationId) db'.customers
  products : db.products.Stays (·.organizationId) db'.products
  locations : db.locations.Stays (·.organizationId) db'.locations

theorem Backend.OrderRefs.kept {o : OrderRecord} (h : db.OrderRefs o) (hkept : db.OwnersKept db') :
    db'.OrderRefs o where
  customer c hc := hkept.customers.map_lookup (h.customer c hc)
  location l hl := hkept.locations.map_lookup (h.location l hl)
  items item hitem :=
    ⟨(h.items item hitem).1, hkept.products.map_lookup (h.items item hitem).2⟩
  payment := h.payment

/-- Where only the catalog is written, the references stay. -/
theorem Backend.TenantRefs.kept (h : db.TenantRefs) (hkept : db.OwnersKept db')
    (horders : db'.orders = db.orders) (hmemberships : db'.memberships = db.memberships)
    (hscopes : db'.membershipLocations = db.membershipLocations) : db'.TenantRefs where
  orders orderId o ho := (h.orders orderId o (horders ▸ ho)).kept hkept
  scopes k m hm l hl := by
    unfold Backend.scopeOf at hl
    rw [hscopes] at hl
    exact hkept.locations.map_lookup (h.scopes k m (hmemberships ▸ hm) l hl)

/-- The database with the tables of another one that hold the references. -/
theorem Backend.eq_of_tenancy (h : db'.tenancy = db.tenancy) : db' = { db' with
    orders := db.orders, customers := db.customers, products := db.products
    locations := db.locations, memberships := db.memberships
    membershipLocations := db.membershipLocations, inviteTokens := db.inviteTokens } := by
  simp only [Backend.tenancy, Prod.mk.injEq] at h
  obtain ⟨ho, hc, hp, hl, hm, hs, hi⟩ := h
  rw [← ho, ← hc, ← hp, ← hl, ← hm, ← hs, ← hi]

theorem Backend.spares_of_tenancy (h : db'.tenancy = db.tenancy) : db.Spares y db' := by
  rw [eq_of_tenancy h]
  have hspares := db.spares_refl y
  exact ⟨hspares.orders, hspares.customers, hspares.products, hspares.locations,
    ⟨hspares.team.memberships, hspares.team.scopes, hspares.team.inviteTokens⟩⟩

/-- What does not write the tables that hold the references. -/
theorem Backend.TenantRefs.of_tenancy (hrefs : db.TenantRefs) (h : db'.tenancy = db.tenancy) :
    db'.TenantRefs := by
  rw [eq_of_tenancy h]
  refine ⟨fun orderId o ho => ?_, hrefs.scopes⟩
  have horder := hrefs.orders orderId o ho
  exact ⟨horder.customer, horder.location, horder.items, horder.payment⟩

theorem Backend.tenantStep_of_tenancy (h : db'.tenancy = db.tenancy) (hrefs : db.TenantRefs) :
    db.TenantStep x db' :=
  ⟨hrefs.of_tenancy h, fun _ _ => spares_of_tenancy h⟩

/-! ## Orders -/

theorem Backend.orderRefs_iff {o : OrderRecord} : db.shop.OrderRefs o ↔ db.OrderRefs o := by
  have hcustomer : ∀ c z, db.customerOwner? c = some z ↔
      ∃ row, db.shop.customers.lookup c = some row ∧ row.organizationId = z := by
    intro c z
    rw [Backend.shop, Table.lookup_mapRows, Backend.customerOwner?]
    cases db.customers.lookup c <;> simp
  have hlocation : ∀ l z, db.locationOwner? l = some z ↔
      ∃ row, db.shop.locations.lookup l = some row ∧ row.organizationId = z := by
    intro l z
    rw [Backend.shop, Table.lookup_mapRows, Backend.locationOwner?]
    cases db.locations.lookup l <;> simp
  have hproduct : ∀ p z, db.productOwner? p = some z ↔
      ∃ row, db.shop.products.lookup p = some row ∧ row.organizationId = z := by
    intro p z
    rw [Backend.shop, Table.lookup_mapRows, Backend.productOwner?]
    cases db.products.lookup p <;> simp
  constructor
  · intro h
    exact ⟨fun c hc => (hcustomer c _).mpr (h.customer c hc),
      fun l hl => (hlocation l _).mpr (h.location l hl),
      fun item hitem => ⟨(h.items item hitem).1, (hproduct _ _).mpr (h.items item hitem).2⟩,
      h.payment⟩
  · intro h
    exact ⟨fun c hc => (hcustomer c _).mp (h.customer c hc),
      fun l hl => (hlocation l _).mp (h.location l hl),
      fun item hitem => ⟨(h.items item hitem).1, (hproduct _ _).mp (h.items item hitem).2⟩,
      h.payment⟩

/-- A step that writes orders only, which refer to what they should, and are of the organization. -/
theorem Backend.tenantStep_setShop {shop : Database} (hrefs : db.TenantRefs)
    (horders : ∀ orderId o, shop.orders.lookup orderId = some o → db.OrderRefs o)
    (hwithin : db.orders.ChangesWithin (fun _ o => o.organizationId = x) shop.orders) :
    db.TenantStep x (db.setShop shop) := by
  refine ⟨⟨fun orderId o ho => ?_, hrefs.scopes⟩, fun y hy => ?_⟩
  · have horder := horders orderId o ho
    exact ⟨horder.customer, horder.location, horder.items, horder.payment⟩
  · have hteam := db.sameTeam_refl y
    exact ⟨hwithin.mono fun _ o ho => fun he => hy (he.symm.trans ho),
      Table.changesWithin_refl _ _, Table.changesWithin_refl _ _, Table.changesWithin_refl _ _,
      ⟨hteam.memberships, hteam.scopes, hteam.inviteTokens⟩⟩

/-- **A call of the order or the payment service.** -/
theorem Backend.OrderStep.tenantStep (h : db.OrderStep x db') (hrefs : db.TenantRefs) :
    db.TenantStep x db' := by
  obtain ⟨orderId, shop, hstep, rfl⟩ := h
  have hold : ∀ k o, db.shop.order? k = some o → db.OrderRefs o := hrefs.orders
  have hput : ∀ {o : OrderRecord} {rows : List (Id × AuditAction)} {shop : Database},
      db.shop.Puts orderId o rows shop → db.OrderRefs o →
      (∀ o', db.shop.order? orderId = some o' → o'.organizationId = x) → o.organizationId = x →
      db.TenantStep x (db.setShop shop) := by
    intro o rows shop hputs horder hbefore hafter
    refine tenantStep_setShop hrefs (fun k o' ho' => ?_)
      (Table.changesWithin_of_lookup hbefore hafter hputs.order?)
    replace ho' : shop.order? k = some o' := ho'
    rw [hputs.order?] at ho'
    split at ho'
    · exact Option.some.inj ho' ▸ horder
    · exact hold k o' ho'
  cases hstep with
  | keeps keeps =>
    refine tenantStep_setShop hrefs (fun k o ho => hold k o (keeps.order? k ▸ ho)) fun k => ?_
    exact Or.inl (keeps.order? k)
  | creates new puts organizationId refs =>
    refine hput puts (orderRefs_iff.mp refs) (fun o' ho' => ?_) organizationId
    rw [new] at ho'
    cases ho'
  | changes order puts organizationId organizationId' refs =>
    refine hput puts (orderRefs_iff.mp (refs (orderRefs_iff.mpr (hold _ _ order))))
      (fun o' ho' => ?_) organizationId'
    exact Option.some.inj (order.symm.trans ho') ▸ organizationId
  | deletes order organizationId =>
    refine tenantStep_setShop hrefs (fun k o ho => ?_) (Table.changesWithin_erase fun o' ho' => ?_)
    · replace ho : (db.orders.erase orderId).lookup k = some o := ho
      rw [Table.lookup_erase_ite] at ho
      split at ho
      · cases ho
      · exact hold k o ho
    · exact Option.some.inj (order.symm.trans ho') ▸ organizationId

/-! ## The catalog -/

section

variable {k : Id}

theorem Backend.tenantStep_setCustomer {c : CustomerRecord} (hrefs : db.TenantRefs)
    (hold : ∀ c', db.customers.lookup k = some c' → c'.organizationId = x)
    (hnew : c.organizationId = x) : db.TenantStep x (db.setCustomer k c) := by
  have hstays : db.customers.Stays (·.organizationId) (db.customers.insert k c) :=
    Table.stays_insert_of fun c' hc' => (hold c' hc').trans hnew.symm
  refine ⟨hrefs.kept ⟨hstays, Table.stays_refl _ _, Table.stays_refl _ _⟩ rfl rfl rfl,
    fun y hy => ?_⟩
  have hne : ∀ {c' : CustomerRecord}, c'.organizationId = x → c'.organizationId ≠ y :=
    fun h he => hy (he.symm.trans h)
  have hspares := db.spares_refl y
  exact ⟨hspares.orders, Table.changesWithin_insert (fun c' hc' => hne (hold c' hc')) (hne hnew),
    hspares.products, hspares.locations,
    ⟨hspares.team.memberships, hspares.team.scopes, hspares.team.inviteTokens⟩⟩

theorem Backend.tenantStep_setProduct {p : ProductRecord} (hrefs : db.TenantRefs)
    (hold : ∀ p', db.products.lookup k = some p' → p'.organizationId = x)
    (hnew : p.organizationId = x) : db.TenantStep x (db.setProduct k p) := by
  have hstays : db.products.Stays (·.organizationId) (db.products.insert k p) :=
    Table.stays_insert_of fun p' hp' => (hold p' hp').trans hnew.symm
  refine ⟨hrefs.kept ⟨Table.stays_refl _ _, hstays, Table.stays_refl _ _⟩ rfl rfl rfl,
    fun y hy => ?_⟩
  have hne : ∀ {p' : ProductRecord}, p'.organizationId = x → p'.organizationId ≠ y :=
    fun h he => hy (he.symm.trans h)
  have hspares := db.spares_refl y
  exact ⟨hspares.orders, hspares.customers,
    Table.changesWithin_insert (fun p' hp' => hne (hold p' hp')) (hne hnew), hspares.locations,
    ⟨hspares.team.memberships, hspares.team.scopes, hspares.team.inviteTokens⟩⟩

theorem Backend.tenantStep_setLocation {l : LocationRecord} (hrefs : db.TenantRefs)
    (hold : ∀ l', db.locations.lookup k = some l' → l'.organizationId = x)
    (hnew : l.organizationId = x) : db.TenantStep x (db.setLocation k l) := by
  have hstays : db.locations.Stays (·.organizationId) (db.locations.insert k l) :=
    Table.stays_insert_of fun l' hl' => (hold l' hl').trans hnew.symm
  refine ⟨hrefs.kept ⟨Table.stays_refl _ _, Table.stays_refl _ _, hstays⟩ rfl rfl rfl,
    fun y hy => ?_⟩
  have hne : ∀ {l' : LocationRecord}, l'.organizationId = x → l'.organizationId ≠ y :=
    fun h he => hy (he.symm.trans h)
  have hspares := db.spares_refl y
  exact ⟨hspares.orders, hspares.customers, hspares.products,
    Table.changesWithin_insert (fun l' hl' => hne (hold l' hl')) (hne hnew),
    ⟨hspares.team.memberships, hspares.team.scopes, hspares.team.inviteTokens⟩⟩

/-- A row that is not erased has the owner it had. -/
theorem owner_of_erase {ρ : Type} {t : Table Id ρ} {owner : ρ → Id} {k' z : Id} (hk : k' ≠ k)
    (h : (t.lookup k').map owner = some z) : ((t.erase k).lookup k').map owner = some z := by
  rw [AList.lookup_erase_ne hk]
  exact h

/-- A customer that is deleted is taken off its orders. -/
theorem Backend.tenantStep_removeCustomer {c : CustomerRecord} (hrefs : db.TenantRefs)
    (hc : db.customers.lookup k = some c) (horg : c.organizationId = x) :
    db.TenantStep x (db.removeCustomer k) := by
  have howner : ∀ {orderId o}, db.orders.lookup orderId = some o → o.customerId = some k →
      o.organizationId = x := by
    intro orderId o ho hcustomer
    have h := (hrefs.orders orderId o ho).customer k hcustomer
    rw [Backend.customerOwner?, hc] at h
    exact (Option.some.inj h).symm.trans horg
  constructor
  · refine ⟨fun orderId o' ho' => ?_, hrefs.scopes⟩
    rw [Backend.removeCustomer, Table.lookup_mapRows] at ho'
    obtain ⟨o, ho, rfl⟩ := Option.map_eq_some_iff.mp ho'
    have horder := hrefs.orders orderId o ho
    split
    · exact ⟨nofun, horder.location, horder.items, horder.payment⟩
    · next hne =>
      refine ⟨fun c' hc' => ?_, horder.location, horder.items, horder.payment⟩
      exact owner_of_erase (fun he => hne (he ▸ hc')) (horder.customer c' hc')
  · intro y hy
    have hspares := db.spares_refl y
    refine ⟨Table.changesWithin_mapRows fun orderId o ho => ?_,
      Table.changesWithin_erase fun c' hc' => ?_, hspares.products, hspares.locations,
      ⟨hspares.team.memberships, hspares.team.scopes, hspares.team.inviteTokens⟩⟩
    · split
      · next hcustomer =>
        have hne : o.organizationId ≠ y := fun he => hy (he.symm.trans (howner ho hcustomer))
        exact Or.inr ⟨hne, hne⟩
      · exact Or.inl rfl
    · obtain rfl := Option.some.inj (hc.symm.trans hc')
      exact fun he => hy (he.symm.trans horg)

/-- A location that is deleted is taken off its orders and off the members restricted to it. -/
theorem Backend.tenantStep_removeLocation {l : LocationRecord} (hrefs : db.TenantRefs)
    (hl : db.locations.lookup k = some l) (horg : l.organizationId = x) :
    db.TenantStep x (db.removeLocation k) := by
  have howned : ∀ {z}, db.locationOwner? k = some z → z = x := by
    intro z hz
    rw [Backend.locationOwner?, hl] at hz
    exact (Option.some.inj hz).symm.trans horg
  constructor
  · refine ⟨fun orderId o' ho' => ?_, fun k' m hm l' hl' => ?_⟩
    · rw [Backend.removeLocation, Table.lookup_mapRows] at ho'
      obtain ⟨o, ho, rfl⟩ := Option.map_eq_some_iff.mp ho'
      have horder := hrefs.orders orderId o ho
      split
      · refine ⟨horder.customer, fun l' hl' => ?_, horder.items, horder.payment⟩
        cases hl'
      · next hne =>
        refine ⟨horder.customer, fun l' hl' => ?_, horder.items, horder.payment⟩
        exact owner_of_erase (fun he => hne (he ▸ hl')) (horder.location l' hl')
    · rw [Backend.scopeOf_removeLocation, List.mem_filter, bne_iff_ne] at hl'
      exact owner_of_erase hl'.2 (hrefs.scopes k' m hm l' hl'.1)
  · intro y hy
    have hspares := db.spares_refl y
    refine ⟨Table.changesWithin_mapRows fun orderId o ho => ?_, hspares.customers,
      hspares.products, Table.changesWithin_erase fun l' hl' => ?_,
      ⟨hspares.team.memberships, fun k' m hm ho => ?_, hspares.team.inviteTokens⟩⟩
    · split
      · next hlocation =>
        have hz := howned ((hrefs.orders orderId o ho).location k hlocation)
        have hne : o.organizationId ≠ y := fun he => hy (he.symm.trans hz)
        exact Or.inr ⟨hne, hne⟩
      · exact Or.inl rfl
    · obtain rfl := Option.some.inj (hl.symm.trans hl')
      exact fun he => hy (he.symm.trans horg)
    · rw [Backend.scopeOf_removeLocation, List.filter_eq_self]
      intro l' hl'
      rw [bne_iff_ne]
      rintro rfl
      exact hy (ho.symm.trans (howned (hrefs.scopes k' m hm _ hl')))

end

/-! ## The calls -/

/-- A call that did nothing. -/
theorem Backend.tenantStep_refl (hrefs : db.TenantRefs) (x : Id) : db.TenantStep x db :=
  ⟨hrefs, fun y _ => db.spares_refl y⟩

theorem Backend.TenantStep.trans (h : db.TenantStep x db') (h' : db'.TenantStep x db'') :
    db.TenantStep x db'' :=
  ⟨h'.refs, fun y hy => (h.spares y hy).trans (h'.spares y hy)⟩

/-- A call outside the orders that leaves the database alone when it fails. -/
theorem Backend.tenantStep_onAll {α : Type} {t : Work S α} {s : S} (hrefs : db.TenantRefs)
    (ht : t.CleanAt db s)
    (h : ∀ a db' s', t.run db s = (.ok (a, db'), s') → db.TenantStep x db') :
    db.TenantStep x (db.onAll t s).2.1 := by
  rcases Backend.onAll_clean db s ht with hsame | ⟨a, db', s', hrun, hdb⟩
  · rw [hsame]
    exact Backend.tenantStep_refl hrefs x
  · rw [hdb]
    exact h a db' s' hrun

theorem productUpdate_tenantStep {organizationId productId : Id} {data : UpdateProductDto}
    {env : Env} {s : S} (hrefs : db.TenantRefs) :
    db.TenantStep organizationId
      (db.onAll (productUpdate env organizationId productId data) s).2.1 := by
  refine Backend.tenantStep_onAll hrefs (productUpdate_failsClean.cleanAt db s)
    fun a db' s' hrun => ?_
  obtain ⟨p₀, hp₀, horg, rfl, -⟩ := productUpdate_ok hrun
  refine Backend.tenantStep_setProduct hrefs (fun p' hp' => ?_) horg
  exact Option.some.inj (hp₀.symm.trans hp') ▸ horg

/-- The calls of the customer, the product, the location and the inventory service. -/
theorem RouteCall.tenantStep {stripe : StripeService S M} {c : RouteCall} {s : S}
    (hrefs : db.TenantRefs) : db.TenantStep c.org.organizationId (c.exec stripe db s).2.1 := by
  by_cases horders : c.action.onOrders = true
  · exact (RouteCall.order_step horders).tenantStep hrefs
  obtain ⟨env, org, action⟩ := c
  cases action with
  | shop action =>
    cases action with
    | createAdjustment data actorUserId =>
      refine Backend.tenantStep_onAll hrefs createAdjustment_cleanAt fun a db' s' hrun => ?_
      obtain ⟨⟨quantity, -, rfl⟩, -⟩ := createAdjustment_ok.mp ⟨a, hrun⟩
      exact Backend.tenantStep_of_tenancy rfl hrefs
    | updateLocation locationId data =>
      refine Backend.tenantStep_onAll hrefs (updateLocation_failsClean.cleanAt db s)
        fun a db' s' hrun => ?_
      obtain ⟨l₀, hvisible, -, -, rfl, -⟩ := updateLocation_ok hrun
      obtain ⟨hl₀, horg, -⟩ := Backend.visibleLocation?_eq_some hvisible
      refine Backend.tenantStep_setLocation hrefs (fun l' hl' => ?_) horg
      exact Option.some.inj (hl₀.symm.trans hl') ▸ horg
    | deleteLocation locationId =>
      refine Backend.tenantStep_onAll hrefs (deleteLocation_failsClean.cleanAt db s)
        fun a db' s' hrun => ?_
      obtain ⟨hvisible, -, -, -, rfl, -⟩ := deleteLocation_ok hrun
      obtain ⟨hl, horg, -⟩ := Backend.visibleLocation?_eq_some hvisible
      exact Backend.tenantStep_removeLocation hrefs hl horg
    | _ => exact absurd rfl horders
  | createLocation data =>
    refine Backend.tenantStep_onAll hrefs (createLocation_failsClean.cleanAt db s)
      fun a db' s' hrun => ?_
    obtain ⟨-, hnew, -, rfl, -⟩ := createLocation_ok hrun
    refine Backend.tenantStep_setLocation hrefs (fun l' hl' => ?_) rfl
    rw [hnew] at hl'
    cases hl'
  | createProduct productData actorUserId =>
    refine Backend.tenantStep_onAll hrefs createProduct_cleanAt fun a db' s' hrun => ?_
    obtain ⟨hcreatable, hcreated, -⟩ := createProduct_ok.mp ⟨a, hrun⟩
    have hproduct : db.TenantStep org.organizationId (db.withProduct env org productData) := by
      refine Backend.tenantStep_setProduct hrefs (fun p' hp' => ?_) rfl
      rw [hcreatable.new] at hp'
      cases hp'
    cases hcreated with
    | bare => exact hproduct
    | stocked => exact hproduct.trans (Backend.tenantStep_of_tenancy rfl hproduct.refs)
  | updateProduct productId data => exact productUpdate_tenantStep hrefs
  | deleteProduct productId => exact productUpdate_tenantStep hrefs
  | createCustomer data =>
    refine Backend.tenantStep_onAll hrefs (createCustomer_failsClean.cleanAt db s)
      fun a db' s' hrun => ?_
    obtain ⟨hnew, rfl, -⟩ := createCustomer_ok hrun
    refine Backend.tenantStep_setCustomer hrefs (fun c' hc' => ?_) rfl
    rw [hnew] at hc'
    cases hc'
  | updateCustomer customerId data =>
    refine Backend.tenantStep_onAll hrefs (updateCustomer_failsClean.cleanAt db s)
      fun a db' s' hrun => ?_
    obtain ⟨c₀, hc₀, rfl, -⟩ := updateCustomer_ok hrun
    obtain ⟨hlookup, horg⟩ := Backend.customerOf?_eq_some hc₀
    refine Backend.tenantStep_setCustomer hrefs (fun c' hc' => ?_) horg
    exact Option.some.inj (hlookup.symm.trans hc') ▸ horg
  | deleteCustomer customerId =>
    refine Backend.tenantStep_onAll hrefs (deleteCustomer_failsClean.cleanAt db s)
      fun a db' s' hrun => ?_
    obtain ⟨hc, rfl, -⟩ := deleteCustomer_ok hrun
    obtain ⟨hlookup, horg⟩ := Backend.customerOf?_eq_some hc
    exact Backend.tenantStep_removeCustomer hrefs hlookup horg

/-! ## The team -/

section

variable {env : TeamEnv} {action : TeamAction} {k : Id}

/-- The locations a member is given are of the organization. -/
theorem scoped_owned {organization : MemberContext} {requested : Option (List Id)}
    (h : ∀ l ∈ scopedLocationIds organization requested, db.assignable organization l = true) :
    ∀ l ∈ scopedLocationIds organization requested,
      db.locationOwner? l = some organization.organizationId := by
  intro l hl
  obtain ⟨r, hr, horg, -, -⟩ := Backend.assignable_iff.mp (h l hl)
  rw [Backend.locationOwner?, hr, Option.map_some, horg]

/-- After the call the member has locations of its organization. -/
theorem TeamChange.scope_owned (h : TeamChange db env action k db')
    (hx : db.organizationOf? env action = some x) (hrefs : db.TenantRefs) :
    ∀ l ∈ db'.scopeOf k, db.locationOwner? l = some x := by
  cases hk : db.memberships.lookup k with
  | some m =>
    have horg : m.organizationId = x := (h.confined hx).before m hk
    rcases h.scope (by rw [hk]; rfl) with he | ⟨organization, requested, -, hx', hassignable, he⟩
    · rw [he]
      exact horg ▸ hrefs.scopes k m hk
    · rw [he]
      cases hx.symm.trans hx'
      exact scoped_owned hassignable
  | none =>
    -- only an invitation makes a membership
    cases h with
    | @invited organization _ _ input _ _ _ assignable _ account _ _ logs =>
      cases hx
      have hscope : ∀ {db₁ : Backend} {userId : Id}, (db₁.invited env organization input
          (scopedLocationIds organization input.locationIds) userId).scopeOf (env.uuid 1) =
          scopedLocationIds organization input.locationIds := by
        intro db₁ userId
        rw [Backend.invited, Backend.scopeOf_reinvite, Backend.scopeOf_setScope, if_pos rfl]
      rw [logs.scopeOf, hscope]
      exact scoped_owned assignable
    | reinvited _ _ found =>
      obtain ⟨hr, -⟩ := inviteTarget_member found
      rw [(Backend.member?_eq_some hr).1] at hk
      cases hk
    | profileUpdated member => rw [(Backend.member?_eq_some member).1] at hk; cases hk
    | roleChanged member => rw [(Backend.member?_eq_some member).1] at hk; cases hk
    | locationsUpdated member => rw [(Backend.member?_eq_some member).1] at hk; cases hk
    | deactivated member => rw [(Backend.member?_eq_some member).1] at hk; cases hk
    | reactivated member => rw [(Backend.member?_eq_some member).1] at hk; cases hk
    | inviteResent member => rw [(Backend.member?_eq_some member).1] at hk; cases hk
    | accepted found =>
      obtain ⟨-, -, hmember⟩ := Backend.invitation?_eq_some found
      have hid := (Backend.member?_eq_some hmember).2.2.1
      rw [hid, (Backend.member?_eq_some hmember).1] at hk
      cases hk

/-- **A call of the team.** -/
theorem TeamChange.tenantStep (h : TeamChange db env action k db')
    (hx : db.organizationOf? env action = some x) (hrefs : db.TenantRefs) :
    db.TenantStep x db' := by
  have hshop := h.shopTables
  simp only [Backend.shopTables, Prod.mk.injEq] at hshop
  obtain ⟨ho, -, -, hc, hp, hl, -, -⟩ := hshop
  have hconfined := h.confined hx
  constructor
  · refine ⟨fun orderId o horder => ?_, fun k' m' hm' l hlocation => ?_⟩
    · have hkept : db.OwnersKept db' :=
        ⟨hc ▸ Table.stays_refl _ _, hp ▸ Table.stays_refl _ _, hl ▸ Table.stays_refl _ _⟩
      exact (hrefs.orders orderId o (ho ▸ horder)).kept hkept
    · rw [Backend.locationOwner?, hl]
      by_cases he : k' = k
      · subst he
        rw [hconfined.after m' hm']
        exact h.scope_owned hx hrefs l hlocation
      · rw [hconfined.memberships k' he] at hm'
        rw [hconfined.scopes k' he] at hlocation
        exact hrefs.scopes k' m' hm' l hlocation
  · intro y hy
    exact ⟨ho ▸ Table.changesWithin_refl _ _, hc ▸ Table.changesWithin_refl _ _,
      hp ▸ Table.changesWithin_refl _ _, hl ▸ Table.changesWithin_refl _ _,
      hconfined.sameTeam hy⟩

end

theorem TeamChange.organizationOf {env : TeamEnv} {action : TeamAction} {k : Id}
    (h : TeamChange db env action k db') : ∃ z, db.organizationOf? env action = some z := by
  cases h with
  | accepted found => exact ⟨_, congrArg (Option.map _) found⟩
  | _ => exact ⟨_, rfl⟩

/-- A call of the team, whether it fails or not. -/
theorem TeamCall.tenantStep {c : TeamCall} {x : Id} (hrefs : db.TenantRefs)
    (hx : ∀ z, db.organizationOf? c.env c.action = some z → z = x) :
    db.TenantStep x (c.exec db).2 := by
  rcases h : c.exec db with ⟨e | member, db'⟩
  · rw [TeamCall.exec_error h]
    exact Backend.tenantStep_refl hrefs x
  · have hchange := TeamCall.exec_ok h
    obtain ⟨z, hz⟩ := hchange.organizationOf
    obtain rfl := hx z hz
    exact hchange.tenantStep hz hrefs

/-! ## The backend -/

section

variable {st : Api S} {jwt : Jwt} {stripe : StripeService S M}

/-- What the handler of a route calls, it calls under the organization of the request. -/
theorem Call.tenantStep {env : TeamEnv} {user : RequestUser} {organization : MemberContext}
    {auditContext : AuditContext} {route : Route} {call : Call} {s : S}
    (hcall : route.call? user organization auditContext = some call) (hrefs : db.TenantRefs) :
    db.TenantStep organization.organizationId
      (call.exec stripe env organization.toCurrentOrg db s).1 := by
  cases call with
  | shop action =>
    exact RouteCall.tenantStep (c := ⟨env.toEnv, organization.toCurrentOrg, action⟩) hrefs
  | getPayment orderId =>
    refine Backend.OrderStep.tenantStep ?_ hrefs
    exact Backend.orderStep_onShop (.of_moves getPaymentByOrderId_moves)
  | team action =>
    refine TeamCall.tenantStep hrefs fun z hz => ?_
    have horganization : action.organization? = some organization := by
      cases route with
      | transitionStatus id toStatus =>
        simp only [Route.call?] at hcall
        split at hcall <;> cases hcall
      | _ => cases hcall <;> rfl
    have hown : db.organizationOf? env action = some organization.organizationId := by
      cases action with
      | acceptInvitation => cases horganization
      | _ => cases horganization; rfl
    exact (Option.some.inj (hown.symm.trans hz)).symm

theorem ApiRequest.tenantStep {r : ApiRequest} {user : RequestUser} {organization : MemberContext}
    {s : S} (hpass : r.guards jwt = .ok (user, organization)) (hrefs : db.TenantRefs) :
    db.TenantStep organization.organizationId (r.exec jwt stripe db s).1 := by
  unfold ApiRequest.exec
  rw [hpass]
  dsimp only
  cases hcall : r.route.call? user organization (r.auditContext user.user.id) with
  | none => exact Backend.tenantStep_refl hrefs _
  | some call => exact Call.tenantStep hcall hrefs

/-- The calls that may change what is of the organization `y` : a request that the guards let pass
under it, the acceptance of one of its invitations, and Stripe's webhooks. -/
def ApiCall.Reaches (jwt : Jwt) (db : Backend) (y : Id) : ApiCall M → Prop
  | .request r => ∃ user organization, r.guards jwt = .ok (user, organization) ∧
      organization.organizationId = y
  | .acceptInvitation env _ input => db.organizationOf? env (.acceptInvitation input none) = some y
  | .webhook _ _ => True
  | .login .. | .refresh .. | .logout .. | .stripe _ => False

/-- **What a step does**: references stay, and only what the call reaches is changed. -/
theorem Api.tenant_step (hrefs : st.db.TenantRefs) (c : ApiCall M) :
    ((api jwt stripe).step st c).db.TenantRefs ∧
      ∀ y, ¬ c.Reaches jwt st.db y → st.db.Spares y ((api jwt stripe).step st c).db := by
  have hstep : ∀ {x db'}, st.db.TenantStep x db' → c.Reaches jwt st.db x →
      db'.TenantRefs ∧ ∀ y, ¬ c.Reaches jwt st.db y → st.db.Spares y db' := by
    intro x db' h hreaches
    exact ⟨h.refs, fun y hy => h.spares y fun he => hy (he ▸ hreaches)⟩
  have hkept : ∀ {db' : Backend}, db'.tenancy = st.db.tenancy →
      db'.TenantRefs ∧ ∀ y, ¬ c.Reaches jwt st.db y → st.db.Spares y db' :=
    fun h => ⟨hrefs.of_tenancy h, fun y _ => Backend.spares_of_tenancy h⟩
  have hanswering : ∀ {now db' r}, ((st.answering now db' r).db : Backend) = db' := by
    intro now db' r
    cases r <;> rfl
  cases c with
  | login env input =>
    refine hkept (hanswering.symm ▸ ?_)
    exact (login_quiet fun _ _ _ _ => rfl).runAuto_left st.db ()
  | refresh env input =>
    refine hkept (hanswering.symm ▸ ?_)
    rw [refresh_readOnly.runAuto_snd]
  | logout env bearer =>
    refine hkept ?_
    show (Api.step jwt stripe st (.logout env bearer)).db.tenancy = _
    unfold Api.step
    dsimp only
    cases jwtAuthGuard jwt env.now bearer with
    | error e => rfl
    | ok user => exact (logout_quiet fun _ _ _ => rfl).runAuto_left st.db ()
  | acceptInvitation env bearer input =>
    let team : TeamCall :=
      ⟨env, .acceptInvitation input ((optionalJwtAuthGuard jwt env.now bearer).map (·.user.id))⟩
    show (team.exec st.db).2.TenantRefs ∧ ∀ y, _ → st.db.Spares y (team.exec st.db).2
    rcases hexec : team.exec st.db with ⟨e | member, db'⟩
    · exact hkept (congrArg Backend.tenancy (TeamCall.exec_error hexec))
    · have hchange := TeamCall.exec_ok hexec
      obtain ⟨z, hz⟩ := hchange.organizationOf
      exact hstep (hchange.tenantStep hz hrefs) hz
  | request r =>
    cases hpass : r.guards jwt with
    | error e =>
      refine hkept ?_
      show (r.exec jwt stripe st.db st.stripe).1.tenancy = _
      rw [ApiRequest.exec, hpass]
    | ok answer =>
      obtain ⟨user, organization⟩ := answer
      exact hstep (ApiRequest.tenantStep hpass hrefs) ⟨user, organization, hpass, rfl⟩
  | webhook env event =>
    have horder : ∃ x, st.db.OrderStep x (st.db.onShop (event.handle env) st.stripe).2.1 :=
      StripeEvent.order_step
    obtain ⟨x, horder⟩ := horder
    exact hstep (horder.tenantStep hrefs) trivial
  | stripe move => exact hkept rfl

/-- **References stay in their organization**: in every run of the backend, whoever calls it. -/
theorem references_stay (jwt : Jwt) (stripe : StripeService S M) (st : Api S)
    (hrefs : st.db.TenantRefs) (calls : List (ApiCall M)) :
    ((api jwt stripe).run st calls).db.TenantRefs :=
  Machine.run_invariant' (I := fun st : Api S => st.db.TenantRefs)
    (fun _ c h => (Api.tenant_step h c).1) hrefs calls

end

end

namespace Office

/-- What the token of the owner carries who has logged in at the time 5000. -/
def annSigned : SignedPayload :=
  { payload :=
      { sub := ann
        user := User.omitPasswordHash ann
          { user "ann" with lastLoginAt := some 5000, updatedAt := 5000 }
        memberships :=
          [{ id := annMember, organizationId := organizationId, organizationName := "office"
             userId := ann, role := .owner, hasAllLocations := true, allowedLocationIds := [] }] }
    issuedAt := 5
    serialized := by decide }

def annJwt : Jwt :=
  { sign := fun _ _ => "ann", verify := fun text => if text = "ann" then some annSigned else none }

/-- The owner calls a route at the time `n`. -/
def annAsks (n : Nat) (route : Route) : ApiCall StripeMove :=
  .request { env := env n, bearer := some "ann", organizationId := some organizationId
             route := route }

/-- The office opens a store and sells there. -/
def opening : List (ApiCall StripeMove) :=
  [annAsks 5001 (.createCustomer { name := "Dana", email := "dana@home.test" }),
    annAsks 5002 (.createLocation
      { name := "Store", type := .store, addressLine1 := "Main", city := "Here",
        countryCode := "CA" }),
    annAsks 5003 (.createProduct
      { name := "Lamp", sku := "L1", priceCents := 900, reorderThreshold := 0 }),
    annAsks 5004 (.createOrder
      { customerId := some ⟨5001, 0⟩, locationId := some ⟨5002, 0⟩,
        orderItems := [{ productId := ⟨5003, 0⟩, qty := some 2 }] })]

def opened : Api StripeAccount :=
  (api annJwt stripeAccount).run
    ⟨staffed [(annMember, membership ann .owner, user "ann")], .empty, []⟩ opening

end Office

/-- The order of the office is for its customer at its location. -/
theorem references_stay_office :
    (Office.opened.db.orders.lookup ⟨5004, 0⟩).map (fun o => (o.customerId, o.locationId)) =
        some (some ⟨5001, 0⟩, some ⟨5002, 0⟩) ∧
      Office.opened.db.TenantRefs := by
  refine ⟨by decide, references_stay Office.annJwt stripeAccount _ ⟨?_, ?_⟩ Office.opening⟩
  · intro orderId o ho
    cases ho
  · intro k m _ l hl
    cases hl

end LedgerLight
