import LedgerLight.Stripe.Account
import LedgerLight.System.ScopedCalls

/-!
# Writes under a location scope

A member who is restricted to some locations changes only what is at them, and leaves it at them.
An order row here carries its items and its payment, so what changes one of them changes the row.

* `writes_in_scope` : a call that succeeds does so exactly if it does not take an order off its
  location.
* `order_taken_off` : an update does.
-/

namespace LedgerLight

open Infra

/-! ## The scope of a change -/

/-- The order is at one of the locations. -/
def OrderRecord.PlacedIn (A : List Id) (o : OrderRecord) : Prop := ∃ l ∈ A, o.locationId = some l

namespace Backend

/-- From `db` to `db'` every order, with its payment, every level and every location that is not as
it was, was in the scope if it was there, and is in the scope if it is there. -/
structure StaysInScope (db : Backend) (A : List Id) (db' : Backend) : Prop where
  orders : db.orders.ChangesWithin (fun _ o => o.PlacedIn A) db'.orders
  levels : db.inventoryLevels.ChangesWithin (fun _ level => level.locationId ∈ A)
    db'.inventoryLevels
  locations : db.locations.ChangesWithin (fun locationId _ => locationId ∈ A) db'.locations

/-- The call does not clear the location of an order: neither by an update with `null` nor by
deleting a location at which another organization has orders. -/
def LeavesPlaced (db : Backend) (c : ScopedCall) : Prop :=
  match c.action with
  | .updateOrder _ data => data.locationId ≠ some none
  | .deleteLocation locationId => ∀ k o, db.orders.lookup k = some o →
      o.locationId = some locationId → o.organizationId = c.org.organizationId
  | _ => True

end Backend

section

variable {db db' : Backend} {env : Env} {org : CurrentOrg} {A : List Id} {orderId locationId : Id}
  {o o' : OrderRecord} {rows : List (Id × AuditAction)} {shop : Database} {action : ScopedAction}

theorem placedIn_iff (h : org.hasAllLocations = false) :
    getLocationScopeWhere org o.locationId = true ↔ o.PlacedIn org.allowedLocationIds := by
  unfold getLocationScopeWhere OrderRecord.PlacedIn
  rw [h]
  cases o.locationId with
  | none => simp
  | some l => simp

theorem mem_of_scope (h : org.hasAllLocations = false)
    (hscope : getLocationScopeWhere org (some locationId) = true) :
    locationId ∈ org.allowedLocationIds := by
  unfold getLocationScopeWhere at hscope
  rw [h] at hscope
  simpa using hscope

/-- One order is written. -/
theorem Backend.staysInScope_of_puts (hputs : db.shop.Puts orderId o' rows shop)
    (hold : ∀ o, db.orders.lookup orderId = some o → o.PlacedIn A) (hnew : o'.PlacedIn A) :
    db.StaysInScope A (db.setShop shop) :=
  ⟨Table.changesWithin_of_lookup hold hnew hputs.order?, Table.changesWithin_refl _ _,
    Table.changesWithin_refl _ _⟩

theorem lookup_of_puts (hputs : db.shop.Puts orderId o' rows shop) :
    (db.setShop shop).orders.lookup orderId = some o' := hputs.order?_self

/-- The orders of a location that is deleted lose it. -/
theorem Backend.staysInScope_removeLocation (hmem : locationId ∈ A)
    (hunused : ∀ k o, db.orders.lookup k = some o → o.locationId ≠ some locationId) :
    db.StaysInScope A (db.removeLocation locationId) := by
  constructor
  · intro k
    left
    show (db.orders.mapRows _).lookup k = db.orders.lookup k
    rw [Table.lookup_mapRows]
    cases ho : db.orders.lookup k with
    | none => rfl
    | some o => rw [Option.map_some, if_neg (hunused k o ho)]
  · refine Table.changesWithin_filterRows fun k level _ hlevel => ?_
    rw [bne_eq_false_iff_eq] at hlevel
    rw [hlevel]
    exact hmem
  · exact Table.changesWithin_erase fun _ _ => hmem

/-- An adjustment is of a level at the location that it names. -/
theorem Backend.Adjustable.staysInScope {data : AdjustmentData} {quantity : Int}
    (h : db.Adjustable env data quantity) (hmem : data.locationId ∈ A) :
    db.StaysInScope A (db.adjusted env data quantity) := by
  obtain ⟨-, hplace⟩ := levelFound_pair db env data.productId data.locationId
  have hold : ∀ level, db.inventoryLevels.lookup
      (db.levelFound env data.productId data.locationId).1 = some level → level.locationId ∈ A := by
    intro level hk
    unfold levelFound at hk
    cases hlevel : db.levelOf? data.productId data.locationId with
    | none =>
      rw [hlevel, Option.getD_none, h.newLevel hlevel] at hk
      cases hk
    | some found =>
      obtain ⟨hlookup, -, hl⟩ := levelOf?_eq_some hlevel
      rw [hlevel, Option.getD_some, hlookup] at hk
      cases hk
      rw [hl]
      exact hmem
  refine ⟨Table.changesWithin_refl _ _, Table.changesWithin_insert hold ?_,
    Table.changesWithin_refl _ _⟩
  show (db.levelFound env data.productId data.locationId).2.locationId ∈ A
  rw [hplace]
  exact hmem

/-- A deletion leaves the orders placed if none is left at the location. -/
theorem Backend.StaysInScope.unused (h : db.StaysInScope A (db.removeLocation locationId)) {k : Id}
    (ho : db.orders.lookup k = some o) : o.locationId ≠ some locationId := by
  intro hplace
  have hafter : (db.removeLocation locationId).orders.lookup k =
      some { o with locationId := none } := by
    show (db.orders.mapRows _).lookup k = _
    rw [Table.lookup_mapRows, ho, Option.map_some, if_pos hplace]
  rcases h.orders k with hsame | ⟨-, hnew⟩
  · rw [hafter, ho] at hsame
    rw [← Option.some.inj hsame] at hplace
    cases hplace
  · obtain ⟨l, -, hl⟩ := hnew _ hafter
    cases hl

/-- **What a call changes is in the scope** exactly if it leaves the orders placed. -/
theorem ScopedChange.staysInScope_iff {c : ScopedCall}
    (h : ScopedChange db c.env c.org c.action db') (hr : c.org.hasAllLocations = false)
    (hne : c.org.allowedLocationIds ≠ []) :
    db.StaysInScope c.org.allowedLocationIds db' ↔ db.LeavesPlaced c := by
  obtain ⟨env, org, action⟩ := c
  dsimp only at h hr hne ⊢
  cases h with
  | created place inScope new puts =>
    refine iff_of_true (Backend.staysInScope_of_puts puts (fun o ho => ?_) ?_) trivial
    · rw [new] at ho
      cases ho
    · exact (placedIn_iff hr).mp (by rw [place]; exact inScope hne)
  | @metadata orderId data o rows shop order inScope given puts =>
    have hold : ∀ o', db.orders.lookup orderId = some o' → o'.PlacedIn org.allowedLocationIds := by
      intro o' ho'
      cases order.symm.trans ho'
      exact (placedIn_iff hr).mp inScope
    constructor
    · -- the order would be off its location
      intro hstays hnull
      have hoff : (Order.updated env id (metadataUpdated data o)).locationId = none := by
        show data.locationId.getD o.locationId = none
        rw [hnull]
        rfl
      rcases hstays.orders orderId with hsame | ⟨-, hnew⟩
      · rw [lookup_of_puts puts, order] at hsame
        rw [Option.some.inj hsame] at hoff
        obtain ⟨l, -, hl⟩ := hold o order
        rw [hoff] at hl
        cases hl
      · obtain ⟨l, -, hl⟩ := hnew _ (lookup_of_puts puts)
        rw [hoff] at hl
        cases hl
    · intro hplaced
      refine Backend.staysInScope_of_puts puts hold ?_
      show ∃ l ∈ org.allowedLocationIds, data.locationId.getD o.locationId = some l
      cases hlocation : data.locationId with
      | none => exact hold o order
      | some locationId =>
        cases locationId with
        | none => exact absurd hlocation hplaced
        | some l => exact ⟨l, mem_of_scope hr (given l hlocation), rfl⟩
  | deleted order inScope =>
    refine iff_of_true ⟨Table.changesWithin_erase fun o' ho' => ?_, Table.changesWithin_refl _ _,
      Table.changesWithin_refl _ _⟩ trivial
    cases order.symm.trans ho'
    exact (placedIn_iff hr).mp inScope
  | @changed action orderId o o' rows shop kind order inScope puts place =>
    refine iff_of_true (Backend.staysInScope_of_puts puts (fun o' ho' => ?_) ?_) ?_
    · cases order.symm.trans ho'
      exact (placedIn_iff hr).mp inScope
    · exact (placedIn_iff hr).mp (by rw [place]; exact inScope)
    · unfold Backend.LeavesPlaced
      split
      · next hupdate => exact absurd hupdate (kind.1 _ _)
      · next hdelete => exact absurd hdelete (kind.2 _)
      · trivial
  | adjusted adjustable =>
    exact iff_of_true (adjustable.staysInScope (mem_of_scope hr (adjustable.accessible org rfl)))
      trivial
  | locationUpdated visible =>
    obtain ⟨-, -, hscope⟩ := Backend.visibleLocation?_eq_some visible
    have hmem := mem_of_scope hr hscope
    exact iff_of_true ⟨Table.changesWithin_refl _ _, Table.changesWithin_refl _ _,
      Table.changesWithin_insert (fun _ _ => hmem) hmem⟩ trivial
  | @locationDeleted locationId l visible unused =>
    obtain ⟨-, -, hscope⟩ := Backend.visibleLocation?_eq_some visible
    constructor
    · exact fun hstays k o ho hplace => absurd hplace (hstays.unused ho)
    · intro hplaced
      refine Backend.staysInScope_removeLocation (mem_of_scope hr hscope) fun k o ho hplace => ?_
      -- the call has looked for orders of its own organization
      have hnone := Table.countRows_eq_zero.mp unused k o ho
      simp [hplaced k o ho hplace, hplace] at hnone

end

/-- **Writes stay in the scope.** What a call under a restricted membership changes is in the scope
before and after, exactly if the call does not take an order off its location. -/
theorem writes_in_scope {S M : Type} (stripe : StripeService S M) (c : ScopedCall)
    (db db' : Backend) (s s' : S) (hr : c.org.hasAllLocations = false)
    (hne : c.org.allowedLocationIds ≠ []) (h : c.exec stripe db s = (.ok (), db', s')) :
    db.StaysInScope c.org.allowedLocationIds db' ↔ db.LeavesPlaced c :=
  (ScopedCall.exec_ok h).staysInScope_iff hr hne

/-! ## A member of one store -/

namespace Stockroom

def sale : Id := ⟨0, 40⟩

/-- A draft order at the store. -/
def saleAtStore : OrderRecord :=
  { organizationId := here, customerId := none, locationId := some store, status := .pending
    subtotalCents := 0, taxCents := 0, discountCents := 0, totalCents := 0, createdAt := 0
    updatedAt := 0, placedAt := none, cancelledAt := none, items := [], payment := none }

def selling : Backend := { empty with orders := AList.insert sale saleAtStore ∅ }

/-- The membership of a member who works at the store. -/
def storeOnly : CurrentOrg :=
  { organizationId := here, hasAllLocations := false, allowedLocationIds := [store] }

/-- The member patches the order. -/
def patched (data : UpdateOrderDto) : ScopedCall :=
  { env := env 1, org := storeOnly, action := .updateOrder sale data }

/-- The database after the member patched the order, and whether the call succeeded. -/
def patch (data : UpdateOrderDto) : Bool × Backend :=
  match (patched data).exec stripeAccount selling .empty with
  | (.ok _, db, _) => (true, db)
  | (.error _, db, _) => (false, db)

theorem patch_exec (data : UpdateOrderDto) (h : (patch data).1 = true) :
    ∃ s', (patched data).exec stripeAccount selling .empty = (.ok (), (patch data).2, s') := by
  unfold patch at h ⊢
  rcases hx : (patched data).exec stripeAccount selling .empty with ⟨e | u, db, s'⟩
  · rw [hx] at h
    cases h
  · exact ⟨s', rfl⟩

end Stockroom

open Stockroom

/-- The order stays at the store when the patch does not name a location. -/
theorem writes_in_scope_stockroom :
    selling.StaysInScope [store] (patch {}).2 ↔ selling.LeavesPlaced (patched {}) :=
  have ⟨s', h⟩ := patch_exec {} (by decide)
  writes_in_scope stripeAccount (patched {}) selling (patch {}).2 .empty s' rfl (by decide) h

/-- **An order is taken off its location.** A member of the store patches an order at the store with
`locationId: null`; the call succeeds, and the order is at no location. -/
theorem order_taken_off :
    ∃ db' s', (patched { locationId := some none }).exec stripeAccount selling .empty =
        (.ok (), db', s') ∧
      (patched { locationId := some none }).org.hasAllLocations = false ∧
      (patched { locationId := some none }).org.allowedLocationIds = [store] ∧
      ¬ selling.StaysInScope [store] db' := by
  obtain ⟨s', h⟩ := patch_exec { locationId := some none } (by decide)
  refine ⟨_, s', h, rfl, rfl, fun hstays => ?_⟩
  -- the order was written, and its new row names no location
  have hnow : ((patch { locationId := some none }).2.orders.lookup sale).any
      (fun o => o.locationId.isNone) = true := by decide
  obtain ⟨o, ho, hoff⟩ := (Option.any_eq_true _ _).mp hnow
  rcases hstays.orders sale with hsame | ⟨-, hnew⟩
  · rw [ho, show selling.orders.lookup sale = some saleAtStore from rfl] at hsame
    cases hsame
    cases hoff
  · obtain ⟨l, -, hl⟩ := hnew o ho
    rw [hl] at hoff
    cases hoff

end LedgerLight
