import LedgerLight.Order.Service
import Mathlib.Data.List.Dedup

/-!
# What an order line needs

The two ways to get a line into an order look up the product and check the input by themselves.
Both compute the line by `computeLineItem`; here is when they succeed, and what they leave.

* `computeLineItem_eq_ok` : when a line is accepted, and which one it is.
* `createOrder_eq_ok`, `addOrderItem_eq_ok` : when the two operations succeed.
-/

namespace LedgerLight

open Infra

/-! ## One line -/

/-- The input is accepted for a line of the product. -/
structure CreateOrderItemDto.Accepts (raw : CreateOrderItemDto) (product : Product) : Prop where
  qty : 0 < raw.qty.getD 0
  discountCents : 0 ≤ raw.discountCents.getD 0
  taxCents : 0 ≤ raw.taxCents.getD 0
  subtotal : raw.discountCents.getD 0 ≤ raw.qty.getD 0 * product.priceCents

/-- The line of the product. -/
def lineOf (itemId organizationId : Id) (raw : CreateOrderItemDto) (product : Product) :
    OrderItem :=
  let qty := raw.qty.getD 0
  let discountCents := raw.discountCents.getD 0
  let taxCents := raw.taxCents.getD 0
  { id := itemId, productId := raw.productId, organizationId := organizationId
    productName := product.name, sku := some product.sku, qty := qty
    unitPriceCents := product.priceCents, lineSubtotalCents := qty * product.priceCents
    discountCents := discountCents, taxCents := taxCents
    lineTotalCents := qty * product.priceCents - discountCents + taxCents }

/-- A line without its generated id. -/
def OrderItem.withoutId (item : OrderItem) : OrderItem := { item with id := ⟨0, 0⟩ }

section

variable {itemId organizationId : Id} {raw : CreateOrderItemDto} {product? : Option Product}
  {centsMessage productMessage discountMessage : String} {item : OrderItem}

/-- **A line is accepted** if its input is accepted for the product, whatever the messages are. -/
theorem computeLineItem_eq_ok :
    computeLineItem itemId organizationId raw product? centsMessage productMessage
        discountMessage = .ok item ↔
      ∃ product, product? = some product ∧ raw.Accepts product ∧
        item = lineOf itemId organizationId raw product := by
  unfold computeLineItem
  dsimp only
  constructor
  · intro h
    split at h
    · cases h
    next hqty =>
      split at h
      · cases h
      next hcents =>
        cases product? with
        | none => cases h
        | some product =>
          dsimp only at h
          split at h
          · cases h
          next hdiscount =>
            obtain rfl := Except.ok.inj h
            exact ⟨product, rfl, ⟨Int.not_le.mp hqty, by omega, by omega, Int.not_lt.mp hdiscount⟩,
              rfl⟩
  · rintro ⟨product, rfl, hraw, rfl⟩
    have hqty := hraw.qty
    have hdiscount := hraw.discountCents
    have htax := hraw.taxCents
    have hsubtotal := hraw.subtotal
    rw [if_neg (Int.not_le.mpr hqty), if_neg (by omega)]
    dsimp only
    rw [if_neg (Int.not_lt.mpr hsubtotal)]
    rfl

end

/-! ## The lines of a new order -/

/-- The product as `createOrder` looks it up. -/
def Database.activeProduct? (db : Database) (organizationId productId : Id) : Option Product :=
  (db.products.lookup productId).filter fun product =>
    product.organizationId == organizationId && product.active

/-- The product as `addOrderItem` looks it up. -/
def Database.productOf? (db : Database) (organizationId productId : Id) : Option Product :=
  (db.products.lookup productId).filter fun product => product.organizationId == organizationId

/-- The line of an input item, without its id. -/
def plainLine (organizationId : Id) (byId : Id → Option Product) (raw : CreateOrderItemDto) :
    Option OrderItem :=
  (byId raw.productId).map (lineOf ⟨0, 0⟩ organizationId raw)

section

variable {env : Env} {organizationId : Id} {byId : Id → Option Product}
  {raws : List CreateOrderItemDto} {lines items : List OrderItem} {totals totals' : OrderTotals}
  {n : Nat}

theorem computeLineItems_lines
    (h : computeLineItems env organizationId byId n raws lines totals = .ok (items, totals')) :
    ∃ new, items = lines ++ new ∧
      new.map (fun item => some item.withoutId) = raws.map (plainLine organizationId byId) ∧
      ∀ raw ∈ raws, ∃ product, byId raw.productId = some product ∧ raw.Accepts product := by
  induction raws generalizing n lines totals with
  | nil =>
    cases h
    exact ⟨[], (List.append_nil _).symm, rfl, List.forall_mem_nil _⟩
  | cons raw raws ih =>
    rw [computeLineItems] at h
    split at h
    · cases h
    next line hline =>
      obtain ⟨product, hproduct, hraw, rfl⟩ := computeLineItem_eq_ok.mp hline
      obtain ⟨new, rfl, hnew, hall⟩ := ih h
      refine ⟨_ :: new, List.append_assoc .., ?_,
        List.forall_mem_cons.mpr ⟨⟨product, hproduct, hraw⟩, hall⟩⟩
      rw [List.map_cons, List.map_cons, hnew, plainLine, hproduct]
      rfl

theorem computeLineItems_exists (env : Env) (organizationId : Id)
    (h : ∀ raw ∈ raws, ∃ product, byId raw.productId = some product ∧ raw.Accepts product)
    (n : Nat) (lines : List OrderItem) (totals : OrderTotals) :
    ∃ result, computeLineItems env organizationId byId n raws lines totals = .ok result := by
  induction raws generalizing n lines totals with
  | nil => exact ⟨_, rfl⟩
  | cons raw raws ih =>
    obtain ⟨⟨product, hproduct, hraw⟩, hall⟩ := List.forall_mem_cons.mp h
    rw [computeLineItems, computeLineItem_eq_ok.mpr ⟨product, hproduct, hraw, rfl⟩]
    exact ih hall ..

end

/-! ## The two operations -/

/-- What `createOrder` checks of its input. -/
structure Orderable (db : Database) (org : CurrentOrg) (data : CreateOrderDto) : Prop where
  items : data.orderItems ≠ []
  scope : (if hasRestrictedLocations org then
      ensureLocationAccessible org data.locationId false
        "A location is required when creating orders for a scoped membership"
    else .ok ()) = .ok ()
  customer : (data.customerId.all fun c =>
    (db.customers.lookup c).any fun row => row.organizationId == org.organizationId) = true
  location : (data.locationId.all fun l =>
    (db.locations.lookup l).any fun row =>
      row.organizationId == org.organizationId && getLocationScopeWhere org (some l)) = true
  lines : ∀ raw ∈ data.orderItems, ∃ product,
    db.activeProduct? org.organizationId raw.productId = some product ∧ raw.Accepts product

section

variable {S : Type} {env : Env} {db db' : Database} {s s' : S} {orderId : Id} {org : CurrentOrg}
  {o o' : OrderRecord}

/-- **`createOrder` succeeds** if the input is orderable and the id is new. -/
theorem createOrder_eq_ok {data : CreateOrderDto} {created : Id × OrderRecord} :
    (createOrder env org data).run db s = (.ok (created, db'), s') ↔
      Orderable db org data ∧ db.order? (env.uuid 0) = none ∧
      ∃ items totals,
        computeLineItems env org.organizationId (db.activeProduct? org.organizationId) 1
          data.orderItems [] {} = .ok (items, totals) ∧
        created = (env.uuid 0, newOrder env org data totals items) ∧
        db' = db.setOrder (env.uuid 0) (newOrder env org data totals items) ∧ s' = s := by
  constructor
  · intro h
    obtain ⟨u₁, d₁, t₁, run_items, h₁⟩ := Prog.run_bind_ok.mp h
    obtain ⟨hitems, rfl, rfl⟩ := Prog.run_require_ok.mp run_items
    obtain ⟨u₂, d₂, t₂, run_scope, h₂⟩ := Prog.run_bind_ok.mp h₁
    obtain ⟨hscope, rfl, rfl⟩ := Prog.run_ofExcept_ok.mp run_scope
    obtain ⟨d, d₃, t₃, run_read, h₃⟩ := Prog.run_bind_ok.mp h₂
    obtain ⟨rfl, rfl, rfl⟩ := Prog.run_select_ok.mp run_read
    obtain ⟨u₄, d₄, t₄, run_customer, h₄⟩ := Prog.run_bind_ok.mp h₃
    obtain ⟨hcustomer, rfl, rfl⟩ := Prog.run_require_ok.mp run_customer
    obtain ⟨u₅, d₅, t₅, run_location, h₅⟩ := Prog.run_bind_ok.mp h₄
    obtain ⟨hlocation, rfl, rfl⟩ := Prog.run_require_ok.mp run_location
    obtain ⟨u₆, d₆, t₆, run_products, h₆⟩ := Prog.run_bind_ok.mp h₅
    obtain ⟨-, rfl, rfl⟩ := Prog.run_require_ok.mp run_products
    obtain ⟨⟨items, totals⟩, d₇, t₇, run_lines, h₇⟩ := Prog.run_bind_ok.mp h₆
    obtain ⟨hlines, rfl, rfl⟩ := Prog.run_ofExcept_ok.mp run_lines
    obtain ⟨-, -, -, haccepted⟩ := computeLineItems_lines hlines
    refine ⟨⟨hitems, hscope, hcustomer, hlocation, haccepted⟩, ?_⟩
    dsimp only at h₇
    split at h₇
    · obtain ⟨o, d₈, t₈, run_create, h₈⟩ := Prog.run_bind_ok.mp h₇
      obtain ⟨hnew, rfl, rfl, rfl⟩ := orderCreate_ok.mp run_create
      obtain ⟨u₉, d₉, t₉, run_many, h₉⟩ := Prog.run_bind_ok.mp h₈
      obtain ⟨-, rfl, rfl⟩ := Prog.run_exec_ok.mp run_many
      obtain ⟨rfl, rfl, rfl⟩ := Prog.run_pure_ok.mp h₉
      rw [Database.modifyOrder_of_order? _ (Database.order?_setOrder_self ..),
        Database.setOrder_setOrder]
      exact ⟨hnew, items, totals, hlines, rfl, rfl, rfl⟩
    · obtain ⟨o, d₈, t₈, run_create, h₈⟩ := Prog.run_bind_ok.mp h₇
      obtain ⟨hnew, rfl, rfl, rfl⟩ := orderCreate_ok.mp run_create
      obtain ⟨rfl, rfl, rfl⟩ := Prog.run_pure_ok.mp h₈
      exact ⟨hnew, items, totals, hlines, rfl, rfl, rfl⟩
  · rintro ⟨hdata, hnew, items, totals, hlines, rfl, rfl, rfl⟩
    have hproducts : (((data.orderItems.map (·.productId)).dedup).filterMap
        (db.activeProduct? org.organizationId)).length =
          ((data.orderItems.map (·.productId)).dedup).length := by
      refine List.filterMap_length_eq_length.mpr fun productId hmem => ?_
      obtain ⟨raw, hraw, rfl⟩ := List.mem_map.mp (List.mem_dedup.mp hmem)
      obtain ⟨product, hproduct, -⟩ := hdata.lines raw hraw
      rw [hproduct]
      rfl
    unfold createOrder
    rw [Prog.run_bind_of (Prog.run_require_of hdata.items),
      Prog.run_bind_of (Prog.run_ofExcept_of hdata.scope),
      Prog.run_bind_of (Prog.run_select_of (a := db) rfl),
      Prog.run_bind_of (Prog.run_require_of hdata.customer),
      Prog.run_bind_of (Prog.run_require_of hdata.location)]
    refine (Prog.run_bind_of (Prog.run_require_of hproducts)).trans ?_
    refine (Prog.run_bind_of (Prog.run_ofExcept_of hlines)).trans ?_
    dsimp only
    split
    · have hmany : (orderItemCreateMany (env.uuid 0) items : Tx S Unit).run
          (db.setOrder (env.uuid 0) (newOrder env org data totals [])) s' =
            (.ok ((), db.setOrder (env.uuid 0) (newOrder env org data totals items)), s') := by
        refine Prog.run_exec_ok.mpr ⟨rfl, ?_, rfl⟩
        rw [Database.modifyOrder_of_order? _ (Database.order?_setOrder_self ..),
          Database.setOrder_setOrder]
        rfl
      rw [Prog.run_bind_of (orderCreate_ok.mpr ⟨hnew, rfl, rfl, rfl⟩), Prog.run_bind_of hmany]
      rfl
    · rw [Prog.run_bind_of (orderCreate_ok.mpr ⟨hnew, rfl, rfl, rfl⟩)]
      rfl

/-- **`addOrderItem` succeeds** on a pending order in the scope without the product. -/
theorem addOrderItem_eq_ok {data : CreateOrderItemDto} :
    (addOrderItem env org orderId data).run db s = (.ok (o', db'), s') ↔
      ∃ o product, db.order? orderId = some o ∧ o.visibleTo org = true ∧ o.status = .pending ∧
        db.productOf? org.organizationId data.productId = some product ∧
        (∀ item ∈ o.items, item.productId ≠ data.productId) ∧ data.Accepts product ∧
        o' = Order.updated env id
          (itemAdded (lineOf (env.uuid 0) org.organizationId data product) o) ∧
        db' = db.setOrder orderId o' ∧ s' = s := by
  constructor
  · intro h
    obtain ⟨found, d₁, t₁, run_find, h₁⟩ := Prog.run_bind_ok.mp h
    obtain ⟨rfl, rfl, rfl⟩ := Prog.run_select_ok.mp run_find
    cases hf : (d₁.order? orderId).filter fun o => o.visibleTo org && o.status == .pending with
    | none => simp only [hf] at h₁; exact (Prog.run_fail_ok.mp h₁).elim
    | some o =>
      simp only [hf] at h₁
      obtain ⟨ho, hv⟩ := Option.filter_eq_some_iff.mp hf
      obtain ⟨hv, hs⟩ : o.visibleTo org = true ∧ o.status = .pending := by simpa using hv
      obtain ⟨found', d₂, t₂, run_product, h₂⟩ := Prog.run_bind_ok.mp h₁
      obtain ⟨rfl, rfl, rfl⟩ := Prog.run_select_ok.mp run_product
      cases hproduct : (d₂.products.lookup data.productId).filter fun product =>
          product.organizationId == org.organizationId with
      | none => simp only [hproduct] at h₂; exact (Prog.run_fail_ok.mp h₂).elim
      | some product =>
        simp only [hproduct] at h₂
        obtain ⟨u₃, d₃, t₃, run_unique, h₃⟩ := Prog.run_bind_ok.mp h₂
        obtain ⟨hunique, rfl, rfl⟩ := Prog.run_require_ok.mp run_unique
        obtain ⟨item, d₄, t₄, run_line, h₄⟩ := Prog.run_bind_ok.mp h₃
        obtain ⟨hline, rfl, rfl⟩ := Prog.run_ofExcept_ok.mp run_line
        obtain ⟨product', hproduct', hraw, rfl⟩ := computeLineItem_eq_ok.mp hline
        obtain rfl := Option.some.inj hproduct'
        obtain ⟨o₁, ho₁, -, rfl, rfl, rfl⟩ := orderUpdate_ok.mp h₄
        obtain rfl : o = o₁ := Option.some.inj (ho.symm.trans ho₁)
        have hother : ∀ item ∈ o.items, item.productId ≠ data.productId := by simpa using hunique
        exact ⟨o, product, ho, hv, hs, hproduct, hother, hraw, rfl, rfl, rfl⟩
  · rintro ⟨o, product, ho, hv, hs, hproduct, hother, hraw, rfl, rfl, rfl⟩
    have hfind : (Prog.select fun db : Database => (db.order? orderId).filter fun o =>
        o.visibleTo org && o.status == .pending : Tx S _).run db s' = (.ok (some o, db), s') :=
      Prog.run_select_of (by rw [ho, Option.filter_some_pos (by simp [hv, hs])])
    have hread : (Prog.select fun db : Database =>
        db.productOf? org.organizationId data.productId : Tx S _).run db s' =
          (.ok (some product, db), s') := Prog.run_select_of hproduct
    have hunique : ¬ (o.items.any fun item => item.productId == data.productId) = true := by
      simpa using hother
    have horg : o.organizationId = org.organizationId := by
      have hboth := (Bool.and_eq_true _ _ ▸ hv : (_ : Prop) ∧ _)
      simpa using hboth.1
    unfold addOrderItem
    rw [Prog.run_bind_of hfind]
    refine (Prog.run_bind_of hread).trans ?_
    dsimp only
    rw [Prog.run_bind_of (Prog.run_require_of hunique),
      Prog.run_bind_of (Prog.run_ofExcept_of
        (computeLineItem_eq_ok.mpr ⟨product, rfl, hraw, rfl⟩))]
    exact orderUpdate_ok.mpr ⟨o, ho, horg, rfl, rfl, rfl⟩

end

end LedgerLight
