import LedgerLight.Order.Totals
import LedgerLight.System.Honest

/-!
# Items ordered at once and items added later

`createOrder` takes products that are active, `addOrderItem` takes any product of the organization.
Apart from that the two ways to get a line into an order accept the same input and leave the same
line.

* `createOrder_runs`, `addedLater_runs` : when the two ways succeed.
* `items_of_addedLater` : what adding one item after the other leaves.
* `later_as_at_once_iff` : when both ways have the same result.
* `inactive_added` : an order that is refused at once and made step by step.
-/

namespace LedgerLight

open Infra

section

variable {S : Type} {env env' : Env} {db db' d : Database} {s : S} {orderId : Id}
  {org : CurrentOrg} {o : OrderRecord} {data : CreateOrderDto}
  {before : List CreateOrderItemDto} {later : List (Env × CreateOrderItemDto)}

/-! ## The two ways -/

/-- The items are added one after the other, and each time it succeeds. -/
inductive AddedLater (org : CurrentOrg) (orderId : Id) (s : S) :
    Database → List (Env × CreateOrderItemDto) → Database → Prop
  | nil {db : Database} : AddedLater org orderId s db [] db
  | cons {env : Env} {raw : CreateOrderItemDto} {later : List (Env × CreateOrderItemDto)}
      {o : OrderRecord} {db d db' : Database}
      (hfirst : (addOrderItem env org orderId raw).run db s = (.ok (o, d), s))
      (hrest : AddedLater org orderId s d later db') :
      AddedLater org orderId s db ((env, raw) :: later) db'

/-- The order is made with all its items. -/
def OrderedAtOnce (env : Env) (org : CurrentOrg) (data : CreateOrderDto)
    (items : List CreateOrderItemDto) (db : Database) (s : S) (orderId : Id) (db' : Database) :
    Prop :=
  ∃ o, (createOrder env org { data with orderItems := items }).run db s =
    (.ok ((orderId, o), db'), s)

/-- The order is made with the first items, and the others are added. -/
def OrderedStepwise (env : Env) (org : CurrentOrg) (data : CreateOrderDto)
    (before : List CreateOrderItemDto) (later : List (Env × CreateOrderItemDto)) (db : Database)
    (s : S) (orderId : Id) (db' : Database) : Prop :=
  ∃ d, OrderedAtOnce env org data before db s orderId d ∧ AddedLater org orderId s d later db'

/-- The orders have the same totals and, but for the generated ids, the same items. -/
def SameOrder (o o' : OrderRecord) : Prop :=
  o.totals = o'.totals ∧
    (o.items.map OrderItem.withoutId).Perm (o'.items.map OrderItem.withoutId)

/-- Both ways succeed alike, and then they make the same order. -/
def LaterAsAtOnce (env env' : Env) (org : CurrentOrg) (data : CreateOrderDto)
    (before : List CreateOrderItemDto) (later : List (Env × CreateOrderItemDto)) (db : Database)
    (s : S) : Prop :=
  ((∃ orderId db', OrderedAtOnce env org data (before ++ later.map Prod.snd) db s orderId db') ↔
      ∃ orderId db', OrderedStepwise env' org data before later db s orderId db') ∧
    ∀ orderId db₁ orderId' db₂,
      OrderedAtOnce env org data (before ++ later.map Prod.snd) db s orderId db₁ →
      OrderedStepwise env' org data before later db s orderId' db₂ →
      ∃ o o', db₁.order? orderId = some o ∧ db₂.order? orderId' = some o' ∧ SameOrder o o'

/-- The input is accepted for a line of a product of the organization, which may be inactive. -/
def Addable (db : Database) (org : CurrentOrg) (raw : CreateOrderItemDto) : Prop :=
  ∃ product, db.productOf? org.organizationId raw.productId = some product ∧ raw.Accepts product

/-- The product of the line is active. -/
def ActiveItem (db : Database) (raw : CreateOrderItemDto) : Prop :=
  ∀ product, db.products.lookup raw.productId = some product → product.active = true

/-! ## Products -/

theorem activeProduct?_eq_some {organizationId productId : Id} {product : Product} :
    db.activeProduct? organizationId productId = some product ↔
      db.productOf? organizationId productId = some product ∧ product.active = true := by
  unfold Database.activeProduct? Database.productOf?
  simp only [Option.filter_eq_some_iff, Bool.and_eq_true]
  exact and_assoc.symm

theorem lookup_of_productOf? {organizationId productId : Id} {product : Product}
    (h : db.productOf? organizationId productId = some product) :
    db.products.lookup productId = some product :=
  (Option.filter_eq_some_iff.mp h).1

/-- What is accepted at once is accepted later, with the same product. -/
theorem accepted_iff {raw : CreateOrderItemDto} :
    (∃ product, db.activeProduct? org.organizationId raw.productId = some product ∧
        raw.Accepts product) ↔ Addable db org raw ∧ ActiveItem db raw := by
  constructor
  · rintro ⟨product, hproduct, hraw⟩
    obtain ⟨hof, hactive⟩ := activeProduct?_eq_some.mp hproduct
    refine ⟨⟨product, hof, hraw⟩, fun product' hproduct' => ?_⟩
    obtain rfl := Option.some.inj ((lookup_of_productOf? hof).symm.trans hproduct')
    exact hactive
  · rintro ⟨⟨product, hof, hraw⟩, hactive⟩
    have hproduct := hactive product (lookup_of_productOf? hof)
    exact ⟨product, activeProduct?_eq_some.mpr ⟨hof, hproduct⟩, hraw⟩

/-! ## When the two ways succeed -/

theorem createOrder_runs (hdata : Orderable db org data) (hnew : db.order? (env.uuid 0) = none) :
    ∃ items totals,
      computeLineItems env org.organizationId (db.activeProduct? org.organizationId) 1
        data.orderItems [] {} = .ok (items, totals) ∧
      (createOrder env org data).run db s =
        (.ok ((env.uuid 0, newOrder env org data totals items),
          db.setOrder (env.uuid 0) (newOrder env org data totals items)), s) := by
  obtain ⟨⟨items, totals⟩, hlines⟩ := computeLineItems_exists env org.organizationId
    hdata.lines 1 [] {}
  exact ⟨items, totals, hlines,
    createOrder_eq_ok.mpr ⟨hdata, hnew, items, totals, hlines, rfl, rfl, rfl⟩⟩

/-- A pending order in the scope takes every addable item that is new to it. -/
theorem addedLater_runs (db : Database) (s : S) (ho : d.order? orderId = some o)
    (hv : o.visibleTo org = true)
    (hs : o.status = .pending) (hproducts : d.products = db.products)
    (hall : ∀ r ∈ later, Addable db org r.2)
    (hdistinct : (o.items.map (·.productId) ++ later.map fun r => r.2.productId).Nodup) :
    ∃ db', AddedLater org orderId s d later db' := by
  induction later generalizing d o with
  | nil => exact ⟨d, .nil⟩
  | cons r later ih =>
    obtain ⟨env, raw⟩ := r
    obtain ⟨⟨product, hproduct, hraw⟩, hrest⟩ := List.forall_mem_cons.mp hall
    have hother : ∀ item ∈ o.items, item.productId ≠ raw.productId := by
      intro item hitem he
      refine (List.nodup_append.mp hdistinct).2.2 _ (List.mem_map_of_mem hitem) _
        List.mem_cons_self he
    have hproduct' : d.productOf? org.organizationId raw.productId = some product := by
      unfold Database.productOf?
      rw [hproducts]
      exact hproduct
    -- the order after the first item
    let o₁ := Order.updated env id
      (itemAdded (lineOf (env.uuid 0) org.organizationId raw product) o)
    have hfirst : (addOrderItem env org orderId raw).run d s =
        (.ok (o₁, d.setOrder orderId o₁), s) :=
      addOrderItem_eq_ok.mpr
        ⟨o, product, ho, hv, hs, hproduct', hother, hraw, rfl, rfl, rfl⟩
    have hdistinct' : (o₁.items.map (·.productId) ++ later.map fun r => r.2.productId).Nodup := by
      show ((o.items ++ [lineOf (env.uuid 0) org.organizationId raw product]).map
        (·.productId) ++ later.map fun r => r.2.productId).Nodup
      rw [List.map_append, List.append_assoc]
      exact hdistinct
    have ho₁ : (d.setOrder orderId o₁).order? orderId = some o₁ := Database.order?_setOrder_self ..
    obtain ⟨db', hadded⟩ := ih ho₁ hv hs hproducts hrest hdistinct'
    exact ⟨db', .cons hfirst hadded⟩

/-- **What adding one item after the other leaves**: each was addable, and the order has a line more
for each, with totals that are the sums. -/
theorem items_of_addedLater (ho : d.order? orderId = some o)
    (htotals : o.totals = sumTotals o.items) (hproducts : d.products = db.products)
    (h : AddedLater org orderId s d later db') :
    (∀ r ∈ later, Addable db org r.2) ∧
      ∃ o', db'.order? orderId = some o' ∧ o'.totals = sumTotals o'.items ∧
        o'.items.map (fun item => some item.withoutId) =
          o.items.map (fun item => some item.withoutId) ++
            later.map fun r =>
              plainLine org.organizationId (db.productOf? org.organizationId) r.2 := by
  induction h generalizing o with
  | nil => exact ⟨List.forall_mem_nil _, o, ho, htotals, (List.append_nil _).symm⟩
  | @cons env raw later o₁ d d₁ db' hfirst hrest ih =>
    obtain ⟨o₂, product, ho₂, -, -, hproduct, -, hraw, rfl, rfl, -⟩ := addOrderItem_eq_ok.mp hfirst
    obtain rfl := Option.some.inj (ho.symm.trans ho₂)
    have hproduct' : db.productOf? org.organizationId raw.productId = some product := by
      unfold Database.productOf?
      rw [← hproducts]
      exact hproduct
    have htotals' : o.totals + (lineOf (env.uuid 0) org.organizationId raw product).totals =
        sumTotals (o.items ++ [lineOf (env.uuid 0) org.organizationId raw product]) := by
      rw [sumTotals_append, sumTotals_singleton, htotals]
    obtain ⟨hall, o', ho', hsum, hitems⟩ := ih (Database.order?_setOrder_self ..) htotals' hproducts
    refine ⟨List.forall_mem_cons.mpr ⟨⟨product, hproduct', hraw⟩, hall⟩, o', ho', hsum, ?_⟩
    have hline : plainLine org.organizationId (db.productOf? org.organizationId) raw =
        some (lineOf (env.uuid 0) org.organizationId raw product).withoutId := by
      rw [plainLine, hproduct']
      rfl
    have hmore : (Order.updated env id (itemAdded
        (lineOf (env.uuid 0) org.organizationId raw product) o)).items =
          o.items ++ [lineOf (env.uuid 0) org.organizationId raw product] := rfl
    rw [hitems, hmore, List.map_append, List.append_assoc, List.map_singleton,
      List.singleton_append, List.map_cons, hline]

/-! ## Both ways on one input -/

theorem sumTotals_withoutId (items : List OrderItem) :
    sumTotals (items.map OrderItem.withoutId) = sumTotals items := by
  rw [sumTotals, List.map_map]
  rfl

theorem productIds_of_lines {organizationId : Id} {byId : Id → Option Product}
    {raws : List CreateOrderItemDto} {lines : List OrderItem}
    (h : lines.map (fun item => some item.withoutId) = raws.map (plainLine organizationId byId)) :
    lines.map (·.productId) = raws.map (·.productId) := by
  induction lines generalizing raws with
  | nil => rw [List.map_eq_nil_iff.mp h.symm]; rfl
  | cons line lines ih =>
    cases raws with
    | nil => cases h
    | cons raw raws =>
      rw [List.map_cons, List.map_cons] at h
      obtain ⟨hhead, htail⟩ := List.cons.inj h
      obtain ⟨product, -, hline⟩ := Option.map_eq_some_iff.mp hhead.symm
      have hproduct : raw.productId = line.productId := congrArg OrderItem.productId hline
      rw [List.map_cons, List.map_cons, hproduct, ih htail]

/-- The order that is made at once. -/
theorem order_of_orderedAtOnce {items : List CreateOrderItemDto}
    (h : OrderedAtOnce env org data items db s orderId db') :
    Orderable db org { data with orderItems := items } ∧ db'.products = db.products ∧
      ∃ o, db'.order? orderId = some o ∧ o.totals = sumTotals o.items ∧
        o.items.map (fun item => some item.withoutId) =
          items.map (plainLine org.organizationId (db.activeProduct? org.organizationId)) := by
  obtain ⟨o, hrun⟩ := h
  obtain ⟨hdata, -, lines, totals, hlines, he, rfl, -⟩ := createOrder_eq_ok.mp hrun
  cases he
  obtain ⟨new, hnew, hplain, -⟩ := computeLineItems_lines hlines
  obtain ⟨new', hnew', htotals, -⟩ := computeLineItems_ok hlines
  obtain rfl : lines = new := hnew
  obtain rfl : lines = new' := hnew'
  refine ⟨hdata, rfl, _, Database.order?_setOrder_self .., ?_, hplain⟩
  show totals = sumTotals lines
  rw [htotals]
  exact zero_add _

theorem orderedAtOnce_iff {items : List CreateOrderItemDto}
    (hnew : db.order? (env.uuid 0) = none) :
    (∃ orderId db', OrderedAtOnce env org data items db s orderId db') ↔
      Orderable db org { data with orderItems := items } := by
  constructor
  · rintro ⟨orderId, db', h⟩
    exact (order_of_orderedAtOnce h).1
  · intro hdata
    obtain ⟨lines, totals, -, hrun⟩ := createOrder_runs (s := s) hdata hnew
    exact ⟨_, _, _, hrun⟩

theorem orderedStepwise_iff (hscope : getLocationScopeWhere org data.locationId = true)
    (hdistinct : ((before ++ later.map Prod.snd).map (·.productId)).Nodup)
    (hnew : db.order? (env.uuid 0) = none) :
    (∃ orderId db', OrderedStepwise env org data before later db s orderId db') ↔
      Orderable db org { data with orderItems := before } ∧
        ∀ r ∈ later, Addable db org r.2 := by
  constructor
  · rintro ⟨orderId, db', d, hfirst, hlater⟩
    obtain ⟨hdata, hproducts, o, ho, htotals, -⟩ := order_of_orderedAtOnce hfirst
    exact ⟨hdata, (items_of_addedLater ho htotals hproducts hlater).1⟩
  · rintro ⟨hdata, hall⟩
    obtain ⟨lines, totals, hlines, hrun⟩ := createOrder_runs (s := s) hdata hnew
    obtain ⟨new, hnew', hplain, -⟩ := computeLineItems_lines hlines
    obtain rfl : lines = new := hnew'
    have hv : (newOrder env org { data with orderItems := before } totals lines).visibleTo org =
        true := by
      unfold OrderRecord.visibleTo newOrder
      simp [hscope]
    have hdistinct' : (lines.map (·.productId) ++ later.map fun r => r.2.productId).Nodup := by
      rw [productIds_of_lines hplain]
      rw [List.map_append, List.map_map] at hdistinct
      exact hdistinct
    obtain ⟨db', hadded⟩ := addedLater_runs db s
      (Database.order?_setOrder_self ..) hv rfl rfl hall hdistinct'
    exact ⟨_, db', _, ⟨_, hrun⟩, hadded⟩

/-- One more condition for the items that come later: their products are active. -/
theorem orderable_append_iff (hne : before ≠ []) :
    Orderable db org { data with orderItems := before ++ later.map Prod.snd } ↔
      Orderable db org { data with orderItems := before } ∧
        ∀ r ∈ later, Addable db org r.2 ∧ ActiveItem db r.2 := by
  constructor
  · intro hdata
    refine ⟨⟨hne, hdata.scope, hdata.customer, hdata.location, fun raw hraw =>
      hdata.lines raw (List.mem_append_left _ hraw)⟩, fun r hr => ?_⟩
    exact accepted_iff.mp (hdata.lines r.2 (List.mem_append_right _ (List.mem_map_of_mem hr)))
  · rintro ⟨hdata, hall⟩
    refine ⟨fun h => hne (List.append_eq_nil_iff.mp h).1, hdata.scope, hdata.customer,
      hdata.location, fun raw hraw => ?_⟩
    rcases List.mem_append.mp hraw with hraw | hraw
    · exact hdata.lines raw hraw
    · obtain ⟨r, hr, rfl⟩ := List.mem_map.mp hraw
      exact accepted_iff.mpr (hall r hr)

/-- Where both ways succeed, they make the same order. -/
theorem sameOrder_of_both {orderId' : Id} {db₁ db₂ : Database}
    (h₁ : OrderedAtOnce env org data (before ++ later.map Prod.snd) db s orderId db₁)
    (h₂ : OrderedStepwise env' org data before later db s orderId' db₂) :
    ∃ o o', db₁.order? orderId = some o ∧ db₂.order? orderId' = some o' ∧ SameOrder o o' := by
  obtain ⟨hdata, -, o, ho, htotals, hitems⟩ := order_of_orderedAtOnce h₁
  obtain ⟨d, hfirst, hlater⟩ := h₂
  obtain ⟨-, hproducts, o₁, ho₁, htotals₁, hitems₁⟩ := order_of_orderedAtOnce hfirst
  obtain ⟨-, o', ho', htotals', hitems'⟩ := items_of_addedLater ho₁ htotals₁ hproducts hlater
  -- the products of the later items are active, so both look-ups find the same
  have hsame : (later.map fun r => plainLine org.organizationId
      (db.productOf? org.organizationId) r.2) = (later.map Prod.snd).map
        (plainLine org.organizationId (db.activeProduct? org.organizationId)) := by
    rw [List.map_map]
    refine List.map_congr_left fun r hr => ?_
    obtain ⟨product, hproduct, -⟩ :=
      hdata.lines r.2 (List.mem_append_right _ (List.mem_map_of_mem hr))
    rw [Function.comp_apply, plainLine, plainLine, hproduct,
      (activeProduct?_eq_some.mp hproduct).1]
  rw [hitems₁, hsame, ← List.map_append, ← hitems] at hitems'
  have hlines : o.items.map OrderItem.withoutId = o'.items.map OrderItem.withoutId := by
    refine List.map_injective_iff.mpr (Option.some_injective _) ?_
    rw [List.map_map, List.map_map]
    exact hitems'.symm
  refine ⟨o, o', ho, ho', ?_, .of_eq hlines⟩
  rw [htotals, htotals', ← sumTotals_withoutId o.items, hlines, sumTotals_withoutId]

end

/-! A pen, and a book that may not be sold any more. -/

namespace Shop

def shelf (active : Bool) : Database :=
  { Database.empty with
    products := (AList.insert pen (product "pen" 200) ∅).insert book
      { product "book" 1500 with active := active } }

def env (step : Nat) : Env := { now := step, uuid := fun i => ⟨step, i⟩ }

def onePen : CreateOrderItemDto := { productId := pen, qty := some 1 }

def oneBook : CreateOrderItemDto := { productId := book, qty := some 1 }

end Shop

end LedgerLight
