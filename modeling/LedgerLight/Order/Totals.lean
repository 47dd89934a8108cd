import LedgerLight.Infra.Keyed
import LedgerLight.Order.Spec
import Mathlib.Algebra.BigOperators.Group.List.Lemmas
import Mathlib.Algebra.Order.BigOperators.Group.List
import Mathlib.Algebra.Order.Ring.Int
import Mathlib.Tactic.Abel

/-!
# The sums of an order

An order keeps four sums over its items. `createOrder` computes them in a loop, and the two
operations on single items add or subtract the share of one line.

The four sums are a group, in which the share of a line is one element, so an order adds up when its
totals are the sum of the shares (`OrderRecord.AddsUp`).

* `computeLineItems_ok` : what the loop of `createOrder` computes.
* `OrderRecord.AddsUp.itemAdded`, `OrderRecord.AddsUp.itemDeleted` : an item more, an item less.
-/

namespace LedgerLight

open Infra

/-! ## Totals -/

namespace OrderTotals

attribute [ext] OrderTotals

instance : Add OrderTotals := ⟨add⟩

instance : Zero OrderTotals := ⟨{}⟩

instance : Sub OrderTotals := ⟨sub⟩

instance : Neg OrderTotals := ⟨sub 0⟩

instance : AddCommGroup OrderTotals where
  add_assoc a b c := by
    ext <;> exact Int.add_assoc ..
  add_comm a b := by
    ext <;> exact Int.add_comm ..
  zero_add a := by
    ext <;> exact Int.zero_add _
  add_zero a := by
    ext <;> exact Int.add_zero _
  neg_add_cancel a := by
    ext <;> exact (congrArg (· + _) (Int.zero_sub _)).trans (Int.add_left_neg _)
  sub_eq_add_neg a b := by
    ext <;> exact Int.sub_eq_add_neg.trans (congrArg (_ + ·) (Int.zero_sub _).symm)
  nsmul := nsmulRec
  zsmul := zsmulRec

/-- Each of the four sums adds up by itself. -/
theorem sum_field (f : OrderTotals → Int) (hzero : f 0 = 0) (hadd : ∀ a b, f (a + b) = f a + f b)
    (l : List OrderTotals) : f l.sum = (l.map f).sum := by
  induction l with
  | nil => exact hzero
  | cons a l ih => rw [List.sum_cons, hadd, ih, List.map_cons, List.sum_cons]

end OrderTotals

/-- The share of some lines. -/
def sumTotals (items : List OrderItem) : OrderTotals := (items.map OrderItem.totals).sum

theorem sumTotals_append (items items' : List OrderItem) :
    sumTotals (items ++ items') = sumTotals items + sumTotals items' := by
  simp [sumTotals]

@[simp] theorem sumTotals_singleton (item : OrderItem) : sumTotals [item] = item.totals := by
  simp [sumTotals]

def OrderRecord.totals (o : OrderRecord) : OrderTotals :=
  { subtotalCents := o.subtotalCents, taxCents := o.taxCents, discountCents := o.discountCents,
    totalCents := o.totalCents }

/-! ## Lines -/

/-- The amounts of a line fit together. -/
structure OrderItem.Valid (i : OrderItem) : Prop where
  qty : 1 ≤ i.qty
  lineSubtotalCents : i.lineSubtotalCents = i.qty * i.unitPriceCents
  discountCents_nonneg : 0 ≤ i.discountCents
  discountCents_le : i.discountCents ≤ i.lineSubtotalCents
  taxCents : 0 ≤ i.taxCents
  lineTotalCents : i.lineTotalCents = i.lineSubtotalCents - i.discountCents + i.taxCents

theorem OrderItem.Valid.lineTotalCents_nonneg {i : OrderItem} (h : i.Valid) :
    0 ≤ i.lineTotalCents := by
  have htotal := h.lineTotalCents
  have hdiscount := h.discountCents_le
  have htax := h.taxCents
  omega

section

variable {env : Env} {itemId organizationId : Id} {raw : CreateOrderItemDto}
  {raws : List CreateOrderItemDto} {product? : Option Product} {byId : Id → Option Product}
  {centsMessage productMessage discountMessage : String} {item : OrderItem}
  {lines items : List OrderItem} {totals totals' : OrderTotals} {n : Nat} {o : OrderRecord}

theorem computeLineItem_ok (h : computeLineItem itemId organizationId raw product? centsMessage
    productMessage discountMessage = .ok item) : item.Valid ∧ item.id = itemId := by
  unfold computeLineItem at h
  dsimp only at h
  split at h
  · cases h
  next hqty =>
    split at h
    · cases h
    next hcents =>
      cases product? with
      | none => cases h
      | some product =>
        dsimp only at h
        split at h
        · cases h
        next hdiscount =>
          obtain rfl := Except.ok.inj h
          have hone : 1 ≤ raw.qty.getD 0 := by omega
          have hdiscount₀ : 0 ≤ raw.discountCents.getD 0 := by omega
          have htax : 0 ≤ raw.taxCents.getD 0 := by omega
          exact ⟨⟨hone, rfl, hdiscount₀, Int.not_lt.mp hdiscount, htax, rfl⟩, rfl⟩

/-- **The loop of `createOrder`**: one valid line for every input item, each with an id of its own,
and the sums grow by their shares. -/
theorem computeLineItems_ok
    (h : computeLineItems env organizationId byId n raws lines totals = .ok (items, totals')) :
    ∃ new, items = lines ++ new ∧ totals' = totals + sumTotals new ∧ (∀ i ∈ new, i.Valid) ∧
      new.map (·.id) = (List.range' n raws.length).map env.uuid := by
  induction raws generalizing n lines totals with
  | nil =>
    cases h
    exact ⟨[], (List.append_nil _).symm, (add_zero _).symm, List.forall_mem_nil _, rfl⟩
  | cons raw raws ih =>
    rw [computeLineItems] at h
    split at h
    · cases h
    next line hline =>
      obtain ⟨hvalid, hid⟩ := computeLineItem_ok hline
      obtain ⟨new, rfl, rfl, hall, hids⟩ := ih h
      refine ⟨line :: new, List.append_assoc .., ?_, ?_, ?_⟩
      · show totals + line.totals + sumTotals new = totals + sumTotals (line :: new)
        simp [sumTotals, add_assoc]
      · exact List.forall_mem_cons.mpr ⟨hvalid, hall⟩
      · rw [List.map_cons, hids, hid, List.length_cons, List.range'_succ, List.map_cons]

/-! ## Orders that add up -/

/-- The order has items, each with an id of its own and amounts that fit together, and its totals
are the sums of theirs. -/
structure OrderRecord.AddsUp (o : OrderRecord) : Prop where
  items : o.items ≠ []
  ids : (o.items.map (·.id)).Nodup
  valid : ∀ i ∈ o.items, i.Valid
  totals : o.totals = sumTotals o.items

/-- The order has the items and the totals of `o`. -/
structure OrderRecord.SameLines (o o' : OrderRecord) : Prop where
  items : o'.items = o.items
  totals : o'.totals = o.totals

theorem OrderRecord.SameLines.refl (o : OrderRecord) : o.SameLines o := ⟨rfl, rfl⟩

theorem OrderRecord.sameLines_afterRefund (p : PaymentWithAttempts) :
    o.SameLines (o.afterRefund env p) := by
  unfold OrderRecord.afterRefund
  split <;> exact ⟨rfl, rfl⟩

theorem Transition.sameLines {S M : Type} {stripe : StripeService S M} {s s' : S} {o' : OrderRecord}
    {toStatus : OrderStatus} {rows : List (Id × AuditAction)}
    (ht : Transition stripe env o s toStatus o' rows s') : o.SameLines o' := by
  cases ht <;> exact ⟨rfl, rfl⟩

namespace OrderRecord.AddsUp

theorem congr {o o' : OrderRecord} (h : o.AddsUp) (hsame : o.SameLines o') : o'.AddsUp where
  items := hsame.items ▸ h.items
  ids := hsame.items ▸ h.ids
  valid := hsame.items ▸ h.valid
  totals := by rw [hsame.totals, hsame.items, h.totals]

/-- A new order adds up if the generated ids differ. -/
theorem newOrder {org : CurrentOrg} {data : CreateOrderDto}
    (huuid : Function.Injective env.uuid) (hne : data.orderItems ≠ [])
    (h : computeLineItems env org.organizationId byId 1 data.orderItems [] {} =
      .ok (items, totals)) : (newOrder env org data totals items).AddsUp := by
  obtain ⟨new, hitems, rfl, hall, hids⟩ := computeLineItems_ok h
  obtain rfl : items = new := hitems
  have hlength : items.length = data.orderItems.length := by
    rw [← List.length_map (·.id), hids, List.length_map, List.length_range']
  refine ⟨fun hnil => ?_, ?_, hall, ?_⟩
  · have hzero : items.length = 0 := List.length_eq_zero_iff.mpr hnil
    rw [hlength] at hzero
    exact hne (List.length_eq_zero_iff.mp hzero)
  · show (items.map (·.id)).Nodup
    rw [hids]
    exact List.Nodup.map huuid List.nodup_range'
  · show (0 : OrderTotals) + sumTotals items = sumTotals items
    exact zero_add _

/-- One more item with a new id. -/
theorem itemAdded (h : o.AddsUp) (hvalid : item.Valid) (hnew : ∀ i ∈ o.items, i.id ≠ item.id) :
    (itemAdded item o).AddsUp where
  items := List.append_ne_nil_of_right_ne_nil _ (List.cons_ne_nil _ _)
  ids := Keyed.nodup_append_singleton h.ids hnew
  valid := fun i hi => by
    rcases List.mem_append.mp hi with hi | hi
    · exact h.valid i hi
    · rw [List.mem_singleton.mp hi]
      exact hvalid
  totals := by
    show o.totals + item.totals = sumTotals (o.items ++ [item])
    rw [sumTotals_append, sumTotals_singleton, h.totals]

/-- One of several items less. -/
theorem itemDeleted (h : o.AddsUp) (hi : item ∈ o.items) (htwo : 1 < o.items.length) :
    (itemDeleted item o).AddsUp where
  items := fun hnil => by
    have hlength := Keyed.length_without h.ids hi
    have hzero : (Keyed.without (·.id) item o.items).length = 0 := List.length_eq_zero_iff.mpr hnil
    omega
  ids := Keyed.nodup_without h.ids
  valid := fun i hmem => h.valid i (Keyed.mem_of_mem_without hmem)
  totals := by
    have hsum : item.totals + sumTotals (Keyed.without (·.id) item o.items) = sumTotals o.items :=
      Keyed.sum_without OrderItem.totals h.ids hi
    show o.totals - item.totals = sumTotals (Keyed.without (·.id) item o.items)
    rw [h.totals, ← hsum]
    abel

/-! ### The four sums -/

/-- Each of the totals is the sum over the items of what one item adds to it. -/
theorem field (h : o.AddsUp) (f : OrderTotals → Int) (hzero : f 0 = 0)
    (hadd : ∀ a b, f (a + b) = f a + f b) :
    f o.totals = (o.items.map fun i => f i.totals).sum := by
  rw [h.totals, sumTotals, OrderTotals.sum_field f hzero hadd, List.map_map]
  rfl

theorem subtotalCents (h : o.AddsUp) :
    o.subtotalCents = (o.items.map (·.lineSubtotalCents)).sum :=
  h.field OrderTotals.subtotalCents rfl fun _ _ => rfl

theorem discountCents (h : o.AddsUp) : o.discountCents = (o.items.map (·.discountCents)).sum :=
  h.field OrderTotals.discountCents rfl fun _ _ => rfl

theorem taxCents (h : o.AddsUp) : o.taxCents = (o.items.map (·.taxCents)).sum :=
  h.field OrderTotals.taxCents rfl fun _ _ => rfl

theorem totalCents (h : o.AddsUp) : o.totalCents = (o.items.map (·.lineTotalCents)).sum :=
  h.field OrderTotals.totalCents rfl fun _ _ => rfl

/-- What holds of the amounts of every line holds of the totals. -/
theorem totalCents_eq (h : o.AddsUp) :
    o.totalCents = o.subtotalCents - o.discountCents + o.taxCents := by
  -- by how much the total is off
  let off (t : OrderTotals) : Int := t.totalCents - (t.subtotalCents - t.discountCents + t.taxCents)
  have hsum : off o.totals = (o.items.map fun i => off i.totals).sum := by
    refine h.field off rfl fun a b => ?_
    show a.totalCents + b.totalCents - (a.subtotalCents + b.subtotalCents -
      (a.discountCents + b.discountCents) + (a.taxCents + b.taxCents)) = off a + off b
    simp only [off]
    omega
  have hzero : (o.items.map fun i => off i.totals).sum = 0 := by
    refine List.sum_eq_zero fun n hn => ?_
    obtain ⟨i, hi, rfl⟩ := List.mem_map.mp hn
    exact Int.sub_eq_zero.mpr (h.valid i hi).lineTotalCents
  exact Int.sub_eq_zero.mp (hsum.trans hzero)

theorem totalCents_nonneg (h : o.AddsUp) : 0 ≤ o.totalCents := by
  rw [h.totalCents]
  refine List.sum_nonneg fun n hn => ?_
  obtain ⟨i, hi, rfl⟩ := List.mem_map.mp hn
  exact (h.valid i hi).lineTotalCents_nonneg

end OrderRecord.AddsUp

end

end LedgerLight
