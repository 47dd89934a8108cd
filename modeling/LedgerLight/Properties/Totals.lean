import LedgerLight.Order.Totals
import LedgerLight.System.Honest

/-!
# Totals are the sums of the lines

The four sums of an order are stored beside its items: computed when it is created, and counted up
and down when one item is added or deleted. Nothing else writes them, and nothing writes an item
again.

* `totals_are_sums` : in every run, every order adds up, and an item stays as it was added.
-/

namespace LedgerLight

open Infra

variable {S M : Type} {stripe : StripeService S M} {w : World S} {a : Action M} {k : Id}
  {o o' : OrderRecord} {i : OrderItem}

/-! ## Steps -/

/-- **How the items of an order change**: not at all, by one that is added to a pending order, or by
one of several that is deleted. -/
theorem lines_change {rows : List (Id × AuditAction)} {s' : S}
    (hc : Change stripe w k a o o' rows s') :
    o.SameLines o' ∨
      (∃ item, o.status = .pending ∧ item.Valid ∧ item.id = w.env.uuid 0 ∧
        (itemAdded item o).SameLines o') ∨
      ∃ org itemId item, a = .deleteOrderItem org k itemId ∧ item ∈ o.items ∧
        1 < o.items.length ∧ (itemDeleted item o).SameLines o' := by
  cases hc with
  | itemAdded hs hline =>
    obtain ⟨product, hline⟩ := hline
    obtain ⟨hvalid, hid⟩ := computeLineItem_ok hline
    exact Or.inr (Or.inl ⟨_, hs, hvalid, hid, rfl, rfl⟩)
  | itemDeleted hi htwo => exact Or.inr (Or.inr ⟨_, _, _, rfl, hi, htwo, rfl, rfl⟩)
  | transition ho hv ht => exact Or.inl ht.sameLines
  | cashRefunded hcall hid hp hpid => exact Or.inl (OrderRecord.sameLines_afterRefund _)
  | refundSynced y hsync hid hp => exact Or.inl (OrderRecord.sameLines_afterRefund _)
  | metadata => exact Or.inl ⟨rfl, rfl⟩
  | backfilled => exact Or.inl ⟨rfl, rfl⟩
  | attemptStarted hs hp hrefund hpaid hr hans hsecret => exact Or.inl ⟨rfl, rfl⟩
  | paidInCash hs hp hreq hpend hpaid hprogress => exact Or.inl ⟨rfl, rfl⟩
  | synced y hsync hid hp => exact Or.inl ⟨rfl, rfl⟩
  | refundRequested hcall hid hp hpid => exact Or.inl ⟨rfl, rfl⟩
  | refundFailed hcall hid hp hpid => exact Or.inl ⟨rfl, rfl⟩

/-- Every order adds up, and the id of an item, generated in an earlier step, is the id of no other
item of any order. -/
structure World.Itemized (w : World S) : Prop where
  addsUp : w.Every OrderRecord.AddsUp
  known : w.Every fun o => ∀ i ∈ o.items, i.id.step < w.steps
  apart : ∀ k k' o o' i i', w.db.order? k = some o → w.db.order? k' = some o' → i ∈ o.items →
    i' ∈ o'.items → i'.id = i.id → k' = k ∧ i' = i

/-- An order after a step adds up, and an item of it is new or was an item of it before. -/
theorem step_lines (h : w.Itemized) (ho' : ((system stripe).step w a).db.order? k = some o') :
    o'.AddsUp ∧ ∀ i ∈ o'.items, i.id.step = w.steps ∨ ∃ o, w.db.order? k = some o ∧ i ∈ o.items := by
  have hsame : ∀ o, w.db.order? k = some o → o.SameLines o' → o'.AddsUp ∧
      ∀ i ∈ o'.items, i.id.step = w.steps ∨ ∃ o, w.db.order? k = some o ∧ i ∈ o.items :=
    fun o ho hlines => ⟨(h.addsUp k o ho).congr hlines,
      fun i hi => Or.inr ⟨o, ho, hlines.items ▸ hi⟩⟩
  cases step_effect stripe w a with
  | keep hkeep => exact hsame o' (hkeep.order? k ▸ ho') (.refl o')
  | @create org data totals items hnew hput hitems hlines =>
    rw [hput.order?] at ho'
    split at ho'
    · obtain rfl := Option.some.inj ho'
      obtain ⟨byId, hlines⟩ := hlines
      have huuid : Function.Injective w.env.uuid := fun n n' he => congrArg Id.index he
      refine ⟨.newOrder huuid hitems hlines, fun i hi => Or.inl ?_⟩
      obtain ⟨new, hnew, -, -, hids⟩ := computeLineItems_ok hlines
      obtain rfl : items = new := hnew
      have hmem : i.id ∈ items.map (·.id) := List.mem_map_of_mem hi
      rw [hids] at hmem
      obtain ⟨n, -, hn⟩ := List.mem_map.mp hmem
      rw [← hn]
      rfl
    · exact hsame o' ho' (.refl o')
  | @change orderId o o₁ rows ho hc hput =>
    rw [hput.order?] at ho'
    split at ho'
    next hk =>
      obtain rfl := Option.some.inj ho'
      subst hk
      rcases lines_change hc with hlines | ⟨item, -, hvalid, hid, hlines⟩ |
        ⟨_, _, item, -, hi, htwo, hlines⟩
      · exact hsame o ho hlines
      · -- its id is not the id of an item that is there
        have hother : ∀ i ∈ o.items, i.id ≠ item.id := by
          intro i hi he
          have hlt := h.known k o ho i hi
          rw [he, hid] at hlt
          exact lt_irrefl _ hlt
        refine ⟨((h.addsUp k o ho).itemAdded hvalid hother).congr hlines, fun i hi => ?_⟩
        rw [hlines.items] at hi
        rcases List.mem_append.mp hi with hi | hi
        · exact Or.inr ⟨o, ho, hi⟩
        · rw [List.mem_singleton.mp hi, hid]
          exact Or.inl rfl
      · refine ⟨((h.addsUp k o ho).itemDeleted hi htwo).congr hlines, fun i hi => ?_⟩
        rw [hlines.items] at hi
        exact Or.inr ⟨o, ho, Keyed.mem_of_mem_without hi⟩
    · exact hsame o' ho' (.refl o')
  | delete ha ho hi hacc hrest hrows =>
    rw [hrest] at ho'
    split at ho'
    · cases ho'
    · exact hsame o' ho' (.refl o')

/-- **A step keeps the orders itemized.** -/
theorem itemized_step (h : w.Itemized) : ((system stripe).step w a).Itemized where
  addsUp := fun k o ho => (step_lines h ho).1
  known := fun k o ho i hi => by
    rw [step_steps]
    rcases (step_lines h ho).2 i hi with hnew | ⟨o₁, ho₁, hold⟩
    · omega
    · have hlt := h.known k o₁ ho₁ i hold
      omega
  apart := by
    intro k k' o o' i i' ho ho' hi hi' hid
    obtain ⟨orderId, hone⟩ := step_changes_one stripe w a
    -- a new item is an item of the one order that changes
    have hchanged : ∀ {k o i}, ((system stripe).step w a).db.order? k = some o → i ∈ o.items →
        i.id.step = w.steps → k = orderId := by
      intro k o i ho hi hnew
      by_contra hne
      have hlt := h.known k o (hone k o hne ho) i hi
      omega
    rcases (step_lines h ho).2 i hi with hnew | ⟨o₁, ho₁, hold⟩
    · have hnew' : i'.id.step = w.steps := by rw [hid, hnew]
      obtain rfl : k' = k := (hchanged ho' hi' hnew').trans (hchanged ho hi hnew).symm
      obtain rfl := Option.some.inj (ho.symm.trans ho')
      exact ⟨rfl, List.inj_on_of_nodup_map (step_lines h ho).1.ids hi' hi hid⟩
    · rcases (step_lines h ho').2 i' hi' with hnew' | ⟨o₁', ho₁', hold'⟩
      · have hlt := h.known k o₁ ho₁ i hold
        rw [← hid] at hlt
        omega
      · exact h.apart k k' o₁ o₁' i i' ho₁ ho₁' hold hold' hid

/-! ## Runs -/

theorem itemized_run (stripe : StripeService S M) (s : S) (as : List (Action M)) :
    ((system stripe).run (World.init s) as).Itemized := by
  refine Machine.run_invariant' (fun w a hw => itemized_step hw) ⟨?_, ?_, ?_⟩ as
  · intro k o ho
    cases ho
  · intro k o ho
    cases ho
  · intro k k' o o' i i' ho
    cases ho

/-- An item whose id was generated before a part of a run was there before it. -/
theorem item_before (h : w.Itemized) (as : List (Action M))
    (ho' : ((system stripe).run w as).db.order? k = some o') (hi : i ∈ o'.items)
    (hlt : i.id.step < w.steps) : ∃ o, w.db.order? k = some o ∧ i ∈ o.items := by
  have hrun := Machine.run_invariant' (M := system stripe) (I := fun w' : World S =>
      w'.Itemized ∧ w.steps ≤ w'.steps ∧ ∀ k o', w'.db.order? k = some o' → ∀ i ∈ o'.items,
        i.id.step < w.steps → ∃ o, w.db.order? k = some o ∧ i ∈ o.items) ?_
    ⟨h, le_rfl, fun k o ho i hi _ => ⟨o, ho, hi⟩⟩ as
  · exact hrun.2.2 k o' ho' i hi hlt
  · rintro w' a ⟨hw', hle, hback⟩
    refine ⟨itemized_step hw', by rw [step_steps]; omega, fun k o' ho' i hi hlt => ?_⟩
    rcases (step_lines hw' ho').2 i hi with hnew | ⟨o, ho, hold⟩
    · omega
    · exact hback k o ho i hold hlt

/-- **Order totals are the sums of the lines.** In every run every order has items, the amounts of
every item fit together, and the four totals are the sums over the items; and an item that is still
there later on, in any order, is the same item of the same order with the same name, `sku` and
price. -/
theorem totals_are_sums (stripe : StripeService S M) (s : S) (as : List (Action M)) :
    let w := (system stripe).run (World.init s) as
    (∀ k o, w.db.order? k = some o →
      o.items ≠ [] ∧
      (o.subtotalCents = (o.items.map (·.lineSubtotalCents)).sum ∧
        o.discountCents = (o.items.map (·.discountCents)).sum ∧
        o.taxCents = (o.items.map (·.taxCents)).sum ∧
        o.totalCents = (o.items.map (·.lineTotalCents)).sum) ∧
      (∀ i ∈ o.items, 1 ≤ i.qty ∧ i.lineSubtotalCents = i.qty * i.unitPriceCents ∧
        0 ≤ i.discountCents ∧ i.discountCents ≤ i.lineSubtotalCents ∧ 0 ≤ i.taxCents ∧
        i.lineTotalCents = i.lineSubtotalCents - i.discountCents + i.taxCents) ∧
      o.totalCents = o.subtotalCents - o.discountCents + o.taxCents ∧ 0 ≤ o.totalCents) ∧
    ∀ as₁ as₂, as = as₁ ++ as₂ → ∀ k k' o o' i i',
      ((system stripe).run (World.init s) as₁).db.order? k = some o → i ∈ o.items →
      w.db.order? k' = some o' → i' ∈ o'.items → i'.id = i.id →
        k' = k ∧ i'.productName = i.productName ∧ i'.sku = i.sku ∧
          i'.unitPriceCents = i.unitPriceCents ∧ i' = i := by
  intro w
  refine ⟨fun k o ho => ?_, ?_⟩
  · have hadds := (itemized_run stripe s as).addsUp k o ho
    refine ⟨hadds.items,
      ⟨hadds.subtotalCents, hadds.discountCents, hadds.taxCents, hadds.totalCents⟩, fun i hi => ?_,
      hadds.totalCents_eq, hadds.totalCents_nonneg⟩
    have hvalid := hadds.valid i hi
    exact ⟨hvalid.qty, hvalid.lineSubtotalCents, hvalid.discountCents_nonneg,
      hvalid.discountCents_le, hvalid.taxCents, hvalid.lineTotalCents⟩
  · rintro as₁ as₂ rfl k k' o o' i i' ho hi ho' hi' hid
    have hbefore := itemized_run stripe s as₁
    have hlt : i'.id.step < ((system stripe).run (World.init s) as₁).steps := by
      rw [hid]
      exact hbefore.known k o ho i hi
    rw [show w = (system stripe).run ((system stripe).run (World.init s) as₁) as₂ from
      Machine.run_append ..] at ho'
    obtain ⟨o₁, ho₁, hi₁⟩ := item_before hbefore as₂ ho' hi' hlt
    obtain ⟨hk, rfl⟩ := hbefore.apart k k' o o₁ i i' ho ho₁ hi hi₁ hid
    exact ⟨hk, rfl, rfl, rfl, rfl⟩

/-- The pen is deleted, and the book becomes dearer. -/
example :
    ((ledger.run (World.init .empty) [Shop.catalog, Shop.createOrder,
      .deleteOrderItem Shop.org Shop.orderId ⟨1, 1⟩,
      .catalog (AList.insert Shop.book (Shop.product "book" 1900) ∅) ∅ ∅]).db.order?
        Shop.orderId).map (fun o => (o.totalCents, o.items.map (·.unitPriceCents))) =
      some (1500, [1500]) := by
  decide

end LedgerLight
