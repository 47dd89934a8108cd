import LedgerLight.Infra.RowLocks
import LedgerLight.Properties.ItemsLater

/-!
# Concurrent changes to the items of an order

`addOrderItem` reads the items before it adds one, and `deleteOrderItem` counts them before it
deletes one. The row of the order is locked by the write only, so another request may commit between
the check and the write.

* `ItemEdit.secures` : what a request commits, whatever others commit before its write.
* `itemEdits_iff` : the order stays well formed exactly if every check still holds at the commit.
* `pending_order_malformed` : two requests that undo each other's check.
-/

namespace LedgerLight

open Infra Prog ReadCommitted

/-! ## The requests -/

inductive ItemAction where
  | add (data : CreateOrderItemDto)
  | delete (itemId : Id)

/-- A request for the items of an order, with the clock and the ids it reads. -/
structure ItemEdit where
  env : Env
  org : CurrentOrg
  action : ItemAction

def ItemEdit.prog (orderId : Id) (e : ItemEdit) : Tx Unit Unit :=
  match e.action with
  | .add data => do
    let _ ← addOrderItem e.env e.org orderId data
  | .delete itemId => do
    let _ ← deleteOrderItem e.env e.org orderId itemId

/-- The database while requests for the items of an order run. -/
abbrev ItemSessions := Store Database RowKey Unit AppError ItemEdit

/-- The requests for the items of one order, in any order of their statements. -/
def itemEdits (orderId : Id) : Machine ItemSessions (Move ItemEdit Empty) :=
  transactions (ItemEdit.prog orderId) fun _ => id

namespace Database

/-- The items of an order, if there is such an order. -/
def items? (d : Database) (orderId : Id) : Option (List OrderItem) :=
  (d.order? orderId).map (·.items)

/-- The order has an item, and no product twice. -/
def WellFormed (d : Database) (orderId : Id) : Prop :=
  ∃ items, d.items? orderId = some items ∧ items ≠ [] ∧ (items.map (·.productId)).Nodup

instance (d : Database) (orderId : Id) : Decidable (d.WellFormed orderId) :=
  inferInstanceAs (Decidable (∃ items ∈ d.items? orderId,
    items ≠ [] ∧ (items.map (·.productId)).Nodup))

end Database

/-- What the request checked of the items holds of those in `d`: the product is not among them, or
the item is not the only one. -/
def ItemEdit.CheckHolds (orderId : Id) (e : ItemEdit) (d : Database) : Prop :=
  match e.action with
  | .add data => ∀ i ∈ (d.items? orderId).getD [], i.productId ≠ data.productId
  | .delete itemId => ∃ i ∈ (d.items? orderId).getD [], i.id ≠ itemId

instance (orderId : Id) (e : ItemEdit) (d : Database) : Decidable (e.CheckHolds orderId d) := by
  unfold ItemEdit.CheckHolds
  split <;> infer_instance

/-- A request that commits, with the row of the order locked since its write, made a check that
still holds of the committed items. -/
def CheckStillHolds (orderId : Id) (st : ItemSessions) (a : Move ItemEdit Empty) : Prop :=
  match st.commits? a with
  | none => True
  | some (_, x) => x.label.CheckHolds orderId st.db

instance (orderId : Id) (st : ItemSessions) (a : Move ItemEdit Empty) :
    Decidable (CheckStillHolds orderId st a) := by
  unfold CheckStillHolds
  split <;> infer_instance

/-! ## Locks -/

/-- What the row of an order is locked for. -/
abbrev ItemCell : RowKey → Type
  | .order _ => Option (List OrderItem)
  | _ => Unit

def itemCell : ∀ key, Database → ItemCell key
  | .order orderId, d => d.items? orderId
  | .payment _, _ => ()
  | .attempt _, _ => ()
  | .receipt _, _ => ()

section

variable {env : Env} {org : CurrentOrg} {orderId itemId organizationId : Id}
  {data : CreateOrderItemDto} {item : OrderItem} {items : List OrderItem} {d d' : Database}
  {f : OrderRecord → OrderRecord} {rely : Nat → Database → Database → Prop}

theorem itemCell_modifyOrder {key : RowKey} (hkey : key ∉ [RowKey.order orderId]) (d : Database)
    (f : OrderRecord → OrderRecord) : itemCell key (d.modifyOrder orderId f) = itemCell key d := by
  cases key with
  | order k =>
    have hne : k ≠ orderId := fun he => hkey (by rw [he]; exact List.mem_singleton_self _)
    show ((d.modifyOrder orderId f).order? k).map (·.items) = (d.order? k).map (·.items)
    unfold Database.modifyOrder
    split
    · rfl
    · rw [Database.order?_setOrder, if_neg hne]
  | payment k => rfl
  | attempt k => rfl
  | receipt k => rfl

theorem addOrderItem_footprint :
    (addOrderItem env org orderId data : Tx Unit _).Footprint itemCell := by
  refine readOnly_select.footprint.bind fun order => ?_
  cases order with
  | none => trivial
  | some order =>
    refine readOnly_select.footprint.bind fun product => ?_
    cases product with
    | none => trivial
    | some product =>
      refine readOnly_require.footprint.bind fun _ => readOnly_ofExcept.footprint.bind fun _ => ?_
      exact footprint_returning fun key hkey d => itemCell_modifyOrder hkey d _

theorem deleteOrderItem_footprint :
    (deleteOrderItem env org orderId itemId : Tx Unit _).Footprint itemCell := by
  refine (readOnly_doWhen assertOrderAccessible_readOnly).footprint.bind fun _ => ?_
  refine readOnly_select.footprint.bind fun item => ?_
  cases item with
  | none => trivial
  | some item =>
    refine readOnly_select.footprint.bind fun _ => readOnly_require.footprint.bind fun _ => ?_
    exact footprint_returning fun key hkey d => itemCell_modifyOrder hkey d _

theorem ItemEdit.prog_footprint (e : ItemEdit) : (e.prog orderId).Footprint itemCell := by
  unfold prog
  split
  · exact addOrderItem_footprint.bind fun _ => trivial
  · exact deleteOrderItem_footprint.bind fun _ => trivial

/-! ## What a request commits -/

/-- From `d` to `d'` the order gets one more item, of the product. -/
def AddsItem (orderId productId : Id) (d d' : Database) : Prop :=
  ∃ items item, d.items? orderId = some items ∧ item.productId = productId ∧
    d'.items? orderId = some (items ++ [item])

/-- From `d` to `d'` the order loses the item. -/
def DeletesItem (orderId itemId : Id) (d d' : Database) : Prop :=
  ∃ items, d.items? orderId = some items ∧
    d'.items? orderId = some (items.filter fun i => i.id != itemId)

def ItemCommit (orderId : Id) (e : ItemEdit) (d d' : Database) : Prop :=
  match e.action with
  | .add data => AddsItem orderId data.productId d d'
  | .delete itemId => DeletesItem orderId itemId d d'

theorem items?_modifyOrder (h : d.items? orderId = some items) :
    (d.modifyOrder orderId f).items? orderId =
      (d.order? orderId).map fun o => (f o).items := by
  obtain ⟨o, ho, -⟩ := Option.map_eq_some_iff.mp h
  rw [Database.modifyOrder_of_order? f ho, Database.items?, Database.order?_setOrder_self, ho]
  rfl

/-- The order that a write found is there to the end of the request. -/
theorem order?_of_held (ho : (d.order? orderId).isSome)
    (hheld : ∀ key ∈ [RowKey.order orderId], itemCell key d' = itemCell key d) :
    ∃ o, d'.order? orderId = some o ∧ d'.items? orderId = some o.items := by
  obtain ⟨o, ho⟩ := Option.isSome_iff_exists.mp ho
  have hsame : d'.items? orderId = d.items? orderId := hheld _ List.mem_cons_self
  have hitems : d'.items? orderId = some o.items := by
    rw [hsame, Database.items?, ho]
    rfl
  obtain ⟨o', ho', hitems'⟩ := Option.map_eq_some_iff.mp hitems
  exact ⟨o', ho', hitems.trans (congrArg some hitems'.symm)⟩

theorem orderUpdate_added (n : Nat) (d : Database) (hitem : item.productId = data.productId) :
    (orderUpdate env orderId organizationId (itemAdded item) : Tx Unit _).Secures itemCell rely
      (fun _ _ writes d => AddsItem orderId data.productId d (writes d)) [] n id d := by
  refine secures_returning_last fun d₁ d₂ _ _ _ hfails hheld => ?_
  have hthere : (d₁.order? orderId).isSome := by
    cases ho : d₁.order? orderId with
    | none => simp [ho] at hfails
    | some o => rfl
  obtain ⟨o, ho, hitems⟩ := order?_of_held hthere hheld
  refine ⟨o.items, item, hitems, hitem, (items?_modifyOrder hitems).trans ?_⟩
  rw [ho]
  rfl

theorem orderUpdate_deleted (n : Nat) (d : Database) (hitem : item.id = itemId) :
    (orderUpdateDeletingItem env orderId organizationId itemId (itemDeleted item) :
      Tx Unit _).Secures itemCell rely
        (fun _ _ writes d => DeletesItem orderId itemId d (writes d)) [] n id d := by
  refine secures_returning_last fun d₁ d₂ _ _ _ hfails hheld => ?_
  have hthere : (d₁.order? orderId).isSome := by
    cases ho : d₁.order? orderId with
    | none => simp [ho] at hfails
    | some o => rfl
  obtain ⟨o, ho, hitems⟩ := order?_of_held hthere hheld
  refine ⟨o.items, hitems, (items?_modifyOrder hitems).trans ?_⟩
  rw [ho, ← hitem]
  rfl

theorem addOrderItem_secures (d : Database) :
    (addOrderItem env org orderId data : Tx Unit _).Secures itemCell rely
      (fun _ _ writes d => AddsItem orderId data.productId d (writes d)) [] 0 id d := by
  refine secures_select fun d₁ _ => ?_
  dsimp only [id]
  cases (d₁.order? orderId).filter fun o => o.visibleTo org && o.status == .pending with
  | none => trivial
  | some order =>
    refine secures_select fun d₂ _ => ?_
    dsimp only [id]
    cases (d₂.products.lookup data.productId).filter fun product =>
        product.organizationId == org.organizationId with
    | none => trivial
    | some product =>
      refine secures_require fun _ => secures_ofExcept fun item hline => ?_
      obtain ⟨_, -, -, rfl⟩ := computeLineItem_eq_ok.mp hline
      exact orderUpdate_added _ d₂ rfl

theorem deleteOrderItem_secures (d : Database) :
    (deleteOrderItem env org orderId itemId : Tx Unit _).Secures itemCell rely
      (fun _ _ writes d => DeletesItem orderId itemId d (writes d)) [] 0 id d := by
  have hreads : (doWhen (hasRestrictedLocations org = true)
      (assertOrderAccessible org orderId) : Tx Unit Unit).ReadOnly :=
    readOnly_doWhen assertOrderAccessible_readOnly
  refine hreads.secures_bind fun _ n d₁ => ?_
  refine secures_select fun d₂ _ => ?_
  dsimp only [id]
  cases hitem : (itemsOf d₂ org orderId).find? fun i => i.id == itemId with
  | none => trivial
  | some item =>
    have hid : item.id = itemId := by simpa using List.find?_some hitem
    exact secures_select fun d₃ _ => secures_require fun _ => orderUpdate_deleted _ d₃ hid

/-- What a request does, if the row of the order stays as its write finds it. -/
theorem ItemEdit.secures (e : ItemEdit) (d : Database) :
    (e.prog orderId).Secures itemCell rely (fun _ _ writes d => ItemCommit orderId e d (writes d))
      [] 0 id d := by
  unfold prog ItemCommit
  split
  · exact (addOrderItem_secures d).map fun _ _ _ _ h => h
  · exact (deleteOrderItem_secures d).map fun _ _ _ _ h => h

/-! ## Well formed orders -/

/-- A commit keeps the order well formed exactly if what was checked still holds. -/
theorem ItemCommit.wellFormed_iff {e : ItemEdit} (h : ItemCommit orderId e d d')
    (hd : d.WellFormed orderId) : d'.WellFormed orderId ↔ e.CheckHolds orderId d := by
  obtain ⟨items, hitems, hne, hnodup⟩ := hd
  unfold ItemCommit at h
  unfold ItemEdit.CheckHolds
  cases haction : e.action with
  | add data =>
    rw [haction] at h
    obtain ⟨items', item, hitems', hproduct, hafter⟩ := h
    obtain rfl : items = items' := Option.some.inj (hitems.symm.trans hitems')
    have hnew : (items ++ [item]).map (·.productId) = items.map (·.productId) ++ [data.productId] :=
      by rw [List.map_append, List.map_singleton, hproduct]
    simp only [hitems, Option.getD_some]
    constructor
    · rintro ⟨items'', hitems'', -, hnodup'⟩ i hi he
      obtain rfl : items ++ [item] = items'' := Option.some.inj (hafter.symm.trans hitems'')
      rw [hnew] at hnodup'
      have hmem : data.productId ∈ items.map (·.productId) := List.mem_map.mpr ⟨i, hi, he⟩
      exact (List.nodup_append.mp hnodup').2.2 _ hmem _ (List.mem_singleton_self _) rfl
    · intro hcheck
      refine ⟨items ++ [item], hafter, by simp, ?_⟩
      rw [hnew]
      refine List.nodup_append.mpr ⟨hnodup, List.nodup_singleton _, fun p hp q hq => ?_⟩
      obtain ⟨i, hi, rfl⟩ := List.mem_map.mp hp
      rw [List.mem_singleton.mp hq]
      exact hcheck i hi
  | delete itemId =>
    rw [haction] at h
    obtain ⟨items', hitems', hafter⟩ := h
    obtain rfl : items = items' := Option.some.inj (hitems.symm.trans hitems')
    simp only [hitems, Option.getD_some]
    constructor
    · rintro ⟨items'', hitems'', hne', -⟩
      rw [hafter] at hitems''
      obtain ⟨i, hi⟩ := List.exists_mem_of_ne_nil _ hne'
      rw [← Option.some.inj hitems''] at hi
      obtain ⟨hi, hother⟩ := List.mem_filter.mp hi
      exact ⟨i, hi, by simpa using hother⟩
    · rintro ⟨i, hi, hother⟩
      refine ⟨_, hafter, ?_, ?_⟩
      · exact List.ne_nil_of_mem (List.mem_filter.mpr ⟨hi, by simpa using hother⟩)
      · exact hnodup.sublist (List.Sublist.map _ List.filter_sublist)

end

/-- A request relies on its lock alone. -/
def itemContract (orderId : Id) (e : ItemEdit) : Contract Database where
  rely _ _ _ := True
  post := ItemCommit orderId e

theorem itemContract_rely (orderId : Id) (e : ItemEdit) : Rely (itemContract orderId e).rely :=
  ⟨fun _ _ => trivial, fun _ _ => trivial⟩

/-- The locks keep to their rows, the requests do what their contracts say, and the order is well
formed. -/
structure WellKept (orderId : Id) (st : ItemSessions) : Prop where
  locked : st.Locked itemCell
  secured : st.Secured itemCell (itemContract orderId)
  wellFormed : st.db.WellFormed orderId

section

variable {orderId : Id} {st : ItemSessions} {a : Move ItemEdit Empty}

/-- One step keeps this exactly if it commits nothing, or what was checked still holds. -/
theorem WellKept.step_iff (h : WellKept orderId st) :
    CheckStillHolds orderId st a ↔ WellKept orderId ((itemEdits orderId).step st a) := by
  have hlocked : ((itemEdits orderId).step st a).Locked itemCell :=
    h.locked.step ItemEdit.prog_footprint
  have hsecured : ((itemEdits orderId).step st a).Secured itemCell (itemContract orderId) :=
    h.secured.step (itemContract_rely orderId) (fun e d => e.secures d) h.locked
      (Store.respects_of_total fun _ _ _ _ => trivial)
  have hiff : CheckStillHolds orderId st a ↔
      ((itemEdits orderId).step st a).db.WellFormed orderId := by
    unfold CheckStillHolds itemEdits
    cases hcommit : st.commits? a with
    | none =>
      rw [Store.db_of_commits?_eq_none hcommit]
      exact ⟨fun _ => h.wellFormed, fun _ => trivial⟩
    | some p =>
      obtain ⟨t, x⟩ := p
      rw [Store.db_of_commits? hcommit]
      have hpost : ItemCommit orderId x.label st.db (x.writes st.db) :=
        h.secured.commit (itemContract_rely orderId) hcommit
      exact (hpost.wellFormed_iff h.wellFormed).symm
  exact hiff.trans ⟨fun hdb => ⟨hlocked, hsecured, hdb⟩, fun hkept => hkept.wellFormed⟩

end

/-- **Concurrent requests for the items of an order keep it well formed** if and only if, whenever
one commits, what it checked still holds. -/
theorem itemEdits_iff {orderId : Id} {db : Database} (h : db.WellFormed orderId)
    (as : List (Move ItemEdit Empty)) :
    (itemEdits orderId).Meets (CheckStillHolds orderId) (Store.start db ()) as ↔
      ∀ as₁ as₂, as = as₁ ++ as₂ →
        ((itemEdits orderId).run (Store.start db ()) as₁).db.WellFormed orderId := by
  have hkept : ∀ as', ((itemEdits orderId).run (Store.start db ()) as').db.WellFormed orderId →
      WellKept orderId ((itemEdits orderId).run (Store.start db ()) as') := by
    intro as' hdb
    have hmeets : (itemEdits orderId).Meets (fun _ _ => True) (Store.start db ()) as' :=
      Machine.meets_true _ _ _
    obtain ⟨hlocked, hsecured⟩ := secured_run (itemContract_rely orderId)
      ItemEdit.prog_footprint (fun e d => e.secures d)
      (fun st a _ _ => Store.respects_of_total fun _ _ _ _ => trivial) hmeets
    exact ⟨hlocked, hsecured, hdb⟩
  have hstart : WellKept orderId (Store.start db ()) := hkept [] h
  rw [Machine.meets_iff_invariant (fun st a hst => hst.step_iff) hstart]
  exact ⟨fun hall as₁ as₂ he => (hall as₁ as₂ he).wellFormed,
    fun hall as₁ as₂ he => hkept as₁ (hall as₁ as₂ he)⟩

/-! An order of a pen and a book. -/

namespace Shop

/-- The shop with one order. -/
def ordered (items : List CreateOrderItemDto) : Database :=
  match ((LedgerLight.createOrder (env 1) org { orderItems := items }).run (shelf true) ()).1 with
  | .ok (_, db) => db
  | .error _ => shelf true

def adds (step : Nat) : ItemEdit := { env := env step, org := org, action := .add oneBook }

def deletes (step : Nat) (itemId : Id) : ItemEdit :=
  { env := env step, org := org, action := .delete itemId }

/-- Both requests read and check before one of them writes. -/
def bothCheck (e e' : ItemEdit) : List (Move ItemEdit Empty) :=
  [.begin 0 e, .begin 1 e', .statement 0, .statement 0, .statement 1, .statement 1,
    .statement 0, .statement 0, .statement 0, .statement 1, .statement 1, .statement 1]

end Shop

theorem itemEdits_iff_shop :
    (itemEdits Shop.orderId).Meets (CheckStillHolds Shop.orderId)
        (Store.start (Shop.ordered [Shop.onePen]) ()) (Shop.bothCheck (Shop.adds 2) (Shop.adds 3)) ↔
      ∀ as₁ as₂, Shop.bothCheck (Shop.adds 2) (Shop.adds 3) = as₁ ++ as₂ →
        ((itemEdits Shop.orderId).run (Store.start (Shop.ordered [Shop.onePen]) ())
          as₁).db.WellFormed Shop.orderId :=
  itemEdits_iff (by decide) _

/-- Two requests add a book, and two delete the one and the other of two items. -/
theorem pending_order_malformed :
    (∃ o, (Shop.ordered [Shop.onePen]).order? Shop.orderId = some o ∧ o.status = .pending) ∧
      (Shop.ordered [Shop.onePen]).WellFormed Shop.orderId ∧
      ¬ ((itemEdits Shop.orderId).run (Store.start (Shop.ordered [Shop.onePen]) ())
        (Shop.bothCheck (Shop.adds 2) (Shop.adds 3))).db.WellFormed Shop.orderId ∧
      (Shop.ordered [Shop.onePen, Shop.oneBook]).WellFormed Shop.orderId ∧
      ¬ ((itemEdits Shop.orderId).run (Store.start (Shop.ordered [Shop.onePen, Shop.oneBook]) ())
        (Shop.bothCheck (Shop.deletes 2 ⟨1, 1⟩) (Shop.deletes 3 ⟨1, 2⟩))).db.WellFormed
          Shop.orderId :=
  ⟨⟨_, rfl, rfl⟩, by decide, by decide, by decide, by decide⟩

end LedgerLight
