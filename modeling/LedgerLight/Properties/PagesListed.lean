import LedgerLight.Inventory.Calls
import LedgerLight.Inventory.Reads
import LedgerLight.Prisma.Pages

/-!
# Walking the pages of a query

A page goes on behind its cursor by the first column and the id, whatever the query orders by
between the two. So the pages fit together where the id decides among rows of one value as the query
does.

* `SortsBy.filter_eq_drop_iff` : the filter of a cursor lets through the rest of the rows exactly if
  the rows of its value are ordered by their ids.
* `walk_lists_iff` : exactly when the pages list all matching rows in their order.
-/

namespace LedgerLight

open Infra Std

variable {R : Type}

theorem filter_eq_filter_iff {l : List R} {test test' : R → Bool} :
    l.filter test = l.filter test' ↔ ∀ x ∈ l, test x = test' x := by
  refine ⟨fun h x hx => ?_, List.filter_congr⟩
  have hboth : x ∈ l.filter test ↔ x ∈ l.filter test' := by rw [h]
  rw [List.mem_filter, List.mem_filter] at hboth
  rw [Bool.eq_iff_iff]
  exact ⟨fun ht => (hboth.mp ⟨hx, ht⟩).2, fun ht => (hboth.mpr ⟨hx, ht⟩).2⟩

/-- The cursors fit the order: a full page is ordered by a column that has `lt` and `gt`, and behind
the last row of a page the rows of its value come exactly if their ids do. -/
structure PagesFit (p : Platform) (model : Model R) (rows : List R) (test : R → Bool)
    (options : PaginationOptions R) (field : String) (direction : SortDirection)
    (rest : List (OrderBy R)) (column : Column R) : Prop where
  ordered : options.limit ≤ (rows.filter test).length → column.kind.ordered = true
  ties : ∀ r ∈ rows.filter test,
    options.limit ∣ (rows.filter test).countP
        (fun x => (compareBy p model field direction rest x r).isLE) →
      ∀ x ∈ rows.filter test, column.value x = column.value r →
        (compareBy p model field direction rest r x = .lt ↔ IdAfter model direction r x)

section

variable {p : Platform} {model : Model R} {rows : List R} {test : R → Bool}
  {options : PaginationOptions R} {field : String} {direction : SortDirection}
  {rest : List (OrderBy R)} {column : Column R} {r : R} {i : Nat}

namespace SortsBy

/-- How the query orders two rows, and how the filter of a cursor does. -/
theorem lexBy_eq_iff (h : SortsBy model options field direction rest column) (x : R) :
    (lexBy p model column direction r x = .lt ↔
        compareBy p model field direction rest r x = .lt) ↔
      (column.value x = column.value r →
        (compareBy p model field direction rest r x = .lt ↔ IdAfter model direction r x)) := by
  have hlex : lexBy p model column direction r x =
      (SortKey.compare p.collation ⟨column.value, direction⟩ r x).then
        ((model.idKey direction).compare p.collation r x) := rfl
  have hquery : compareBy p model field direction rest r x =
      (SortKey.compare p.collation ⟨column.value, direction⟩ r x).then
        (compareRows p.collation (sortKeys model (rest ++ [.column "id" direction])) r x) := by
    rw [h.keys_head]
    rfl
  by_cases hvalue : column.value x = column.value r
  · have htie : SortKey.compare p.collation ⟨column.value, direction⟩ r x = .eq :=
      SortKey.compare_eq_iff.mpr hvalue.symm
    have hid : lexBy p model column direction r x = .lt ↔ IdAfter model direction r x := by
      rw [hlex, htie]
      exact idKey_compare_lt
    rw [hid]
    exact ⟨fun hiff _ => hiff.symm, fun hiff => (hiff hvalue).symm⟩
  · -- the first column decides for both
    have hsame : lexBy p model column direction r x =
        compareBy p model field direction rest r x := by
      rw [hlex, hquery]
      cases hc : SortKey.compare p.collation ⟨column.value, direction⟩ r x with
      | lt => rfl
      | gt => rfl
      | eq => exact absurd (SortKey.compare_eq_iff.mp hc).symm hvalue
    rw [hsame]
    exact ⟨fun _ he => absurd he hvalue, fun _ => Iff.rfl⟩

/-- **The filter of the cursor of a row** lets through exactly the rows behind it if the rows of its
value are ordered by their ids. -/
theorem filter_eq_drop_iff (h : SortsBy model options field direction rest column)
    (hids : (rows.map model.id).Nodup) (hnonnull : ∀ x ∈ rows, column.value x ≠ .null)
    (hr : (listed p model rows test field direction rest)[i]? = some r) :
    (listed p model rows test field direction rest).filter
        (afterCursor p model column direction (model.id r) (column.value r)) =
      (listed p model rows test field direction rest).drop (i + 1) ↔
      ∀ x ∈ rows.filter test, column.value x = column.value r →
        (compareBy p model field direction rest r x = .lt ↔ IdAfter model direction r x) := by
  have hmem : r ∈ listed p model rows test field direction rest := List.mem_of_getElem? hr
  rw [inOrder_listed.drop_eq_filter (nodup_ids_listed hids).of_map hr (alone_listed hids hmem),
    filter_eq_filter_iff]
  refine forall_congr' fun x => ?_
  rw [perm_listed.mem_iff]
  refine forall_congr' fun hx => ?_
  have hvalue : column.value x ≠ .null := hnonnull x (List.mem_of_mem_filter hx)
  rw [afterCursor_eq, decide_eq_true hvalue, Bool.true_and, Bool.eq_iff_iff, beq_iff_eq, beq_iff_eq]
  exact h.lexBy_eq_iff x

end SortsBy

/-- The rows that end full pages, by their place and by what comes before them. -/
theorem pageEnd_iff (hids : (rows.map model.id).Nodup) (hlimit : 1 ≤ options.limit)
    {P : R → Prop} :
    (∀ k r, (listed p model rows test field direction rest)[(k + 1) * options.limit - 1]? =
        some r → P r) ↔
      ∀ r ∈ rows.filter test, options.limit ∣ (rows.filter test).countP
        (fun x => (compareBy p model field direction rest x r).isLE) → P r := by
  have hplace : ∀ {i r}, (listed p model rows test field direction rest)[i]? = some r →
      (rows.filter test).countP (fun x => (compareBy p model field direction rest x r).isLE) =
        i + 1 := by
    intro i r hr
    rw [← perm_listed.countP_eq]
    exact inOrder_listed.place (nodup_ids_listed hids).of_map hr
      (alone_listed hids (List.mem_of_getElem? hr))
  constructor
  · intro h r hr hdvd
    obtain ⟨i, hi⟩ := List.getElem?_of_mem (perm_listed.mem_iff.mpr hr)
    rw [hplace hi] at hdvd
    obtain ⟨k, hk⟩ := hdvd
    cases k with
    | zero => omega
    | succ k =>
      refine h k r ?_
      rw [Nat.mul_comm, ← hk, Nat.add_sub_cancel]
      exact hi
  · intro h k r hr
    have hpos : 0 < (k + 1) * options.limit := Nat.mul_pos (Nat.succ_pos k) hlimit
    refine h r (perm_listed.subset (List.mem_of_getElem? hr)) ⟨k + 1, ?_⟩
    rw [hplace hr, Nat.sub_add_cancel hpos, Nat.mul_comm]

/-- Without a full page no row ends one. -/
theorem not_pageEnd (hlimit : 1 ≤ options.limit)
    (hshort : (rows.filter test).length < options.limit) (k : Nat) :
    (listed p model rows test field direction rest)[(k + 1) * options.limit - 1]? = none := by
  have hlen : (listed p model rows test field direction rest).length = (rows.filter test).length :=
    perm_listed.length_eq
  have hbig : options.limit ≤ (k + 1) * options.limit :=
    Nat.le_mul_of_pos_left options.limit (Nat.succ_pos k)
  exact List.getElem?_eq_none (by omega)

/-- The pages of a query by the id fit. -/
theorem pagesFit_id (h : SortsBy model options "id" direction rest column)
    (hids : (rows.map model.id).Nodup) :
    PagesFit p model rows test options "id" direction rest column := by
  have hcolumn : column = model.idColumn := (Option.some.inj h.column).symm
  subst hcolumn
  refine ⟨fun _ => rfl, fun r hr _ x hx hvalue => ?_⟩
  have hsame : x = r := List.inj_on_of_nodup_map hids (List.mem_of_mem_filter hx)
    (List.mem_of_mem_filter hr) (ScalarValue.id.inj hvalue)
  subst hsame
  have hself : compareBy p model "id" direction rest x x = .eq := ReflCmp.compare_self
  rw [hself]
  refine ⟨fun hlt => (by cases hlt), fun hafter => ?_⟩
  cases direction with
  | asc => exact absurd hafter (lt_irrefl (model.id x))
  | desc => exact absurd hafter (lt_irrefl (model.id x))

namespace SortsBy

/-- The pages that a query by the id returns go on where they end. -/
theorem pageEnds_id (h : SortsBy model options "id" direction rest column)
    (hids : (rows.map model.id).Nodup) (hlimit : 1 ≤ options.limit) :
    PageEnds (pageOf p model rows test options) (cursorOf model options) options.limit
      (listed p model rows test "id" direction rest) := by
  intro k r hr
  have hpos : 0 < (k + 1) * options.limit := Nat.mul_pos (Nat.succ_pos k) hlimit
  rw [h.pageOf_id hids hr, Nat.sub_add_cancel hpos]

/-- Those of a query by a column that has `lt` and `gt` do so if the ids order the rows of one
value. -/
theorem pageEnds_iff_of_ordered (h : SortsBy model options field direction rest column)
    (hids : (rows.map model.id).Nodup) (hlimit : 1 ≤ options.limit) (hfield : field ≠ "id")
    (hnonnull : ∀ r ∈ rows, (column.value r).kind? = some column.kind)
    (hordered : column.kind.ordered = true) :
    PageEnds (pageOf p model rows test options) (cursorOf model options) options.limit
        (listed p model rows test field direction rest) ↔
      PagesFit p model rows test options field direction rest column := by
  have hvalue : ∀ r ∈ rows, column.value r ≠ .null :=
    fun r hr => ScalarValue.ne_null_of_kind (hnonnull r hr)
  have hpage : ∀ {i : Nat} {r : R},
      (listed p model rows test field direction rest)[i]? = some r →
      pageOf p model rows test options (some (cursorOf model options r)) =
        .ok (cut options.limit (cursorOf model options)
          ((listed p model rows test field direction rest).filter
            (afterCursor p model column direction (model.id r) (column.value r)))) := by
    intro i r hr
    have hmem : r ∈ rows := List.mem_of_mem_filter (perm_listed.subset (List.mem_of_getElem? hr))
    exact h.pageOf_after hids hfield (hnonnull r hmem) hordered
  constructor
  · intro hends
    refine ⟨fun _ => hordered, (pageEnd_iff hids hlimit).mp fun k r hr => ?_⟩
    have hpos : 0 < (k + 1) * options.limit := Nat.mul_pos (Nat.succ_pos k) hlimit
    have hagree : ∀ k r,
        (listed p model rows test field direction rest)[(k + 1) * options.limit - 1]? = some r →
        ((listed p model rows test field direction rest).filter
          (afterCursor p model column direction (model.id r) (column.value r))).take
            options.limit =
          ((listed p model rows test field direction rest).drop
            ((k + 1) * options.limit)).take options.limit := by
      intro k r hr
      have hcut := (hpage hr).symm.trans (hends k r hr)
      exact congrArg Prod.fst (Except.ok.inj hcut)
    have hdrop := filter_eq_drop hlimit (nodup_ids_listed hids).of_map
      (fun _ _ _ => afterCursor_trans) hagree k r hr
    rw [← h.filter_eq_drop_iff hids hvalue hr, Nat.sub_add_cancel hpos]
    exact hdrop
  · intro hfit k r hr
    have hpos : 0 < (k + 1) * options.limit := Nat.mul_pos (Nat.succ_pos k) hlimit
    have hties := (pageEnd_iff hids hlimit).mpr hfit.ties k r hr
    rw [hpage hr, (h.filter_eq_drop_iff hids hvalue hr).mpr hties, Nat.sub_add_cancel hpos]

/-- Those of a query by another column do so if no page is full. -/
theorem pageEnds_iff_of_unordered (h : SortsBy model options field direction rest column)
    (hids : (rows.map model.id).Nodup) (hlimit : 1 ≤ options.limit) (hfield : field ≠ "id")
    (hnonnull : ∀ r ∈ rows, (column.value r).kind? = some column.kind)
    (hunordered : column.kind.ordered = false) :
    PageEnds (pageOf p model rows test options) (cursorOf model options) options.limit
        (listed p model rows test field direction rest) ↔
      PagesFit p model rows test options field direction rest column := by
  constructor
  · intro hends
    have hshort : (rows.filter test).length < options.limit := by
      by_contra hlong
      have hlen : (listed p model rows test field direction rest).length =
          (rows.filter test).length := perm_listed.length_eq
      obtain ⟨r, hr⟩ : ∃ r, (listed p model rows test field direction rest)[
          (0 + 1) * options.limit - 1]? = some r := ⟨_, List.getElem?_eq_getElem (by omega)⟩
      have hmem : r ∈ rows := List.mem_of_mem_filter (perm_listed.subset (List.mem_of_getElem? hr))
      have hvalue : column.value r ≠ .null := ScalarValue.ne_null_of_kind (hnonnull r hmem)
      have herror := (hends 0 r hr).symm.trans (h.pageOf_unordered hfield hvalue hunordered)
      cases herror
    refine ⟨fun hfull => absurd hshort (Nat.not_lt_of_le hfull),
      (pageEnd_iff hids hlimit).mp fun k r hr => ?_⟩
    rw [not_pageEnd hlimit hshort k] at hr
    cases hr
  · intro hfit k r hr
    by_cases hfull : options.limit ≤ (rows.filter test).length
    · have hordered := hfit.ordered hfull
      rw [hunordered] at hordered
      cases hordered
    · rw [not_pageEnd hlimit (Nat.lt_of_not_le hfull) k] at hr
      cases hr

end SortsBy

/-- **The pages of `paginateMany` list all matching rows in their order** if and only if they fit
together. -/
theorem walk_lists_iff (h : SortsBy model options field direction rest column)
    (hids : (rows.map model.id).Nodup) (hlimit : 1 ≤ options.limit)
    (hnonnull : ∀ r ∈ rows, (column.value r).kind? = some column.kind) :
    (∃ pages, Walk (fun _ => pageOf p model rows test options) 0 none pages ∧
        pages.flatten = listed p model rows test field direction rest) ↔
      PagesFit p model rows test options field direction rest column := by
  have hcut : ∀ c x, pageOf p model rows test options c = .ok x →
      x = cut options.limit (cursorOf model options) x.1 := fun c x => pageOf_eq_cut
  have hwalk := walk_iff (n := 0) (c := none)
    (l := listed p model rows test field direction rest) hlimit hcut
  rw [hwalk]
  have hfirst : pageOf p model rows test options none = .ok (cut options.limit
    (cursorOf model options) (listed p model rows test field direction rest)) := h.pageOf_none
  refine (and_iff_right hfirst).trans ?_
  by_cases hfield : field = "id"
  · subst hfield
    exact ⟨fun _ => pagesFit_id h hids, fun _ => h.pageEnds_id hids hlimit⟩
  · cases hordered : column.kind.ordered with
    | true => exact h.pageEnds_iff_of_ordered hids hlimit hfield hnonnull hordered
    | false => exact h.pageEnds_iff_of_unordered hids hlimit hfield hnonnull hordered

end

/-! Two levels of one quantity, the one with the greater id of the product that comes first. -/

namespace Stockroom

def levelOf (index : Nat) (name : String) : LevelRow :=
  { id := ⟨0, index⟩
    level :=
      { productId := tea, locationId := store, quantity := 5, createdAt := 0, updatedAt := 0 }
    product := some (tea, { product here with name := name })
    location := none }

def levels : List LevelRow := [levelOf 2 "A", levelOf 1 "B"]

def byQuantity (limit : Nat) : PaginationOptions LevelRow :=
  { limit := limit, orderBy := some (buildLevelOrderBy (some "quantity") (some .asc)) }

def quantityColumn : Column LevelRow := { kind := .int, value := fun r => .int r.level.quantity }

theorem sortsBy_quantity (limit : Nat) : SortsBy levelModel (byQuantity limit) "quantity" .asc
    [byProductName .asc] quantityColumn := by
  refine ⟨rfl, rfl, fun o ho => ?_⟩
  rw [List.mem_singleton.mp ho]
  exact ⟨_, rfl⟩

end Stockroom

theorem walk_lists_iff_levels :
    (∃ pages, Walk (fun _ => pageOf .plain levelModel Stockroom.levels (fun _ => true)
          (Stockroom.byQuantity 2)) 0 none pages ∧
        pages.flatten = listed .plain levelModel Stockroom.levels (fun _ => true) "quantity" .asc
          [byProductName .asc]) ↔
      PagesFit .plain levelModel Stockroom.levels (fun _ => true) (Stockroom.byQuantity 2) "quantity"
        .asc [byProductName .asc] Stockroom.quantityColumn :=
  walk_lists_iff (Stockroom.sortsBy_quantity 2) (by decide) (by decide) (by decide)

/-- One level a page: the id of the first lets the other one through no more. -/
theorem level_missed :
    ¬ ∃ pages, Walk (fun _ => pageOf .plain levelModel Stockroom.levels (fun _ => true)
          (Stockroom.byQuantity 1)) 0 none pages ∧
        pages.flatten = listed .plain levelModel Stockroom.levels (fun _ => true) "quantity" .asc
          [byProductName .asc] := by
  rintro ⟨pages, hwalk, hflat⟩
  have hpages : ∃ shown, walkPages (fun _ => pageOf .plain levelModel Stockroom.levels
      (fun _ => true) (Stockroom.byQuantity 1)) 3 0 none = some shown ∧ shown.flatten.length = 1 :=
    ⟨_, rfl, rfl⟩
  obtain ⟨shown, hshown, hlength⟩ := hpages
  rw [hwalk.unique (walk_of_walkPages hshown)] at hflat
  have hall : shown.flatten.length = 2 := (congrArg List.length hflat).trans perm_listed.length_eq
  omega

end LedgerLight
