import LedgerLight.Inventory.Calls
import LedgerLight.Inventory.Reads

/-!
# Two counts of what runs low

A member of all locations gets the low products counted by a query with a join and groups, everyone
else from the rows that the stock page shows. Both count the products of the organization of which
no more than the threshold is in stock.

* `lowStockProducts_length` : what the query counts.
* `countP_snapshot` : what the rows count.
* `lowStock_counts_agree` : the page and the count agree.
-/

namespace LedgerLight

open Infra

variable {p : Platform} {db : Backend} {org : CurrentOrg}

namespace Backend

/-- What is in stock of a product, at the locations of a scope. -/
def accessibleStock (db : Backend) (org : CurrentOrg) (productId : Id) : Int :=
  db.inventoryLevels.sumRows
    (fun _ level => level.productId == productId &&
      getLocationScopeWhere org (some level.locationId)) (·.quantity)

/-- The number of the organization's products that run low. -/
def lowProducts (db : Backend) (org : CurrentOrg) : Nat :=
  db.products.countRows fun id product => product.organizationId == org.organizationId &&
    decide (db.accessibleStock org id ≤ product.reorderThreshold)

end Backend

theorem countP_filter_and {α : Type} (l : List α) (a b : α → Bool) :
    (l.filter a).countP b = l.countP fun x => a x && b x := by
  rw [List.countP_filter]
  exact List.countP_congr fun x _ => by rw [Bool.and_comm]

/-! ## The query -/

theorem sumQuantity_partners (hall : hasRestrictedLocations org = false)
    (product : Id × ProductRecord) :
    (sumQuantity ((Sql.partners (fun product level => level.2.productId == product.1)
        db.inventoryLevels.rows product).map fun level => (product, level))).getD 0 =
      db.accessibleStock org product.1 := by
  have hscope (l : Option Id) : getLocationScopeWhere org l = true := by
    have horg : org.hasAllLocations = true := by simpa [hasRestrictedLocations] using hall
    simp [getLocationScopeWhere, horg]
  unfold sumQuantity Backend.accessibleStock
  simp only [hscope, Bool.and_true]
  rw [Table.sumRows_eq]
  exact Sql.sum_partners fun level : Id × InventoryLevel => level.2.quantity

/-- **The query** counts the products that run low. -/
theorem lowStockProducts_length (hall : hasRestrictedLocations org = false) :
    (db.lowStockProducts org.organizationId).length = db.lowProducts org := by
  have hkey : ((db.products.rows.filter fun product =>
      product.2.organizationId == org.organizationId).map fun product =>
        (product.1, product.2.reorderThreshold)).Nodup := by
    refine List.Nodup.of_map Prod.fst ?_
    rw [List.map_map]
    exact (Table.nodup_rows db.products).sublist (List.filter_sublist.map Prod.fst)
  unfold Backend.lowStockProducts Backend.productsAndLevels
  dsimp only
  rw [Sql.leftJoin_filter fun product : Id × ProductRecord =>
    product.2.organizationId == org.organizationId]
  rw [((Sql.groupBy_leftJoin hkey).filter _).length_eq, ← List.countP_eq_length_filter,
    List.countP_map, countP_filter_and, Backend.lowProducts, Table.countRows_eq]
  refine List.countP_congr fun product _ => ?_
  rw [Function.comp_apply, sumQuantity_partners hall]

/-! ## The rows -/

theorem totalQuantity_productWithLevels (p : Platform) (db : Backend) (org : CurrentOrg) (id : Id)
    (product : ProductRecord) :
    (aggregatedItem p (db.productWithLevels p org id product)).totalQuantity =
      db.accessibleStock org id := by
  unfold Backend.accessibleStock
  rw [Table.sumRows_eq]
  unfold aggregatedItem Backend.productWithLevels
  dsimp only
  rw [List.map_map]
  exact ((p.arrange_perm _).map _).sum_eq

/-- **The rows** count the products that run low. -/
theorem countP_snapshot :
    (getAggregatedInventorySnapshot p db org).countP (·.isLowStock) = db.lowProducts org := by
  unfold getAggregatedInventorySnapshot
  rw [List.countP_map, (p.arrange_perm _).countP_eq, countP_filter_and, Backend.productsWithLevels,
    Table.joined, List.countP_map, Backend.lowProducts, Table.countRows_eq]
  refine List.countP_congr fun product _ => ?_
  have htotal := totalQuantity_productWithLevels p db org product.1 product.2
  have hlow : (aggregatedItem p (db.productWithLevels p org product.1 product.2)).isLowStock =
      decide (db.accessibleStock org product.1 ≤ product.2.reorderThreshold) := by
    rw [← htotal]
    rfl
  rw [Function.comp_apply, Function.comp_apply, hlow]
  rfl

/-! ## Both -/

theorem getLowStockProductCount_eq :
    getLowStockProductCount p db org = db.lowProducts org := by
  unfold getLowStockProductCount
  cases hall : hasRestrictedLocations org with
  | true => exact countP_snapshot
  | false => exact lowStockProducts_length hall

/-- A page of one row at least has a last row when there is a next one. -/
theorem paginateRows_isOk {R : Type} (rows : List R) {limit : Nat} (hlimit : 1 ≤ limit)
    (cursor : Option Cursor) (getCursor : R → Id) :
    ∃ page, paginateRows rows limit cursor getCursor = .ok page := by
  unfold paginateRows
  dsimp only
  split
  · next hmore =>
    cases hlast : ((rows.drop (startIndex rows getCursor cursor)).take limit).getLast? with
    | some r => exact ⟨_, rfl⟩
    | none =>
      have hnil := List.getLast?_eq_none_iff.mp hlast
      have hlength := congrArg List.length hnil
      rw [List.length_take, List.length_drop, List.length_nil] at hlength
      omega
  · exact ⟨_, rfl⟩

/-- **The count of the products that run low is the total of the stock page** that shows only
those. -/
theorem lowStock_counts_agree {query : GetInventoryQueryDto} (hlow : query.lowStockOnly = true)
    (hlimit : 1 ≤ query.limit) :
    ∃ answer, getInventory p db org query = .ok answer ∧
      getLowStockProductCount p db org = answer.totalCount ∧
      answer.totalCount = db.lowProducts org := by
  obtain ⟨page, hpage⟩ := paginateRows_isOk
    (sortAggregatedInventoryRows p ((getAggregatedInventorySnapshot p db org).filter (·.isLowStock))
      query.sortBy query.sortOrder) hlimit query.cursor (·.productId)
  have htotal : ((getAggregatedInventorySnapshot p db org).filter (·.isLowStock)).length =
      db.lowProducts org := by
    rw [← List.countP_eq_length_filter]
    exact countP_snapshot
  refine ⟨{ data := page.1, totalCount := _, nextCursor := page.2 }, ?_,
    getLowStockProductCount_eq.trans htotal.symm, htotal⟩
  unfold getInventory
  dsimp only
  rw [if_pos hlow, hpage]
  rfl

/-- The tea of the stockroom, none of which is left. -/
theorem lowStock_counts_agree_tea :
    ∃ answer, getInventory .plain Stockroom.empty { organizationId := Stockroom.here }
        { lowStockOnly := true } = .ok answer ∧
      getLowStockProductCount .plain Stockroom.empty { organizationId := Stockroom.here } =
        answer.totalCount ∧
      answer.totalCount = Stockroom.empty.lowProducts { organizationId := Stockroom.here } :=
  lowStock_counts_agree rfl (by decide)

example : Stockroom.empty.lowProducts { organizationId := Stockroom.here } = 1 := by decide

end LedgerLight
