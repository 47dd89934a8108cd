import LedgerLight.Infra.Sorted
import LedgerLight.Prisma.Service

/-!
# The order of a query

`orderBy` orders the rows by one key after the other. With the id among the keys no two rows compare
alike, so the database has no choice left.

* `transCmp_compareRows` : the keys give an order.
* `alone_of_mem_ids` : with the id, no two rows compare alike.
* `orderRows_filter` : a narrower query returns its rows in the same order.
-/

namespace LedgerLight

open Infra Std

namespace ScalarValue

variable {c : Collation} {a b : ScalarValue}

theorem ne_null_of_kind {kind : ScalarKind} (h : a.kind? = some kind) : a ≠ null := by
  rintro rfl
  cases h

/-- Two values of one kind, or two nulls. -/
inductive Alike : ScalarValue → ScalarValue → Prop
  | null : Alike null null
  | bool (a b : Bool) : Alike (bool a) (bool b)
  | int (a b : Int) : Alike (int a) (int b)
  | text (a b : String) : Alike (text a) (text b)
  | id (a b : Id) : Alike (id a) (id b)
  | date (a b : Date) : Alike (date a) (date b)
  | enum (a b : Nat) : Alike (enum a) (enum b)

theorem alike_of_place_eq (h : a.place = b.place) : Alike a b := by
  cases a <;> cases b <;> first | constructor | simp [place] at h

/-- Values of different kinds come by their kinds. -/
theorem compare_of_place_ne (h : a.place ≠ b.place) :
    compare c a b = Ord.compare a.place b.place := by
  cases a <;> cases b <;> first | rfl | exact absurd rfl h

theorem place_le_of_isLE (h : (compare c a b).isLE = true) : a.place ≤ b.place := by
  by_cases hp : a.place = b.place
  · exact Nat.le_of_eq hp
  · rw [compare_of_place_ne hp] at h
    exact Nat.isLE_compare.mp h

instance (c : Collation) : OrientedCmp (compare c) where
  eq_swap {a b} := by
    have := c.trans
    by_cases hp : a.place = b.place
    · cases alike_of_place_eq hp with
      | null => rfl
      | bool a b => exact OrientedOrd.eq_swap (α := Bool)
      | int a b => exact OrientedOrd.eq_swap (α := Int)
      | text a b => exact c.trans.eq_swap
      | id a b => exact OrientedOrd.eq_swap (α := Id)
      | date a b => exact OrientedOrd.eq_swap (α := Date)
      | enum a b => exact OrientedOrd.eq_swap (α := Nat)
    · rw [compare_of_place_ne hp, compare_of_place_ne (Ne.symm hp)]
      exact OrientedOrd.eq_swap

instance (c : Collation) : TransCmp (compare c) where
  isLE_trans {a b d} hab hbd := by
    have hle := place_le_of_isLE hab
    have hle' := place_le_of_isLE hbd
    by_cases hp : a.place = d.place
    · have hd : b.place = d.place := by omega
      have hb : a.place = b.place := by omega
      cases alike_of_place_eq hb with
      | null => cases alike_of_place_eq hd; rfl
      | bool a b => cases alike_of_place_eq hd; exact TransOrd.isLE_trans (α := Bool) hab hbd
      | int a b => cases alike_of_place_eq hd; exact TransOrd.isLE_trans (α := Int) hab hbd
      | text a b => cases alike_of_place_eq hd; exact c.trans.isLE_trans hab hbd
      | id a b => cases alike_of_place_eq hd; exact TransOrd.isLE_trans (α := Id) hab hbd
      | date a b => cases alike_of_place_eq hd; exact TransOrd.isLE_trans (α := Date) hab hbd
      | enum a b => cases alike_of_place_eq hd; exact TransOrd.isLE_trans (α := Nat) hab hbd
    · rw [compare_of_place_ne hp]
      exact Nat.isLE_compare.mpr (by omega)

instance (c : Collation) : LawfulEqCmp (compare c) where
  eq_of_compare {a b} h := by
    by_cases hp : a.place = b.place
    · cases alike_of_place_eq hp with
      | null => rfl
      | bool a b => rw [LawfulEqOrd.eq_of_compare (α := Bool) h]
      | int a b => rw [LawfulEqOrd.eq_of_compare (α := Int) h]
      | text a b => rw [c.eq.eq_of_compare h]
      | id a b => rw [LawfulEqOrd.eq_of_compare (α := Id) h]
      | date a b => rw [LawfulEqOrd.eq_of_compare (α := Date) h]
      | enum a b => rw [LawfulEqOrd.eq_of_compare (α := Nat) h]
    · rw [compare_of_place_ne hp] at h
      exact absurd (Nat.compare_eq_eq.mp h) hp

end ScalarValue

variable {R : Type} {c : Collation} {model : Model R} {p : Platform} {rows : List R}

/-! ## Keys -/

theorem SortKey.compare_asc (value : R → ScalarValue) (r r' : R) :
    SortKey.compare c ⟨value, .asc⟩ r r' = ScalarValue.compare c (value r) (value r') := rfl

theorem SortKey.compare_desc (value : R → ScalarValue) (r r' : R) :
    SortKey.compare c ⟨value, .desc⟩ r r' = ScalarValue.compare c (value r') (value r) := rfl

instance (c : Collation) (key : SortKey R) : TransCmp (key.compare c) := by
  have htrans : TransCmp (ScalarValue.compare c) := inferInstance
  rcases key with ⟨value, _ | _⟩
  · exact { eq_swap := htrans.eq_swap, isLE_trans := htrans.isLE_trans }
  · exact { eq_swap := htrans.eq_swap, isLE_trans := fun hab hbd => htrans.isLE_trans hbd hab }

theorem compareRows_cons (key : SortKey R) (keys : List (SortKey R)) :
    compareRows c (key :: keys) = compareLex (key.compare c) (compareRows c keys) := rfl

/-- **The keys give an order.** -/
instance transCmp_compareRows (c : Collation) (keys : List (SortKey R)) :
    TransCmp (compareRows c keys) := by
  induction keys with
  | nil => exact { eq_swap := rfl, isLE_trans := fun _ _ => rfl }
  | cons key keys ih =>
    rw [compareRows_cons]
    infer_instance

theorem compareRows_append (keys keys' : List (SortKey R)) (r r' : R) :
    compareRows c (keys ++ keys') r r' =
      (compareRows c keys r r').then (compareRows c keys' r r') := by
  induction keys with
  | nil => rfl
  | cons key keys ih =>
    have hleft : compareRows c (key :: keys ++ keys') r r' =
        (key.compare c r r').then (compareRows c (keys ++ keys') r r') := rfl
    have hright : compareRows c (key :: keys) r r' =
        (key.compare c r r').then (compareRows c keys r r') := rfl
    rw [hleft, hright, ih, Ordering.then_assoc]

/-- Rows that compare alike do so by every key. -/
theorem compare_of_compareRows {keys : List (SortKey R)} {r r' : R}
    (h : compareRows c keys r r' = .eq) : ∀ key ∈ keys, key.compare c r r' = .eq := by
  induction keys with
  | nil => exact List.forall_mem_nil _
  | cons key keys ih =>
    have hboth : key.compare c r r' = .eq ∧ compareRows c keys r r' = .eq :=
      Ordering.then_eq_eq.mp h
    exact List.forall_mem_cons.mpr ⟨hboth.1, ih hboth.2⟩

theorem SortKey.compare_eq_iff {key : SortKey R} {r r' : R} :
    key.compare c r r' = .eq ↔ key.value r = key.value r' := by
  rcases key with ⟨value, _ | _⟩
  · rw [SortKey.compare_asc]
    exact LawfulEqCmp.compare_eq_iff_eq
  · rw [SortKey.compare_desc]
    exact LawfulEqCmp.compare_eq_iff_eq.trans eq_comm

/-! ## The id among the keys -/

def Model.idKey (model : Model R) (direction : SortDirection) : SortKey R :=
  { value := model.idColumn.value, direction := direction }

theorem id_of_compareRows {keys : List (SortKey R)} {direction : SortDirection}
    (hkey : model.idKey direction ∈ keys) {r r' : R} (h : compareRows c keys r r' = .eq) :
    model.id r = model.id r' :=
  ScalarValue.id.inj (SortKey.compare_eq_iff.mp (compare_of_compareRows h _ hkey))

/-- **With the id, no two rows compare alike.** -/
theorem alone_of_nodup_ids (hids : (rows.map model.id).Nodup) {keys : List (SortKey R)}
    {direction : SortDirection} (hkey : model.idKey direction ∈ keys) :
    ∀ r ∈ rows, Alone (compareRows c keys) rows r :=
  fun _ hr _ hx h => List.inj_on_of_nodup_map hids hx hr (id_of_compareRows hkey h)

theorem orderRows_eq_sortBy (hids : (rows.map model.id).Nodup) {keys : List (SortKey R)}
    {direction : SortDirection} (hkey : model.idKey direction ∈ keys) :
    orderRows p keys rows = sortBy (compareRows p.collation keys) rows :=
  sortBy_eq_of_perm (p.arrange_perm rows) (alone_of_nodup_ids hids hkey)

/-- **A narrower query** returns its rows in the same order. -/
theorem orderRows_filter (hids : (rows.map model.id).Nodup) {keys : List (SortKey R)}
    {direction : SortDirection} (hkey : model.idKey direction ∈ keys) (test : R → Bool) :
    orderRows p keys (rows.filter test) = (orderRows p keys rows).filter test := by
  have hids' : ((rows.filter test).map model.id).Nodup :=
    hids.sublist (List.filter_sublist.map _)
  rw [orderRows_eq_sortBy hids' hkey, orderRows_eq_sortBy hids hkey]
  exact sortBy_filter (alone_of_nodup_ids hids hkey)

/-- Another key after the id decides nothing. -/
theorem compareRows_append_id {keys : List (SortKey R)} {direction direction' : SortDirection}
    (hkey : model.idKey direction ∈ keys) :
    compareRows c (keys ++ [model.idKey direction']) = compareRows c keys := by
  funext r r'
  rw [compareRows_append]
  cases h : compareRows c keys r r' with
  | lt => rfl
  | gt => rfl
  | eq =>
    have hid : model.id r = model.id r' := id_of_compareRows hkey h
    have hsame : (model.idKey direction').compare c r r' = .eq :=
      SortKey.compare_eq_iff.mpr (congrArg ScalarValue.id hid)
    show ((model.idKey direction').compare c r r').then .eq = .eq
    rw [hsame]
    rfl

/-! ## The keys of a query -/

/-- The keys of the entries that are valid. -/
def sortKeys (model : Model R) (orderBy : List (OrderBy R)) : List (SortKey R) :=
  orderBy.filterMap fun o => (o.sortKey model).toOption

theorem mapM_sortKey {orderBy : List (OrderBy R)}
    (h : ∀ o ∈ orderBy, ∃ key, o.sortKey model = .ok key) :
    orderBy.mapM (OrderBy.sortKey model) = .ok (sortKeys model orderBy) := by
  induction orderBy with
  | nil => rfl
  | cons o orderBy ih =>
    obtain ⟨⟨key, hkey⟩, hrest⟩ := List.forall_mem_cons.mp h
    have hkeys : sortKeys model (o :: orderBy) = key :: sortKeys model orderBy := by
      unfold sortKeys
      rw [List.filterMap_cons, hkey]
      rfl
    rw [List.mapM_cons, hkey, ih hrest, hkeys]
    rfl

theorem sortKeys_append (orderBy orderBy' : List (OrderBy R)) :
    sortKeys model (orderBy ++ orderBy') = sortKeys model orderBy ++ sortKeys model orderBy' :=
  List.filterMap_append

theorem sortKeys_id (direction : SortDirection) :
    sortKeys model [.column "id" direction] = [model.idKey direction] := rfl

/-- An entry that orders by the id is a key. -/
theorem exists_idKey (model : Model R) {orderBy : List (OrderBy R)}
    (h : orderBy.any OrderBy.isId = true) :
    ∃ direction, model.idKey direction ∈ sortKeys model orderBy := by
  obtain ⟨o, ho, hid⟩ := List.any_eq_true.mp h
  cases o with
  | relation value direction => cases hid
  | column field direction =>
    have hfield : field = "id" := by simpa [OrderBy.isId] using hid
    subst hfield
    exact ⟨direction, List.mem_filterMap.mpr ⟨_, ho, rfl⟩⟩

end LedgerLight
