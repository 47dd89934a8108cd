import LedgerLight.Infra.Rows
import Mathlib.Data.List.Dedup
import Mathlib.Data.List.Perm.Basic

/-!
# Statements on rows

`LEFT JOIN`, `GROUP BY` and `SUM`, on lists of rows whose order means nothing, and `INSERT` of the
rows that a query selects. `NULL` is `none`.

* `Sql.groupBy_leftJoin` : grouped by a key of the left rows, a left join has one group a left row.
* `Sql.sum_partners` : the sum of a group is that of the rows joined to it, and `NULL` if none is.
* `Sql.insertAll_ok` : what an `INSERT` leaves, if no key of its rows is taken.
-/

namespace Infra.Sql

variable {α β κ : Type}

/-- What a left row is joined to: the right rows that match, or else `NULL`. -/
def partners (on : α → β → Bool) (r : List β) (a : α) : List (Option β) :=
  if r.filter (on a) = [] then [none] else (r.filter (on a)).map some

def leftJoin (on : α → β → Bool) (l : List α) (r : List β) : List (α × Option β) :=
  l.flatMap fun a => (partners on r a).map fun b => (a, b)

/-- The groups, each with its key. -/
def groupBy [DecidableEq κ] (key : α → κ) (rows : List α) : List (κ × List α) :=
  (rows.map key).dedup.map fun k => (k, rows.filter fun a => key a = k)

/-- `SUM` skips `NULL`s, and is `NULL` of nothing. -/
def sum (f : α → Option Int) (rows : List α) : Option Int :=
  if rows.filterMap f = [] then none else some (rows.filterMap f).sum

section

variable {on : α → β → Bool} {l : List α} {r : List β} {a : α}

theorem partners_ne_nil (on : α → β → Bool) (r : List β) (a : α) : partners on r a ≠ [] := by
  unfold partners
  split
  · exact List.cons_ne_nil _ _
  · next h => simpa using h

theorem sum_partners (f : β → Int) :
    (sum (fun row : α × Option β => row.2.map f) ((partners on r a).map fun b => (a, b))).getD 0 =
      ((r.filter (on a)).map f).sum := by
  unfold sum partners
  by_cases h : r.filter (on a) = []
  · simp [h]
  · have hvalues : (((r.filter (on a)).map some).map fun b => (a, b)).filterMap
        (fun row : α × Option β => row.2.map f) = (r.filter (on a)).map f := by
      rw [List.map_map, List.filterMap_map]
      exact congrFun (List.filterMap_eq_map (f := f)) _
    rw [if_neg h, hvalues, if_neg (by simpa using h)]
    rfl

/-- A filter on the left rows can be applied before the join. -/
theorem leftJoin_filter (test : α → Bool) :
    (leftJoin on l r).filter (fun row => test row.1) = leftJoin on (l.filter test) r := by
  induction l with
  | nil => rfl
  | cons a l ih =>
    rw [leftJoin, List.flatMap_cons, List.filter_append, List.filter_map, List.filter_cons]
    have hrest : (l.flatMap fun a => (partners on r a).map fun b => (a, b)).filter
        (fun row => test row.1) = leftJoin on (l.filter test) r := ih
    rw [hrest]
    by_cases ha : test a = true
    · have hall : (partners on r a).filter ((fun row : α × Option β => test row.1) ∘
          fun b => (a, b)) = partners on r a := List.filter_eq_self.mpr fun b _ => ha
      rw [hall, if_pos ha, leftJoin, leftJoin, List.flatMap_cons]
    · have hnone : (partners on r a).filter ((fun row : α × Option β => test row.1) ∘
          fun b => (a, b)) = [] := List.filter_eq_nil_iff.mpr fun b _ => ha
      rw [hnone, if_neg ha]
      rfl

variable [DecidableEq κ] {key : α → κ}

/-- The rows of a left row that is alone with its key. -/
theorem leftJoin_filter_key (hkey : (l.map key).Nodup) (ha : a ∈ l) :
    (leftJoin on l r).filter (fun row => key row.1 = key a) =
      (partners on r a).map fun b => (a, b) := by
  have hone : l.filter (fun b => key b = key a) = [a] := by
    refine List.perm_singleton.mp
      ((List.perm_ext_iff_of_nodup (hkey.of_map.filter _) (List.nodup_singleton a)).mpr fun b => ?_)
    rw [List.mem_filter, List.mem_singleton, decide_eq_true_iff]
    exact ⟨fun ⟨hb, he⟩ => List.inj_on_of_nodup_map hkey hb ha he, fun he => ⟨he ▸ ha, he ▸ rfl⟩⟩
  rw [leftJoin_filter (fun b => key b = key a), hone, leftJoin, List.flatMap_singleton]

/-- **A left join has one group a left row**, if it is grouped by a key of the left rows. -/
theorem groupBy_leftJoin (hkey : (l.map key).Nodup) :
    (groupBy (fun row : α × Option β => key row.1) (leftJoin on l r)).Perm
      (l.map fun a => (key a, (partners on r a).map fun b => (a, b))) := by
  have hkeys : ((leftJoin on l r).map fun row => key row.1).dedup.Perm (l.map key) := by
    refine (List.perm_ext_iff_of_nodup (List.nodup_dedup _) hkey).mpr fun k => ?_
    rw [List.mem_dedup, List.mem_map, List.mem_map]
    constructor
    · rintro ⟨⟨a, b⟩, hmem, hk⟩
      obtain ⟨a', ha', hb⟩ := List.mem_flatMap.mp hmem
      obtain ⟨b', -, he⟩ := List.mem_map.mp hb
      cases he
      exact ⟨a, ha', hk⟩
    · rintro ⟨a, ha, hk⟩
      obtain ⟨b, hb⟩ := List.exists_mem_of_ne_nil _ (partners_ne_nil on r a)
      exact ⟨(a, b), List.mem_flatMap.mpr ⟨a, ha, List.mem_map_of_mem hb⟩, hk⟩
  refine (hkeys.map _).trans (List.Perm.of_eq ?_)
  rw [List.map_map]
  refine List.map_congr_left fun a ha => ?_
  exact congrArg (Prod.mk (key a)) (leftJoin_filter_key hkey ha)

end

/-! ## Inserting what a query selects -/

variable {ρ : Type} [DecidableEq κ]

/-- The rows are inserted one after the other; a key that is taken violates the primary key. -/
def insertAll (t : Table κ ρ) : List (κ × ρ) → Option (Table κ ρ)
  | [] => some t
  | (k, v) :: rows => if (t.lookup k).isSome then none else insertAll (t.insert k v) rows

/-- **What an `INSERT` leaves**: the rows that were there and its own. -/
theorem insertAll_ok {t : Table κ ρ} {rows : List (κ × ρ)} (hkeys : (rows.map Prod.fst).Nodup)
    (hnew : ∀ r ∈ rows, t.lookup r.1 = none) :
    ∃ t', insertAll t rows = some t' ∧
      ∀ k v, t'.lookup k = some v ↔ t.lookup k = some v ∨ (k, v) ∈ rows := by
  induction rows generalizing t with
  | nil => exact ⟨t, rfl, fun k v => by simp⟩
  | cons r rows ih =>
    obtain ⟨k, v⟩ := r
    rw [List.map_cons, List.nodup_cons] at hkeys
    obtain ⟨hk, hrest⟩ := List.forall_mem_cons.mp hnew
    have hother : ∀ r ∈ rows, r.1 ≠ k := fun r hr he => hkeys.1 (List.mem_map.mpr ⟨r, hr, he⟩)
    obtain ⟨t', ht', hrows⟩ := ih (t := t.insert k v) hkeys.2 fun r hr => by
      rw [Table.lookup_insert_ite, if_neg (hother r hr)]
      exact hrest r hr
    refine ⟨t', ?_, fun k' v' => ?_⟩
    · rw [insertAll, hk]
      exact ht'
    · rw [hrows, Table.lookup_insert_ite, List.mem_cons, Prod.mk.injEq]
      by_cases he : k' = k
      · subst he
        rw [if_pos rfl, hk]
        simp [eq_comm]
      · rw [if_neg he]
        simp [he]

end Infra.Sql
