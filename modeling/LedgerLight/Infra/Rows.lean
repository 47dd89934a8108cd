import LedgerLight.Infra.Table
import Mathlib.Algebra.BigOperators.Group.List.Basic
import Mathlib.Data.List.Sort

/-!
# The rows of a table as a list

A table has no order of its own; its rows as a list come by their keys. So a list of rows depends on
the lookups of the table only, and the rows that pass a test on the lookups of those.

* `Table.select_congr` : two tables with the same rows that pass a test list them alike.
* `Table.joined_congr` : the same for rows with what is joined to them from other tables.
-/

namespace Infra.Table

variable {κ ρ : Type} [LinearOrder κ]

/-- All rows, by their keys. -/
def rows (t : Table κ ρ) : List (κ × ρ) :=
  (t.entries.insertionSort fun a b => a.1 ≤ b.1).map fun e => (e.1, e.2)

/-- The rows that pass a test, by their keys. -/
def select (t : Table κ ρ) (p : κ → ρ → Bool) : List (κ × ρ) := t.rows.filter fun r => p r.1 r.2

variable {t t' : Table κ ρ} {p : κ → ρ → Bool} {k : κ} {v : ρ}

theorem mem_rows : (k, v) ∈ t.rows ↔ t.lookup k = some v := by
  unfold rows
  rw [List.mem_map]
  constructor
  · rintro ⟨⟨k', v'⟩, hmem, he⟩
    cases he
    exact AList.mem_lookup_iff.mpr ((List.mem_insertionSort _).mp hmem)
  · intro h
    exact ⟨⟨k, v⟩, (List.mem_insertionSort _).mpr (AList.mem_lookup_iff.mp h), rfl⟩

theorem mem_select : (k, v) ∈ t.select p ↔ t.lookup k = some v ∧ p k v = true := by
  unfold select
  rw [List.mem_filter, mem_rows]

/-- No two rows have one key. -/
theorem nodup_rows (t : Table κ ρ) : (t.rows.map Prod.fst).Nodup := by
  unfold rows
  rw [List.map_map]
  have hkeys : (t.entries.map Sigma.fst).Nodup := t.nodupKeys
  exact ((List.perm_insertionSort _ t.entries).map Sigma.fst).nodup_iff.mpr hkeys

theorem pairwise_rows (t : Table κ ρ) : t.rows.Pairwise fun r r' => r.1 ≤ r'.1 := by
  unfold rows
  rw [List.pairwise_map]
  have : Std.Total fun a b : Sigma fun _ : κ => ρ => a.1 ≤ b.1 := ⟨fun a b => le_total a.1 b.1⟩
  have : IsTrans (Sigma fun _ : κ => ρ) fun a b => a.1 ≤ b.1 := ⟨fun _ _ _ => le_trans⟩
  exact List.pairwise_insertionSort _ t.entries

/-- Two lists of rows in order with the same rows are one list. -/
theorem eq_of_mem_iff {l l' : List (κ × ρ)} (hl : (l.map Prod.fst).Nodup)
    (hl' : (l'.map Prod.fst).Nodup) (hs : l.Pairwise fun r r' => r.1 ≤ r'.1)
    (hs' : l'.Pairwise fun r r' => r.1 ≤ r'.1) (h : ∀ r, r ∈ l ↔ r ∈ l') : l = l' := by
  have hperm : l.Perm l' := (List.perm_ext_iff_of_nodup hl.of_map hl'.of_map).mpr h
  refine hperm.eq_of_pairwise (fun a b ha hb hab hba => ?_) hs hs'
  -- rows of one key in one list are one row
  exact List.inj_on_of_nodup_map hl' ((h a).mp ha) hb (le_antisymm hab hba)

/-- **Two tables with the same rows that pass a test** list them alike. -/
theorem select_congr {p' : κ → ρ → Bool}
    (h : ∀ k v, t.lookup k = some v ∧ p k v = true ↔ t'.lookup k = some v ∧ p' k v = true) :
    t.select p = t'.select p' := by
  have hsub (s : Table κ ρ) (q) : (s.select q).Sublist s.rows := List.filter_sublist
  refine eq_of_mem_iff ((nodup_rows t).sublist ((hsub t p).map _))
    ((nodup_rows t').sublist ((hsub t' p').map _)) ((pairwise_rows t).sublist (hsub t p))
    ((pairwise_rows t').sublist (hsub t' p')) ?_
  rintro ⟨k, v⟩
  rw [mem_select, mem_select]
  exact h k v

theorem entries_perm_rows (t : Table κ ρ) : (t.entries.map fun e => (e.1, e.2)).Perm t.rows :=
  ((List.perm_insertionSort _ t.entries).map _).symm

theorem countRows_eq : t.countRows p = t.rows.countP fun r => p r.1 r.2 := by
  rw [← (entries_perm_rows t).countP_eq, List.countP_map]
  rfl

theorem countRows_eq_length : t.countRows p = (t.select p).length := by
  rw [countRows_eq, List.countP_eq_length_filter]
  rfl

theorem sumRows_eq {f : ρ → Int} : t.sumRows p f = ((t.select p).map fun r => f r.2).sum := by
  have hperm := ((entries_perm_rows t).filter fun r => p r.1 r.2).map fun r => f r.2
  rw [select, ← hperm.sum_eq, List.filter_map, List.map_map]
  rfl

/-! ## Joined rows -/

section

variable {R : Type} {join join' : κ → ρ → R} {test : R → Bool}

/-- The rows with what is joined to them. -/
def joined (t : Table κ ρ) (join : κ → ρ → R) : List R := t.rows.map fun r => join r.1 r.2

/-- Rows that carry their key have distinct ones. -/
theorem nodup_joined {id : R → κ} (hid : ∀ k v, id (join k v) = k) (t : Table κ ρ) :
    ((t.joined join).map id).Nodup := by
  have hkeys : (t.joined join).map id = t.rows.map Prod.fst := by
    rw [joined, List.map_map]
    exact List.map_congr_left fun r _ => hid r.1 r.2
  rw [hkeys]
  exact nodup_rows t

theorem joined_filter (t : Table κ ρ) (join : κ → ρ → R) (test : R → Bool) :
    (t.joined join).filter test =
      (t.select fun k v => test (join k v)).map fun r => join r.1 r.2 := by
  rw [joined, List.filter_map]
  rfl

/-- **Two tables with the same joined rows that pass a test** list these alike. -/
theorem joined_congr
    (h : ∀ k v, t.lookup k = some v → test (join k v) = true →
      t'.lookup k = some v ∧ join' k v = join k v)
    (h' : ∀ k v, t'.lookup k = some v → test (join' k v) = true →
      t.lookup k = some v ∧ join k v = join' k v) :
    (t.joined join).filter test = (t'.joined join').filter test := by
  have hselect : t.select (fun k v => test (join k v)) =
      t'.select fun k v => test (join' k v) := by
    refine select_congr fun k v => ⟨fun ⟨hv, htest⟩ => ?_, fun ⟨hv, htest⟩ => ?_⟩
    · obtain ⟨hv', he⟩ := h k v hv htest
      exact ⟨hv', he ▸ htest⟩
    · obtain ⟨hv', he⟩ := h' k v hv htest
      exact ⟨hv', he ▸ htest⟩
  rw [joined_filter, joined_filter, ← hselect]
  refine List.map_congr_left fun r hr => ?_
  obtain ⟨hv, htest⟩ := mem_select.mp (show (r.1, r.2) ∈ _ from hr)
  exact (h r.1 r.2 hv htest).2.symm

end

end Infra.Table
