import Mathlib.Algebra.Ring.Int.Defs
import Mathlib.Data.List.AList

/-!
# Keyed tables

A table is an association list with one row for a key. Mathlib's `AList` has the operations;
here are the searches by something else than the key, and the lookups written as one `if`.
-/

namespace Infra

/-- One row for each key. -/
abbrev Table (κ ρ : Type) := AList (fun _ : κ => ρ)

namespace Table

variable {κ ρ : Type}

/-- Every row changed by `f`. -/
def mapRows {ρ' : Type} (t : Table κ ρ) (f : ρ → ρ') : Table κ ρ' where
  entries := t.entries.map (Sigma.map id fun _ => f)
  nodupKeys := t.nodupKeys.map₂ fun _ => f

/-- The rows that pass a test. -/
def filterRows (t : Table κ ρ) (p : κ → ρ → Bool) : Table κ ρ where
  entries := t.entries.filter fun e => p e.1 e.2
  nodupKeys := t.nodupKeys.sublist List.filter_sublist

/-- The number of rows that pass a test. -/
def countRows (t : Table κ ρ) (p : κ → ρ → Bool) : Nat := t.entries.countP fun e => p e.1 e.2

/-- The sum of `f` over the rows that pass a test. -/
def sumRows (t : Table κ ρ) (p : κ → ρ → Bool) (f : ρ → Int) : Int :=
  ((t.entries.filter fun e => p e.1 e.2).map fun e => f e.2).sum

/-- The first row that passes a test. -/
def findRow? (t : Table κ ρ) (p : κ → ρ → Bool) : Option (κ × ρ) :=
  (t.entries.find? fun e => p e.1 e.2).map fun e => (e.1, e.2)

theorem pred_of_findRow? {t : Table κ ρ} {p : κ → ρ → Bool} {k : κ} {v : ρ}
    (h : t.findRow? p = some (k, v)) : p k v = true := by
  unfold findRow? at h
  obtain ⟨⟨k', v'⟩, hf, he⟩ := Option.map_eq_some_iff.mp h
  cases he
  have hp := List.find?_some hf
  exact hp

variable [DecidableEq κ]

theorem lookup_insert_ite (t : Table κ ρ) (k k' : κ) (v : ρ) :
    (t.insert k v).lookup k' = if k' = k then some v else t.lookup k' := by
  split
  · next h => rw [h, AList.lookup_insert]
  · next h => exact AList.lookup_insert_ne h

theorem lookup_erase_ite (t : Table κ ρ) (k k' : κ) :
    (t.erase k).lookup k' = if k' = k then none else t.lookup k' := by
  split
  · next h => rw [h, AList.lookup_erase]
  · next h => exact AList.lookup_erase_ne h

theorem lookup_mapRows {ρ' : Type} (t : Table κ ρ) (f : ρ → ρ') (k : κ) :
    (t.mapRows f).lookup k = (t.lookup k).map f :=
  List.dlookup_map₂ k

theorem lookup_filterRows (t : Table κ ρ) (p : κ → ρ → Bool) (k : κ) :
    (t.filterRows p).lookup k = (t.lookup k).filter (p k) := by
  ext v
  rw [← Option.mem_def, AList.mem_lookup_iff, Option.filter_eq_some_iff, ← Option.mem_def,
    AList.mem_lookup_iff]
  exact List.mem_filter

theorem mem_entries_of_lookup {t : Table κ ρ} {k : κ} {v : ρ} (h : t.lookup k = some v) :
    ⟨k, v⟩ ∈ t.entries := AList.mem_lookup_iff.mp h

theorem lookup_of_findRow? {t : Table κ ρ} {p : κ → ρ → Bool} {k : κ} {v : ρ}
    (h : t.findRow? p = some (k, v)) : t.lookup k = some v := by
  unfold findRow? at h
  obtain ⟨⟨k', v'⟩, hf, he⟩ := Option.map_eq_some_iff.mp h
  cases he
  exact AList.mem_lookup_iff.mpr (List.mem_of_find?_eq_some hf)

theorem pred_of_findRow?_eq_none {t : Table κ ρ} {p : κ → ρ → Bool} {k : κ} {v : ρ}
    (h : t.findRow? p = none) (hk : t.lookup k = some v) : p k v = false := by
  unfold findRow? at h
  rw [Option.map_eq_none_iff] at h
  have hm := List.find?_eq_none.mp h ⟨k, v⟩ (AList.mem_lookup_iff.mp hk)
  simpa using hm

/-- A search finds something where a row passes the test. -/
theorem findRow?_isSome {t : Table κ ρ} {p : κ → ρ → Bool} :
    (t.findRow? p).isSome = true ↔ ∃ k v, t.lookup k = some v ∧ p k v = true := by
  constructor
  · intro h
    obtain ⟨⟨k, v⟩, hrow⟩ := Option.isSome_iff_exists.mp h
    exact ⟨k, v, lookup_of_findRow? hrow, pred_of_findRow? hrow⟩
  · rintro ⟨k, v, hk, hp⟩
    by_contra hnone
    rw [Bool.not_eq_true, Option.isSome_eq_false_iff, Option.isNone_iff_eq_none] at hnone
    rw [pred_of_findRow?_eq_none hnone hk] at hp
    cases hp

theorem entries_insert_new {t : Table κ ρ} {k : κ} {v : ρ} (h : t.lookup k = none) :
    (t.insert k v).entries = ⟨k, v⟩ :: t.entries :=
  AList.entries_insert_of_notMem (AList.lookup_eq_none.mp h)

/-- A new row adds to the sum if it passes the test. -/
theorem sumRows_insert_new {t : Table κ ρ} {p : κ → ρ → Bool} {f : ρ → Int} {k : κ} {v : ρ}
    (h : t.lookup k = none) :
    Table.sumRows (t.insert k v) p f = (if p k v = true then f v else 0) + t.sumRows p f := by
  unfold sumRows
  rw [entries_insert_new h, List.filter_cons]
  split
  · rw [List.map_cons, List.sum_cons]
  · exact (Int.zero_add _).symm

theorem sumRows_eq_zero {t : Table κ ρ} {p : κ → ρ → Bool} {f : ρ → Int}
    (h : ∀ k v, t.lookup k = some v → p k v = false) : t.sumRows p f = 0 := by
  unfold sumRows
  have hnone : (t.entries.filter fun e => p e.1 e.2) = [] :=
    List.filter_eq_nil_iff.mpr fun e he => by
      rw [h e.1 e.2 (AList.mem_lookup_iff.mpr he)]
      exact Bool.false_ne_true
  rw [hnone]
  rfl

theorem countRows_eq_zero {t : Table κ ρ} {p : κ → ρ → Bool} :
    t.countRows p = 0 ↔ ∀ k v, t.lookup k = some v → p k v = false := by
  unfold countRows
  rw [List.countP_eq_zero]
  constructor
  · intro h k v hk
    exact Bool.not_eq_true _ ▸ h ⟨k, v⟩ (AList.mem_lookup_iff.mp hk)
  · intro h e he
    rw [h e.1 e.2 (AList.mem_lookup_iff.mpr he)]
    exact Bool.false_ne_true

/-- Where one row at most passes a test, it counts for all. -/
theorem countRows_eq_ite {t : Table κ ρ} {p : κ → ρ → Bool} {k : κ} {v : ρ}
    (hk : t.lookup k = some v)
    (h : ∀ k' v', k' ≠ k → t.lookup k' = some v' → p k' v' = false) :
    t.countRows p = if p k v = true then 1 else 0 := by
  obtain ⟨l₁, l₂, hl⟩ := List.append_of_mem (mem_entries_of_lookup hk)
  have hkeys : ∀ e ∈ l₁ ++ l₂, e.1 ≠ k := by
    intro e he
    have hnodup := t.nodupKeys
    rw [hl, List.NodupKeys, List.keys, List.map_append, List.map_cons] at hnodup
    have hnot : k ∉ (l₁ ++ l₂).map Sigma.fst := by
      rw [List.map_append]
      exact (List.nodup_middle.mp hnodup).notMem
    exact fun hek => hnot (hek ▸ List.mem_map_of_mem he)
  have hothers : ∀ e ∈ l₁ ++ l₂, p e.1 e.2 = false := by
    intro e he
    refine h e.1 e.2 (hkeys e he) (AList.mem_lookup_iff.mpr ?_)
    rw [hl]
    rcases List.mem_append.mp he with h₁ | h₂
    · exact List.mem_append_left _ h₁
    · exact List.mem_append_right _ (List.mem_cons_of_mem _ h₂)
  have hnone : (l₁ ++ l₂).countP (fun e => p e.1 e.2) = 0 :=
    List.countP_eq_zero.mpr fun e he => by simp [hothers e he]
  unfold countRows
  rw [hl, List.countP_append, List.countP_cons]
  rw [List.countP_append] at hnone
  dsimp only
  omega

/-- A row that is written is the first one. -/
theorem findRow?_insert_of_pos {t : Table κ ρ} {p : κ → ρ → Bool} {k : κ} {v : ρ}
    (h : p k v = true) : Table.findRow? (t.insert k v) p = some (k, v) := by
  unfold findRow?
  rw [AList.entries_insert, List.find?_cons_of_pos (by exact h)]
  rfl

/-- A search does not see the change of a row that passes the test neither before nor after. -/
theorem findRow?_insert_of_not {t : Table κ ρ} {p : κ → ρ → Bool} {k : κ} {v : ρ}
    (hnew : p k v = false) (hold : ∀ v', t.lookup k = some v' → p k v' = false) :
    Table.findRow? (t.insert k v) p = t.findRow? p := by
  unfold findRow?
  congr 1
  rw [AList.entries_insert, List.find?_cons_of_neg (by simp [hnew])]
  -- what `kerase` takes out did not pass the test
  have herase : ∀ l : List (Sigma fun _ : κ => ρ), (∀ v', ⟨k, v'⟩ ∈ l → p k v' = false) →
      (l.kerase k).find? (fun e => p e.1 e.2) = l.find? fun e => p e.1 e.2 := by
    intro l hl
    induction l with
    | nil => rfl
    | cons e l ih =>
      obtain ⟨k', v'⟩ := e
      by_cases he : k = k'
      · subst he
        have htaken : List.kerase k (⟨k, v'⟩ :: l) = l := List.kerase_cons_eq rfl
        rw [htaken, List.find?_cons_of_neg (by simp [hl v' (by simp)])]
      · rw [List.kerase_cons_ne he, List.find?_cons, List.find?_cons,
          ih fun w hw => hl w (List.mem_cons_of_mem _ hw)]
  exact herase t.entries fun v' hv' => hold v' (AList.mem_lookup_iff.mpr hv')

/-! ## Rows that stay -/

variable {σ : Type} {view : ρ → σ} {t t' t'' : Table κ ρ} {k : κ} {v : ρ}

/-- Every row is still there, and what `view` shows of it is as it was. -/
def Stays (view : ρ → σ) (t t' : Table κ ρ) : Prop :=
  ∀ k v, t.lookup k = some v → ∃ v', t'.lookup k = some v' ∧ view v' = view v

theorem stays_refl (view : ρ → σ) (t : Table κ ρ) : t.Stays view t := fun _ v h => ⟨v, h, rfl⟩

theorem Stays.trans (h : t.Stays view t') (h' : t'.Stays view t'') : t.Stays view t'' := by
  intro k v hv
  obtain ⟨v', hv', he⟩ := h k v hv
  obtain ⟨v'', hv'', he'⟩ := h' k v' hv'
  exact ⟨v'', hv'', he'.trans he⟩

/-- A new row. -/
theorem stays_insert_new (h : t.lookup k = none) : t.Stays view (t.insert k v) := by
  intro k' v' hv'
  refine ⟨v', ?_, rfl⟩
  rw [lookup_insert_ite, if_neg]
  · exact hv'
  · rintro rfl
    rw [h] at hv'
    cases hv'

/-- A row that is written over. -/
theorem stays_insert {v' : ρ} (h : t.lookup k = some v) (hview : view v' = view v) :
    t.Stays view (t.insert k v') := by
  intro k' w hw
  rw [lookup_insert_ite]
  split
  · next he =>
    subst he
    exact ⟨v', rfl, hview.trans (congrArg view (Option.some.inj (h.symm.trans hw)))⟩
  · exact ⟨w, hw, rfl⟩

/-- A row that is new, or that is written over. -/
theorem stays_insert_of (h : ∀ v', t.lookup k = some v' → view v' = view v) :
    t.Stays view (t.insert k v) := by
  cases hk : t.lookup k with
  | none => exact stays_insert_new hk
  | some v' => exact stays_insert hk (h v' hk).symm

theorem Stays.map_lookup {x : σ} (h : t.Stays view t') (hk : (t.lookup k).map view = some x) :
    (t'.lookup k).map view = some x := by
  obtain ⟨v, hv, rfl⟩ := Option.map_eq_some_iff.mp hk
  obtain ⟨v', hv', he⟩ := h k v hv
  rw [hv', Option.map_some, he]

theorem stays_mapRows {f : ρ → ρ} (h : ∀ v, view (f v) = view v) : t.Stays view (t.mapRows f) :=
  fun k v hv => ⟨f v, by rw [lookup_mapRows, hv]; rfl, h v⟩

/-! ## Rows that change -/

variable {p : κ → ρ → Prop}

/-- A row that is not as it was had `p` before, if it was there, and has `p` now, if it is there. -/
def ChangesWithin (p : κ → ρ → Prop) (t t' : Table κ ρ) : Prop :=
  ∀ k, t'.lookup k = t.lookup k ∨
    (∀ v, t.lookup k = some v → p k v) ∧ ∀ v, t'.lookup k = some v → p k v

theorem changesWithin_refl (p : κ → ρ → Prop) (t : Table κ ρ) : t.ChangesWithin p t :=
  fun _ => Or.inl rfl

/-- A row that is written. -/
theorem changesWithin_of_lookup (hold : ∀ v', t.lookup k = some v' → p k v') (hnew : p k v)
    (h : ∀ k', t'.lookup k' = if k' = k then some v else t.lookup k') : t.ChangesWithin p t' := by
  intro k'
  rw [h]
  split
  · next he =>
    subst he
    exact Or.inr ⟨hold, fun v' hv' => Option.some.inj hv' ▸ hnew⟩
  · exact Or.inl rfl

theorem changesWithin_insert (hold : ∀ v', t.lookup k = some v' → p k v') (hnew : p k v) :
    t.ChangesWithin p (t.insert k v) :=
  changesWithin_of_lookup hold hnew fun k' => lookup_insert_ite t k k' v

theorem changesWithin_erase (hold : ∀ v', t.lookup k = some v' → p k v') :
    t.ChangesWithin p (t.erase k) := by
  intro k'
  rw [lookup_erase_ite]
  split
  · next he =>
    subst he
    exact Or.inr ⟨hold, fun v' hv' => by cases hv'⟩
  · exact Or.inl rfl

theorem ChangesWithin.mono {q : κ → ρ → Prop} (h : t.ChangesWithin p t')
    (hpq : ∀ k v, p k v → q k v) : t.ChangesWithin q t' := fun k =>
  (h k).imp_right fun hk => ⟨fun v hv => hpq k v (hk.1 v hv), fun v hv => hpq k v (hk.2 v hv)⟩

theorem ChangesWithin.trans (h : t.ChangesWithin p t') (h' : t'.ChangesWithin p t'') :
    t.ChangesWithin p t'' := by
  intro k
  rcases h k with he | ⟨hold, hmid⟩ <;> rcases h' k with he' | ⟨hmid', hnew⟩
  · exact Or.inl (he'.trans he)
  · exact Or.inr ⟨fun v hv => hmid' v (he.trans hv), hnew⟩
  · exact Or.inr ⟨hold, fun v hv => hmid v (he'.symm.trans hv)⟩
  · exact Or.inr ⟨hold, hnew⟩

/-- A row without `p` is as it was. -/
theorem ChangesWithin.lookup_iff (h : t.ChangesWithin p t') (hv : ¬ p k v) :
    t'.lookup k = some v ↔ t.lookup k = some v := by
  rcases h k with he | ⟨hold, hnew⟩
  · rw [he]
  · exact ⟨fun hk => absurd (hnew v hk) hv, fun hk => absurd (hold v hk) hv⟩

theorem changesWithin_mapRows {f : ρ → ρ}
    (hf : ∀ k v, t.lookup k = some v → f v = v ∨ p k v ∧ p k (f v)) :
    t.ChangesWithin p (t.mapRows f) := by
  intro k
  rw [lookup_mapRows]
  cases hv : t.lookup k with
  | none => exact Or.inl rfl
  | some v =>
    rcases hf k v hv with he | ⟨hold, hnew⟩
    · exact Or.inl (congrArg some he)
    · refine Or.inr ⟨fun v' hv' => Option.some.inj hv' ▸ hold, fun v' hv' => ?_⟩
      exact Option.some.inj hv' ▸ hnew

theorem changesWithin_filterRows {q : κ → ρ → Bool}
    (hold : ∀ k v, t.lookup k = some v → q k v = false → p k v) :
    t.ChangesWithin p (t.filterRows q) := by
  intro k
  rw [lookup_filterRows]
  cases hv : t.lookup k with
  | none => exact Or.inl rfl
  | some v =>
    rw [Option.filter_some]
    cases hq : q k v with
    | true => exact Or.inl rfl
    | false => exact Or.inr ⟨fun v' hv' => Option.some.inj hv' ▸ hold k v hv hq, fun v' hv' => by
        cases hv'⟩

end Table

end Infra
