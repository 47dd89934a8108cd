import LedgerLight.Infra.RowLocks
import Mathlib.Logic.Function.Basic

/-!
# Unique columns

`value d i` is what row `i` of the database `d` has in a column. A statement that writes a new value
`v` into it locks `key v` to the end of its transaction and has found `v` free.

* `Prog.InsertsOnce` : a program writes the column at most once, in such a statement.
* `unique_run` : the transactions of these programs, in any order of their statements, never leave
  two rows with one value.
-/

namespace Infra

namespace Prog

variable {D κ ω ε α β ι ν : Type} [DecidableEq ι] (value : D → ι → Option ν) (key : ν → κ)

/-- The column is left alone but for one statement, which writes a value that it locks and has found
free. -/
def InsertsOnce : Prog D κ ω ε α → Prop
  | done _ => True
  | fail _ => True
  | read next => ∀ d, (next d).InsertsOnce
  | write rows fails patch next =>
    (∀ d, value (patch d) = value d) ∧ next.InsertsOnce ∨
      ∃ i v, key v ∈ rows ∧ (∀ d, fails d = none → ∀ j, value d j ≠ some v) ∧
        (∀ d, value (patch d) = Function.update (value d) i (some v)) ∧ next.Quiet value
  | call _ next => ∀ w, (next w).InsertsOnce

variable {value key} {x : Prog D κ ω ε α} {k : α → Prog D κ ω ε β}

theorem Quiet.insertsOnce (hx : x.Quiet value) : x.InsertsOnce value key := by
  induction x with
  | done a => trivial
  | fail e => trivial
  | read next ih => exact fun d => ih d (hx d)
  | write rows fails patch next ih => exact Or.inl ⟨hx.1, ih hx.2⟩
  | call effect next => exact hx.elim

theorem Quiet.bind_insertsOnce (hx : x.Quiet value) (hk : ∀ a, (k a).InsertsOnce value key) :
    (x >>= k).InsertsOnce value key := by
  show (x.bind k).InsertsOnce value key
  induction x with
  | done a => exact hk a
  | fail e => trivial
  | read next ih => exact fun d => ih d (hx d)
  | write rows fails patch next ih => exact Or.inl ⟨hx.1, ih hx.2⟩
  | call effect next => exact hx.elim

theorem InsertsOnce.bind (hx : x.InsertsOnce value key) (hk : ∀ a, (k a).Quiet value) :
    (x >>= k).InsertsOnce value key := by
  show (x.bind k).InsertsOnce value key
  induction x with
  | done a => exact (hk a).insertsOnce
  | fail e => trivial
  | read next ih => exact fun d => ih d (hx d)
  | write rows fails patch next ih =>
    rcases hx with ⟨hpatch, hnext⟩ | ⟨i, v, hkey, hfree, hpatch, hnext⟩
    · exact Or.inl ⟨hpatch, ih hnext⟩
    · exact Or.inr ⟨i, v, hkey, hfree, hpatch, Quiet.bind hnext hk⟩
  | call effect next ih => exact fun w => ih w (hx w)

/-- The statement that writes the column. -/
theorem insertsOnce_exec {rows : List κ} {fails : D → Option ε} {patch : D → D} {i : ι} {v : ν}
    (hkey : key v ∈ rows) (hfree : ∀ d, fails d = none → ∀ j, value d j ≠ some v)
    (hpatch : ∀ d, value (patch d) = Function.update (value d) i (some v)) :
    (exec rows fails patch : Prog D κ ω ε Unit).InsertsOnce value key :=
  Or.inr ⟨i, v, hkey, hfree, hpatch, trivial⟩

end Prog

namespace ReadCommitted

open Prog

variable {D κ ω ε μ ι ν ℓ : Type} [DecidableEq ι] {value : D → ι → Option ν} {key : ν → κ}

/-- No two rows have one value. -/
def Unique (value : D → ι → Option ν) (d : D) : Prop :=
  ∀ i j v, value d i = some v → value d j = some v → i = j

/-- What a session did to the column: nothing yet, or it wrote a value that it has locked and that
nobody has. -/
inductive Session.Inserts (value : D → ι → Option ν) (key : ν → κ) (x : Session D κ ω ε ℓ)
    (d : D) : Prop
  | before (writes : ∀ d, value (x.writes d) = value d) (rest : x.rest.InsertsOnce value key)
  | after {i : ι} {v : ν} (locked : key v ∈ x.locks)
      (writes : ∀ d, value (x.writes d) = Function.update (value d) i (some v))
      (rest : x.rest.Quiet value) (free : ∀ j, value d j ≠ some v)

/-- A new row with a value that nobody has. -/
theorem Unique.update {d d' : D} {i : ι} {v : ν} (h : Unique value d)
    (hfree : ∀ j, value d j ≠ some v) (hd : value d' = Function.update (value d) i (some v)) :
    Unique value d' := by
  intro j j' w hj hj'
  rw [hd] at hj hj'
  by_cases he : j = i
  · subst he
    rw [Function.update_self] at hj
    obtain rfl := Option.some.inj hj
    by_contra hne
    rw [Function.update_of_ne (Ne.symm hne)] at hj'
    exact hfree j' hj'
  · rw [Function.update_of_ne he] at hj
    by_cases he' : j' = i
    · subst he'
      rw [Function.update_self] at hj'
      obtain rfl := Option.some.inj hj'
      exact absurd hj (hfree j)
    · rw [Function.update_of_ne he'] at hj'
      exact h j j' w hj hj'

section

variable {st : Store D κ ω ε ℓ} {a : Move ℓ μ} {t : Nat} {x y : Session D κ ω ε ℓ}
  {d d' : D}

/-- A session that commits writes a value that the others have not locked. -/
theorem Session.Inserts.commit (hx : x.Inserts value key d) (hy : y.Inserts value key d)
    (hapart : ∀ row ∈ x.locks, row ∉ y.locks) : y.Inserts value key (x.writes d) := by
  cases hy with
  | before writes rest => exact .before writes rest
  | @after i v locked writes rest free =>
    refine .after locked writes rest fun j hj => ?_
    cases hx with
    | before writes' rest' =>
      rw [writes'] at hj
      exact free j hj
    | @after i' v' locked' writes' rest' free' =>
      rw [writes'] at hj
      by_cases he : j = i'
      · rw [he, Function.update_self] at hj
        obtain rfl := Option.some.inj hj
        exact hapart _ locked' locked
      · rw [Function.update_of_ne he] at hj
        exact free j hj

theorem Session.Inserts.unique (hx : x.Inserts value key d) (h : Unique value d) :
    Unique value (x.writes d) := by
  cases hx with
  | before writes rest =>
    intro i j v hi hj
    rw [writes] at hi hj
    exact h i j v hi hj
  | after locked writes rest free => exact h.update free (writes d)

end

/-! ## Every run -/

/-- A lock that is held is held by one session, whatever it protects. -/
abbrev noCell : ∀ _ : κ, D → Unit := fun _ _ => ()

theorem footprint_noCell {α : Type} (x : Prog D κ ω ε α) : x.Footprint noCell := by
  induction x with
  | done a => trivial
  | fail e => trivial
  | read next ih => exact ih
  | write rows fails patch next ih => exact ⟨fun _ _ _ => rfl, ih⟩
  | call effect next ih => exact ih

namespace Store

/-- All sessions write the column as they may, and its values are unique. -/
structure Inserting (value : D → ι → Option ν) (key : ν → κ) (st : Store D κ ω ε ℓ) : Prop where
  locked : st.Locked noCell
  sessions : ∀ t x, st.sessions.lookup t = some x → x.Inserts value key st.db
  unique : Unique value st.db

variable {prog : ℓ → Prog D κ ω ε Unit} {move : μ → ω → ω} {st : Store D κ ω ε ℓ} {a : Move ℓ μ}
  {t : Nat} {x : Session D κ ω ε ℓ}

/-- The sessions after one of them moved on. -/
theorem Inserting.put (h : st.Inserting value key) (hx : x.Inserts value key st.db) :
    ∀ t' y, (st.put t x).sessions.lookup t' = some y → y.Inserts value key st.db := by
  intro t' y hy
  replace hy := (Table.lookup_insert_ite ..).symm.trans hy
  split at hy
  · cases hy
    exact hx
  · exact h.sessions t' y hy

theorem Inserting.drop (h : st.Inserting value key) :
    ∀ t' y, (st.drop t).sessions.lookup t' = some y → y.Inserts value key st.db := by
  intro t' y hy
  replace hy := (Table.lookup_erase_ite ..).symm.trans hy
  split at hy
  · cases hy
  · exact h.sessions t' y hy

variable [DecidableEq κ]

theorem Inserting.advance (h : st.Inserting value key) (hx : st.sessions.lookup t = some x) :
    (st.advance t x).Inserting value key := by
  have hinserts := h.sessions t x hx
  refine ⟨h.locked.advance hx, ?_, ?_⟩
  · unfold Store.advance
    cases hrest : x.rest with
    | done u =>
      intro t' y hy
      replace hy := (Table.lookup_erase_ite ..).symm.trans hy
      split at hy
      · cases hy
      · next hne =>
        exact hinserts.commit (h.sessions t' y hy) (h.locked.apart t t' x y (Ne.symm hne) hx hy)
    | fail e => exact h.drop
    | read next =>
      refine h.put ?_
      cases hinserts with
      | before writes rest =>
        rw [hrest] at rest
        exact .before writes (rest _)
      | after locked writes rest free =>
        rw [hrest] at rest
        exact .after locked writes (rest _) free
    | write rows fails patch next =>
      dsimp only
      split
      · exact h.sessions
      · cases hf : fails (x.writes st.db) with
        | some e => exact h.drop
        | none =>
          refine h.put ?_
          cases hinserts with
          | before writes rest =>
            rw [hrest] at rest
            rcases rest with ⟨hpatch, hnext⟩ | ⟨i, v, hkey, hfree, hpatch, hnext⟩
            · exact .before (fun d => (hpatch _).trans (writes d)) hnext
            · -- the value is free in what the session sees, so in what is committed
              refine .after (i := i) (List.mem_append_left _ hkey) (fun d => ?_) hnext fun j => ?_
              · rw [hpatch, writes]
              · rw [← writes]
                exact hfree _ hf j
          | after locked writes rest free =>
            rw [hrest] at rest
            exact .after (List.mem_append_right _ locked)
              (fun d => (rest.1 _).trans (writes d)) rest.2 free
    | call effect next =>
      refine h.put ?_
      cases hinserts with
      | before writes rest =>
        rw [hrest] at rest
        exact .before writes (rest _)
      | after locked writes rest free =>
        rw [hrest] at rest
        exact rest.elim
  · unfold Store.advance
    cases hrest : x.rest with
    | done u => exact hinserts.unique h.unique
    | fail e => exact h.unique
    | read next => exact h.unique
    | write rows fails patch next =>
      dsimp only
      split
      · exact h.unique
      · cases fails (x.writes st.db) with
        | some e => exact h.unique
        | none => exact h.unique
    | call effect next => exact h.unique

theorem Inserting.step (hprog : ∀ label, (prog label).InsertsOnce value key)
    (h : st.Inserting value key) :
    ((transactions prog move).step st a).Inserting value key := by
  have hlocked : ((transactions prog move).step st a).Locked noCell :=
    h.locked.step fun label => footprint_noCell (prog label)
  show (st.exec prog move a).Inserting value key
  replace hlocked : (st.exec prog move a).Locked noCell := hlocked
  cases a with
  | begin t label =>
    simp only [Store.exec] at hlocked ⊢
    split
    · exact h
    · next hnew =>
      rw [if_neg hnew] at hlocked
      exact ⟨hlocked, h.put (.before (fun _ => rfl) (hprog label)), h.unique⟩
  | statement t =>
    simp only [Store.exec]
    cases hx : st.sessions.lookup t with
    | none => exact h
    | some x => exact h.advance hx
  | abort t => exact ⟨hlocked, h.drop, h.unique⟩
  | world m => exact ⟨hlocked, h.sessions, h.unique⟩

end Store

/-- **A unique column stays unique** in every run of programs that write it as they may. -/
theorem unique_run [DecidableEq κ] {prog : ℓ → Prog D κ ω ε Unit} {move : μ → ω → ω}
    (hprog : ∀ label, (prog label).InsertsOnce value key) {d : D} {w : ω} (hd : Unique value d)
    (as : List (Move ℓ μ)) :
    Unique value ((transactions prog move).run (Store.start d w) as).db :=
  (Machine.run_invariant' (I := Store.Inserting value key) (fun _ _ h => h.step hprog)
    ⟨⟨fun _ _ hy => (by cases hy), fun _ _ _ _ _ hy => (by cases hy)⟩,
      fun _ _ hy => (by cases hy), hd⟩ as).unique

end ReadCommitted

end Infra
