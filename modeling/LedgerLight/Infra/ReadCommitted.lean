import LedgerLight.Infra.Machine
import LedgerLight.Infra.Prog
import LedgerLight.Infra.Table

/-!
# Transactions under READ COMMITTED

Transactions run statement by statement, in any order. A statement sees what is committed when it
runs, with the writes of its own transaction on top; a write locks its rows until the end of its
transaction, and is not run while another transaction holds one of them; a commit makes the writes
visible. What a transaction read before is not looked at again.

* `Prog.Ensures` : what a program does if others commit between its statements only what a relation
  allows.
* `Store.Sound.step`, `sound_run` : if every commit respects what the others rely on, every
  transaction does what was proved of its program alone.
-/

namespace Infra

namespace Prog

variable {D κ ω ε α β : Type}

/-! ## A program among others -/

/-- What the program leads to when it is done: `Q a n writes d` for its answer, the number of its
statements, its writes and the committed state. Before each statement, and before the end, others
may commit what `rely` allows after the statements so far. -/
def Ensures (rely : Nat → D → D → Prop) (Q : α → Nat → (D → D) → D → Prop) :
    Prog D κ ω ε α → Nat → (D → D) → D → Prop
  | done a, n, writes, d => ∀ d', rely n d d' → Q a n writes d'
  | fail _, _, _, _ => True
  | read next, n, writes, d =>
    ∀ d', rely n d d' → (next (writes d')).Ensures rely Q (n + 1) writes d'
  | write _ fails patch next, n, writes, d =>
    ∀ d', rely n d d' → fails (writes d') = none →
      next.Ensures rely Q (n + 1) (fun d => patch (writes d)) d'
  | call _ next, n, writes, d =>
    ∀ d', rely n d d' → ∀ w, (next w).Ensures rely Q (n + 1) writes d'

/-- What others may commit: nothing, and one thing after the other. -/
structure Rely (rely : Nat → D → D → Prop) : Prop where
  refl : ∀ n d, rely n d d
  trans : ∀ {n d d' d''}, rely n d d' → rely n d' d'' → rely n d d''

section

variable {rely : Nat → D → D → Prop} {Q Q' : α → Nat → (D → D) → D → Prop}
  {R : β → Nat → (D → D) → D → Prop} {x : Prog D κ ω ε α} {k : α → Prog D κ ω ε β} {n : Nat}
  {writes : D → D} {d d' : D}

/-- What others commit changes nothing about what is ensured. -/
theorem Ensures.stable (hR : Rely rely) (h : x.Ensures rely Q n writes d) (hd : rely n d d') :
    x.Ensures rely Q n writes d' := by
  cases x with
  | done a => exact fun d'' h' => h d'' (hR.trans hd h')
  | fail e => trivial
  | read next => exact fun d'' h' => h d'' (hR.trans hd h')
  | write rows fails patch next => exact fun d'' h' => h d'' (hR.trans hd h')
  | call effect next => exact fun d'' h' => h d'' (hR.trans hd h')

theorem Ensures.imp (hQ : ∀ a n writes d, Q a n writes d → Q' a n writes d)
    (h : x.Ensures rely Q n writes d) : x.Ensures rely Q' n writes d := by
  induction x generalizing n writes d with
  | done a => exact fun d' hd => hQ _ _ _ _ (h d' hd)
  | fail e => trivial
  | read next ih => exact fun d' hd => ih _ (h d' hd)
  | write rows fails patch next ih => exact fun d' hd hf => ih (h d' hd hf)
  | call effect next ih => exact fun d' hd w => ih w (h d' hd w)

theorem Ensures.bind (hR : Rely rely)
    (h : x.Ensures rely (fun a n writes d => (k a).Ensures rely R n writes d) n writes d) :
    (x >>= k).Ensures rely R n writes d := by
  show (x.bind k).Ensures rely R n writes d
  induction x generalizing n writes d with
  | done a => exact h d (hR.refl n d)
  | fail e => trivial
  | read next ih => exact fun d' hd => ih _ (h d' hd)
  | write rows fails patch next ih => exact fun d' hd hf => ih (h d' hd hf)
  | call effect next ih => exact fun d' hd w => ih w (h d' hd w)

/-- A program that others do not care about. -/
theorem ensures_trivial (x : Prog D κ ω ε α) :
    x.Ensures rely (fun _ _ _ _ => True) n writes d := by
  induction x generalizing n writes d with
  | done a => exact fun _ _ => trivial
  | fail e => trivial
  | read next ih => exact fun d' _ => ih _
  | write rows fails patch next ih => exact fun d' _ _ => ih
  | call effect next ih => exact fun d' _ w => ih w

/-! ### Statement by statement -/

theorem ensures_select {g : D → α}
    (h : ∀ d', rely n d d' → (k (g (writes d'))).Ensures rely R (n + 1) writes d') :
    (select g >>= k).Ensures rely R n writes d := h

theorem ensures_require {c : Prop} [Decidable c] {e : ε} {k : Unit → Prog D κ ω ε β}
    (h : c → (k ()).Ensures rely R n writes d) :
    (require c e >>= k).Ensures rely R n writes d := by
  unfold require
  split
  · next hc => exact h hc
  · trivial

theorem ensures_returning {rows : List κ} {fails : D → Option ε} {patch : D → D}
    {g : D → Except ε α}
    (h : ∀ d' d'' a, rely n d d' → fails (writes d') = none → rely (n + 1) d' d'' →
      g (patch (writes d'')) = .ok a →
      (k a).Ensures rely R (n + 2) (fun d => patch (writes d)) d'') :
    (returning rows fails patch g >>= k).Ensures rely R n writes d := by
  intro d' hd hf d'' hd'
  show Ensures rely R (Prog.bind _ k) _ _ _
  dsimp only
  cases hg : g (patch (writes d'')) with
  | error e => trivial
  | ok a => exact h d' d'' a hd hf hd' hg

end

end Prog

/-! ## Many programs -/

namespace ReadCommitted

variable {D κ ω ε ι μ : Type}

/-- A transaction that began and has not ended. -/
structure Session (D κ ω ε ι : Type) where
  /-- Which one it is. -/
  label : ι
  /-- The statements that are left. -/
  rest : Prog D κ ω ε Unit
  /-- What it wrote and has not committed. -/
  writes : D → D
  /-- The rows it locked. -/
  locks : List κ
  /-- The number of statements it ran. -/
  statements : Nat

structure Store (D κ ω ε ι : Type) where
  /-- What is committed. -/
  db : D
  world : ω
  sessions : Table Nat (Session D κ ω ε ι)

inductive Move (ι μ : Type) where
  | begin (t : Nat) (label : ι)
  /-- The next statement of a transaction, or its end after the last one. -/
  | statement (t : Nat)
  | abort (t : Nat)
  /-- The outside world moves by itself. -/
  | world (move : μ)

namespace Store

def start (d : D) (w : ω) : Store D κ ω ε ι := { db := d, world := w, sessions := ∅ }

variable (st : Store D κ ω ε ι)

def put (t : Nat) (x : Session D κ ω ε ι) : Store D κ ω ε ι :=
  { st with sessions := st.sessions.insert t x }

def drop (t : Nat) : Store D κ ω ε ι := { st with sessions := st.sessions.erase t }

/-- Another transaction holds one of the rows. -/
def locked [DecidableEq κ] (t : Nat) (rows : List κ) : Bool :=
  st.sessions.entries.any fun e => e.1 != t && e.2.locks.any fun row => rows.contains row

/-- The next statement of a session, or its end. A statement that has to wait is not run. -/
def advance [DecidableEq κ] (t : Nat) (x : Session D κ ω ε ι) : Store D κ ω ε ι :=
  match x.rest with
  | .done _ => { st.drop t with db := x.writes st.db }
  | .fail _ => st.drop t
  | .read next =>
    st.put t { x with rest := next (x.writes st.db), statements := x.statements + 1 }
  | .write rows fails patch next =>
    if st.locked t rows then st
    else
      match fails (x.writes st.db) with
      | some _ => st.drop t
      | none =>
        st.put t { x with rest := next, writes := fun d => patch (x.writes d),
                          locks := rows ++ x.locks, statements := x.statements + 1 }
  | .call effect next =>
    { st.put t { x with rest := next st.world, statements := x.statements + 1 } with
      world := effect st.world }

def exec [DecidableEq κ] (prog : ι → Prog D κ ω ε Unit) (move : μ → ω → ω) :
    Move ι μ → Store D κ ω ε ι
  | .begin t label =>
    if (st.sessions.lookup t).isSome then st
    else st.put t { label := label, rest := prog label, writes := id, locks := [], statements := 0 }
  | .statement t =>
    match st.sessions.lookup t with
    | none => st
    | some x => st.advance t x
  | .abort t => st.drop t
  | .world m => { st with world := move m st.world }

/-- The transaction that a move commits. -/
def commits? : Move ι μ → Option (Nat × Session D κ ω ε ι)
  | .statement t =>
    (st.sessions.lookup t).bind fun x =>
      match x.rest with
      | .done _ => some (t, x)
      | _ => none
  | _ => none

end Store

/-- The transactions `prog`, over a world that moves along `move`. -/
def transactions [DecidableEq κ] (prog : ι → Prog D κ ω ε Unit) (move : μ → ω → ω) :
    Machine (Store D κ ω ε ι) (Move ι μ) where
  step st a := st.exec prog move a

/-- What a transaction relies on while it runs, and what its commit does. -/
structure Contract (D : Type) where
  rely : Nat → D → D → Prop
  post : D → D → Prop

section

variable {prog : ι → Prog D κ ω ε Unit} {move : μ → ω → ω} {contract : ι → Contract D}
  {st : Store D κ ω ε ι} {a : Move ι μ} {t : Nat} {x : Session D κ ω ε ι}

/-- Every transaction, if the others keep to what it relies on, does what its contract says. -/
def Store.Sound (contract : ι → Contract D) (st : Store D κ ω ε ι) : Prop :=
  ∀ t x, st.sessions.lookup t = some x →
    x.rest.Ensures (contract x.label).rely
      (fun _ _ writes d => (contract x.label).post d (writes d)) x.statements x.writes st.db

/-- A commit keeps to what the other transactions rely on. -/
def Store.Respects (contract : ι → Contract D) (st : Store D κ ω ε ι) (a : Move ι μ) : Prop :=
  match st.commits? a with
  | none => True
  | some (t, x) => ∀ e ∈ st.sessions.entries, e.1 ≠ t →
      (contract e.2.label).rely e.2.statements st.db (x.writes st.db)

instance [∀ label n d d', Decidable ((contract label).rely n d d')] :
    Decidable (st.Respects contract a) := by
  unfold Store.Respects
  split <;> infer_instance

/-- Nothing breaks what relies on nothing. -/
theorem Store.respects_of_total (h : ∀ label n d d', (contract label).rely n d d') :
    st.Respects contract a := by
  unfold Store.Respects
  split
  · trivial
  · exact fun e _ _ => h e.2.label e.2.statements st.db _

theorem Store.commits?_eq_some (h : st.commits? a = some (t, x)) :
    a = .statement t ∧ st.sessions.lookup t = some x ∧ ∃ u, x.rest = .done u := by
  cases a with
  | statement t' =>
    obtain ⟨y, hy, hcase⟩ := Option.bind_eq_some_iff.mp h
    split at hcase
    · next u hdone =>
      cases hcase
      exact ⟨rfl, hy, u, hdone⟩
    · cases hcase
  | _ => cases h

theorem Store.Sound.put (h : st.Sound contract)
    (hx : x.rest.Ensures (contract x.label).rely
      (fun _ _ writes d => (contract x.label).post d (writes d)) x.statements x.writes st.db) :
    (st.put t x).Sound contract := by
  intro t' y hy
  replace hy := (Table.lookup_insert_ite ..).symm.trans hy
  split at hy
  · cases hy
    exact hx
  · exact h t' y hy

theorem Store.Sound.drop (h : st.Sound contract) : (st.drop t).Sound contract := by
  intro t' y hy
  replace hy := (Table.lookup_erase_ite ..).symm.trans hy
  split at hy
  · cases hy
  · exact h t' y hy

theorem Store.commits?_of_done (hx : st.sessions.lookup t = some x) {u : Unit}
    (hrest : x.rest = .done u) : st.commits? (.statement t : Move ι μ) = some (t, x) := by
  simp [Store.commits?, hx, hrest]

/-- The others rely on what a commit may do. -/
theorem Store.Respects.others (hrespects : st.Respects contract (.statement t : Move ι μ))
    (hx : st.sessions.lookup t = some x) {u : Unit} (hrest : x.rest = .done u) {t' : Nat}
    {y : Session D κ ω ε ι} (hne : t' ≠ t) (hy : st.sessions.lookup t' = some y) :
    (contract y.label).rely y.statements st.db (x.writes st.db) := by
  simp only [Store.Respects, Store.commits?_of_done hx hrest] at hrespects
  exact hrespects ⟨t', y⟩ (Table.mem_entries_of_lookup hy) hne

variable [DecidableEq κ]

/-- A statement of a transaction keeps what is ensured of all. -/
theorem Store.Sound.advance (hR : ∀ label, Prog.Rely (contract label).rely)
    (h : st.Sound contract) (hx : st.sessions.lookup t = some x)
    (hrespects : st.Respects contract (.statement t : Move ι μ)) :
    (st.advance t x).Sound contract := by
  have hensures := h t x hx
  have hrefl := (hR x.label).refl x.statements st.db
  unfold Store.advance
  cases hrest : x.rest with
  | done u =>
    -- the commit: the others rely on what it may do
    intro t' y hy
    replace hy := (Table.lookup_erase_ite ..).symm.trans hy
    split at hy
    · cases hy
    · next hne =>
      exact (h t' y hy).stable (hR y.label) (hrespects.others hx hrest hne hy)
  | fail e => exact h.drop
  | read next =>
    rw [hrest] at hensures
    exact h.put (hensures st.db hrefl)
  | write rows fails patch next =>
    rw [hrest] at hensures
    dsimp only
    split
    · exact h
    · cases hf : fails (x.writes st.db) with
      | some e => exact h.drop
      | none => exact h.put (hensures st.db hrefl hf)
  | call effect next =>
    rw [hrest] at hensures
    exact h.put (hensures st.db hrefl st.world)

/-- **A step that respects what the transactions rely on keeps what is ensured of them.** -/
theorem Store.Sound.step (hR : ∀ label, Prog.Rely (contract label).rely)
    (hprog : ∀ label d, (prog label).Ensures (contract label).rely
      (fun _ _ writes d => (contract label).post d (writes d)) 0 id d)
    (h : st.Sound contract) (hrespects : st.Respects contract a) :
    ((transactions prog move).step st a).Sound contract := by
  show (st.exec prog move a).Sound contract
  cases a with
  | begin t label =>
    simp only [Store.exec]
    split
    · exact h
    · exact h.put (hprog label st.db)
  | statement t =>
    simp only [Store.exec]
    cases hx : st.sessions.lookup t with
    | none => exact h
    | some x => exact h.advance hR hx hrespects
  | abort t => exact h.drop
  | world m => exact h

/-- **The rule for runs**: what was proved of every program alone holds of its transactions in every
run whose commits respect what the others rely on. -/
theorem sound_run (hR : ∀ label, Prog.Rely (contract label).rely)
    (hprog : ∀ label d, (prog label).Ensures (contract label).rely
      (fun _ _ writes d => (contract label).post d (writes d)) 0 id d)
    {d : D} {w : ω} {as : List (Move ι μ)}
    (h : (transactions prog move).Meets (Store.Respects contract) (Store.start d w) as) :
    ((transactions prog move).run (Store.start d w) as).Sound contract :=
  Machine.run_invariant (fun _ _ hs hc => hs.step hR hprog hc) (fun _ _ hy => by cases hy) h

/-- A commit does what the contract says. -/
theorem Store.Sound.commit (hR : ∀ label, Prog.Rely (contract label).rely)
    (h : st.Sound contract) (hcommit : st.commits? a = some (t, x)) :
    (contract x.label).post st.db ((transactions prog move).step st a).db := by
  obtain ⟨rfl, hx, u, hdone⟩ := Store.commits?_eq_some hcommit
  have hensures := h t x hx
  rw [hdone] at hensures
  have hdb : ((transactions prog move).step st (.statement t)).db = x.writes st.db := by
    show (st.exec prog move (.statement t)).db = _
    simp only [Store.exec, hx, Store.advance, hdone]
  rw [hdb]
  exact hensures st.db ((hR x.label).refl _ _)

end

end ReadCommitted

end Infra
