import LedgerLight.Infra.Prog

/-!
# Calls whose statements may fail

A call is a script: statements that are committed by themselves, and transactions. Any of its
statements may fail, also the commit of a transaction; that rolls the enclosing transaction back, if
there is one, and nothing else.

* `Script.prog` : the script as a program, when no statement fails but those that have a reason to.
* `Script.left` : the database that is left when the `n`-th statement fails.
* `Script.left_of_atomic` : a script with one transaction, which reads only before and after it,
  leaves the database as it was or as the program leaves it.
-/

namespace Infra

namespace Prog

variable {D κ ω ε α β : Type}

/-- How far a program comes. -/
inductive Outcome (D ω α : Type) where
  /-- A statement failed, with this database. -/
  | stopped (d : D)
  /-- It is done; the number counts the statements down to the one that fails. -/
  | ended (a : α) (d : D) (w : ω) (n : Nat)

/-- The statements of the program, of which the `n`-th fails. -/
def upTo : Prog D κ ω ε α → Nat → D → ω → Outcome D ω α
  | done a, n, d, w => .ended a d w n
  | fail _, _, d, _ => .stopped d
  | read _, 0, d, _ => .stopped d
  | read next, n + 1, d, w => (next d).upTo n d w
  | write _ _ _ _, 0, d, _ => .stopped d
  | write _ fails patch next, n + 1, d, w =>
    match fails d with
    | some _ => .stopped d
    | none => next.upTo n (patch d) w
  | call effect next, n, d, w => (next w).upTo n d (effect w)

variable {x : Prog D κ ω ε α} {k : α → Prog D κ ω ε β} {d d' : D} {w w' : ω} {a : α} {n n' : Nat}

theorem upTo_done : (done a : Prog D κ ω ε α).upTo n d w = .ended a d w n := rfl

theorem upTo_read {next : D → Prog D κ ω ε α} :
    (read next).upTo (n + 1) d w = (next d).upTo n d w := rfl

theorem upTo_write {rows : List κ} {fails : D → Option ε} {patch : D → D}
    {next : Prog D κ ω ε α} :
    (write rows fails patch next).upTo (n + 1) d w =
      match fails d with
      | some _ => .stopped d
      | none => next.upTo n (patch d) w := rfl

theorem upTo_bind : (x >>= k).upTo n d w =
    match x.upTo n d w with
    | .stopped d' => .stopped d'
    | .ended a d' w' n' => (k a).upTo n' d' w' := by
  show (x.bind k).upTo n d w = _
  induction x generalizing n d w with
  | done a => rfl
  | fail e => rfl
  | read next ih =>
    cases n with
    | zero => rfl
    | succ n => exact ih d
  | write rows fails patch next ih =>
    cases n with
    | zero => rfl
    | succ n =>
      simp only [bind, upTo_write]
      cases fails d with
      | none => exact ih
      | some e => rfl
  | call effect next ih => exact ih w

/-- A program that comes to its end did what it does when nothing fails. -/
theorem run_of_upTo (h : x.upTo n d w = .ended a d' w' n') : x.run d w = (.ok (a, d'), w') := by
  induction x generalizing n d w with
  | done b => cases h; rfl
  | fail e => cases h
  | read next ih =>
    cases n with
    | zero => cases h
    | succ n => exact ih d h
  | write rows fails patch next ih =>
    cases n with
    | zero => cases h
    | succ n =>
      simp only [upTo_write] at h
      simp only [run_write]
      cases hf : fails d with
      | none => rw [hf] at h; exact ih h
      | some e => rw [hf] at h; cases h
  | call effect next ih => exact ih w h

theorem ReadOnly.upTo_stopped (hx : x.ReadOnly) (h : x.upTo n d w = .stopped d') : d' = d := by
  induction x generalizing n d w with
  | done b => cases h
  | fail e => cases h; rfl
  | read next ih =>
    cases n with
    | zero => cases h; rfl
    | succ n => exact ih d (hx d) h
  | write rows fails patch next => exact hx.elim
  | call effect next => exact hx.elim

theorem ReadOnly.upTo_ended (hx : x.ReadOnly) (h : x.upTo n d w = .ended a d' w' n') :
    d' = d ∧ w' = w := by
  have hsnd := hx.runAuto_snd d w
  rw [runAuto_ok.mpr (run_of_upTo h)] at hsnd
  exact Prod.ext_iff.mp hsnd

/-- The number of statements of the program, when nothing fails but what has a reason to. -/
def statements : Prog D κ ω ε α → D → ω → Nat
  | done _, _, _ => 0
  | fail _, _, _ => 0
  | read next, d, w => (next d).statements d w + 1
  | write _ fails patch next, d, w =>
    match fails d with
    | some _ => 1
    | none => next.statements (patch d) w + 1
  | call effect next, d, w => (next w).statements d (effect w)

theorem statements_done : (done a : Prog D κ ω ε α).statements d w = 0 := rfl

theorem statements_read {next : D → Prog D κ ω ε α} :
    (read next).statements d w = (next d).statements d w + 1 := rfl

theorem statements_write {rows : List κ} {fails : D → Option ε} {patch : D → D}
    {next : Prog D κ ω ε α} :
    (write rows fails patch next).statements d w =
      match fails d with
      | some _ => 1
      | none => next.statements (patch d) w + 1 := rfl

theorem statements_bind (h : x.run d w = (.ok (a, d'), w')) :
    (x >>= k).statements d w = x.statements d w + (k a).statements d' w' := by
  show (x.bind k).statements d w = _
  induction x generalizing d w with
  | done b => cases h; rw [statements_done, Nat.zero_add]; rfl
  | fail e => cases h
  | read next ih =>
    rw [bind, statements_read, statements_read, ih d h, Nat.add_right_comm]
  | write rows fails patch next ih =>
    simp only [run_write] at h
    simp only [bind, statements_write]
    cases hf : fails d with
    | none =>
      rw [hf] at h
      dsimp only
      rw [ih h, Nat.add_right_comm]
    | some e => rw [hf] at h; cases h
  | call effect next ih => exact ih w h

/-- A program that ends well comes to its end if the statement that fails is none of its. -/
theorem upTo_of_run (h : x.run d w = (.ok (a, d'), w')) :
    x.upTo (x.statements d w + n) d w = .ended a d' w' n := by
  induction x generalizing d w with
  | done b => cases h; rw [statements_done, Nat.zero_add, upTo_done]
  | fail e => cases h
  | read next ih =>
    rw [statements_read, Nat.add_right_comm, upTo_read]
    exact ih d h
  | write rows fails patch next ih =>
    simp only [run_write] at h
    simp only [statements_write]
    cases hf : fails d with
    | none =>
      rw [hf] at h
      rw [Nat.add_right_comm, upTo_write, hf]
      exact ih h
    | some e => rw [hf] at h; cases h
  | call effect next ih => exact ih w h

/-- The end of a program is reached only past all of its statements. -/
theorem statements_le_of_upTo (h : x.upTo n d w = .ended a d' w' n') :
    n = x.statements d w + n' := by
  induction x generalizing n d w with
  | done b => cases h; rw [statements_done, Nat.zero_add]
  | fail e => cases h
  | read next ih =>
    cases n with
    | zero => cases h
    | succ n => rw [ih d h, statements_read]; omega
  | write rows fails patch next ih =>
    cases n with
    | zero => cases h
    | succ n =>
      simp only [upTo_write] at h
      simp only [statements_write]
      cases hf : fails d with
      | none =>
        rw [hf] at h
        dsimp only
        rw [ih h, Nat.add_right_comm]
      | some e => rw [hf] at h; cases h
  | call effect next ih => exact ih w h

end Prog

/-- A call, with its transactions. -/
inductive Script (D κ ω ε : Type) : Type → Type 1 where
  /-- Statements that are committed by themselves. -/
  | auto {α : Type} (x : Prog D κ ω ε α) : Script D κ ω ε α
  | transaction {α : Type} (x : Prog D κ ω ε α) : Script D κ ω ε α
  | seq {α β : Type} (s : Script D κ ω ε α) (k : α → Script D κ ω ε β) : Script D κ ω ε β

namespace Script

open Prog

variable {D κ ω ε α : Type}

def prog {α : Type} : Script D κ ω ε α → Prog D κ ω ε α
  | auto x => x
  | transaction x => Prog.transaction x
  | seq s k => s.prog >>= fun a => (k a).prog

/-- The statements of the script, of which the `n`-th fails. The last statement of a transaction is
its commit. -/
def upTo {α : Type} : Script D κ ω ε α → Nat → D → ω → Outcome D ω α
  | auto x, n, d, w => x.upTo n d w
  | transaction x, n, d, w =>
    match x.upTo n d w with
    | .ended a d' w' (n' + 1) => .ended a d' w' n'
    | _ => .stopped d
  | seq s k, n, d, w =>
    match s.upTo n d w with
    | .stopped d' => .stopped d'
    | .ended a d' w' n' => (k a).upTo n' d' w'

/-- What the script leaves when its `n`-th statement fails. -/
def left (s : Script D κ ω ε α) (n : Nat) (d : D) (w : ω) : D :=
  match s.upTo n d w with
  | .stopped d' => d'
  | .ended _ d' _ _ => d'

/-- The script only reads. -/
def Reads {α : Type} : Script D κ ω ε α → Prop
  | auto x => x.ReadOnly
  | transaction _ => False
  | seq s k => s.Reads ∧ ∀ a, (k a).Reads

/-- The script writes in one transaction at most. -/
def Atomic {α : Type} : Script D κ ω ε α → Prop
  | auto x => x.ReadOnly
  | transaction _ => True
  | seq s k => s.Reads ∧ (∀ a, (k a).Atomic) ∨ s.Atomic ∧ ∀ a, (k a).Reads

section

variable {s : Script D κ ω ε α} {d d' : D} {w w' : ω} {a : α} {n n' : Nat}

theorem prog_transaction {x : Prog D κ ω ε α} :
    (transaction x : Script D κ ω ε α).prog = x.transaction := rfl

theorem prog_seq {α β : Type} {s : Script D κ ω ε α} {k : α → Script D κ ω ε β} :
    (seq s k).prog = s.prog >>= fun a => (k a).prog := rfl

theorem upTo_transaction {x : Prog D κ ω ε α} :
    (transaction x).upTo n d w =
      match x.upTo n d w with
      | .ended a d' w' (n' + 1) => .ended a d' w' n'
      | _ => .stopped d := rfl

theorem upTo_seq {α β : Type} {s : Script D κ ω ε α} {k : α → Script D κ ω ε β} :
    (seq s k).upTo n d w =
      match s.upTo n d w with
      | .stopped d' => .stopped d'
      | .ended a d' w' n' => (k a).upTo n' d' w' := by
  rw [upTo]

theorem run_of_upTo {s : Script D κ ω ε α} (h : s.upTo n d w = .ended a d' w' n') :
    s.prog.run d w = (.ok (a, d'), w') := by
  induction s generalizing n d w n' d' w' with
  | auto x => exact Prog.run_of_upTo h
  | transaction x =>
    simp only [upTo_transaction] at h
    rw [prog_transaction, run_transaction]
    cases hx : x.upTo n d w with
    | stopped d₁ => rw [hx] at h; cases h
    | ended a₁ d₁ w₁ n₁ =>
      rw [hx] at h
      cases n₁ with
      | zero => cases h
      | succ n₁ => cases h; exact Prog.run_of_upTo hx
  | seq s k ih ihk =>
    simp only [upTo_seq] at h
    cases hs : s.upTo n d w with
    | stopped d₁ => rw [hs] at h; cases h
    | ended a₁ d₁ w₁ n₁ =>
      rw [hs] at h
      exact run_bind_ok.mpr ⟨a₁, d₁, w₁, ih hs, ihk a₁ h⟩

theorem left_of_stopped (h : s.upTo n d w = .stopped d') : s.left n d w = d' := by
  rw [left, h]

theorem left_of_ended (h : s.upTo n d w = .ended a d' w' n') : s.left n d w = d' := by
  rw [left, h]

/-- The second part of a script fails, if the first does not. -/
theorem left_seq {α β : Type} (s : Script D κ ω ε α) (k : α → Script D κ ω ε β) :
    (seq s k).left n d w =
      match s.upTo n d w with
      | .stopped d' => d'
      | .ended a d' w' n' => (k a).left n' d' w' := by
  simp only [left, upTo_seq]
  cases s.upTo n d w <;> rfl

theorem Reads.readOnly {s : Script D κ ω ε α} (h : s.Reads) : s.prog.ReadOnly := by
  induction s with
  | auto x => exact h
  | transaction x => exact h.elim
  | seq s k ih ihk => exact (ih h.1).bind fun a => ihk a (h.2 a)

theorem Reads.left {s : Script D κ ω ε α} (h : s.Reads) : s.left n d w = d := by
  induction s generalizing n d w with
  | auto x =>
    cases hx : (auto x).upTo n d w with
    | stopped d' =>
      rw [left_of_stopped hx]
      exact ReadOnly.upTo_stopped h hx
    | ended a d' w' n' =>
      rw [left_of_ended hx]
      exact (ReadOnly.upTo_ended h hx).1
  | transaction x => exact h.elim
  | seq s k ih ihk =>
    have hs := ih (n := n) (d := d) (w := w) h.1
    rw [left_seq]
    cases hx : s.upTo n d w with
    | stopped d' => rwa [left_of_stopped hx] at hs
    | ended a d' w' n' =>
      rw [left_of_ended hx] at hs
      dsimp only
      rw [ihk a (h.2 a), hs]

/-- What reads afterwards leaves what was left. -/
theorem runAuto_seq_reads {α β : Type} {s : Script D κ ω ε α} {k : α → Script D κ ω ε β}
    (h : ∀ a, (k a).Reads) : ((seq s k).prog.runAuto d w).2.1 = (s.prog.runAuto d w).2.1 := by
  rw [prog_seq, runAuto_bind]
  rcases s.prog.runAuto d w with ⟨e | a, d', w'⟩
  · rfl
  · dsimp only
    rw [(h a).readOnly.runAuto_snd]

/-- **A script with one transaction** leaves the database as it was, or as the whole program leaves
it. -/
theorem left_of_atomic {s : Script D κ ω ε α} (h : s.Atomic) :
    s.left n d w = d ∨ s.left n d w = (s.prog.runAuto d w).2.1 := by
  induction s generalizing n d w with
  | auto x => exact Or.inl (Reads.left h)
  | transaction x =>
    cases hx : (transaction x).upTo n d w with
    | stopped d' =>
      rw [left_of_stopped hx]
      simp only [upTo_transaction] at hx
      split at hx
      · cases hx
      · exact Or.inl (Outcome.stopped.inj hx).symm
    | ended a d' w' n' =>
      rw [left_of_ended hx, runAuto_ok.mpr (run_of_upTo hx)]
      exact Or.inr rfl
  | seq s k ih ihk =>
    rw [left_seq]
    rcases h with ⟨hs, hk⟩ | ⟨hs, hk⟩
    · -- the transaction comes later
      have hleft := hs.left (n := n) (d := d) (w := w)
      cases hx : s.upTo n d w with
      | stopped d' => exact Or.inl (by rwa [left_of_stopped hx] at hleft)
      | ended a d' w' n' =>
        rw [left_of_ended hx] at hleft
        subst hleft
        have hrun : (seq s k).prog.runAuto d' w = (k a).prog.runAuto d' w' := by
          rw [prog_seq, runAuto_bind, runAuto_ok.mpr (run_of_upTo hx)]
        rw [hrun]
        exact ihk a (hk a)
    · rw [runAuto_seq_reads hk]
      have hleft := ih (n := n) (d := d) (w := w) hs
      cases hx : s.upTo n d w with
      | stopped d' => rwa [left_of_stopped hx] at hleft
      | ended a d' w' n' =>
        rw [left_of_ended hx] at hleft
        dsimp only
        rwa [(hk a).left]

/-! ### Writes that are committed by themselves -/

section

variable {α β γ : Type} {x : Prog D κ ω ε α} {rows : α → List κ} {fails : α → D → Option ε}
  {patch : α → D → D} {k : α → Prog D κ ω ε β} {d d₁ : D} {w : ω} {a : α} {n : Nat}

theorem left_auto : (auto x).left n d w =
    match x.upTo n d w with
    | .stopped d' => d'
    | .ended _ d' _ _ => d' := rfl

/-- Before the first write has run, nothing has changed. -/
theorem left_before_write (hx : x.ReadOnly) (hn : n ≤ x.statements d w) :
    (auto (x >>= fun a => exec (rows a) (fails a) (patch a) >>= fun _ => k a)).left n d w = d := by
  rw [left_auto, upTo_bind]
  cases hs : x.upTo n d w with
  | stopped d₁ => exact hx.upTo_stopped hs
  | ended a d₁ w₁ n₁ =>
    have hzero : n₁ = 0 := by
      have hcount := statements_le_of_upTo hs
      omega
    obtain ⟨rfl, rfl⟩ := hx.upTo_ended hs
    rw [hzero]
    rfl

/-- A write that fails for a reason changes nothing. -/
theorem left_of_write_fails (hx : x.ReadOnly)
    (h : ∀ a, x.run d w = (.ok (a, d), w) → ∃ e, fails a d = some e) :
    (auto (x >>= fun a => exec (rows a) (fails a) (patch a) >>= fun _ => k a)).left n d w = d := by
  rw [left_auto, upTo_bind]
  cases hs : x.upTo n d w with
  | stopped d₁ => exact hx.upTo_stopped hs
  | ended a d₁ w₁ n₁ =>
    obtain ⟨rfl, rfl⟩ := hx.upTo_ended hs
    obtain ⟨e, he⟩ := h a (Prog.run_of_upTo hs)
    cases n₁ with
    | zero => rfl
    | succ n₁ =>
      show (match (write (rows a) (fails a) (patch a) (k a)).upTo (n₁ + 1) d₁ w₁ with
        | .stopped d' => d'
        | .ended _ d' _ _ => d') = d₁
      rw [upTo_write, he]

/-- After the first write the rest is left with what it wrote. -/
theorem left_after_write (h : x.run d w = (.ok (a, d), w)) (hfails : fails a d = none) :
    (auto (x >>= fun a => exec (rows a) (fails a) (patch a) >>= fun _ => k a)).left
      (x.statements d w + (n + 1)) d w = (auto (k a)).left n (patch a d) w := by
  rw [left_auto, upTo_bind, upTo_of_run h]
  show (match (write (rows a) (fails a) (patch a) (k a)).upTo (n + 1) d w with
    | .stopped d' => d'
    | .ended _ d' _ _ => d') = _
  rw [upTo_write, hfails]
  rfl

/-- One write between reads: it has run and the database is as the program leaves it, or it has not.
-/
theorem left_one_write (hx : x.ReadOnly) (hk : ∀ a, (k a).ReadOnly)
    (hn : x.statements d w < n) :
    (auto (x >>= fun a => exec (rows a) (fails a) (patch a) >>= fun _ => k a)).left n d w =
      ((x >>= fun a => exec (rows a) (fails a) (patch a) >>= fun _ => k a).runAuto d w).2.1 := by
  have hsnd := hx.runAuto_snd d w
  rw [runAuto_bind]
  rcases hrun : x.runAuto d w with ⟨e | a, d₁, w₁⟩
  · rw [hrun] at hsnd
    cases hsnd
    refine left_of_write_fails hx fun a ha => ?_
    rw [runAuto_ok.mpr ha] at hrun
    cases hrun
  · rw [hrun] at hsnd
    cases hsnd
    have ha := runAuto_ok.mp hrun
    dsimp only
    cases hf : fails a d with
    | some e =>
      rw [runAuto_exec_bind_error hf]
      refine left_of_write_fails hx fun a' ha' => ?_
      cases ha.symm.trans ha'
      exact ⟨e, hf⟩
    | none =>
      obtain ⟨j, rfl⟩ := Nat.exists_eq_add_of_lt hn
      rw [Nat.add_assoc, left_after_write ha hf, runAuto_exec_bind hf,
        (hk a).runAuto_snd]
      exact Reads.left (s := auto (k a)) (hk a)

end

end

end Script

end Infra
