import LedgerLight.Infra.ReadCommitted

/-!
# Transactions that answer

A transaction answers its caller when it is committed. `Prog.answering` writes the answer beside the
database, so the answers that were given are part of what is committed.

A session that no other commit disturbs comes to what its program comes to alone. Around its one
call to the outside world it is `Asking` before, and `Asked` after it.

* `Session.Asking.advance`, `Session.Asked.advance` : what a statement of such a session does.
-/

namespace Infra

namespace Prog

variable {D κ ω ε α γ : Type}

/-- The program with its answer as its last write. -/
def answering : Prog D κ ω ε α → Prog (D × List α) κ ω ε Unit
  | done a => write [] (fun _ => none) (fun d => (d.1, a :: d.2)) (done ())
  | fail e => fail e
  | read next => read fun d => (next d.1).answering
  | write rows fails patch next =>
    write rows (fun d => fails d.1) (fun d => (patch d.1, d.2)) next.answering
  | call effect next => call effect fun w => (next w).answering

variable {x : Prog D κ ω ε α} {d d' : D} {w w' : ω} {a : α} {answers : List α} {f : D → γ}
  {R : ω → ω → Prop}

theorem run_answering (h : x.run d w = (.ok (a, d'), w')) :
    x.answering.run (d, answers) w = (.ok ((), d', a :: answers), w') := by
  induction x generalizing d w with
  | done b =>
    obtain ⟨rfl, rfl, rfl⟩ := run_done_ok.mp h
    rfl
  | fail e => cases h
  | read next ih => exact ih d h
  | write rows fails patch next ih =>
    simp only [run_write, answering] at h ⊢
    cases hf : fails d with
    | some e => rw [hf] at h; cases h
    | none => rw [hf] at h; exact ih h
  | call effect next ih => exact ih w h

theorem Quiet.answering (hx : x.Quiet f) : x.answering.Quiet fun _ => () := by
  induction x with
  | done a => exact ⟨fun _ => rfl, trivial⟩
  | fail e => trivial
  | read next ih => exact fun d => ih d.1 (hx d.1)
  | write rows fails patch next ih => exact ⟨fun _ => rfl, ih hx.2⟩
  | call effect next => exact hx.elim

theorem CallsOnce.answering (hx : x.CallsOnce f R) : x.answering.CallsOnce (fun _ => ()) R := by
  induction x with
  | done a => exact ⟨fun _ => rfl, trivial⟩
  | fail e => trivial
  | read next ih => exact fun d => ih d.1 (hx d.1)
  | write rows fails patch next ih => exact ⟨fun _ => rfl, ih hx.2⟩
  | call effect next => exact fun w => ⟨(hx w).1, (hx w).2.answering⟩

/-- Without a call the outside world does not matter. -/
theorem Quiet.run_world (hx : x.Quiet f) (h : x.run d w = (.ok (a, d'), w')) (w₁ : ω) :
    x.run d w₁ = (.ok (a, d'), w₁) := by
  induction x generalizing d with
  | done b =>
    obtain ⟨rfl, rfl, rfl⟩ := run_done_ok.mp h
    rfl
  | fail e => cases h
  | read next ih => exact ih d (hx d) h
  | write rows fails patch next ih =>
    simp only [run_write] at h ⊢
    cases hf : fails d with
    | some e => rw [hf] at h; cases h
    | none => rw [hf] at h; exact ih hx.2 h
  | call effect next => exact hx.elim

end Prog

namespace ReadCommitted

open Prog

variable {D κ ω ε ι μ : Type}

/-! ## All sessions, and all others -/

namespace Store

/-- What holds of every session. -/
def All (P : Session D κ ω ε ι → Prop) (st : Store D κ ω ε ι) : Prop :=
  ∀ t x, st.sessions.lookup t = some x → P x

/-- What holds of every session but one. -/
def Others (t : Nat) (P : Session D κ ω ε ι → Prop) (st : Store D κ ω ε ι) : Prop :=
  ∀ t' x, t' ≠ t → st.sessions.lookup t' = some x → P x

variable {st st' : Store D κ ω ε ι} {P Q : Session D κ ω ε ι → Prop} {t t' : Nat}
  {x : Session D κ ω ε ι}

theorem Others.put_self (h : st.Others t P) (hx : P x) : (st.put t x).All P := by
  intro t' y hy
  by_cases he : t' = t
  · cases (show (st.sessions.insert t x).lookup t' = some x by
      rw [he]; exact AList.lookup_insert _).symm.trans hy
    exact hx
  · exact h t' y he ((AList.lookup_insert_ne he).symm.trans hy)

theorem Others.drop_self (h : st.Others t P) : (st.drop t).All P := by
  intro t' y hy
  by_cases he : t' = t
  · rw [he] at hy
    cases (AList.lookup_erase ..).symm.trans hy
  · exact h t' y he ((AList.lookup_erase_ne he).symm.trans hy)

theorem All.others (h : st.All P) (t : Nat) : st.Others t P := fun t' x _ hx => h t' x hx

theorem All.put (h : st.All P) (hx : P x) : (st.put t x).All P := (h.others t).put_self hx

theorem All.drop (h : st.All P) : (st.drop t).All P := (h.others t).drop_self

theorem All.imp (hPQ : ∀ x, P x → Q x) (h : st.All P) : st.All Q :=
  fun t x hx => hPQ x (h t x hx)

theorem Others.put (h : st.Others t P) (hx : P x) : (st.put t' x).Others t P := by
  intro t₁ y hne hy
  by_cases he : t₁ = t'
  · cases (show (st.sessions.insert t' x).lookup t₁ = some x by
      rw [he]; exact AList.lookup_insert _).symm.trans hy
    exact hx
  · exact h t₁ y hne ((AList.lookup_insert_ne he).symm.trans hy)

theorem Others.drop (h : st.Others t P) : (st.drop t').Others t P := by
  intro t₁ y hne hy
  by_cases he : t₁ = t'
  · rw [he] at hy
    cases (AList.lookup_erase ..).symm.trans hy
  · exact h t₁ y hne ((AList.lookup_erase_ne he).symm.trans hy)

/-- The other sessions are the same. -/
theorem Others.congr (h : st.Others t P)
    (hsame : ∀ t', t' ≠ t → st'.sessions.lookup t' = st.sessions.lookup t') : st'.Others t P :=
  fun t' x hne hx => h t' x hne ((hsame t' hne).symm.trans hx)

/-- Once the one session is gone, there are only the others. -/
theorem Others.all (h : st.Others t P) (hgone : st.sessions.lookup t = none) : st.All P := by
  intro t' x hx
  refine h t' x (fun he => ?_) hx
  rw [he, hgone] at hx
  cases hx

end Store

/-! ## A session around its call -/

/-- A session before its call: in any world where `I` holds it goes through, to what `Q` says. -/
def Session.Asking (R : ω → ω → Prop) (I : ω → Prop) (Q : D → Prop) (x : Session D κ ω ε ι)
    (d : D) : Prop :=
  x.rest.CallsOnce (fun _ => ()) R ∧
    ∀ w, I w → ∃ d' w', x.rest.run (x.writes d) w = (.ok ((), d'), w') ∧ Q d'

/-- A session after its call. -/
def Session.Asked (Q : D → Prop) (x : Session D κ ω ε ι) (d : D) : Prop :=
  x.rest.Quiet (fun _ => ()) ∧ ∀ w, ∃ d', x.rest.run (x.writes d) w = (.ok ((), d'), w) ∧ Q d'

/-- The next statement of a session leaves all other sessions as they are. -/
theorem Store.advance_lookup [DecidableEq κ] (st : Store D κ ω ε ι) {t t' : Nat}
    (x : Session D κ ω ε ι) (hne : t' ≠ t) :
    (st.advance t x).sessions.lookup t' = st.sessions.lookup t' := by
  unfold Store.advance
  cases x.rest with
  | done u => exact AList.lookup_erase_ne hne
  | fail e => exact AList.lookup_erase_ne hne
  | read next => exact AList.lookup_insert_ne hne
  | write rows fails patch next =>
    dsimp only
    split
    · rfl
    · cases fails (x.writes st.db) with
      | some e => exact AList.lookup_erase_ne hne
      | none => exact AList.lookup_insert_ne hne
  | call effect next => exact AList.lookup_insert_ne hne

section

variable [DecidableEq κ] {st : Store D κ ω ε ι} {t : Nat} {x : Session D κ ω ε ι}
  {R : ω → ω → Prop} {I : ω → Prop} {Q : D → Prop}

/-- After its call a session goes on, and its commit is what it led to. -/
theorem Session.Asked.advance (h : x.Asked Q st.db) (hx : st.sessions.lookup t = some x) :
    (st.advance t x).world = st.world ∧
      ((st.advance t x).sessions.lookup t = none ∧ Q (st.advance t x).db ∨
        (st.advance t x).db = st.db ∧ ∃ x', (st.advance t x).sessions.lookup t = some x' ∧
          x'.label = x.label ∧ x.statements ≤ x'.statements ∧ x'.Asked Q st.db) := by
  obtain ⟨hquiet, hruns⟩ := h
  unfold Store.advance
  cases hrest : x.rest with
  | done u =>
    obtain ⟨d', hrun, hq⟩ := hruns st.world
    rw [hrest] at hrun
    obtain ⟨-, rfl, -⟩ := run_done_ok.mp hrun
    exact ⟨rfl, Or.inl ⟨AList.lookup_erase .., hq⟩⟩
  | fail e =>
    obtain ⟨d', hrun, -⟩ := hruns st.world
    rw [hrest] at hrun
    cases hrun
  | read next =>
    rw [hrest] at hquiet hruns
    exact ⟨rfl, Or.inr ⟨rfl, _, AList.lookup_insert _, rfl, Nat.le_succ _, hquiet _, hruns⟩⟩
  | write rows fails patch next =>
    dsimp only
    split
    · exact ⟨rfl, Or.inr ⟨rfl, x, hx, rfl, le_rfl, hquiet, hruns⟩⟩
    · rw [hrest] at hquiet hruns
      simp only [run_write] at hruns
      cases hf : fails (x.writes st.db) with
      | some e =>
        obtain ⟨d', hrun, -⟩ := hruns st.world
        rw [hf] at hrun
        cases hrun
      | none =>
        rw [hf] at hruns
        exact ⟨rfl, Or.inr ⟨rfl, _, AList.lookup_insert _, rfl, Nat.le_succ _, hquiet.2, hruns⟩⟩
  | call effect next =>
    rw [hrest] at hquiet
    exact hquiet.elim

/-- Before its call a session goes on, and what it asks for may be done. -/
theorem Session.Asking.advance (h : x.Asking R I Q st.db) (hx : st.sessions.lookup t = some x)
    (hI : I st.world) :
    (st.advance t x).world = st.world ∧ (st.advance t x).sessions.lookup t = none ∧
        Q (st.advance t x).db ∨
      (st.advance t x).db = st.db ∧ ∃ x', (st.advance t x).sessions.lookup t = some x' ∧
        x'.label = x.label ∧
        ((st.advance t x).world = st.world ∧ x.statements ≤ x'.statements ∧
            x'.Asking R I Q st.db ∨
          R st.world (st.advance t x).world ∧ x'.statements = x.statements + 1 ∧
            x'.Asked Q st.db) := by
  obtain ⟨hcalls, hruns⟩ := h
  unfold Store.advance
  cases hrest : x.rest with
  | done u =>
    obtain ⟨d', w', hrun, hq⟩ := hruns st.world hI
    rw [hrest] at hrun
    obtain ⟨-, rfl, -⟩ := run_done_ok.mp hrun
    exact Or.inl ⟨rfl, AList.lookup_erase .., hq⟩
  | fail e =>
    obtain ⟨d', w', hrun, -⟩ := hruns st.world hI
    rw [hrest] at hrun
    cases hrun
  | read next =>
    rw [hrest] at hcalls hruns
    exact Or.inr ⟨rfl, _, AList.lookup_insert _, rfl,
      Or.inl ⟨rfl, Nat.le_succ _, hcalls _, hruns⟩⟩
  | write rows fails patch next =>
    dsimp only
    split
    · exact Or.inr ⟨rfl, x, hx, rfl, Or.inl ⟨rfl, le_rfl, hcalls, hruns⟩⟩
    · rw [hrest] at hcalls hruns
      simp only [run_write] at hruns
      cases hf : fails (x.writes st.db) with
      | some e =>
        obtain ⟨d', w', hrun, -⟩ := hruns st.world hI
        rw [hf] at hrun
        cases hrun
      | none =>
        rw [hf] at hruns
        exact Or.inr ⟨rfl, _, AList.lookup_insert _, rfl,
          Or.inl ⟨rfl, Nat.le_succ _, hcalls.2, hruns⟩⟩
  | call effect next =>
    rw [hrest] at hcalls hruns
    obtain ⟨hR, hquiet⟩ := hcalls st.world
    obtain ⟨d', w', hrun, hq⟩ := hruns st.world hI
    refine Or.inr ⟨rfl, _, AList.lookup_insert _, rfl, Or.inr ⟨hR, rfl, hquiet, fun w => ?_⟩⟩
    exact ⟨d', hquiet.run_world hrun w, hq⟩

end

end ReadCommitted

end Infra
