import Mathlib.Data.List.Basic

/-!
# Programs of database statements

A program is a tree of statements: a read continues with what it sees of the database, a write
patches it, a call goes to a world outside the database. The tree leaves open what happens between
two statements, so one program has two meanings:

* `Prog.run` : all statements at once, as one transaction that runs alone. A failure rolls the
  database back; what calls did to the outside world stays done.
* `Prog.runAuto` : all statements at once, outside a transaction: each is committed when it is
  done, so what was written before a failure stays written.
* `Infra.ReadCommitted` : statement by statement, interleaved with other programs.

The `run_*_ok` lemmas invert a run that ended well, one statement at a time.
-/

namespace Infra

/-- Programs over a database `D` with row locks `κ`, an outside world `ω` and failures `ε`. -/
inductive Prog (D κ ω ε α : Type) where
  | done (a : α)
  | fail (e : ε)
  /-- A query: the rest of the program depends on the database as it is now. -/
  | read (next : D → Prog D κ ω ε α)
  /-- A statement that locks `rows`, may fail on a constraint, and otherwise patches the
  database. -/
  | write (rows : List κ) (fails : D → Option ε) (patch : D → D) (next : Prog D κ ω ε α)
  /-- A call to the outside world: it changes that world, and the rest depends on what it was. -/
  | call (effect : ω → ω) (next : ω → Prog D κ ω ε α)

namespace Prog

variable {D κ ω ε α β γ : Type}

/-- Run the first program, then the second with its result. -/
def bind : Prog D κ ω ε α → (α → Prog D κ ω ε β) → Prog D κ ω ε β
  | done a, k => k a
  | fail e, _ => fail e
  | read next, k => read fun d => (next d).bind k
  | write rows fails patch next, k => write rows fails patch (next.bind k)
  | call effect next, k => call effect fun w => (next w).bind k

instance : Monad (Prog D κ ω ε) where
  pure := done
  bind := bind

theorem bind_bind (x : Prog D κ ω ε α) (f : α → Prog D κ ω ε β) (g : β → Prog D κ ω ε γ) :
    x >>= f >>= g = x >>= fun a => f a >>= g := by
  show (x.bind f).bind g = x.bind fun a => (f a).bind g
  induction x with
  | done a => rfl
  | fail e => rfl
  | read next ih => exact congrArg read (funext ih)
  | write rows fails patch next ih => exact congrArg (write rows fails patch) ih
  | call effect next ih => exact congrArg (call effect) (funext ih)

/-- What a query answers. -/
def select (g : D → α) : Prog D κ ω ε α := read fun d => done (g d)

/-- A statement without an answer. -/
def exec (rows : List κ) (fails : D → Option ε) (patch : D → D) : Prog D κ ω ε Unit :=
  write rows fails patch (done ())

/-- A statement that answers from the patched database (`UPDATE … RETURNING`). -/
def returning (rows : List κ) (fails : D → Option ε) (patch : D → D) (g : D → Except ε α) :
    Prog D κ ω ε α :=
  write rows fails patch <| read fun d =>
    match g d with
    | .ok a => done a
    | .error e => fail e

/-- A call to the outside world that may fail. -/
def invoke (f : ω → Except ε α × ω) : Prog D κ ω ε α :=
  call (fun w => (f w).2) fun w =>
    match (f w).1 with
    | .ok a => done a
    | .error e => fail e

/-- A call to the outside world whose failure is caught. -/
def attempt (f : ω → Except ε α × ω) : Prog D κ ω ε (Except ε α) :=
  call (fun w => (f w).2) fun w => done (f w).1

/-- Fail unless the condition holds. -/
def require (c : Prop) [Decidable c] (e : ε) : Prog D κ ω ε Unit :=
  if c then done () else fail e

/-- Run the program only if the condition holds. -/
def doWhen (c : Prop) [Decidable c] (x : Prog D κ ω ε Unit) : Prog D κ ω ε Unit :=
  if c then x else done ()

/-- Lift a result that does not touch the database. -/
def ofExcept : Except ε α → Prog D κ ω ε α
  | .ok a => done a
  | .error e => fail e

/-! ## All statements at once -/

/-- The program as one transaction: its answer and the new database, or a failure that leaves the
database as it was; and the outside world. -/
def run : Prog D κ ω ε α → D → ω → Except ε (α × D) × ω
  | done a, d, w => (.ok (a, d), w)
  | fail e, _, w => (.error e, w)
  | read next, d, w => (next d).run d w
  | write _ fails patch next, d, w =>
    match fails d with
    | some e => (.error e, w)
    | none => next.run (patch d) w
  | call effect next, d, w => (next w).run d (effect w)

variable {x : Prog D κ ω ε α} {k : α → Prog D κ ω ε β} {d d' : D} {w w' : ω} {a : α} {b : β}

theorem run_done : (done a : Prog D κ ω ε α).run d w = (.ok (a, d), w) := rfl

theorem run_fail {e : ε} : (fail e : Prog D κ ω ε α).run d w = (.error e, w) := rfl

theorem run_read {next : D → Prog D κ ω ε α} : (read next).run d w = (next d).run d w := rfl

theorem run_write {rows : List κ} {fails : D → Option ε} {patch : D → D}
    {next : Prog D κ ω ε α} :
    (write rows fails patch next).run d w =
      match fails d with
      | some e => (.error e, w)
      | none => next.run (patch d) w := rfl

theorem run_call {effect : ω → ω} {next : ω → Prog D κ ω ε α} :
    (call effect next).run d w = (next w).run d (effect w) := rfl

theorem run_bind (x : Prog D κ ω ε α) (k : α → Prog D κ ω ε β) (d : D) (w : ω) :
    (x >>= k).run d w =
      match x.run d w with
      | (.ok (a, d'), w') => (k a).run d' w'
      | (.error e, w') => (.error e, w') := by
  show (x.bind k).run d w = _
  induction x generalizing d w with
  | done a => rfl
  | fail e => rfl
  | read next ih => exact ih d d w
  | write rows fails patch next ih =>
    simp only [bind, run_write]
    cases fails d with
    | none => exact ih _ _
    | some e => rfl
  | call effect next ih => exact ih w d (effect w)

theorem run_bind_ok :
    (x >>= k).run d w = (.ok (b, d'), w') ↔
      ∃ a d₁ w₁, x.run d w = (.ok (a, d₁), w₁) ∧ (k a).run d₁ w₁ = (.ok (b, d'), w') := by
  rw [run_bind]
  rcases x.run d w with ⟨_ | ⟨a, d₁⟩, w₁⟩
  · simp
  · constructor
    · exact fun h => ⟨a, d₁, w₁, rfl, h⟩
    · rintro ⟨a', d₂, w₂, he, h⟩
      cases he
      exact h

theorem run_bind_of {a : α} {d₁ : D} {w₁ : ω} (h : x.run d w = (.ok (a, d₁), w₁)) :
    (x >>= k).run d w = (k a).run d₁ w₁ := by
  rw [run_bind, h]

theorem run_map_ok {f : α → β} :
    (f <$> x).run d w = (.ok (b, d'), w') ↔ ∃ a, b = f a ∧ x.run d w = (.ok (a, d'), w') := by
  show (x >>= fun a => done (f a)).run d w = _ ↔ _
  rw [run_bind_ok]
  simp only [run_done, Prod.mk.injEq, Except.ok.injEq]
  constructor
  · rintro ⟨a, d₁, w₁, hx, ⟨rfl, rfl⟩, rfl⟩
    exact ⟨a, rfl, hx⟩
  · rintro ⟨a, rfl, hx⟩
    exact ⟨a, d', w', hx, ⟨rfl, rfl⟩, rfl⟩

theorem run_pure_ok :
    (pure a : Prog D κ ω ε α).run d w = (.ok (a', d'), w') ↔ a' = a ∧ d' = d ∧ w' = w := by
  simp only [Pure.pure, run_done, Prod.mk.injEq, Except.ok.injEq]
  constructor <;> rintro h <;> simp_all

theorem run_done_ok {a' : α} :
    (done a : Prog D κ ω ε α).run d w = (.ok (a', d'), w') ↔ a' = a ∧ d' = d ∧ w' = w :=
  run_pure_ok

theorem run_fail_ok {e : ε} :
    (fail e : Prog D κ ω ε α).run d w = (.ok (a, d'), w') ↔ False := by
  simp [run_fail]

theorem run_select_ok {g : D → α} :
    (select g : Prog D κ ω ε α).run d w = (.ok (a, d'), w') ↔ a = g d ∧ d' = d ∧ w' = w :=
  run_done_ok (κ := κ)

theorem run_select_of {g : D → α} (h : g d = a) :
    (select g : Prog D κ ω ε α).run d w = (.ok (a, d), w) :=
  run_select_ok.mpr ⟨h.symm, rfl, rfl⟩

theorem run_exec_ok {rows : List κ} {fails : D → Option ε} {patch : D → D} {u : Unit} :
    (exec rows fails patch : Prog D κ ω ε Unit).run d w = (.ok (u, d'), w') ↔
      fails d = none ∧ d' = patch d ∧ w' = w := by
  simp only [exec, run_write, run_done]
  cases fails d with
  | none => simp [eq_comm]
  | some e => simp

theorem run_returning_ok {rows : List κ} {fails : D → Option ε} {patch : D → D}
    {g : D → Except ε α} :
    (returning rows fails patch g : Prog D κ ω ε α).run d w = (.ok (a, d'), w') ↔
      fails d = none ∧ g (patch d) = .ok a ∧ d' = patch d ∧ w' = w := by
  simp only [returning, run_write, run_read]
  cases fails d with
  | some e => simp
  | none =>
    dsimp only
    cases g (patch d) with
    | error e => simp [run_fail]
    | ok b => simp [run_done, eq_comm, and_assoc]

theorem run_require_ok {c : Prop} [Decidable c] {e : ε} {u : Unit} :
    (require c e : Prog D κ ω ε Unit).run d w = (.ok (u, d'), w') ↔ c ∧ d' = d ∧ w' = w := by
  unfold require
  split
  · next h => simp [run_done, h, eq_comm]
  · next h => simp [run_fail, h]

theorem run_require_of {c : Prop} [Decidable c] {e : ε} (hc : c) :
    (require c e : Prog D κ ω ε Unit).run d w = (.ok ((), d), w) :=
  run_require_ok.mpr ⟨hc, rfl, rfl⟩

theorem run_doWhen_ok {c : Prop} [Decidable c] {x : Prog D κ ω ε Unit} {u : Unit} :
    (doWhen c x).run d w = (.ok (u, d'), w') ↔
      c ∧ x.run d w = (.ok (u, d'), w') ∨ ¬ c ∧ d' = d ∧ w' = w := by
  unfold doWhen
  split
  · next h => simp [h]
  · next h => simp [run_done, h, eq_comm]

theorem run_ofExcept_ok {r : Except ε α} :
    (ofExcept r : Prog D κ ω ε α).run d w = (.ok (a, d'), w') ↔
      r = .ok a ∧ d' = d ∧ w' = w := by
  cases r with
  | error e => simp [ofExcept, run_fail]
  | ok b => simp [ofExcept, run_done, eq_comm, and_assoc]

theorem run_ofExcept_of {r : Except ε α} (h : r = .ok a) :
    (ofExcept r : Prog D κ ω ε α).run d w = (.ok (a, d), w) :=
  run_ofExcept_ok.mpr ⟨h, rfl, rfl⟩

theorem run_invoke_ok {f : ω → Except ε α × ω} :
    (invoke f : Prog D κ ω ε α).run d w = (.ok (a, d'), w') ↔
      (f w).1 = .ok a ∧ d' = d ∧ w' = (f w).2 := by
  simp only [invoke, run_call]
  cases (f w).1 with
  | error e => simp [run_fail]
  | ok b => simp [run_done, eq_comm, and_assoc]

theorem run_attempt_ok {f : ω → Except ε α × ω} {r : Except ε α} :
    (attempt f : Prog D κ ω ε (Except ε α)).run d w = (.ok (r, d'), w') ↔
      r = (f w).1 ∧ d' = d ∧ w' = (f w).2 :=
  run_done_ok (κ := κ)

/-! ## Outside a transaction -/

/-- The program with every statement committed by itself. -/
def runAuto : Prog D κ ω ε α → D → ω → Except ε α × D × ω
  | done a, d, w => (.ok a, d, w)
  | fail e, d, w => (.error e, d, w)
  | read next, d, w => (next d).runAuto d w
  | write _ fails patch next, d, w =>
    match fails d with
    | some e => (.error e, d, w)
    | none => next.runAuto (patch d) w
  | call effect next, d, w => (next w).runAuto d (effect w)

theorem runAuto_done : (done a : Prog D κ ω ε α).runAuto d w = (.ok a, d, w) := rfl

theorem runAuto_fail {e : ε} : (fail e : Prog D κ ω ε α).runAuto d w = (.error e, d, w) := rfl

theorem runAuto_read {next : D → Prog D κ ω ε α} :
    (read next).runAuto d w = (next d).runAuto d w := rfl

theorem runAuto_write {rows : List κ} {fails : D → Option ε} {patch : D → D}
    {next : Prog D κ ω ε α} :
    (write rows fails patch next).runAuto d w =
      match fails d with
      | some e => (.error e, d, w)
      | none => next.runAuto (patch d) w := rfl

theorem runAuto_call {effect : ω → ω} {next : ω → Prog D κ ω ε α} :
    (call effect next).runAuto d w = (next w).runAuto d (effect w) := rfl

theorem runAuto_bind (x : Prog D κ ω ε α) (k : α → Prog D κ ω ε β) (d : D) (w : ω) :
    (x >>= k).runAuto d w =
      match x.runAuto d w with
      | (.ok a, d', w') => (k a).runAuto d' w'
      | (.error e, d', w') => (.error e, d', w') := by
  show (x.bind k).runAuto d w = _
  induction x generalizing d w with
  | done a => rfl
  | fail e => rfl
  | read next ih => exact ih d d w
  | write rows fails patch next ih =>
    simp only [bind, runAuto_write]
    cases fails d with
    | none => exact ih _ _
    | some e => rfl
  | call effect next ih => exact ih w d (effect w)

theorem runAuto_select {g : D → α} :
    (select g : Prog D κ ω ε α).runAuto d w = (.ok (g d), d, w) := rfl

theorem runAuto_select_bind (g : D → α) (k : α → Prog D κ ω ε β) (d : D) (w : ω) :
    (select g >>= k).runAuto d w = (k (g d)).runAuto d w := rfl

theorem runAuto_require (c : Prop) [Decidable c] (e : ε) (d : D) (w : ω) :
    (require c e : Prog D κ ω ε Unit).runAuto d w = (if c then .ok () else .error e, d, w) := by
  unfold require
  split
  · rfl
  · rfl

/-- A program that ends well does the same in a transaction and outside one. -/
theorem runAuto_ok :
    x.runAuto d w = (.ok a, d', w') ↔ x.run d w = (.ok (a, d'), w') := by
  induction x generalizing d w with
  | done b => simp [run_done, runAuto_done, and_assoc]
  | fail e => simp [run_fail, runAuto_fail]
  | read next ih => exact ih d
  | write rows fails patch next ih =>
    simp only [run_write, runAuto_write]
    cases fails d with
    | none => exact ih
    | some e => simp
  | call effect next ih => exact ih w

/-- A check after a program changes nothing, so the database is the one the program left. -/
theorem runAuto_bind_ofExcept (x : Prog D κ ω ε α) (f : α → Except ε β) (d : D) (w : ω) :
    ((x >>= fun a => ofExcept (f a)).runAuto d w).2 = (x.runAuto d w).2 := by
  rw [runAuto_bind]
  rcases x.runAuto d w with ⟨_ | a, d', w'⟩
  · rfl
  · cases h : f a <;> simp [ofExcept, runAuto_done, runAuto_fail, h]

theorem runAuto_exec_bind {rows : List κ} {fails : D → Option ε} {patch : D → D}
    {k : Unit → Prog D κ ω ε β} (h : fails d = none) :
    (exec rows fails patch >>= k).runAuto d w = (k ()).runAuto (patch d) w := by
  show (write rows fails patch (k ())).runAuto d w = _
  rw [runAuto_write, h]

theorem runAuto_exec_bind_error {rows : List κ} {fails : D → Option ε} {patch : D → D}
    {k : Unit → Prog D κ ω ε β} {e : ε} (h : fails d = some e) :
    (exec rows fails patch >>= k).runAuto d w = (.error e, d, w) := by
  show (write rows fails patch (k ())).runAuto d w = _
  rw [runAuto_write, h]

theorem runAuto_error {e : ε} (h : x.runAuto d w = (.error e, d', w')) :
    x.run d w = (.error e, w') := by
  induction x generalizing d w with
  | done b => cases h
  | fail e' => cases h; rfl
  | read next ih => exact ih d h
  | write rows fails patch next ih =>
    simp only [run_write, runAuto_write] at h ⊢
    cases hf : fails d with
    | none => rw [hf] at h; exact ih h
    | some e' => rw [hf] at h; cases h; rfl
  | call effect next ih => exact ih w h

/-- The program only reads. -/
def ReadOnly : Prog D κ ω ε α → Prop
  | done _ => True
  | fail _ => True
  | read next => ∀ d, (next d).ReadOnly
  | write _ _ _ _ => False
  | call _ _ => False

theorem ReadOnly.bind (hx : x.ReadOnly) (hk : ∀ a, (k a).ReadOnly) : (x >>= k).ReadOnly := by
  show (x.bind k).ReadOnly
  induction x with
  | done a => exact hk a
  | fail e => trivial
  | read next ih => exact fun d => ih d (hx d)
  | write rows fails patch next => exact hx.elim
  | call effect next => exact hx.elim

theorem ReadOnly.runAuto_snd (hx : x.ReadOnly) (d : D) (w : ω) : (x.runAuto d w).2 = (d, w) := by
  induction x generalizing d w with
  | done a => rfl
  | fail e => rfl
  | read next ih => exact ih d (hx d) d w
  | write rows fails patch next => exact hx.elim
  | call effect next => exact hx.elim

theorem readOnly_select {g : D → α} : (select g : Prog D κ ω ε α).ReadOnly := fun _ => trivial

theorem readOnly_require {c : Prop} [Decidable c] {e : ε} :
    (require c e : Prog D κ ω ε Unit).ReadOnly := by
  unfold require
  split <;> trivial

theorem readOnly_ofExcept {r : Except ε α} : (ofExcept r : Prog D κ ω ε α).ReadOnly := by
  cases r <;> trivial

theorem readOnly_doWhen {c : Prop} [Decidable c] {x : Prog D κ ω ε Unit} (hx : x.ReadOnly) :
    (doWhen c x).ReadOnly := by
  unfold doWhen
  split
  · exact hx
  · trivial

/-- A failure leaves nothing behind, also outside a transaction. -/
def FailsClean (x : Prog D κ ω ε α) : Prop :=
  ∀ d w e d' w', x.runAuto d w = (.error e, d', w') → d' = d ∧ w' = w

theorem ReadOnly.failsClean (hx : x.ReadOnly) : x.FailsClean := by
  intro d w e d' w' h
  have hs := hx.runAuto_snd d w
  rw [h] at hs
  exact Prod.ext_iff.mp hs

/-- What only reads may come before a program that fails clean. -/
theorem ReadOnly.bind_failsClean (hx : x.ReadOnly) (hk : ∀ a, (k a).FailsClean) :
    (x >>= k).FailsClean := by
  intro d w e d' w' h
  rw [runAuto_bind] at h
  have hs := hx.runAuto_snd d w
  rcases hr : x.runAuto d w with ⟨r, d₁, w₁⟩
  rw [hr] at h hs
  obtain ⟨rfl, rfl⟩ := Prod.ext_iff.mp hs
  cases r with
  | ok a => exact hk a _ _ _ _ _ h
  | error e' => cases h; exact ⟨rfl, rfl⟩

/-- Nothing fails once only an answer is left to give. -/
theorem FailsClean.bind_pure {f : α → β} (hx : x.FailsClean) :
    (x >>= fun a => pure (f a)).FailsClean := by
  intro d w e d' w' h
  rw [runAuto_bind] at h
  rcases hr : x.runAuto d w with ⟨r, d₁, w₁⟩
  rw [hr] at h
  cases r with
  | ok a => cases h
  | error e' => cases h; exact hx _ _ _ _ _ hr

theorem failsClean_exec {rows : List κ} {fails : D → Option ε} {patch : D → D} :
    (exec rows fails patch : Prog D κ ω ε Unit).FailsClean := by
  intro d w e d' w' h
  simp only [exec, runAuto_write, runAuto_done] at h
  cases hf : fails d with
  | none => rw [hf] at h; cases h
  | some e' => rw [hf] at h; cases h; exact ⟨rfl, rfl⟩

theorem failsClean_returning {rows : List κ} {fails : D → Option ε} {patch : D → D}
    {g : D → Except ε α} (hg : ∀ d, fails d = none → ∃ a, g (patch d) = .ok a) :
    (returning rows fails patch g : Prog D κ ω ε α).FailsClean := by
  intro d w e d' w' h
  simp only [returning, runAuto_write, runAuto_read] at h
  cases hf : fails d with
  | none =>
    obtain ⟨a, ha⟩ := hg d hf
    rw [hf] at h
    simp only [ha] at h
    cases h
  | some e' => rw [hf] at h; cases h; exact ⟨rfl, rfl⟩

/-! ## A failure at one database -/

/-- The program ends well from `d` and `w`. -/
def Succeeds (x : Prog D κ ω ε α) (d : D) (w : ω) : Prop :=
  ∃ a d' w', x.runAuto d w = (.ok a, d', w')

/-- A failure of the program from `d` and `w` leaves the database as it was. -/
def CleanAt (x : Prog D κ ω ε α) (d : D) (w : ω) : Prop :=
  ∀ e d' w', x.runAuto d w = (.error e, d', w') → d' = d

theorem FailsClean.cleanAt (hx : x.FailsClean) (d : D) (w : ω) : x.CleanAt d w :=
  fun e d' w' h => (hx d w e d' w' h).1

theorem succeeds_pure : (pure a : Prog D κ ω ε α).Succeeds d w := ⟨a, d, w, rfl⟩

theorem Succeeds.bind (hx : x.runAuto d w = (.ok a, d', w')) (hk : (k a).Succeeds d' w') :
    (x >>= k).Succeeds d w := by
  obtain ⟨b, d₁, w₁, h⟩ := hk
  exact ⟨b, d₁, w₁, by rw [runAuto_bind, hx]; exact h⟩

/-- What only reads may come first. -/
theorem ReadOnly.bind_cleanAt (hx : x.ReadOnly)
    (hk : ∀ a, x.run d w = (.ok (a, d), w) → (k a).CleanAt d w) : (x >>= k).CleanAt d w := by
  intro e d' w' h
  rw [runAuto_bind] at h
  have hs := hx.runAuto_snd d w
  rcases hr : x.runAuto d w with ⟨r, d₁, w₁⟩
  rw [hr] at h hs
  obtain ⟨rfl, rfl⟩ := Prod.ext_iff.mp hs
  cases r with
  | ok a => exact hk a (runAuto_ok.mp hr) _ _ _ h
  | error e' => cases h; rfl

/-- A statement that fails changes nothing. -/
theorem cleanAt_exec_bind {rows : List κ} {fails : D → Option ε} {patch : D → D}
    {k : Unit → Prog D κ ω ε β} (hk : fails d = none → (k ()).Succeeds (patch d) w) :
    (exec rows fails patch >>= k).CleanAt d w := by
  intro e d' w' h
  rw [runAuto_bind] at h
  simp only [exec, runAuto_write, runAuto_done] at h
  cases hf : fails d with
  | none =>
    rw [hf] at h
    obtain ⟨b, d₁, w₁, hb⟩ := hk hf
    dsimp only at h
    rw [hb] at h
    cases h
  | some e' => rw [hf] at h; cases h; rfl

/-- An answer that is changed afterwards fails nothing. -/
theorem CleanAt.map {f : α → β} (hx : x.CleanAt d w) : (f <$> x).CleanAt d w := by
  intro e d' w' h
  replace h : (x >>= fun a => pure (f a)).runAuto d w = (.error e, d', w') := h
  rw [runAuto_bind] at h
  rcases hr : x.runAuto d w with ⟨r, d₁, w₁⟩
  rw [hr] at h
  cases r with
  | ok a => cases h
  | error e' => cases h; exact hx _ _ _ hr

/-! ## A transaction within a call -/

/-- The program as one transaction, within a call whose other statements are committed by
themselves. -/
def transaction (x : Prog D κ ω ε α) : Prog D κ ω ε α :=
  call id fun w => read fun d =>
    call (fun _ => (x.run d w).2) fun _ =>
      match (x.run d w).1 with
      | .ok (a, d') => write [] (fun _ => none) (fun _ => d') (done a)
      | .error e => fail e

@[simp] theorem run_transaction (x : Prog D κ ω ε α) (d : D) (w : ω) :
    (transaction x).run d w = x.run d w := by
  simp only [transaction, run_call, run_read]
  rcases x.run d w with ⟨_ | ⟨_, _⟩, _⟩ <;> rfl

theorem runAuto_transaction (x : Prog D κ ω ε α) (d : D) (w : ω) :
    (transaction x).runAuto d w =
      match x.run d w with
      | (.ok (a, d'), w') => (.ok a, d', w')
      | (.error e, w') => (.error e, d, w') := by
  simp only [transaction, runAuto_call, runAuto_read]
  rcases x.run d w with ⟨_ | ⟨_, _⟩, _⟩ <;> rfl

/-- A transaction that fails is rolled back. -/
theorem cleanAt_transaction : (transaction x).CleanAt d w := by
  intro e d' w' h
  simp only [transaction, runAuto_call, runAuto_read] at h
  rcases hx : (x.run d w).1 with e' | ⟨a, d₁⟩
  · rw [hx] at h
    cases h
    rfl
  · rw [hx] at h
    cases h

/-- What comes after a transaction does not fail. -/
theorem cleanAt_transaction_bind
    (hk : ∀ a d' w', x.run d w = (.ok (a, d'), w') → (k a).Succeeds d' w') :
    (transaction x >>= k).CleanAt d w := by
  intro e d₁ w₁ h
  rw [runAuto_bind] at h
  rcases hr : (transaction x).runAuto d w with ⟨r, d', w'⟩
  rw [hr] at h
  cases r with
  | ok a =>
    obtain ⟨b, d₂, w₂, hb⟩ := hk a d' w' (by rw [← run_transaction]; exact runAuto_ok.mp hr)
    dsimp only at h
    rw [hb] at h
    cases h
  | error e' =>
    cases h
    exact cleanAt_transaction _ _ _ hr

/-! ## What a program preserves -/

/-- What holds of the database before the program holds after it, also if the program fails half
way. -/
def Preserves (P : D → Prop) (x : Prog D κ ω ε α) : Prop :=
  ∀ d w, P d → P (x.runAuto d w).2.1

/-- A program goes on with an answer of the first one. -/
theorem Preserves.bind {P : D → Prop} (hx : x.Preserves P)
    (hk : ∀ a d w d' w', P d → x.run d w = (.ok (a, d'), w') → (k a).Preserves P) :
    (x >>= k).Preserves P := by
  intro d w hd
  have hfirst := hx d w hd
  rw [runAuto_bind]
  rcases h : x.runAuto d w with ⟨e | a, d', w'⟩
  · rwa [h] at hfirst
  · rw [h] at hfirst
    exact hk a d w d' w' hd (runAuto_ok.mp h) d' w' hfirst

theorem ReadOnly.preserves {P : D → Prop} (hx : x.ReadOnly) : x.Preserves P := by
  intro d w hd
  rwa [hx.runAuto_snd]

theorem FailsClean.preserves {P : D → Prop} (hx : x.FailsClean)
    (hok : ∀ d w a d' w', P d → x.run d w = (.ok (a, d'), w') → P d') : x.Preserves P := by
  intro d w hd
  rcases h : x.runAuto d w with ⟨e | a, d', w'⟩
  · exact (hx d w e d' w' h).1 ▸ hd
  · exact hok d w a d' w' hd (runAuto_ok.mp h)

theorem preserves_transaction {P : D → Prop}
    (hok : ∀ d w a d' w', P d → x.run d w = (.ok (a, d'), w') → P d') :
    (transaction x).Preserves P := by
  intro d w hd
  rw [runAuto_transaction]
  rcases h : x.run d w with ⟨e | ⟨a, d'⟩, w'⟩
  · exact hd
  · exact hok d w a d' w' hd h

theorem preserves_invoke {P : D → Prop} {f : ω → Except ε α × ω} :
    (invoke f : Prog D κ ω ε α).Preserves P := by
  intro d w hd
  simp only [invoke, runAuto_call]
  cases (f w).1 <;> exact hd

theorem preserves_attempt {P : D → Prop} {f : ω → Except ε α × ω} :
    (attempt f : Prog D κ ω ε (Except ε α)).Preserves P :=
  fun _ _ hd => hd

/-! ## What a program leaves alone -/

/-- The program makes no call, and its writes leave `f` of the database as it is. -/
def Quiet (f : D → γ) : Prog D κ ω ε α → Prop
  | done _ => True
  | fail _ => True
  | read next => ∀ d, (next d).Quiet f
  | write _ _ patch next => (∀ d, f (patch d) = f d) ∧ next.Quiet f
  | call _ _ => False

/-- The program makes one call at most, which moves the outside world along `R`, and its writes
leave `f` of the database as it is. -/
def CallsOnce (f : D → γ) (R : ω → ω → Prop) : Prog D κ ω ε α → Prop
  | done _ => True
  | fail _ => True
  | read next => ∀ d, (next d).CallsOnce f R
  | write _ _ patch next => (∀ d, f (patch d) = f d) ∧ next.CallsOnce f R
  | call effect next => ∀ w, R w (effect w) ∧ (next w).Quiet f

section

variable {f : D → γ} {R : ω → ω → Prop}

theorem Quiet.callsOnce (hx : x.Quiet f) : x.CallsOnce f R := by
  induction x with
  | done a => trivial
  | fail e => trivial
  | read next ih => exact fun d => ih d (hx d)
  | write rows fails patch next ih => exact ⟨hx.1, ih hx.2⟩
  | call effect next => exact hx.elim

/-- What leaves `f` alone leaves alone what depends on `f` only. -/
theorem Quiet.comp {δ : Type} (hx : x.Quiet f) (g : γ → δ) : x.Quiet (g ∘ f) := by
  induction x with
  | done a => trivial
  | fail e => trivial
  | read next ih => exact fun d => ih d (hx d)
  | write rows fails patch next ih => exact ⟨fun d => congrArg g (hx.1 d), ih hx.2⟩
  | call effect next => exact hx.elim

theorem Quiet.bind (hx : x.Quiet f) (hk : ∀ a, (k a).Quiet f) : (x >>= k).Quiet f := by
  show (x.bind k).Quiet f
  induction x with
  | done a => exact hk a
  | fail e => trivial
  | read next ih => exact fun d => ih d (hx d)
  | write rows fails patch next ih => exact ⟨hx.1, ih hx.2⟩
  | call effect next => exact hx.elim

theorem Quiet.bind_callsOnce (hx : x.Quiet f) (hk : ∀ a, (k a).CallsOnce f R) :
    (x >>= k).CallsOnce f R := by
  show (x.bind k).CallsOnce f R
  induction x with
  | done a => exact hk a
  | fail e => trivial
  | read next ih => exact fun d => ih d (hx d)
  | write rows fails patch next ih => exact ⟨hx.1, ih hx.2⟩
  | call effect next => exact hx.elim

theorem CallsOnce.bind (hx : x.CallsOnce f R) (hk : ∀ a, (k a).Quiet f) :
    (x >>= k).CallsOnce f R := by
  show (x.bind k).CallsOnce f R
  induction x with
  | done a => exact Quiet.callsOnce (hk a)
  | fail e => trivial
  | read next ih => exact fun d => ih d (hx d)
  | write rows fails patch next ih => exact ⟨hx.1, ih hx.2⟩
  | call effect next => exact fun w => ⟨(hx w).1, (hx w).2.bind hk⟩

theorem ReadOnly.quiet (hx : x.ReadOnly) : x.Quiet f := by
  induction x with
  | done a => trivial
  | fail e => trivial
  | read next ih => exact fun d => ih d (hx d)
  | write rows fails patch next => exact hx.elim
  | call effect next => exact hx.elim

/-- A run without calls leaves the outside world as it was, also when it fails. -/
theorem Quiet.run_snd (hx : x.Quiet f) (d : D) (w : ω) : (x.run d w).2 = w := by
  induction x generalizing d with
  | done a => rfl
  | fail e => rfl
  | read next ih => exact ih d (hx d) d
  | write rows fails patch next ih =>
    simp only [run_write]
    cases fails d with
    | none => exact ih hx.2 _
    | some e => rfl
  | call effect next => exact hx.elim

/-- What a program does outside if its first part does nothing there. -/
theorem Quiet.bind_run_snd (hx : x.Quiet f) {P : ω → Prop} (hw : P w)
    (hk : ∀ a d', x.run d w = (.ok (a, d'), w) → P ((k a).run d' w).2) :
    P ((x >>= k).run d w).2 := by
  have hquiet := hx.run_snd d w
  rw [run_bind]
  rcases hrun : x.run d w with ⟨_ | ⟨a, d'⟩, w'⟩
  all_goals
    rw [hrun] at hquiet
    obtain rfl : w' = w := hquiet
  · exact hw
  · exact hk a d' hrun

theorem Quiet.runAuto_snd (hx : x.Quiet f) (d : D) (w : ω) : (x.runAuto d w).2.2 = w := by
  induction x generalizing d with
  | done a => rfl
  | fail e => rfl
  | read next ih => exact ih d (hx d) d
  | write rows fails patch next ih =>
    simp only [runAuto_write]
    cases fails d with
    | none => exact ih hx.2 _
    | some e => rfl
  | call effect next => exact hx.elim

theorem Quiet.transaction_snd (hx : x.Quiet f) (d : D) (w : ω) :
    ((transaction x).runAuto d w).2.2 = w := by
  have hrun := hx.run_snd d w
  rw [runAuto_transaction]
  rcases hx' : x.run d w with ⟨_ | ⟨_, _⟩, w'⟩ <;> rw [hx'] at hrun <;> exact hrun

/-- A run with one call leaves the outside world as it was or as the call left it, also when it
fails. -/
theorem CallsOnce.run_snd (hx : x.CallsOnce f R) (d : D) (w : ω) :
    (x.run d w).2 = w ∨ R w (x.run d w).2 := by
  induction x generalizing d with
  | done a => exact Or.inl rfl
  | fail e => exact Or.inl rfl
  | read next ih => exact ih d (hx d) d
  | write rows fails patch next ih =>
    simp only [run_write]
    cases fails d with
    | none => exact ih hx.2 _
    | some e => exact Or.inl rfl
  | call effect next =>
    have hquiet : ((next w).run d (effect w)).2 = effect w := (hx w).2.run_snd d _
    exact Or.inr (hquiet ▸ (hx w).1)

/-- What the writes leave alone is as before, also outside a transaction that failed. -/
theorem CallsOnce.runAuto_left (hx : x.CallsOnce f R) (d : D) (w : ω) :
    f (x.runAuto d w).2.1 = f d := by
  induction x generalizing d w with
  | done a => rfl
  | fail e => rfl
  | read next ih => exact ih d (hx d) d w
  | write rows fails patch next ih =>
    simp only [runAuto_write]
    cases fails d with
    | none => exact (ih hx.2 _ w).trans (hx.1 d)
    | some e => rfl
  | call effect next ih => exact ih w (hx w).2.callsOnce d (effect w)

theorem Quiet.runAuto_left (hx : x.Quiet f) (d : D) (w : ω) : f (x.runAuto d w).2.1 = f d :=
  (Quiet.callsOnce (R := fun _ _ => True) hx).runAuto_left d w

theorem CallsOnce.run_left (hx : x.CallsOnce f R) (h : x.run d w = (.ok (a, d'), w')) :
    f d' = f d := by
  have hleft := hx.runAuto_left d w
  rwa [runAuto_ok.mpr h] at hleft

theorem quiet_select {g : D → α} : (select g : Prog D κ ω ε α).Quiet f := fun _ => trivial

theorem quiet_require {c : Prop} [Decidable c] {e : ε} :
    (require c e : Prog D κ ω ε Unit).Quiet f := readOnly_require.quiet

theorem quiet_ofExcept {r : Except ε α} : (ofExcept r : Prog D κ ω ε α).Quiet f :=
  readOnly_ofExcept.quiet

theorem quiet_doWhen {c : Prop} [Decidable c] {x : Prog D κ ω ε Unit} (hx : x.Quiet f) :
    (doWhen c x).Quiet f := by
  unfold doWhen
  split
  · exact hx
  · trivial

theorem callsOnce_doWhen {c : Prop} [Decidable c] {x : Prog D κ ω ε Unit}
    (hx : x.CallsOnce f R) : (doWhen c x).CallsOnce f R := by
  unfold doWhen
  split
  · exact hx
  · trivial

theorem quiet_exec {rows : List κ} {fails : D → Option ε} {patch : D → D}
    (hf : ∀ d, f (patch d) = f d) : (exec rows fails patch : Prog D κ ω ε Unit).Quiet f :=
  ⟨hf, trivial⟩

theorem quiet_returning {rows : List κ} {fails : D → Option ε} {patch : D → D}
    {g : D → Except ε α} (hf : ∀ d, f (patch d) = f d) :
    (returning rows fails patch g : Prog D κ ω ε α).Quiet f := by
  refine ⟨hf, fun d => ?_⟩
  dsimp only
  cases g d <;> trivial

theorem callsOnce_invoke {g : ω → Except ε α × ω} (hg : ∀ w, R w (g w).2) :
    (invoke g : Prog D κ ω ε α).CallsOnce f R := by
  intro w
  refine ⟨hg w, ?_⟩
  dsimp only
  cases (g w).1 <;> trivial

end

/-! ## What a program makes of a part of the database -/

/-- A run that ends well takes `f` of the database from one value to another as `R` says of its
answer. -/
def Takes (f : D → γ) (R : α → γ → γ → Prop) (x : Prog D κ ω ε α) : Prop :=
  ∀ d w a d' w', x.run d w = (.ok (a, d'), w') → R a (f d) (f d')

section

variable {f : D → γ} {R : β → γ → γ → Prop} {Q : γ → γ → Prop}

theorem Quiet.takes (hx : x.Quiet f) : x.Takes f fun _ c c' => c' = c :=
  fun _ _ _ _ _ h => (Quiet.callsOnce (R := fun _ _ => True) hx).run_left h

theorem takes_exec {rows : List κ} {fails : D → Option ε} {patch : D → D}
    (h : ∀ d, Q (f d) (f (patch d))) :
    (exec rows fails patch : Prog D κ ω ε Unit).Takes f fun _ => Q := by
  intro d w a d' w' hrun
  obtain ⟨-, rfl, -⟩ := run_exec_ok.mp hrun
  exact h d

/-- One part of the program, then the other. -/
theorem Takes.bind {R₁ : β → γ → γ → Prop} (hx : x.Takes f fun _ => Q)
    (hk : ∀ a, (k a).Takes f R₁) (h : ∀ b c c' c'', Q c c' → R₁ b c' c'' → R b c c'') :
    (x >>= k).Takes f R := by
  intro d w b d' w' hrun
  obtain ⟨a, d₁, w₁, h₁, h₂⟩ := run_bind_ok.mp hrun
  exact h b _ _ _ (hx d w a d₁ w₁ h₁) (hk a d₁ w₁ b d' w' h₂)

/-- What leaves `f` alone may come first. -/
theorem Quiet.bind_takes (hx : x.Quiet f) (hk : ∀ a, (k a).Takes f R) : (x >>= k).Takes f R :=
  hx.takes.bind hk fun _ _ _ _ hc h => hc ▸ h

/-- What leaves `f` alone may come last. -/
theorem Takes.bind_quiet (hx : x.Takes f fun _ => Q) (hk : ∀ a, (k a).Quiet f) :
    (x >>= k).Takes f fun _ => Q :=
  hx.bind (fun a => (hk a).takes) fun _ _ _ _ h hc => hc ▸ h

theorem Takes.bind_done (hx : x.Takes f fun _ => R b) :
    (x >>= fun _ => done b).Takes f R := by
  intro d w b' d' w' hrun
  obtain ⟨a, d₁, w₁, h₁, h₂⟩ := run_bind_ok.mp hrun
  obtain ⟨rfl, rfl, rfl⟩ := run_done_ok.mp h₂
  exact hx d w a d' w' h₁

theorem Takes.transaction {R : α → γ → γ → Prop} (hx : x.Takes f R) :
    (transaction x).Takes f R := by
  intro d w a d' w' h
  rw [run_transaction] at h
  exact hx d w a d' w' h

end

end Prog

end Infra
