import LedgerLight.Infra.Prog

/-!
# Programs over two outside worlds

A program learns of the outside world what its calls answer. Two programs of the same statements
whose calls answer the same end alike, also if one of the two worlds holds more than the other.

* `Prog.Mirrors` : the same statements, over a world and over what a function sees of it.
* `Prog.Mirrors.bind` : the rule for programs one after the other.
* `Prog.Mirrors.run`, `Prog.Mirrors.runAuto` : they end alike.
-/

namespace Infra.Prog

variable {D κ ω ω' ε α β : Type} {see : ω → ω'}

/-- The same statements, over a world and over what `see` shows of it. -/
inductive Mirrors (see : ω → ω') : Prog D κ ω ε α → Prog D κ ω' ε α → Prop
  | done (a : α) : Mirrors see (done a) (done a)
  | fail (e : ε) : Mirrors see (fail e) (fail e)
  | read {next next'} (h : ∀ d, Mirrors see (next d) (next' d)) :
      Mirrors see (read next) (read next')
  | write {rows fails patch next next'} (h : Mirrors see next next') :
      Mirrors see (write rows fails patch next) (write rows fails patch next')
  | call {effect effect' next next'} (heffect : ∀ w, effect' (see w) = see (effect w))
      (h : ∀ w, Mirrors see (next w) (next' (see w))) :
      Mirrors see (call effect next) (call effect' next')

variable {x : Prog D κ ω ε α} {y : Prog D κ ω' ε α} {k : α → Prog D κ ω ε β}
  {l : α → Prog D κ ω' ε β}

theorem Mirrors.bind (hx : x.Mirrors see y) (hk : ∀ a, (k a).Mirrors see (l a)) :
    (x >>= k).Mirrors see (y >>= l) := by
  show (x.bind k).Mirrors see (y.bind l)
  induction hx with
  | done a => exact hk a
  | fail e => exact .fail e
  | read _ ih => exact .read ih
  | write _ ih => exact .write ih
  | call heffect _ ih => exact .call heffect ih

theorem Mirrors.map (hx : x.Mirrors see y) (f : α → β) : (f <$> x).Mirrors see (f <$> y) :=
  hx.bind fun a => .done (f a)

/-! ## Statements -/

theorem mirrors_pure (a : α) : (pure a : Prog D κ ω ε α).Mirrors see (pure a) := .done a

theorem mirrors_select (g : D → α) : (select g : Prog D κ ω ε α).Mirrors see (select g) :=
  .read fun d => .done (g d)

theorem mirrors_exec (rows : List κ) (fails : D → Option ε) (patch : D → D) :
    (exec rows fails patch : Prog D κ ω ε Unit).Mirrors see (exec rows fails patch) :=
  .write (.done ())

theorem mirrors_returning (rows : List κ) (fails : D → Option ε) (patch : D → D)
    (g : D → Except ε α) :
    (returning rows fails patch g : Prog D κ ω ε α).Mirrors see (returning rows fails patch g) := by
  refine .write (.read fun d => ?_)
  cases g d with
  | ok a => exact .done a
  | error e => exact .fail e

theorem mirrors_require (c : Prop) [Decidable c] (e : ε) :
    (require c e : Prog D κ ω ε Unit).Mirrors see (require c e) := by
  unfold require
  split
  · exact .done ()
  · exact .fail e

theorem mirrors_doWhen (c : Prop) [Decidable c] {x : Prog D κ ω ε Unit} {y : Prog D κ ω' ε Unit}
    (h : x.Mirrors see y) : (doWhen c x).Mirrors see (doWhen c y) := by
  unfold doWhen
  split
  · exact h
  · exact .done ()

theorem mirrors_ofExcept (r : Except ε α) :
    (ofExcept r : Prog D κ ω ε α).Mirrors see (ofExcept r) := by
  cases r with
  | ok a => exact .done a
  | error e => exact .fail e

/-- A call that answers the same over both worlds, and does the same to what is seen. -/
theorem mirrors_invoke {f : ω → Except ε α × ω} {g : ω' → Except ε α × ω'}
    (h : ∀ w, g (see w) = ((f w).1, see (f w).2)) :
    (invoke f : Prog D κ ω ε α).Mirrors see (invoke g) := by
  refine .call (fun w => congrArg Prod.snd (h w)) fun w => ?_
  rw [h]
  cases (f w).1 with
  | ok a => exact .done a
  | error e => exact .fail e

/-! ## Runs -/

/-- **They end alike**, as transactions. -/
theorem Mirrors.run (h : x.Mirrors see y) (d : D) (w : ω) :
    y.run d (see w) = ((x.run d w).1, see (x.run d w).2) := by
  induction h generalizing d w with
  | done a => rfl
  | fail e => rfl
  | read _ ih => exact ih d d w
  | @write rows fails patch next next' _ ih =>
    simp only [run_write]
    cases fails d with
    | none => exact ih _ w
    | some e => rfl
  | @call effect effect' next next' heffect _ ih =>
    simp only [run_call]
    rw [heffect]
    exact ih w d _

/-- They end alike outside a transaction. -/
theorem Mirrors.runAuto (h : x.Mirrors see y) (d : D) (w : ω) :
    y.runAuto d (see w) =
      ((x.runAuto d w).1, (x.runAuto d w).2.1, see (x.runAuto d w).2.2) := by
  induction h generalizing d w with
  | done a => rfl
  | fail e => rfl
  | read _ ih => exact ih d d w
  | @write rows fails patch next next' _ ih =>
    simp only [runAuto_write]
    cases fails d with
    | none => exact ih _ w
    | some e => rfl
  | @call effect effect' next next' heffect _ ih =>
    simp only [runAuto_call]
    rw [heffect]
    exact ih w d _

end Infra.Prog
