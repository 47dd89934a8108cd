import LedgerLight.Infra.Prog

/-!
# How a program fails

A run from a given state either ends well, or it fails in one of the ways that the program's steps
list.

* `Prog.FailsWith` : if the program fails, then with an error and an outside world of a set.
* `Prog.FailsWith.bind` : steps that all fail in those ways only are a program that does.
-/

namespace Infra.Prog

variable {D κ ω ε α β : Type} {x : Prog D κ ω ε α} {k : α → Prog D κ ω ε β} {d d' : D} {w w' : ω}
  {a : α} {E E' : ε → ω → Prop}

/-- From the state `d`, if `x` fails then in one of the ways `E`. -/
def FailsWith (x : Prog D κ ω ε α) (d : D) (w : ω) (E : ε → ω → Prop) : Prop :=
  ∀ e w', x.run d w = (.error e, w') → E e w'

theorem FailsWith.ends (h : x.FailsWith d w E) :
    (∃ a d' w', x.run d w = (.ok (a, d'), w')) ∨
      ∃ e w', x.run d w = (.error e, w') ∧ E e w' := by
  rcases hrun : x.run d w with ⟨_ | ⟨a, d'⟩, w'⟩
  · exact Or.inr ⟨_, _, rfl, h _ _ hrun⟩
  · exact Or.inl ⟨a, d', w', rfl⟩

theorem failsWith_of_ok (h : x.run d w = (.ok (a, d'), w')) : x.FailsWith d w E := by
  intro e w'' hrun
  rw [h] at hrun
  cases hrun

/-- A step that succeeds is followed by what fails in the ways `E`. -/
theorem FailsWith.after (h : x.run d w = (.ok (a, d'), w')) (hk : (k a).FailsWith d' w' E) :
    (x >>= k).FailsWith d w E := by
  intro e w'' hrun
  rw [run_bind_of h] at hrun
  exact hk e w'' hrun

theorem FailsWith.bind (hx : x.FailsWith d w E)
    (hk : ∀ a d' w', x.run d w = (.ok (a, d'), w') → (k a).FailsWith d' w' E) :
    (x >>= k).FailsWith d w E := by
  intro e w'' hrun
  rcases hx.ends with ⟨a, d', w', hok⟩ | ⟨e', w', herror, hE⟩
  · rw [run_bind_of hok] at hrun
    exact hk a d' w' hok e w'' hrun
  · rw [run_bind, herror] at hrun
    cases hrun
    exact hE

theorem failsWith_fail {e : ε} (h : E e w) : (fail e : Prog D κ ω ε α).FailsWith d w E := by
  intro e' w' hrun
  cases hrun
  exact h

theorem failsWith_require {c : Prop} [Decidable c] {e : ε} (h : ¬ c → E e w) :
    (require c e : Prog D κ ω ε Unit).FailsWith d w E := by
  unfold require
  by_cases hc : c
  · rw [if_pos hc]
    exact failsWith_of_ok (run_pure_ok.mpr ⟨rfl, rfl, rfl⟩)
  · rw [if_neg hc]
    exact failsWith_fail (h hc)

theorem failsWith_ofExcept {r : Except ε α} (h : ∀ e, r = .error e → E e w) :
    (ofExcept r : Prog D κ ω ε α).FailsWith d w E := by
  cases r with
  | error e => exact failsWith_fail (h e rfl)
  | ok a => exact failsWith_of_ok (run_pure_ok.mpr ⟨rfl, rfl, rfl⟩)

theorem failsWith_invoke {f : ω → Except ε α × ω}
    (h : ∀ e, (f w).1 = .error e → E e (f w).2) :
    (invoke f : Prog D κ ω ε α).FailsWith d w E := by
  unfold invoke
  intro e w' hrun
  simp only [run_call] at hrun
  cases hf : (f w).1 with
  | ok a => rw [hf] at hrun; cases hrun
  | error e' =>
    rw [hf] at hrun
    cases hrun
    exact h _ hf

theorem failsWith_doWhen {c : Prop} [Decidable c] {x : Prog D κ ω ε Unit}
    (h : c → x.FailsWith d w E) : (doWhen c x).FailsWith d w E := by
  unfold doWhen
  by_cases hc : c
  · rw [if_pos hc]
    exact h hc
  · rw [if_neg hc]
    exact failsWith_of_ok (run_pure_ok.mpr ⟨rfl, rfl, rfl⟩)

end Infra.Prog
