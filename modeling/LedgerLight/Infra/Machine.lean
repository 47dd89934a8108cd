import Mathlib.Data.List.Basic

/-!
# Machines and their runs

A machine says what each action does to a state. Every choice that is not the program's
(what the outside world answers, which request comes next) is part of the action, so a
machine is a function and a run is a list of actions.

* `Machine.run_invariant` : what every step keeps, every run keeps.
* `Machine.run_invariant'` : the same where nothing is assumed of the steps.
* `Machine.meets_iff` : conditions on the steps that come to the same in every run.
* `Machine.exists_step_of_run` : what was not so at first and is so at the end, some step did.
* `Machine.meets_step_iff` : what every step does, every part of the run does.
* `Machine.run_iff_since` : what holds after a run some step has set, and none has reset since.

The first rule is about runs whose steps all meet a condition `C` on the state a step is taken in
and its action (`Machine.Meets`).
-/

namespace Infra

/-- What each action does to a state. -/
structure Machine (σ α : Type) where
  step : σ → α → σ

namespace Machine

variable {σ α : Type} (M : Machine σ α)

/-- The state after a list of actions. -/
def run (s : σ) (as : List α) : σ := as.foldl M.step s

@[simp] theorem run_nil (s : σ) : M.run s [] = s := rfl

@[simp] theorem run_cons (s : σ) (a : α) (as : List α) :
    M.run s (a :: as) = M.run (M.step s a) as := rfl

theorem run_append (s : σ) (as bs : List α) : M.run s (as ++ bs) = M.run (M.run s as) bs :=
  List.foldl_append

/-- Every step of the run from `s` meets `C` in the state it is taken in. -/
def Meets (C : σ → α → Prop) : σ → List α → Prop
  | _, [] => True
  | s, a :: as => C s a ∧ Meets C (M.step s a) as

@[simp] theorem meets_nil (C : σ → α → Prop) (s : σ) : M.Meets C s [] := trivial

@[simp] theorem meets_cons (C : σ → α → Prop) (s : σ) (a : α) (as : List α) :
    M.Meets C s (a :: as) ↔ C s a ∧ M.Meets C (M.step s a) as := Iff.rfl

theorem meets_append (C : σ → α → Prop) (s : σ) (as bs : List α) :
    M.Meets C s (as ++ bs) ↔ M.Meets C s as ∧ M.Meets C (M.run s as) bs := by
  induction as generalizing s with
  | nil => simp
  | cons a as ih => simp [ih, and_assoc]

/-- Steps that meet one condition meet what follows from it. -/
theorem Meets.imp {M : Machine σ α} {C C' : σ → α → Prop} (hC : ∀ s a, C s a → C' s a) {s : σ}
    {as : List α} (h : M.Meets C s as) : M.Meets C' s as := by
  induction as generalizing s with
  | nil => trivial
  | cons a as ih => exact ⟨hC s a h.1, ih h.2⟩

/-- The steps of a run are actions of the run. -/
theorem Meets.mem {M : Machine σ α} {C : σ → α → Prop} {s : σ} {as all : List α}
    (h : M.Meets C s as) (hall : ∀ a ∈ as, a ∈ all) :
    M.Meets (fun s a => C s a ∧ a ∈ all) s as := by
  induction as generalizing s with
  | nil => trivial
  | cons a as ih =>
    exact ⟨⟨h.1, hall a List.mem_cons_self⟩, ih h.2 fun b hb => hall b (List.mem_cons_of_mem _ hb)⟩

theorem meets_true (s : σ) (as : List α) : M.Meets (fun _ _ => True) s as := by
  induction as generalizing s with
  | nil => trivial
  | cons a as ih => exact ⟨trivial, ih _⟩

instance decidableMeets (C : σ → α → Prop) [∀ s a, Decidable (C s a)] (s : σ) (as : List α) :
    Decidable (M.Meets C s as) :=
  match as with
  | [] => .isTrue trivial
  | _ :: as => @instDecidableAnd _ _ _ (decidableMeets C _ as)

/-- **The invariant rule.** -/
theorem run_invariant {M : Machine σ α} {C : σ → α → Prop} {I : σ → Prop}
    (hstep : ∀ s a, I s → C s a → I (M.step s a))
    {s : σ} {as : List α} (hs : I s) (h : M.Meets C s as) : I (M.run s as) := by
  induction as generalizing s with
  | nil => exact hs
  | cons a as ih => exact ih (hstep s a hs h.1) h.2

/-- The invariant rule without a condition on the steps. -/
theorem run_invariant' {M : Machine σ α} {I : σ → Prop} (hstep : ∀ s a, I s → I (M.step s a))
    {s : σ} (hs : I s) (as : List α) : I (M.run s as) :=
  run_invariant (fun s a h _ => hstep s a h) hs (M.meets_true s as)

/-- Two conditions that agree where an invariant holds, of which the one keeps the invariant, are met
by the same runs. -/
theorem meets_iff {M : Machine σ α} {C C' : σ → α → Prop} {I : σ → Prop}
    (hiff : ∀ s a, I s → (C s a ↔ C' s a)) (hstep : ∀ s a, I s → C s a → I (M.step s a))
    {s : σ} {as : List α} (hs : I s) : M.Meets C s as ↔ M.Meets C' s as := by
  induction as generalizing s with
  | nil => exact Iff.rfl
  | cons a as ih =>
    constructor
    · exact fun h => ⟨(hiff s a hs).mp h.1, (ih (hstep s a hs h.1)).mp h.2⟩
    · intro h
      have hc := (hiff s a hs).mpr h.1
      exact ⟨hc, (ih (hstep s a hs hc)).mpr h.2⟩

/-- **The exact condition of an invariant**: where the steps that keep it are those that meet `C`, it
holds in every state that a run goes through exactly if the whole run meets `C`. -/
theorem meets_iff_invariant {M : Machine σ α} {C : σ → α → Prop} {I : σ → Prop}
    (hiff : ∀ s a, I s → (C s a ↔ I (M.step s a))) {s : σ} {as : List α} (hs : I s) :
    M.Meets C s as ↔ ∀ as₁ as₂, as = as₁ ++ as₂ → I (M.run s as₁) := by
  constructor
  · rintro h as₁ as₂ rfl
    have hpart : M.Meets C s as₁ := ((meets_append ..).mp h).1
    exact run_invariant (fun s' a hs' ha => (hiff s' a hs').mp ha) hs hpart
  · intro h
    induction as generalizing s with
    | nil => trivial
    | cons a as ih =>
      have hnext : I (M.step s a) := h [a] as rfl
      refine ⟨(hiff s a hs).mpr hnext, ih hnext fun as₁ as₂ he => ?_⟩
      rw [he] at h
      exact h (a :: as₁) as₂ rfl

/-- What a run has come to hold, one of its steps has made so. -/
theorem exists_step_of_run {M : Machine σ α} {P : σ → Prop} {s : σ} {as : List α} (hs : ¬ P s)
    (h : P (M.run s as)) :
    ∃ as₁ a as₂, as = as₁ ++ a :: as₂ ∧ ¬ P (M.run s as₁) ∧ P (M.step (M.run s as₁) a) := by
  induction as generalizing s with
  | nil => exact absurd h hs
  | cons a as ih =>
    by_cases ha : P (M.step s a)
    · exact ⟨[], a, as, rfl, hs, ha⟩
    · obtain ⟨as₁, b, as₂, rfl, hnot, hb⟩ := ih ha h
      exact ⟨a :: as₁, b, as₂, rfl, hnot, hb⟩

/-- What every step does, every part of the run does, if it is done in parts. -/
theorem meets_step_iff {M : Machine σ α} {R : σ → σ → Prop} (hrefl : ∀ s, R s s)
    (htrans : ∀ {s s' s''}, R s s' → R s' s'' → R s s'') {s : σ} {as : List α} :
    M.Meets (fun s a => R s (M.step s a)) s as ↔
      ∀ as₁ as₂ as₃, as = as₁ ++ as₂ ++ as₃ → R (M.run s as₁) (M.run s (as₁ ++ as₂)) := by
  constructor
  · rintro h as₁ as₂ as₃ rfl
    have hpart : M.Meets (fun s a => R s (M.step s a)) (M.run s as₁) as₂ :=
      ((meets_append ..).mp ((meets_append ..).mp h).1).2
    rw [run_append]
    exact run_invariant (I := fun s' => R (M.run s as₁) s') (fun s' a hs' ha => htrans hs' ha)
      (hrefl _) hpart
  · intro h
    induction as generalizing s with
    | nil => trivial
    | cons a as ih =>
      refine ⟨h [] [a] as rfl, ih fun as₁ as₂ as₃ he => ?_⟩
      rw [he] at h
      exact h (a :: as₁) as₂ as₃ rfl

/-- **Since**: a property that some steps set and some reset holds after a run when one of the steps
has set it, or it held at first, and no step has reset it since. -/
theorem run_iff_since {M : Machine σ α} {P : σ → Prop} {sets resets : σ → α → Prop}
    {s : σ} {as : List α}
    (hstep : ∀ s, ∀ a ∈ as, P (M.step s a) ↔ P s ∧ ¬ resets s a ∨ sets s a) :
    P (M.run s as) ↔ P s ∧ M.Meets (fun s a => ¬ resets s a) s as ∨
      ∃ as₁ a as₂, as = as₁ ++ a :: as₂ ∧ sets (M.run s as₁) a ∧
        M.Meets (fun s a => ¬ resets s a) (M.run s (as₁ ++ [a])) as₂ := by
  induction as generalizing s with
  | nil => simp
  | cons a as ih =>
    have hrest := ih (s := M.step s a) fun s b hb => hstep s b (List.mem_cons_of_mem a hb)
    rw [run_cons, hrest, hstep s a List.mem_cons_self]
    constructor
    · rintro (⟨⟨hs, ha⟩ | hset, has⟩ | ⟨as₁, b, as₂, rfl, hset, has⟩)
      · exact Or.inl ⟨hs, ha, has⟩
      · exact Or.inr ⟨[], a, as, rfl, hset, has⟩
      · exact Or.inr ⟨a :: as₁, b, as₂, rfl, hset, has⟩
    · rintro (⟨hs, ha, has⟩ | ⟨as₁, b, as₂, hsplit, hset, has⟩)
      · exact Or.inl ⟨Or.inl ⟨hs, ha⟩, has⟩
      · cases as₁ with
        | nil =>
          obtain ⟨rfl, rfl⟩ := List.cons.inj hsplit
          exact Or.inl ⟨Or.inr hset, has⟩
        | cons a' as₁ =>
          obtain ⟨rfl, rfl⟩ := List.cons.inj hsplit
          exact Or.inr ⟨as₁, b, as₂, rfl, hset, has⟩

end Machine

end Infra
