import LedgerLight.Infra.Machine
import LedgerLight.Infra.Prog

/-!
# Counting what statements do

`Prog.tally g` adds up, over the statements of a run that do not fail, what `g` says of the database
before and after each. A quantity `r` of the database keeps up with a tally when a run adds to `r`
what its statements come to.

* `Prog.Writes` : every statement takes the database along a relation.
* `Prog.Still` : no statement changes `r` or counts.
* `Prog.Balanced` : a run that ends well adds its tally to `r`.
* `Machine.meets_iff_total` : every step of a run keeps up exactly if every part of the run does.
-/

namespace Infra

namespace Prog

variable {D κ ω ε α β : Type}

/-! ## What statements do -/

/-- Every statement that does not fail takes the database along `R`. -/
def Writes (R : D → D → Prop) : Prog D κ ω ε α → Prop
  | done _ => True
  | fail _ => True
  | read next => ∀ d, (next d).Writes R
  | write _ fails patch next => (∀ d, fails d = none → R d (patch d)) ∧ next.Writes R
  | call _ next => ∀ w, (next w).Writes R

section

variable {R : D → D → Prop} {x : Prog D κ ω ε α} {k : α → Prog D κ ω ε β}

theorem Writes.bind (hx : x.Writes R) (hk : ∀ a, (k a).Writes R) : (x >>= k).Writes R := by
  show (x.bind k).Writes R
  induction x with
  | done a => exact hk a
  | fail e => trivial
  | read next ih => exact fun d => ih d (hx d)
  | write rows fails patch next ih => exact ⟨hx.1, ih hx.2⟩
  | call effect next ih => exact fun w => ih w (hx w)

theorem ReadOnly.writes (hx : x.ReadOnly) : x.Writes R := by
  induction x with
  | done a => trivial
  | fail e => trivial
  | read next ih => exact fun d => ih d (hx d)
  | write rows fails patch next => exact hx.elim
  | call effect next => exact hx.elim

theorem writes_select {g : D → α} : (select g : Prog D κ ω ε α).Writes R := fun _ => trivial

theorem writes_require {c : Prop} [Decidable c] {e : ε} :
    (require c e : Prog D κ ω ε Unit).Writes R := readOnly_require.writes

theorem writes_ofExcept {r : Except ε α} : (ofExcept r : Prog D κ ω ε α).Writes R :=
  readOnly_ofExcept.writes

theorem writes_doWhen {c : Prop} [Decidable c] {x : Prog D κ ω ε Unit} (hx : x.Writes R) :
    (doWhen c x).Writes R := by
  unfold doWhen
  split
  · exact hx
  · trivial

theorem writes_exec {rows : List κ} {fails : D → Option ε} {patch : D → D}
    (h : ∀ d, fails d = none → R d (patch d)) :
    (exec rows fails patch : Prog D κ ω ε Unit).Writes R :=
  ⟨h, trivial⟩

theorem writes_returning {rows : List κ} {fails : D → Option ε} {patch : D → D}
    {g : D → Except ε α} (h : ∀ d, fails d = none → R d (patch d)) :
    (returning rows fails patch g : Prog D κ ω ε α).Writes R := by
  refine ⟨h, fun d => ?_⟩
  dsimp only
  cases g d <;> trivial

theorem writes_invoke {f : ω → Except ε α × ω} :
    (invoke f : Prog D κ ω ε α).Writes R := by
  intro w
  dsimp only
  cases (f w).1 <;> trivial

end

/-! ## The tally of a run -/

/-- What `g` says of the statements of a run adds up to this. -/
def tally (g : D → D → Nat) : Prog D κ ω ε α → D → ω → Nat
  | done _, _, _ => 0
  | fail _, _, _ => 0
  | read next, d, w => (next d).tally g d w
  | write _ fails patch next, d, w =>
    match fails d with
    | some _ => 0
    | none => g d (patch d) + next.tally g (patch d) w
  | call effect next, d, w => (next w).tally g d (effect w)

section

variable {g : D → D → Nat} {r : D → Nat} {x : Prog D κ ω ε α} {k : α → Prog D κ ω ε β} {d d' : D}
  {w w' : ω} {a : α} {m : Nat}

theorem tally_read {next : D → Prog D κ ω ε α} :
    (read next).tally g d w = (next d).tally g d w := rfl

theorem tally_write {rows : List κ} {fails : D → Option ε} {patch : D → D}
    {next : Prog D κ ω ε α} :
    (write rows fails patch next).tally g d w =
      match fails d with
      | some _ => 0
      | none => g d (patch d) + next.tally g (patch d) w := rfl

theorem tally_bind (h : x.run d w = (.ok (a, d'), w')) :
    (x >>= k).tally g d w = x.tally g d w + (k a).tally g d' w' := by
  show (x.bind k).tally g d w = _
  induction x generalizing d w with
  | done b =>
    obtain ⟨rfl, rfl, rfl⟩ := run_done_ok.mp h
    exact (Nat.zero_add _).symm
  | fail e => cases h
  | read next ih => exact ih d h
  | write rows fails patch next ih =>
    simp only [run_write, bind, tally_write] at h ⊢
    cases hf : fails d with
    | some e => rw [hf] at h; cases h
    | none =>
      rw [hf] at h
      dsimp only at h ⊢
      rw [ih h, Nat.add_assoc]
  | call effect next ih => exact ih w h

/-- A statement that answers from the patched database. -/
theorem tally_returning {rows : List κ} {fails : D → Option ε} {patch : D → D}
    {f : D → Except ε α} (h : fails d = none) :
    (returning rows fails patch f : Prog D κ ω ε α).tally g d w = g d (patch d) := by
  simp only [returning, tally_write, tally_read, h]
  cases f (patch d) <;> rfl

/-- No statement changes `r` or counts. -/
abbrev Still (r : D → Nat) (g : D → D → Nat) (x : Prog D κ ω ε α) : Prop :=
  x.Writes fun d d' => r d' = r d ∧ g d d' = 0

/-- Nothing has changed, also where a program outside a transaction failed half way. -/
theorem Still.runAuto (hx : x.Still r g) (d : D) (w : ω) :
    r (x.runAuto d w).2.1 = r d ∧ x.tally g d w = 0 := by
  induction x generalizing d w with
  | done a => exact ⟨rfl, rfl⟩
  | fail e => exact ⟨rfl, rfl⟩
  | read next ih => exact ih d (hx d) d w
  | write rows fails patch next ih =>
    simp only [runAuto_write, tally_write]
    cases hf : fails d with
    | some e => exact ⟨rfl, rfl⟩
    | none =>
      obtain ⟨hsame, hzero⟩ := hx.1 d hf
      obtain ⟨hrest, htally⟩ := ih hx.2 (patch d) w
      exact ⟨hrest.trans hsame, by rw [hzero, htally]⟩
  | call effect next ih => exact ih w (hx w) d (effect w)

theorem Still.run (hx : x.Still r g) (h : x.run d w = (.ok (a, d'), w')) :
    r d' = r d ∧ x.tally g d w = 0 := by
  have hauto := hx.runAuto d w
  rwa [runAuto_ok.mpr h] at hauto

/-- A run that ends well adds `m` to `r`, and no statement of it counts. -/
def Adds (r : D → Nat) (g : D → D → Nat) (m : Nat) (x : Prog D κ ω ε α) (d : D) (w : ω) : Prop :=
  ∀ a d' w', x.run d w = (.ok (a, d'), w') → r d' = r d + m ∧ x.tally g d w = 0

theorem Still.adds (hx : x.Still r g) : x.Adds r g 0 d w :=
  fun _ _ _ h => hx.run h

theorem Adds.bind {m₁ m₂ : Nat} (hx : x.Adds r g m₁ d w)
    (hk : ∀ a d' w', x.run d w = (.ok (a, d'), w') → (k a).Adds r g m₂ d' w') :
    (x >>= k).Adds r g (m₁ + m₂) d w := by
  intro b d₂ w₂ h
  obtain ⟨a, d₁, w₁, h₁, h₂⟩ := run_bind_ok.mp h
  obtain ⟨hfirst, hnone⟩ := hx a d₁ w₁ h₁
  obtain ⟨hthen, hzero⟩ := hk a d₁ w₁ h₁ b d₂ w₂ h₂
  exact ⟨by rw [hthen, hfirst, Nat.add_assoc], by rw [tally_bind h₁, hnone, hzero]⟩

theorem Adds.bind_still (hx : x.Adds r g m d w) (hk : ∀ a, (k a).Still r g) :
    (x >>= k).Adds r g m d w :=
  hx.bind fun a _ _ _ => (hk a).adds

theorem Still.bind_adds (hx : x.Still r g)
    (hk : ∀ a d' w', x.run d w = (.ok (a, d'), w') → (k a).Adds r g m d' w') :
    (x >>= k).Adds r g m d w := by
  have hadds := hx.adds.bind hk
  rwa [Nat.zero_add] at hadds

theorem adds_doWhen {c : Prop} [Decidable c] {x : Prog D κ ω ε Unit} (hx : x.Adds r g m d w) :
    (doWhen c x).Adds r g (if c then m else 0) d w := by
  unfold doWhen
  split
  · exact hx
  · exact Still.adds trivial

/-- A run that ends well adds its tally to `r`. -/
def Balanced (r : D → Nat) (g : D → D → Nat) (x : Prog D κ ω ε α) (d : D) (w : ω) : Prop :=
  ∀ a d' w', x.run d w = (.ok (a, d'), w') → r d' = r d + x.tally g d w

theorem Still.balanced (hx : x.Still r g) : x.Balanced r g d w := by
  intro a d' w' h
  obtain ⟨hsame, hzero⟩ := hx.run h
  rw [hsame, hzero, Nat.add_zero]

theorem Balanced.bind (hx : x.Balanced r g d w)
    (hk : ∀ a d' w', x.run d w = (.ok (a, d'), w') → (k a).Balanced r g d' w') :
    (x >>= k).Balanced r g d w := by
  intro b d₂ w₂ h
  obtain ⟨a, d₁, w₁, h₁, h₂⟩ := run_bind_ok.mp h
  rw [hk a d₁ w₁ h₁ b d₂ w₂ h₂, hx a d₁ w₁ h₁, tally_bind h₁, Nat.add_assoc]

theorem balanced_require_bind {c : Prop} [Decidable c] {e : ε} {k : Unit → Prog D κ ω ε β}
    (hk : c → (k ()).Balanced r g d w) : (require c e >>= k).Balanced r g d w := by
  refine Balanced.bind (Still.balanced writes_require) fun u d₁ w₁ h => ?_
  obtain ⟨hc, rfl, rfl⟩ := run_require_ok.mp h
  exact hk hc

theorem balanced_ofExcept_bind {v : Except ε α} (hk : ∀ a, v = .ok a → (k a).Balanced r g d w) :
    (ofExcept v >>= k).Balanced r g d w := by
  refine Balanced.bind (Still.balanced writes_ofExcept) fun a d₁ w₁ h => ?_
  obtain ⟨hv, rfl, rfl⟩ := run_ofExcept_ok.mp h
  exact hk a hv

/-- What a statement comes to is added to `r` by what follows it. -/
theorem balanced_bind_adds {m : α → Nat}
    (hx : ∀ a d' w', x.run d w = (.ok (a, d'), w') → r d' = r d ∧ x.tally g d w = m a)
    (hk : ∀ a d' w', x.run d w = (.ok (a, d'), w') → (k a).Adds r g (m a) d' w') :
    (x >>= k).Balanced r g d w := by
  intro b d₂ w₂ h
  obtain ⟨a, d₁, w₁, h₁, h₂⟩ := run_bind_ok.mp h
  obtain ⟨hsame, hm⟩ := hx a d₁ w₁ h₁
  obtain ⟨hadded, hnone⟩ := hk a d₁ w₁ h₁ b d₂ w₂ h₂
  rw [hadded, hsame, tally_bind h₁, hm, hnone, Nat.add_zero]

end

end Prog

/-! ## Over a run of a machine -/

namespace Machine

variable {σ α : Type}

/-- What `f` says of the steps of a run adds up to this. -/
def total (M : Machine σ α) (f : σ → α → Nat) : σ → List α → Nat
  | _, [] => 0
  | s, a :: as => f s a + M.total f (M.step s a) as

theorem total_cons (M : Machine σ α) (f : σ → α → Nat) (s : σ) (a : α) (as : List α) :
    M.total f s (a :: as) = f s a + M.total f (M.step s a) as := rfl

theorem total_append (M : Machine σ α) (f : σ → α → Nat) (s : σ) (as₁ as₂ : List α) :
    M.total f s (as₁ ++ as₂) = M.total f s as₁ + M.total f (M.run s as₁) as₂ := by
  induction as₁ generalizing s with
  | nil => exact (Nat.zero_add _).symm
  | cons a as₁ ih =>
    simp only [List.cons_append, total_cons, run_cons]
    rw [ih, Nat.add_assoc]

/-- **Every step keeps up** exactly if every part of the run does, from its start. -/
theorem meets_iff_total {M : Machine σ α} {ι : Type} {r : ι → σ → Nat} {f : ι → σ → α → Nat} {s : σ}
    {as : List α} :
    M.Meets (fun s a => ∀ i, r i (M.step s a) = r i s + f i s a) s as ↔
      ∀ as₁ as₂, as = as₁ ++ as₂ → ∀ i, r i (M.run s as₁) = r i s + M.total (f i) s as₁ := by
  constructor
  · rintro h as₁ as₂ rfl i
    have hpart := ((meets_append ..).mp h).1
    clear h
    induction as₁ generalizing s with
    | nil => rfl
    | cons a as₁ ih =>
      rw [run_cons, ih hpart.2, hpart.1 i, total_cons, Nat.add_assoc]
  · intro h
    induction as generalizing s with
    | nil => trivial
    | cons a as ih =>
      have hstep : ∀ i, r i (M.step s a) = r i s + f i s a := h [a] as rfl
      refine ⟨hstep, ih fun as₁ as₂ he i => ?_⟩
      have hrun := h (a :: as₁) as₂ (by rw [he]; rfl) i
      rw [run_cons, total_cons, ← Nat.add_assoc, ← hstep i] at hrun
      exact hrun

end Machine

end Infra
