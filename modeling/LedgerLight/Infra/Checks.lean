import LedgerLight.Infra.Prog

/-!
# When a program succeeds

The exact condition, put together from those of the steps.

* `Prog.Finds` : what a program answers that changes nothing, if it does not fail.
* `Prog.Finds.bind` : such programs one after the other.
* `Prog.succeeds_bind_iff` : a program succeeds if its rest does, after its first part.
-/

namespace Infra.Prog

variable {D κ ω ε α β : Type} {x : Prog D κ ω ε α} {k : α → Prog D κ ω ε β} {d d' : D} {w w' : ω}
  {a : α} {P : Prop} {R R' : α → Prop} {Q : α → β → Prop}

/-! ## Programs that find something -/

/-- From the state `d` the program answers what is in `R`, changes nothing, or fails. -/
def Finds (x : Prog D κ ω ε α) (d : D) (w : ω) (R : α → Prop) : Prop :=
  ∀ a d' w', x.run d w = (.ok (a, d'), w') ↔ R a ∧ d' = d ∧ w' = w

theorem Finds.bind (hx : x.Finds d w R) (hk : ∀ a, R a → (k a).Finds d w (Q a)) :
    (x >>= k).Finds d w fun b => ∃ a, R a ∧ Q a b := by
  intro b d' w'
  rw [run_bind_ok]
  constructor
  · rintro ⟨a, d₁, w₁, hrun, hrest⟩
    obtain ⟨ha, rfl, rfl⟩ := (hx a d₁ w₁).mp hrun
    obtain ⟨hb, rfl, rfl⟩ := (hk a ha b d' w').mp hrest
    exact ⟨⟨a, ha, hb⟩, rfl, rfl⟩
  · rintro ⟨⟨a, ha, hb⟩, rfl, rfl⟩
    exact ⟨a, d', w', (hx a d' w').mpr ⟨ha, rfl, rfl⟩, (hk a ha b d' w').mpr ⟨hb, rfl, rfl⟩⟩

theorem Finds.congr (hx : x.Finds d w R) (h : ∀ a, R a ↔ R' a) : x.Finds d w R' :=
  fun a d' w' => (hx a d' w').trans (and_congr_left fun _ => h a)

theorem finds_pure : (pure a : Prog D κ ω ε α).Finds d w fun a' => a' = a := fun _ _ _ => run_pure_ok

theorem finds_select {g : D → α} : (select g : Prog D κ ω ε α).Finds d w fun a => a = g d :=
  fun _ _ _ => run_select_ok

theorem finds_require {c : Prop} [Decidable c] {e : ε} :
    (require c e : Prog D κ ω ε Unit).Finds d w fun _ => c := fun _ _ _ => run_require_ok

theorem finds_doWhen {c : Prop} [Decidable c] {x : Prog D κ ω ε Unit}
    (hx : x.Finds d w fun _ => P) : (doWhen c x).Finds d w fun _ => c → P := by
  intro u d' w'
  rw [run_doWhen_ok, hx u d' w']
  by_cases hc : c <;> simp [hc]

/-! ## Programs that succeed -/

theorem succeeds_iff : x.Succeeds d w ↔ ∃ a d' w', x.run d w = (.ok (a, d'), w') := by
  simp only [Succeeds, runAuto_ok]

theorem succeeds_bind_iff :
    (x >>= k).Succeeds d w ↔
      ∃ a d' w', x.run d w = (.ok (a, d'), w') ∧ (k a).Succeeds d' w' := by
  rw [succeeds_iff]
  constructor
  · rintro ⟨b, d', w', h⟩
    obtain ⟨a, d₁, w₁, hx, hk⟩ := run_bind_ok.mp h
    exact ⟨a, d₁, w₁, hx, succeeds_iff.mpr ⟨b, d', w', hk⟩⟩
  · rintro ⟨a, d₁, w₁, hx, hk⟩
    obtain ⟨b, d', w', hk⟩ := succeeds_iff.mp hk
    exact ⟨b, d', w', run_bind_ok.mpr ⟨a, d₁, w₁, hx, hk⟩⟩

/-- What is found goes on from the same state. -/
theorem Finds.succeeds_bind_iff (hx : x.Finds d w R) :
    (x >>= k).Succeeds d w ↔ ∃ a, R a ∧ (k a).Succeeds d w := by
  rw [Prog.succeeds_bind_iff]
  constructor
  · rintro ⟨a, d', w', hrun, hk⟩
    obtain ⟨ha, rfl, rfl⟩ := (hx a d' w').mp hrun
    exact ⟨a, ha, hk⟩
  · rintro ⟨a, ha, hk⟩
    exact ⟨a, d, w, (hx a d w).mpr ⟨ha, rfl, rfl⟩, hk⟩

theorem succeeds_map_iff {f : α → β} : (f <$> x).Succeeds d w ↔ x.Succeeds d w := by
  rw [succeeds_iff, succeeds_iff]
  constructor
  · rintro ⟨b, d', w', h⟩
    obtain ⟨a, -, ha⟩ := run_map_ok.mp h
    exact ⟨a, d', w', ha⟩
  · rintro ⟨a, d', w', h⟩
    exact ⟨f a, d', w', run_map_ok.mpr ⟨a, rfl, h⟩⟩

theorem succeeds_transaction_iff : (transaction x).Succeeds d w ↔ x.Succeeds d w := by
  rw [succeeds_iff, succeeds_iff, run_transaction]

/-- What comes after it never fails. -/
theorem succeeds_bind_left
    (hk : ∀ a d' w', x.run d w = (.ok (a, d'), w') → (k a).Succeeds d' w') :
    (x >>= k).Succeeds d w ↔ x.Succeeds d w := by
  rw [succeeds_bind_iff, succeeds_iff]
  constructor
  · rintro ⟨a, d', w', hrun, -⟩
    exact ⟨a, d', w', hrun⟩
  · rintro ⟨a, d', w', hrun⟩
    exact ⟨a, d', w', hrun, hk a d' w' hrun⟩

theorem succeeds_exec_iff {rows : List κ} {fails : D → Option ε} {patch : D → D} :
    (exec rows fails patch : Prog D κ ω ε Unit).Succeeds d w ↔ fails d = none := by
  rw [succeeds_iff]
  constructor
  · rintro ⟨u, d', w', h⟩
    exact (run_exec_ok.mp h).1
  · intro h
    exact ⟨(), _, _, run_exec_ok.mpr ⟨h, rfl, rfl⟩⟩

/-- A statement, and what comes after it. -/
theorem succeeds_exec_bind_iff {rows : List κ} {fails : D → Option ε} {patch : D → D}
    {k : Unit → Prog D κ ω ε β} :
    (exec rows fails patch >>= k).Succeeds d w ↔
      fails d = none ∧ (k ()).Succeeds (patch d) w := by
  rw [succeeds_bind_iff]
  constructor
  · rintro ⟨u, d', w', hrun, hk⟩
    obtain ⟨hfails, rfl, rfl⟩ := run_exec_ok.mp hrun
    exact ⟨hfails, hk⟩
  · rintro ⟨hfails, hk⟩
    exact ⟨(), _, _, run_exec_ok.mpr ⟨hfails, rfl, rfl⟩, hk⟩

end Infra.Prog
