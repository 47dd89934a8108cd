import LedgerLight.Infra.Machine

/-!
# Deliveries that may be repeated

A sender that does not know whether a delivery arrived sends it again. The receiver keeps the key of
every delivery it carried through, together with what the delivery did, and does nothing for a key
it has seen. A delivery may also be aborted: it then leaves nothing behind, its key neither.

* `Inbox.run_firsts` : the run over all deliveries ends where the run over the first delivery of
  each key ends.
* `Inbox.length_carried` : a key is seen after a run exactly if one delivery of it was carried
  through, or if it was seen before.
-/

namespace Infra

/-- A receiver with states `σ` of deliveries `δ` with keys `κ`. -/
structure Inbox (σ δ κ : Type) where
  key : δ → κ
  /-- What a delivery does to a state, or `none` if it is aborted. -/
  apply : σ → δ → Option σ
  seen : σ → κ → Bool
  /-- A delivery that is not aborted leaves its key seen, and makes no other key seen. -/
  seen_apply : ∀ {s d s'}, apply s d = some s' → ∀ k, seen s' k = true ↔ k = key d ∨ seen s k = true
  /-- A delivery whose key was seen changes nothing. -/
  apply_seen : ∀ {s d s'}, seen s (key d) = true → apply s d = some s' → s' = s

namespace Inbox

variable {σ δ κ : Type} (I : Inbox σ δ κ)

/-- An aborted delivery leaves the state as it was. -/
def machine : Machine σ δ where
  step s d := (I.apply s d).getD s

variable {I} {s s' : σ} {d : δ} {k : κ}

theorem step_of_apply (h : I.apply s d = some s') : I.machine.step s d = s' := by
  simp [machine, h]

theorem step_of_aborted (h : I.apply s d = none) : I.machine.step s d = s := by
  simp [machine, h]

/-- A key that was seen stays seen. -/
theorem seen_run (h : I.seen s k = true) (ds : List δ) : I.seen (I.machine.run s ds) k = true := by
  refine Machine.run_invariant' (I := fun s => I.seen s k = true) (fun s d hs => ?_) h ds
  cases hd : I.apply s d with
  | none => rwa [step_of_aborted hd]
  | some s' =>
    rw [step_of_apply hd]
    exact (I.seen_apply hd k).mpr (Or.inr hs)

variable [DecidableEq κ] (I)

/-- The first delivery of each key that is not aborted, without the keys in `done`. -/
def firsts : List κ → σ → List δ → List δ
  | _, _, [] => []
  | done, s, d :: ds =>
    match I.apply s d with
    | none => firsts done s ds
    | some s' =>
      if I.key d ∈ done then firsts done s' ds
      else d :: firsts (I.key d :: done) s' ds

omit [DecidableEq κ] in
/-- The deliveries that are neither aborted nor repeated. -/
def carried : σ → List δ → List δ
  | _, [] => []
  | s, d :: ds =>
    match I.apply s d with
    | none => carried s ds
    | some s' => if I.seen s (I.key d) = true then carried s' ds else d :: carried s' ds

variable {I}

/-- **The first deliveries are enough**, if the keys that are left out were seen. -/
theorem run_firsts {done : List κ} (hdone : ∀ k ∈ done, I.seen s k = true) (ds : List δ) :
    I.machine.run s (I.firsts done s ds) = I.machine.run s ds := by
  induction ds generalizing done s with
  | nil => rfl
  | cons d ds ih =>
    simp only [firsts, Machine.run_cons]
    cases h : I.apply s d with
    | none =>
      rw [step_of_aborted h]
      exact ih hdone
    | some s' =>
      rw [step_of_apply h]
      dsimp only
      split
      · next hmem =>
        -- the key was seen: the delivery changes nothing
        obtain rfl : s' = s := I.apply_seen (hdone _ hmem) h
        exact ih hdone
      · rw [Machine.run_cons, step_of_apply h]
        refine ih fun k hk => (I.seen_apply h k).mpr ?_
        rcases List.mem_cons.mp hk with rfl | hk
        · exact Or.inl rfl
        · exact Or.inr (hdone k hk)

/-- **One delivery of each key is carried through.** -/
theorem length_carried (ds : List δ) (k : κ) :
    ((I.carried s ds).filter fun d => I.key d = k).length =
      (!I.seen s k && I.seen (I.machine.run s ds) k).toNat := by
  induction ds generalizing s with
  | nil => simp [carried]
  | cons d ds ih =>
    simp only [carried, Machine.run_cons]
    cases h : I.apply s d with
    | none =>
      rw [step_of_aborted h]
      exact ih
    | some s' =>
      rw [step_of_apply h]
      have hseen := I.seen_apply h k
      dsimp only
      split
      · next hold =>
        obtain rfl : s' = s := I.apply_seen hold h
        exact ih
      · next hnew =>
        by_cases hk : I.key d = k
        · -- the key is seen from here on: no later delivery of it is carried through
          subst hk
          have hs' : I.seen s' (I.key d) = true := hseen.mpr (Or.inl rfl)
          have hend := seen_run hs' ds
          simp [ih, hs', hend, hnew]
        · have hsame : I.seen s' k = I.seen s k := by
            rw [Bool.eq_iff_iff, hseen]
            simp [Ne.symm hk]
          simp [hk, ih, hsame]

end Inbox

end Infra
