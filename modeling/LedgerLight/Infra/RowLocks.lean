import LedgerLight.Infra.ReadCommitted

/-!
# What row locks give

A write locks its rows until the end of its transaction, so from then on nobody else commits a
change of what these rows hold. `cell key d` is what the database `d` holds under the lock `key`.

* `Prog.Footprint` : a program changes only the cells it locks.
* `Prog.Secures` : what a program leads to if others leave the cells it locked and otherwise commit
  only what a relation allows.
* `secured_run` : in every run of programs that keep to their footprint, every transaction does what
  was proved of its program alone.
-/

namespace Infra

namespace Prog

variable {D κ ω ε α β γ : Type} {ρ : κ → Type}

section

variable (cell : ∀ key, D → ρ key)

/-- Every write changes only the cells of the rows it locks. -/
def Footprint : Prog D κ ω ε α → Prop
  | done _ => True
  | fail _ => True
  | read next => ∀ d, (next d).Footprint
  | write rows _ patch next =>
    (∀ key, key ∉ rows → ∀ d, cell key (patch d) = cell key d) ∧ next.Footprint
  | call _ next => ∀ w, (next w).Footprint

/-- What others may commit after `n` statements, while the locks are held. -/
structure Later (rely : Nat → D → D → Prop) (locks : List κ) (n : Nat) (d d' : D) : Prop where
  rely : rely n d d'
  locked : ∀ key ∈ locks, cell key d' = cell key d

/-- `Ensures` with locks: before each statement, and before the end, others may commit what `rely`
allows and the locks do. -/
def Secures (rely : Nat → D → D → Prop) (Q : α → Nat → (D → D) → D → Prop) :
    Prog D κ ω ε α → List κ → Nat → (D → D) → D → Prop
  | done a, locks, n, writes, d => ∀ d', Later cell rely locks n d d' → Q a n writes d'
  | fail _, _, _, _, _ => True
  | read next, locks, n, writes, d =>
    ∀ d', Later cell rely locks n d d' →
      (next (writes d')).Secures rely Q locks (n + 1) writes d'
  | write rows fails patch next, locks, n, writes, d =>
    ∀ d', Later cell rely locks n d d' → fails (writes d') = none →
      next.Secures rely Q (rows ++ locks) (n + 1) (fun d => patch (writes d)) d'
  | call _ next, locks, n, writes, d =>
    ∀ d', Later cell rely locks n d d' → ∀ w, (next w).Secures rely Q locks (n + 1) writes d'

end

/-- What is allowed after more statements was allowed before. -/
def Narrowing (rely : Nat → D → D → Prop) : Prop := ∀ n d d', rely (n + 1) d d' → rely n d d'

theorem Narrowing.le {rely : Nat → D → D → Prop} (hN : Narrowing rely) {n n' : Nat} {d d' : D}
    (hn : n ≤ n') (h : rely n' d d') : rely n d d' := by
  induction hn with
  | refl => exact h
  | step _ ih => exact ih (hN _ d d' h)

/-- `p` was true when the program had run `n` statements, and others led from there to `d`. -/
def Seen (rely : Nat → D → D → Prop) (n : Nat) (p : D → Prop) (d : D) : Prop :=
  ∃ d₁, p d₁ ∧ rely n d₁ d

theorem Seen.later {rely : Nat → D → D → Prop} (hR : Rely rely) (hN : Narrowing rely)
    {n n' : Nat} {p : D → Prop} {d d' : D} (h : Seen rely n p d) (hn : n ≤ n')
    (hd : rely n' d d') : Seen rely n p d' := by
  obtain ⟨d₁, hp, h₁⟩ := h
  exact ⟨d₁, hp, hR.trans h₁ (hN.le hn hd)⟩

/-! ## Footprints -/

section

variable {cell : ∀ key, D → ρ key} {x : Prog D κ ω ε α} {k : α → Prog D κ ω ε β}

theorem Footprint.bind (hx : x.Footprint cell) (hk : ∀ a, (k a).Footprint cell) :
    (x >>= k).Footprint cell := by
  show (x.bind k).Footprint cell
  induction x with
  | done a => exact hk a
  | fail e => trivial
  | read next ih => exact fun d => ih d (hx d)
  | write rows fails patch next ih => exact ⟨hx.1, ih hx.2⟩
  | call effect next ih => exact fun w => ih w (hx w)

theorem ReadOnly.footprint (hx : x.ReadOnly) : x.Footprint cell := by
  induction x with
  | done a => trivial
  | fail e => trivial
  | read next ih => exact fun d => ih d (hx d)
  | write rows fails patch next => exact hx.elim
  | call effect next => exact hx.elim

theorem footprint_exec {rows : List κ} {fails : D → Option ε} {patch : D → D}
    (h : ∀ key, key ∉ rows → ∀ d, cell key (patch d) = cell key d) :
    (exec rows fails patch : Prog D κ ω ε Unit).Footprint cell := ⟨h, trivial⟩

theorem footprint_returning {rows : List κ} {fails : D → Option ε} {patch : D → D}
    {g : D → Except ε α} (h : ∀ key, key ∉ rows → ∀ d, cell key (patch d) = cell key d) :
    (returning rows fails patch g : Prog D κ ω ε α).Footprint cell := by
  refine ⟨h, fun d => ?_⟩
  dsimp only
  cases g d <;> trivial

theorem footprint_doWhen {c : Prop} [Decidable c] {x : Prog D κ ω ε Unit}
    (hx : x.Footprint cell) : (doWhen c x).Footprint cell := by
  unfold doWhen
  split
  · exact hx
  · trivial

end

/-! ## A program among others -/

section

variable {cell : ∀ key, D → ρ key} {rely : Nat → D → D → Prop}
  {Q Q' : α → Nat → (D → D) → D → Prop} {R : β → Nat → (D → D) → D → Prop}
  {x : Prog D κ ω ε α} {k : α → Prog D κ ω ε β} {locks : List κ} {n : Nat} {writes : D → D}
  {d d' d'' : D}

theorem Later.refl (hR : Rely rely) : Later cell rely locks n d d := ⟨hR.refl n d, fun _ _ => rfl⟩

theorem Later.trans (hR : Rely rely) (h : Later cell rely locks n d d')
    (h' : Later cell rely locks n d' d'') : Later cell rely locks n d d'' :=
  ⟨hR.trans h.rely h'.rely, fun key hkey => (h'.locked key hkey).trans (h.locked key hkey)⟩

/-- With fewer locks and after fewer statements others may commit more. -/
theorem Later.weaken (hN : Narrowing rely) {locks' : List κ} {n' : Nat}
    (hlocks : ∀ key ∈ locks, key ∈ locks') (hn : n ≤ n') (h : Later cell rely locks' n' d d') :
    Later cell rely locks n d d' :=
  ⟨hN.le hn h.rely, fun key hkey => h.locked key (hlocks key hkey)⟩

/-- What others may commit later they might have committed before. -/
theorem Later.earlier (hN : Narrowing rely) (rows : List κ)
    (h : Later cell rely (rows ++ locks) (n + 1) d d') : Later cell rely locks n d d' :=
  h.weaken hN (fun _ hkey => List.mem_append_right rows hkey) (Nat.le_succ n)

/-- What others commit changes nothing about what is secured. -/
theorem Secures.stable (hR : Rely rely) (h : x.Secures cell rely Q locks n writes d)
    (hd : Later cell rely locks n d d') : x.Secures cell rely Q locks n writes d' := by
  cases x with
  | done a => exact fun d'' h' => h d'' (hd.trans hR h')
  | fail e => trivial
  | read next => exact fun d'' h' => h d'' (hd.trans hR h')
  | write rows fails patch next => exact fun d'' h' => h d'' (hd.trans hR h')
  | call effect next => exact fun d'' h' => h d'' (hd.trans hR h')

theorem Secures.imp (hQ : ∀ a n writes d, Q a n writes d → Q' a n writes d)
    (h : x.Secures cell rely Q locks n writes d) : x.Secures cell rely Q' locks n writes d := by
  induction x generalizing locks n writes d with
  | done a => exact fun d' hd => hQ _ _ _ _ (h d' hd)
  | fail e => trivial
  | read next ih => exact fun d' hd => ih _ (h d' hd)
  | write rows fails patch next ih => exact fun d' hd hf => ih (h d' hd hf)
  | call effect next ih => exact fun d' hd w => ih w (h d' hd w)

/-- Two things that are secured are secured together. -/
theorem Secures.and (h : x.Secures cell rely Q locks n writes d)
    (h' : x.Secures cell rely Q' locks n writes d) :
    x.Secures cell rely (fun a n writes d => Q a n writes d ∧ Q' a n writes d) locks n writes
      d := by
  induction x generalizing locks n writes d with
  | done a => exact fun d' hd => ⟨h d' hd, h' d' hd⟩
  | fail e => trivial
  | read next ih => exact fun d' hd => ih _ (h d' hd) (h' d' hd)
  | write rows fails patch next ih => exact fun d' hd hf => ih (h d' hd hf) (h' d' hd hf)
  | call effect next ih => exact fun d' hd w => ih w (h d' hd w) (h' d' hd w)

/-- Whatever a program does, the state it ends in is one that others led to from the first one. -/
theorem secures_later (hR : Rely rely) (hN : Narrowing rely) :
    x.Secures cell rely (fun _ _ _ d' => Later cell rely locks n d d') locks n writes d := by
  suffices h : ∀ {locks' n' writes d'}, Later cell rely locks n d d' →
      (∀ {d' d''}, Later cell rely locks' n' d' d'' → Later cell rely locks n d' d'') →
      x.Secures cell rely (fun _ _ _ d' => Later cell rely locks n d d') locks' n' writes d' from
    h (Later.refl hR) id
  induction x with
  | done a => exact fun hd hback d'' h => hd.trans hR (hback h)
  | fail e => exact fun _ _ => trivial
  | read next ih =>
    intro locks' n' writes' d' hd hback d'' h
    refine ih _ (hd.trans hR (hback h)) fun h' => hback ?_
    exact Later.earlier hN [] h'
  | write rows fails patch next ih =>
    intro locks' n' writes' d' hd hback d'' h _
    exact ih (hd.trans hR (hback h)) fun h' => hback (h'.earlier hN _)
  | call effect next ih =>
    intro locks' n' writes' d' hd hback d'' h w
    refine ih w (hd.trans hR (hback h)) fun h' => hback ?_
    exact Later.earlier hN [] h'

/-- What the writes of a program leave alone is as it was. -/
theorem Quiet.secures {f : D → γ} (hx : x.Quiet f) :
    x.Secures cell rely (fun _ _ writes' _ => ∀ d, f (writes' d) = f (writes d)) locks n writes
      d := by
  suffices h : ∀ {locks n writes' d}, (∀ d, f (writes' d) = f (writes d)) →
      x.Secures cell rely (fun _ _ writes' _ => ∀ d, f (writes' d) = f (writes d)) locks n writes'
        d from h fun _ => rfl
  induction x with
  | done a => exact fun h _ _ => h
  | fail e => exact fun _ => trivial
  | read next ih => exact fun h d _ => ih _ (hx _) h
  | write rows fails patch next ih =>
    exact fun h _ _ _ => ih hx.2 fun d => (hx.1 _).trans (h d)
  | call effect next => exact hx.elim

theorem Secures.bind (hR : Rely rely)
    (h : ∀ locks' n' writes' d',
      (∀ key ∈ locks, key ∈ locks') → n ≤ n' → ∀ a, Q a n' writes' d' →
        (k a).Secures cell rely R locks' n' writes' d')
    (hx : x.Secures cell rely Q locks n writes d) :
    (x >>= k).Secures cell rely R locks n writes d := by
  show (x.bind k).Secures cell rely R locks n writes d
  induction x generalizing locks n writes d with
  | done a => exact h locks n writes d (fun _ hk => hk) le_rfl a (hx d (Later.refl hR))
  | fail e => trivial
  | read next ih =>
    exact fun d' hd => ih _ (fun locks' n' writes' d' hl hn =>
      h locks' n' writes' d' hl (Nat.le_of_succ_le hn)) (hx d' hd)
  | write rows fails patch next ih =>
    exact fun d' hd hf => ih (fun locks' n' writes' d' hl hn =>
      h locks' n' writes' d' (fun key hk => hl key (List.mem_append_right rows hk))
        (Nat.le_of_succ_le hn)) (hx d' hd hf)
  | call effect next ih =>
    exact fun d' hd w => ih w (fun locks' n' writes' d' hl hn =>
      h locks' n' writes' d' hl (Nat.le_of_succ_le hn)) (hx d' hd w)

/-- An answer that is only passed on. -/
theorem Secures.map {f : α → β} (hQ : ∀ a n writes d, Q a n writes d → R (f a) n writes d)
    (h : x.Secures cell rely Q locks n writes d) :
    (x >>= fun a => pure (f a)).Secures cell rely R locks n writes d := by
  show (x.bind fun a => done (f a)).Secures cell rely R locks n writes d
  induction x generalizing locks n writes d with
  | done a => exact fun d' hd => hQ _ _ _ _ (h d' hd)
  | fail e => trivial
  | read next ih => exact fun d' hd => ih _ (h d' hd)
  | write rows fails patch next ih => exact fun d' hd hf => ih (h d' hd hf)
  | call effect next ih => exact fun d' hd w => ih w (h d' hd w)

/-! ### Statement by statement -/

theorem secures_select {g : D → α}
    (h : ∀ d', Later cell rely locks n d d' →
      (k (g (writes d'))).Secures cell rely R locks (n + 1) writes d') :
    (select g >>= k).Secures cell rely R locks n writes d := h

theorem secures_require {c : Prop} [Decidable c] {e : ε} {k : Unit → Prog D κ ω ε β}
    (h : c → (k ()).Secures cell rely R locks n writes d) :
    (require c e >>= k).Secures cell rely R locks n writes d := by
  unfold require
  split
  · next hc => exact h hc
  · trivial

theorem secures_exec {rows : List κ} {fails : D → Option ε} {patch : D → D}
    {k : Unit → Prog D κ ω ε β}
    (h : ∀ d', Later cell rely locks n d d' → fails (writes d') = none →
      (k ()).Secures cell rely R (rows ++ locks) (n + 1) (fun d => patch (writes d)) d') :
    (exec rows fails patch >>= k).Secures cell rely R locks n writes d := h

theorem secures_returning {rows : List κ} {fails : D → Option ε} {patch : D → D}
    {g : D → Except ε α}
    (h : ∀ d' d'' a, Later cell rely locks n d d' → fails (writes d') = none →
      Later cell rely (rows ++ locks) (n + 1) d' d'' → g (patch (writes d'')) = .ok a →
      (k a).Secures cell rely R (rows ++ locks) (n + 2) (fun d => patch (writes d)) d'') :
    (returning rows fails patch g >>= k).Secures cell rely R locks n writes d := by
  intro d' hd hf d'' hd'
  show Secures cell rely R (Prog.bind _ k) _ _ _ _
  dsimp only
  cases hg : g (patch (writes d'')) with
  | error e => trivial
  | ok a => exact h d' d'' a hd hf hd' hg

/-- A program that only reads locks nothing and leaves what was written. -/
theorem ReadOnly.secures_bind (hx : x.ReadOnly)
    (h : ∀ a n' d', (k a).Secures cell rely R locks n' writes d') :
    (x >>= k).Secures cell rely R locks n writes d := by
  show (x.bind k).Secures cell rely R locks n writes d
  induction x generalizing n d with
  | done a => exact h a n d
  | fail e => trivial
  | read next ih => exact fun d' _ => ih _ (hx _)
  | write rows fails patch next => exact hx.elim
  | call effect next => exact hx.elim

/-- A write with an answer, as the last statement: to the end of the program the cells it locked are
as it found them. -/
theorem secures_returning_last {rows : List κ} {fails : D → Option ε} {patch : D → D}
    {g : D → Except ε α}
    (h : ∀ d' d'' a n', Later cell rely locks n d d' → fails (writes d') = none →
      (∀ key ∈ rows, cell key d'' = cell key d') → Q a n' (fun d => patch (writes d)) d'') :
    (returning rows fails patch g : Prog D κ ω ε α).Secures cell rely Q locks n writes d := by
  intro d₁ h₁ hf d₂ h₂
  dsimp only
  cases g (patch (writes d₂)) with
  | error e => trivial
  | ok a =>
    refine fun d₃ h₃ => h d₁ d₃ a _ h₁ hf fun key hkey => ?_
    have hmem : key ∈ rows ++ locks := List.mem_append_left _ hkey
    exact (h₃.locked key hmem).trans (h₂.locked key hmem)

theorem secures_ofExcept {r : Except ε α}
    (h : ∀ a, r = .ok a → (k a).Secures cell rely R locks n writes d) :
    (ofExcept r >>= k).Secures cell rely R locks n writes d := by
  cases r with
  | error e => trivial
  | ok a => exact h a rfl

theorem secures_pure {a : α}
    (h : ∀ d', Later cell rely locks n d d' → Q a n writes d') :
    (pure a : Prog D κ ω ε α).Secures cell rely Q locks n writes d := h

end

end Prog

/-! ## Many programs -/

namespace ReadCommitted

open Prog

variable {D κ ω ε ι μ : Type} {ρ : κ → Type} {cell : ∀ key, D → ρ key}
  {prog : ι → Prog D κ ω ε Unit} {move : μ → ω → ω} {contract : ι → Contract D}
  {st : Store D κ ω ε ι} {a : Move ι μ} {t : Nat} {x y : Session D κ ω ε ι}

/-- What a session wrote, and what it has still to write, is within its locks. -/
structure Session.Within (cell : ∀ key, D → ρ key) (x : Session D κ ω ε ι) : Prop where
  written : ∀ key, key ∉ x.locks → ∀ d, cell key (x.writes d) = cell key d
  rest : x.rest.Footprint cell

namespace Store

/-- Sessions write within their locks, and no lock is held twice. -/
structure Locked (cell : ∀ key, D → ρ key) (st : Store D κ ω ε ι) : Prop where
  within : ∀ t x, st.sessions.lookup t = some x → x.Within cell
  apart : ∀ t t' x y, t ≠ t' → st.sessions.lookup t = some x → st.sessions.lookup t' = some y →
    ∀ key ∈ x.locks, key ∉ y.locks

/-- Every transaction, if the others keep to what it relies on, does what its contract says. -/
def Secured (cell : ∀ key, D → ρ key) (contract : ι → Contract D) (st : Store D κ ω ε ι) : Prop :=
  ∀ t x, st.sessions.lookup t = some x →
    x.rest.Secures cell (contract x.label).rely
      (fun _ _ writes d => (contract x.label).post d (writes d)) x.locks x.statements x.writes
      st.db

/-! ### Locks -/

theorem Locked.put (h : st.Locked cell) (hx : x.Within cell)
    (hapart : ∀ t' y, t' ≠ t → st.sessions.lookup t' = some y → ∀ key ∈ x.locks, key ∉ y.locks) :
    (st.put t x).Locked cell := by
  constructor
  · intro t' y hy
    replace hy := (Table.lookup_insert_ite ..).symm.trans hy
    split at hy
    · cases hy
      exact hx
    · exact h.within t' y hy
  · intro t₁ t₂ x₁ x₂ hne h₁ h₂ key hkey₁ hkey₂
    replace h₁ := (Table.lookup_insert_ite ..).symm.trans h₁
    replace h₂ := (Table.lookup_insert_ite ..).symm.trans h₂
    split at h₁ <;> split at h₂
    · next he₁ he₂ => exact hne (he₁.trans he₂.symm)
    · next he₁ he₂ => cases h₁; exact hapart t₂ x₂ he₂ h₂ key hkey₁ hkey₂
    · next he₁ he₂ => cases h₂; exact hapart t₁ x₁ he₁ h₁ key hkey₂ hkey₁
    · exact h.apart t₁ t₂ x₁ x₂ hne h₁ h₂ key hkey₁ hkey₂

theorem Locked.drop (h : st.Locked cell) : (st.drop t).Locked cell := by
  have hold : ∀ {t' y}, (st.drop t).sessions.lookup t' = some y →
      st.sessions.lookup t' = some y := by
    intro t' y hy
    replace hy := (Table.lookup_erase_ite ..).symm.trans hy
    split at hy
    · cases hy
    · exact hy
  exact ⟨fun t' y hy => h.within t' y (hold hy),
    fun t₁ t₂ x₁ x₂ hne h₁ h₂ => h.apart t₁ t₂ x₁ x₂ hne (hold h₁) (hold h₂)⟩

variable [DecidableEq κ]

theorem not_mem_of_not_locked {rows : List κ} (h : st.locked t rows = false) {t' : Nat}
    (hne : t' ≠ t) (hy : st.sessions.lookup t' = some y) : ∀ key ∈ rows, key ∉ y.locks := by
  intro key hkey hmem
  have hlocked : st.locked t rows = true := by
    refine List.any_eq_true.mpr ⟨⟨t', y⟩, Table.mem_entries_of_lookup hy, ?_⟩
    simp only [Bool.and_eq_true, bne_iff_ne, List.any_eq_true]
    exact ⟨hne, key, hmem, List.contains_iff_mem.mpr hkey⟩
  exact absurd (hlocked.symm.trans h) (by simp)

/-- A statement of a transaction keeps the locks apart. -/
theorem Locked.advance (h : st.Locked cell) (hx : st.sessions.lookup t = some x) :
    (st.advance t x).Locked cell := by
  have hwithin := h.within t x hx
  have hapart : ∀ t' y, t' ≠ t → st.sessions.lookup t' = some y →
      ∀ key ∈ x.locks, key ∉ y.locks :=
    fun t' y hne hy => h.apart t t' x y hne.symm hx hy
  unfold Store.advance
  cases hrest : x.rest with
  | done u => exact ⟨h.drop.within, h.drop.apart⟩
  | fail e => exact h.drop
  | read next =>
    have hfoot := hwithin.rest
    rw [hrest] at hfoot
    exact h.put ⟨hwithin.written, hfoot _⟩ hapart
  | write rows fails patch next =>
    have hfoot := hwithin.rest
    rw [hrest] at hfoot
    dsimp only
    split
    · exact h
    · next hfree =>
      cases hf : fails (x.writes st.db) with
      | some e => exact h.drop
      | none =>
        refine h.put ⟨fun key hkey d => ?_, hfoot.2⟩ fun t' y hne hy key hkey => ?_
        · rw [List.mem_append, not_or] at hkey
          exact (hfoot.1 key hkey.1 _).trans (hwithin.written key hkey.2 d)
        · rcases List.mem_append.mp hkey with hrow | hlock
          · exact not_mem_of_not_locked (by simpa using hfree) hne hy key hrow
          · exact hapart t' y hne hy key hlock
  | call effect next =>
    have hfoot := hwithin.rest
    rw [hrest] at hfoot
    have hput := h.put (t := t) (x := { x with rest := next st.world,
                                               statements := x.statements + 1 })
      ⟨hwithin.written, hfoot _⟩ hapart
    exact ⟨hput.within, hput.apart⟩

theorem Locked.step (hprog : ∀ label, (prog label).Footprint cell) (h : st.Locked cell) :
    ((transactions prog move).step st a).Locked cell := by
  show (st.exec prog move a).Locked cell
  cases a with
  | begin t label =>
    simp only [Store.exec]
    split
    · exact h
    · exact h.put ⟨fun _ _ _ => rfl, hprog label⟩ fun _ _ _ _ key hkey => by cases hkey
  | statement t =>
    simp only [Store.exec]
    cases hx : st.sessions.lookup t with
    | none => exact h
    | some x => exact h.advance hx
  | abort t => exact h.drop
  | world m => exact ⟨h.within, h.apart⟩

/-! ### What is secured -/

omit [DecidableEq κ] in
theorem Secured.put (h : st.Secured cell contract)
    (hx : x.rest.Secures cell (contract x.label).rely
      (fun _ _ writes d => (contract x.label).post d (writes d)) x.locks x.statements x.writes
      st.db) :
    (st.put t x).Secured cell contract := by
  intro t' y hy
  replace hy := (Table.lookup_insert_ite ..).symm.trans hy
  split at hy
  · cases hy
    exact hx
  · exact h t' y hy

omit [DecidableEq κ] in
theorem Secured.drop (h : st.Secured cell contract) : (st.drop t).Secured cell contract := by
  intro t' y hy
  replace hy := (Table.lookup_erase_ite ..).symm.trans hy
  split at hy
  · cases hy
  · exact h t' y hy

/-- A statement of a transaction keeps what is secured of all. -/
theorem Secured.advance (hR : ∀ label, Rely (contract label).rely) (hlocked : st.Locked cell)
    (h : st.Secured cell contract) (hx : st.sessions.lookup t = some x)
    (hrespects : st.Respects contract (.statement t : Move ι μ)) :
    (st.advance t x).Secured cell contract := by
  have hsecures := h t x hx
  have hrefl : Later cell (contract x.label).rely x.locks x.statements st.db st.db :=
    Later.refl (hR x.label)
  unfold Store.advance
  cases hrest : x.rest with
  | done u =>
    -- the commit changes only cells that this transaction has locked
    intro t' y hy
    replace hy := (Table.lookup_erase_ite ..).symm.trans hy
    split at hy
    · cases hy
    · next hne =>
      refine (h t' y hy).stable (hR y.label)
        ⟨hrespects.others hx hrest hne hy, fun key hkey => ?_⟩
      exact (hlocked.within t x hx).written key (hlocked.apart t' t y x hne hy hx key hkey) _
  | fail e => exact h.drop
  | read next =>
    rw [hrest] at hsecures
    exact h.put (hsecures st.db hrefl)
  | write rows fails patch next =>
    rw [hrest] at hsecures
    dsimp only
    split
    · exact h
    · cases hf : fails (x.writes st.db) with
      | some e => exact h.drop
      | none => exact h.put (hsecures st.db hrefl hf)
  | call effect next =>
    rw [hrest] at hsecures
    exact h.put (hsecures st.db hrefl st.world)

/-- **A step that respects what the transactions rely on keeps what is secured of them.** -/
theorem Secured.step (hR : ∀ label, Rely (contract label).rely)
    (hprog : ∀ label d, (prog label).Secures cell (contract label).rely
      (fun _ _ writes d => (contract label).post d (writes d)) [] 0 id d)
    (hlocked : st.Locked cell) (h : st.Secured cell contract)
    (hrespects : st.Respects contract a) :
    ((transactions prog move).step st a).Secured cell contract := by
  show (st.exec prog move a).Secured cell contract
  cases a with
  | begin t label =>
    simp only [Store.exec]
    split
    · exact h
    · exact h.put (hprog label st.db)
  | statement t =>
    simp only [Store.exec]
    cases hx : st.sessions.lookup t with
    | none => exact h
    | some x => exact h.advance hR hlocked hx hrespects
  | abort t => exact h.drop
  | world m => exact h

/-- A commit writes what its transaction wrote. -/
theorem db_of_commits? (hcommit : st.commits? a = some (t, x)) :
    ((transactions prog move).step st a).db = x.writes st.db := by
  obtain ⟨rfl, hx, u, hdone⟩ := Store.commits?_eq_some hcommit
  show (st.exec prog move (.statement t)).db = _
  simp only [Store.exec, hx, Store.advance, hdone]

omit [DecidableEq κ] in
/-- A commit does what the contract says. -/
theorem Secured.commit (hR : ∀ label, Rely (contract label).rely)
    (h : st.Secured cell contract) (hcommit : st.commits? a = some (t, x)) :
    (contract x.label).post st.db (x.writes st.db) := by
  obtain ⟨rfl, hx, u, hdone⟩ := Store.commits?_eq_some hcommit
  have hsecures := h t x hx
  rw [hdone] at hsecures
  exact hsecures st.db (Later.refl (hR x.label))

/-- A step that commits nothing leaves what is committed. -/
theorem db_of_commits?_eq_none (h : st.commits? a = none) :
    ((transactions prog move).step st a).db = st.db := by
  show (st.exec prog move a).db = st.db
  cases a with
  | begin t label => simp only [Store.exec]; split <;> rfl
  | statement t =>
    simp only [Store.exec]
    cases hx : st.sessions.lookup t with
    | none => rfl
    | some x =>
      simp only [Store.commits?, hx, Option.bind_some] at h
      simp only [Store.advance]
      cases hrest : x.rest with
      | done u => rw [hrest] at h; cases h
      | fail e => rfl
      | read next => rfl
      | write rows fails patch next =>
        dsimp only
        split
        · rfl
        · split <;> rfl
      | call effect next => rfl
  | abort t => rfl
  | world m => rfl

end Store

variable [DecidableEq κ]

/-- **The rule for runs** of programs that keep to their footprint: what was proved of every program
alone holds of its transactions in every run whose commits respect what the others rely on. What a
commit respects anyway need not be a condition `C` on the run. -/
theorem secured_run {C : Store D κ ω ε ι → Move ι μ → Prop}
    (hR : ∀ label, Rely (contract label).rely) (hfoot : ∀ label, (prog label).Footprint cell)
    (hprog : ∀ label d, (prog label).Secures cell (contract label).rely
      (fun _ _ writes d => (contract label).post d (writes d)) [] 0 id d)
    (hC : ∀ st a, Store.Secured cell contract st → C st a → st.Respects contract a)
    {d : D} {w : ω} {as : List (Move ι μ)}
    (h : (transactions prog move).Meets C (Store.start d w) as) :
    ((transactions prog move).run (Store.start d w) as).Locked cell ∧
      ((transactions prog move).run (Store.start d w) as).Secured cell contract :=
  Machine.run_invariant (I := fun st => st.Locked cell ∧ st.Secured cell contract)
    (fun st a hst hc => ⟨hst.1.step hfoot,
      hst.2.step hR hprog hst.1 (hC st a hst.2 hc)⟩)
    ⟨⟨fun _ _ hy => (by cases hy), fun _ _ _ _ _ hy => (by cases hy)⟩, fun _ _ hy => (by cases hy)⟩ h

/-- What every commit keeps of the committed state, a run keeps that goes on from a state in which
all is secured. -/
theorem Store.Secured.run {C : Store D κ ω ε ι → Move ι μ → Prop} {J : D → Prop}
    (hR : ∀ label, Rely (contract label).rely) (hfoot : ∀ label, (prog label).Footprint cell)
    (hprog : ∀ label d, (prog label).Secures cell (contract label).rely
      (fun _ _ writes d => (contract label).post d (writes d)) [] 0 id d)
    (hC : ∀ st a, Store.Secured cell contract st → C st a → st.Respects contract a)
    (hJ : ∀ st a t x, C st a → st.commits? a = some (t, x) →
      (contract x.label).post st.db (x.writes st.db) → J st.db → J (x.writes st.db))
    {as : List (Move ι μ)} (hlocked : st.Locked cell) (hst : st.Secured cell contract)
    (hd : J st.db) (h : (transactions prog move).Meets C st as) :
    J ((transactions prog move).run st as).db := by
  refine (Machine.run_invariant
    (I := fun st => (st.Locked cell ∧ st.Secured cell contract) ∧ J st.db)
    (fun st a hst hc => ⟨⟨hst.1.1.step hfoot,
      hst.1.2.step hR hprog hst.1.1 (hC st a hst.1.2 hc)⟩, ?_⟩) ⟨⟨hlocked, hst⟩, hd⟩ h).2
  cases hcommit : st.commits? a with
  | none =>
    rw [Store.db_of_commits?_eq_none hcommit]
    exact hst.2
  | some p =>
    obtain ⟨t, x⟩ := p
    rw [Store.db_of_commits? hcommit]
    exact hJ st a t x hc hcommit (hst.1.2.commit hR hcommit) hst.2

/-- What every commit keeps of the committed state, every run keeps. -/
theorem secured_run_invariant {C : Store D κ ω ε ι → Move ι μ → Prop} {J : D → Prop}
    (hR : ∀ label, Rely (contract label).rely) (hfoot : ∀ label, (prog label).Footprint cell)
    (hprog : ∀ label d, (prog label).Secures cell (contract label).rely
      (fun _ _ writes d => (contract label).post d (writes d)) [] 0 id d)
    (hC : ∀ st a, Store.Secured cell contract st → C st a → st.Respects contract a)
    (hJ : ∀ st a t x, C st a → st.commits? a = some (t, x) →
      (contract x.label).post st.db (x.writes st.db) → J st.db → J (x.writes st.db))
    {d : D} {w : ω} {as : List (Move ι μ)} (hd : J d)
    (h : (transactions prog move).Meets C (Store.start d w) as) :
    J ((transactions prog move).run (Store.start d w) as).db := by
  have hstart : (transactions prog move).Meets C (Store.start d w) [] := trivial
  obtain ⟨hlocked, hsecured⟩ := secured_run hR hfoot hprog hC hstart
  exact Store.Secured.run hR hfoot hprog hC hJ hlocked hsecured hd h

end ReadCommitted

end Infra
