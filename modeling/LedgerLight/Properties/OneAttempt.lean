import LedgerLight.System.CardCalls
import LedgerLight.System.Honest

/-!
# One attempt at a time

A call of `initiateCardPayment` starts an attempt unless its first statement finds one in progress.
Nothing keeps two calls from reading before either has committed its attempt.

* `one_attempt` : if no call reads the order while another one is on its way to start an attempt,
  one intent and one attempt are created, and all calls answer it.
* `two_attempts` : two calls read the order first, and start an attempt each.
-/

namespace LedgerLight

open Infra ReadCommitted

variable {S M : Type}

/-! ## Calls that overlap -/

/-- The order accepts a card payment, and no attempt is in progress. -/
def Database.startsAttempt (db : Database) (k : Id) : Bool :=
  (db.order? k).any fun o => o.status == .confirmed && o.payment.any fun p =>
    (assertPaymentAcceptsCollection p).isOk && (getReusableAttempt p).isNone

/-- The caller sees the order. -/
def CardCall.sees (c : CardCall) (k : Id) (db : Database) : Bool :=
  (db.order? k).any (·.visibleTo c.org)

/-- The step is the first statement of a call, which reads that no attempt is in progress, and
another call has read the same and has not ended. -/
def Overlaps (k : Id) (st : CardSessions S) : Move CardCall M → Prop
  | .statement t =>
    match st.sessions.lookup t with
    | none => False
    | some x =>
      st.db.1.startsAttempt k = true ∧ x.statements = 0 ∧ x.label.sees k st.db.1 = true ∧
        ∃ e ∈ st.sessions.entries, e.1 ≠ t ∧ e.2.statements ≠ 0 ∧ e.2.label.sees k st.db.1 = true
  | _ => False

/-- The id that a call generates is new, and no call is aborted once it has asked Stripe. -/
def Proper (st : CardSessions S) : Move CardCall M → Prop
  | .begin _ c => st.db.1.findAttempt? (fun a => a.id == c.attemptId) = none
  | .abort t => ∀ x ∈ st.sessions.lookup t, x.statements ≤ 1
  | _ => True

instance (k : Id) (st : CardSessions S) (a : Move CardCall M) : Decidable (Overlaps k st a) := by
  unfold Overlaps
  split
  · split <;> infer_instance
  · infer_instance

instance (st : CardSessions S) (a : Move CardCall M) : Decidable (Proper st a) := by
  unfold Proper
  split <;> infer_instance

/-! ## Sessions -/

section

/-- The call has not read anything. -/
def Waiting (stripe : StripeService S M) (k : Id) (x : Session Answered RowKey S AppError CardCall) :
    Prop :=
  x.rest = x.label.prog stripe k ∧ x.writes = id ∧ x.statements = 0

/-- The call is refused. -/
def Refused (x : Session Answered RowKey S AppError CardCall) : Prop := ∃ e, x.rest = .fail e

/-- The call answers the attempt that is in progress. -/
def Resuming (a : PaymentAttempt) (x : Session Answered RowKey S AppError CardCall) : Prop :=
  ∃ dto : CreateCardPaymentResponseDto, dto.Answers a ∧
    (x.rest = (Prog.done dto).answering ∧ x.writes = id ∨
      x.rest = .done () ∧ x.writes = fun d => (d.1, dto :: d.2))

/-- A call that has decided nothing, or is refused. The id of its attempt is new. -/
def Undecided (stripe : StripeService S M) (k : Id) (db : Database)
    (x : Session Answered RowKey S AppError CardCall) : Prop :=
  Waiting stripe k x ∧ db.findAttempt? (fun a => a.id == x.label.attemptId) = none ∨ Refused x

/-- A call after an attempt was started. -/
def Following (stripe : StripeService S M) (k : Id) (a : PaymentAttempt)
    (x : Session Answered RowKey S AppError CardCall) : Prop :=
  Waiting stripe k x ∨ Refused x ∨ Resuming a x

variable (stripe : StripeService S M) (intents : S → List PaymentIntentId) (k : Id) (db : Database)
  (known : List PaymentIntentId) (p : PaymentWithAttempts)

/-- A call on its way to start an attempt: it has not asked Stripe, or it has, and has not
committed. -/
def Starting (x : Session Answered RowKey S AppError CardCall) (s : S) : Prop :=
  intents s = known ∧ x.Asking (fun s s' => ∃ id, intents s' = id :: intents s)
      (fun s => intents s = known) (fun d => ∃ a, Answered.Started k p a d) (db, []) ∨
    2 ≤ x.statements ∧ (∃ id, intents s = id :: known) ∧
      x.Asked (fun d => ∃ a, Answered.Started k p a d) (db, [])

/-- How far the calls for an order have come, from a database where no attempt is in progress. -/
inductive Progress (st : CardSessions S) : Prop
  /-- No call has decided to start an attempt. -/
  | waiting (hdb : st.db = (db, [])) (hworld : intents st.world = known)
      (hall : st.All (Undecided stripe k db))
  /-- One call has, and is on its way. -/
  | starting (hdb : st.db = (db, [])) (t : Nat)
      (x : Session Answered RowKey S AppError CardCall) (hx : st.sessions.lookup t = some x)
      (hread : x.statements ≠ 0) (hsees : x.label.sees k db = true)
      (hothers : st.Others t (Undecided stripe k db))
      (hstarting : Starting intents k db known p x st.world)
  /-- The attempt is started. -/
  | started (a : PaymentAttempt) (hdb : Answered.Started k p a st.db)
      (hworld : (intents st.world).length ≤ known.length + 1)
      (hall : st.All (Following stripe k a))

end

section

variable {stripe : StripeService S M} {intents : S → List PaymentIntentId} {k : Id} {db : Database}
  {known : List PaymentIntentId} {o : OrderRecord} {p : PaymentWithAttempts} {st : CardSessions S}
  {t : Nat} {x : Session Answered RowKey S AppError CardCall} {a : PaymentAttempt}

theorem Undecided.following (h : Undecided stripe k db x) : Following stripe k a x :=
  h.elim (fun hw => Or.inl hw.1) fun hr => Or.inr (Or.inl hr)

/-- What a call that has not read decides when it reads the order. -/
theorem Waiting.advance (h : Waiting stripe k x) (ho : st.db.1.order? k = some o)
    (hp : o.payment = some p) :
    ∃ x' : Session Answered RowKey S AppError CardCall, st.advance t x = st.put t x' ∧
      x'.label = x.label ∧ x'.statements = 1 ∧ x'.writes = id ∧
      (Refused x' ∨ (∃ a, getReusableAttempt p = some a ∧ Resuming a x') ∨
        o.visibleTo x.label.org = true ∧ o.status = .confirmed ∧
          assertPaymentAcceptsCollection p = .ok () ∧ getReusableAttempt p = none ∧
          ∃ next, x.label.prog stripe k = .read next ∧ x'.rest = next st.db) := by
  obtain ⟨hrest, hwrites, hstatements⟩ := h
  obtain ⟨next, hprog, hnext⟩ := x.label.decides stripe k
  rw [hprog] at hrest
  refine ⟨{ x with rest := next (x.writes st.db), statements := x.statements + 1 }, ?_, rfl, ?_,
    hwrites, ?_⟩
  · unfold Store.advance
    rw [hrest]
  · rw [hstatements]
  · rw [hwrites]
    rcases hnext st.db o p ho hp with hfail | ⟨a, dto, hr, hdto, hdone⟩ | ⟨hv, hs, haccepts, hr⟩
    · exact Or.inl hfail
    · exact Or.inr (Or.inl ⟨a, hr, dto, hdto, Or.inl ⟨hdone, rfl⟩⟩)
    · exact Or.inr (Or.inr ⟨hv, hs, haccepts, hr, next, hprog, rfl⟩)

theorem Refused.advance (h : Refused x) : st.advance t x = st.drop t := by
  obtain ⟨e, he⟩ := h
  unfold Store.advance
  rw [he]

theorem startsAttempt_of_decides {db : Database} (ho : db.order? k = some o)
    (hp : o.payment = some p) (hs : o.status = .confirmed)
    (haccepts : assertPaymentAcceptsCollection p = .ok ()) (hr : getReusableAttempt p = none) :
    db.startsAttempt k = true := by
  simp [Database.startsAttempt, ho, hp, hs, haccepts, hr, Except.isOk, Except.toBool]

/-! ## Steps -/

/-- A statement of a call that is not the one on its way. -/
theorem Undecided.advance (hr : getReusableAttempt p = none) (hdb : st.db = (db, []))
    (ho : db.order? k = some o) (hp : o.payment = some p) (h : Undecided stripe k db x) :
    st.advance t x = st.drop t ∨
      ∃ x' : Session Answered RowKey S AppError CardCall, st.advance t x = st.put t x' ∧
        x'.label = x.label ∧ x'.statements = 1 ∧ x'.writes = id ∧
        (Refused x' ∨ x.statements = 0 ∧ o.visibleTo x.label.org = true ∧ o.status = .confirmed ∧
          assertPaymentAcceptsCollection p = .ok () ∧
          db.findAttempt? (fun a => a.id == x.label.attemptId) = none ∧
          ∃ next, x.label.prog stripe k = .read next ∧ x'.rest = next (db, [])) := by
  rcases h with ⟨hw, hid⟩ | hrefused
  · have ho' : st.db.1.order? k = some o := by rw [hdb]; exact ho
    obtain ⟨x', hadv, hlabel, hstatements, hwrites, hkind⟩ := hw.advance (t := t) ho' hp
    refine Or.inr ⟨x', hadv, hlabel, hstatements, hwrites, ?_⟩
    rcases hkind with hrefused | ⟨a, hreused, -⟩ | ⟨hv, hs, haccepts, -, next, hprog, hrest⟩
    · exact Or.inl hrefused
    · rw [hr] at hreused
      cases hreused
    · rw [hdb] at hrest
      exact Or.inr ⟨hw.2.2, hv, hs, haccepts, hid, next, hprog, hrest⟩
  · exact Or.inl hrefused.advance

/-- A statement before any call has decided to start an attempt. -/
theorem progress_waiting (hnew : stripe.AnswersNew intents)
    (hknown : ∀ id, id ∉ known → db.findAttempt? (fun a => a.stripePaymentIntentId == id) = none)
    (ho : db.order? k = some o) (hp : o.payment = some p) (hr : getReusableAttempt p = none)
    (hdb : st.db = (db, [])) (hworld : intents st.world = known)
    (hall : st.All (Undecided stripe k db)) (hx : st.sessions.lookup t = some x) :
    Progress stripe intents k db known p (st.advance t x) := by
  rcases (hall t x hx).advance (t := t) hr hdb ho hp with
    hadv | ⟨x', hadv, hlabel, hstatements, hwrites, hkind⟩
  · rw [hadv]
    exact .waiting hdb hworld hall.drop
  · rw [hadv]
    rcases hkind with hrefused | ⟨-, hv, hs, haccepts, hid, next, hprog, hrest⟩
    · exact .waiting hdb hworld (hall.put (Or.inr hrefused))
    · -- this call starts the attempt
      have hsees : x'.label.sees k db = true := by
        rw [hlabel, CardCall.sees, ho]
        exact hv
      refine .starting hdb t x' (AList.lookup_insert _) (by omega) hsees
        ((hall.others t).congr fun t' hne => AList.lookup_insert_ne hne) (Or.inl ⟨hworld, ?_⟩)
      have hstarts := CardCall.starts hnew hprog ho hv hs hp haccepts hr hid hknown
      unfold Session.Asking
      rw [hrest, hwrites]
      exact hstarts

/-- A statement of another call, while one is on its way: it does not read what that one has. -/
theorem undecided_others (ho : db.order? k = some o) (hp : o.payment = some p)
    (hr : getReusableAttempt p = none) (hdb : st.db = (db, []))
    {t₁ : Nat} {x₁ : Session Answered RowKey S AppError CardCall}
    (hx₁ : st.sessions.lookup t₁ = some x₁) (hread : x₁.statements ≠ 0)
    (hsees : x₁.label.sees k db = true) (hothers : st.Others t₁ (Undecided stripe k db))
    (hne : t ≠ t₁) (hx : st.sessions.lookup t = some x)
    (h : ¬ Overlaps k st (.statement t : Move CardCall M)) :
    (st.advance t x).db = st.db ∧ (st.advance t x).world = st.world ∧
      (st.advance t x).Others t₁ (Undecided stripe k db) := by
  rcases (hothers t x hne hx).advance (t := t) hr hdb ho hp with
    hadv | ⟨x', hadv, hlabel, hstatements, hwrites, hkind⟩
  · rw [hadv]
    exact ⟨rfl, rfl, hothers.drop⟩
  · rw [hadv]
    refine ⟨rfl, rfl, hothers.put ?_⟩
    rcases hkind with hrefused | ⟨hzero, hv, hs, haccepts, -⟩
    · exact Or.inr hrefused
    · -- it would be on its way too
      refine absurd ?_ h
      have hstarts : st.db.1.startsAttempt k = true := by
        rw [hdb]
        exact startsAttempt_of_decides ho hp hs haccepts hr
      have hsees' : x.label.sees k db = true := by
        rw [CardCall.sees, ho]
        exact hv
      have hmem := Table.mem_entries_of_lookup hx₁
      simp only [Overlaps, hx]
      refine ⟨hstarts, hzero, by rw [hdb]; exact hsees', ⟨t₁, x₁⟩, hmem, Ne.symm hne, hread, ?_⟩
      rw [hdb]
      exact hsees

/-- A statement after the attempt was started. -/
theorem progress_started (hdb : Answered.Started k p a st.db)
    (hworld : (intents st.world).length ≤ known.length + 1)
    (hall : st.All (Following stripe k a)) (hx : st.sessions.lookup t = some x) :
    Progress stripe intents k db known p (st.advance t x) := by
  rcases hall t x hx with hw | hrefused | ⟨dto, hdto, ⟨hrest, hwrites⟩ | ⟨hrest, hwrites⟩⟩
  · obtain ⟨o, q, ho, hq, hattempts, hreuse⟩ := hdb.attempt
    obtain ⟨x', hadv, hlabel, hstatements, hwrites, hkind⟩ := hw.advance (t := t) ho hq
    rw [hadv]
    refine .started a hdb hworld (hall.put ?_)
    rcases hkind with hrefused | ⟨a', hreuse', hresuming⟩ | ⟨-, -, -, hnone, -⟩
    · exact Or.inr (Or.inl hrefused)
    · obtain rfl := Option.some.inj (hreuse.symm.trans hreuse')
      exact Or.inr (Or.inr hresuming)
    · rw [hreuse] at hnone
      cases hnone
  · rw [hrefused.advance]
    exact .started a hdb hworld hall.drop
  · -- the answer is written
    unfold Store.advance
    rw [hrest]
    simp only [Prog.answering]
    split
    · exact .started a hdb hworld hall
    · refine .started a hdb hworld (hall.put (Or.inr (Or.inr ⟨dto, hdto, Or.inr ⟨rfl, ?_⟩⟩)))
      rw [hwrites]
      rfl
  · -- the answer is committed
    unfold Store.advance
    rw [hrest, hwrites]
    refine .started a ⟨hdb.attempt, fun dto' hmem => ?_⟩ hworld hall.drop
    rcases List.mem_cons.mp hmem with rfl | hmem
    · exact hdto
    · exact hdb.answers dto' hmem

/-- A statement of the call on its way. -/
theorem progress_starting (hdb : st.db = (db, [])) (hx : st.sessions.lookup t = some x)
    (hread : x.statements ≠ 0) (hsees : x.label.sees k db = true)
    (hothers : st.Others t (Undecided stripe k db))
    (hstarting : Starting intents k db known p x st.world) :
    Progress stripe intents k db known p (st.advance t x) := by
  have hothers' : (st.advance t x).Others t (Undecided stripe k db) :=
    hothers.congr fun t' hne => st.advance_lookup x hne
  have hend : ∀ {a}, (st.advance t x).sessions.lookup t = none →
      Answered.Started k p a (st.advance t x).db →
      (intents (st.advance t x).world).length ≤ known.length + 1 →
      Progress stripe intents k db known p (st.advance t x) := fun hgone ha hlength =>
    .started _ ha hlength ((hothers'.all hgone).imp fun _ hy => hy.following)
  rcases hstarting with ⟨hworld, hcall⟩ | ⟨htwo, ⟨id, hworld⟩, hcall⟩
  · rw [← hdb] at hcall
    rcases hcall.advance hx hworld with ⟨hw, hgone, a, ha⟩ | ⟨hsame, x', hx', hlabel, hgo⟩
    · exact hend hgone ha (by rw [hw, hworld]; omega)
    · rw [← hlabel] at hsees
      rcases hgo with ⟨hw, hle, hasking⟩ | ⟨⟨id, hw⟩, hone, hasked⟩
      · rw [hdb] at hasking
        exact .starting (hsame.trans hdb) t x' hx' (by omega) hsees hothers'
          (Or.inl ⟨by rw [hw, hworld], hasking⟩)
      · rw [hdb] at hasked
        exact .starting (hsame.trans hdb) t x' hx' (by omega) hsees hothers'
          (Or.inr ⟨by omega, ⟨id, by rw [hw, hworld]⟩, hasked⟩)
  · rw [← hdb] at hcall
    obtain ⟨hw, ⟨hgone, a, ha⟩ | ⟨hsame, x', hx', hlabel, hle, hasked⟩⟩ := hcall.advance hx
    · exact hend hgone ha (by rw [hw, hworld]; rfl)
    · rw [← hlabel] at hsees
      rw [hdb] at hasked
      exact .starting (hsame.trans hdb) t x' hx' (by omega) hsees hothers'
        (Or.inr ⟨by omega, ⟨id, by rw [hw, hworld]⟩, hasked⟩)

/-- **A step that does not overlap keeps the calls in order.** -/
theorem progress_step (hnew : stripe.AnswersNew intents)
    (hknown : ∀ id, id ∉ known → db.findAttempt? (fun a => a.stripePaymentIntentId == id) = none)
    (ho : db.order? k = some o) (hp : o.payment = some p) (hr : getReusableAttempt p = none)
    (h : Progress stripe intents k db known p st) (move : Move CardCall M)
    (hproper : Proper st move) (hturn : ¬ Overlaps k st move) :
    Progress stripe intents k db known p ((cardCalls stripe k).step st move) := by
  show Progress stripe intents k db known p
    (st.exec (CardCall.prog stripe k) stripe.move move)
  cases move with
  | begin t c =>
    simp only [Store.exec]
    cases hlookup : st.sessions.lookup t with
    | some x => exact h
    | none =>
      cases h with
      | waiting hdb hworld hall =>
        rw [Proper, hdb] at hproper
        exact .waiting hdb hworld (hall.put (Or.inl ⟨⟨rfl, rfl, rfl⟩, hproper⟩))
      | starting hdb t₁ x₁ hx₁ hread hsees hothers hstarting =>
        rw [Proper, hdb] at hproper
        have hne : t₁ ≠ t := by
          rintro rfl
          rw [hlookup] at hx₁
          cases hx₁
        exact .starting hdb t₁ x₁ ((AList.lookup_insert_ne hne).trans hx₁) hread hsees
          (hothers.put (Or.inl ⟨⟨rfl, rfl, rfl⟩, hproper⟩)) hstarting
      | started a hdb hworld hall =>
        exact .started a hdb hworld (hall.put (Or.inl ⟨rfl, rfl, rfl⟩))
  | statement t =>
    simp only [Store.exec]
    cases hx : st.sessions.lookup t with
    | none => exact h
    | some x =>
      cases h with
      | waiting hdb hworld hall => exact progress_waiting hnew hknown ho hp hr hdb hworld hall hx
      | starting hdb t₁ x₁ hx₁ hread hsees hothers hstarting =>
        by_cases he : t = t₁
        · subst he
          obtain rfl := Option.some.inj (hx.symm.trans hx₁)
          exact progress_starting hdb hx hread hsees hothers hstarting
        · obtain ⟨hsame, hw, hothers'⟩ :=
            undecided_others ho hp hr hdb hx₁ hread hsees hothers he hx hturn
          exact .starting (hsame.trans hdb) t₁ x₁
            ((st.advance_lookup x (Ne.symm he)).trans hx₁) hread hsees hothers' (hw ▸ hstarting)
      | started a hdb hworld hall => exact progress_started hdb hworld hall hx
  | abort t =>
    cases h with
    | waiting hdb hworld hall => exact .waiting hdb hworld hall.drop
    | starting hdb t₁ x₁ hx₁ hread hsees hothers hstarting =>
      by_cases he : t = t₁
      · subst he
        rcases hstarting with ⟨hworld, -⟩ | ⟨htwo, -⟩
        · exact .waiting hdb hworld hothers.drop_self
        · -- it has asked Stripe
          have hone : x₁.statements ≤ 1 := hproper x₁ hx₁
          omega
      · exact .starting hdb t₁ x₁ ((AList.lookup_erase_ne (Ne.symm he)).trans hx₁) hread hsees
          hothers.drop hstarting
    | started a hdb hworld hall => exact .started a hdb hworld hall.drop
  | world m =>
    have hsame : intents (st.exec (CardCall.prog stripe k) stripe.move (.world m)).world =
        intents st.world := hnew.move m st.world
    cases h with
    | waiting hdb hworld hall => exact .waiting hdb (hsame.trans hworld) hall
    | starting hdb t₁ x₁ hx₁ hread hsees hothers hstarting =>
      refine .starting hdb t₁ x₁ hx₁ hread hsees hothers ?_
      unfold Starting at hstarting ⊢
      rw [hsame]
      exact hstarting
    | started a hdb hworld hall => exact .started a hdb (by rw [hsame]; exact hworld) hall

end

/-! ## Runs -/

/-- **Start-or-resume creates one attempt**, for any number of calls for an order whose payment has
no attempt in progress, if Stripe answers with new intents and no call reads the order while another
one that has read the same is in progress: Stripe creates one intent at most, the payment gets one
attempt at most, which stays in progress, and all answers are the same attempt and secret. -/
theorem one_attempt (stripe : StripeService S M) (intents : S → List PaymentIntentId)
    (hnew : stripe.AnswersNew intents) (k : Id) (db : Database) (s : S) (o : OrderRecord)
    (p : PaymentWithAttempts) (ho : db.order? k = some o) (hp : o.payment = some p)
    (hr : getReusableAttempt p = none)
    (hknown : ∀ id, id ∉ intents s →
      db.findAttempt? (fun a => a.stripePaymentIntentId == id) = none)
    (as : List (Move CardCall M))
    (h : (cardCalls stripe k).Meets (fun st a => Proper st a ∧ ¬ Overlaps k st a)
      (Store.start (db, []) s) as) :
    let st := (cardCalls stripe k).run (Store.start (db, []) s) as
    (intents st.world).length ≤ (intents s).length + 1 ∧
      (∃ o' q, st.db.1.order? k = some o' ∧ o'.payment = some q ∧
        (q.attempts = p.attempts ∨
          ∃ a, q.attempts = a :: p.attempts ∧ getReusableAttempt q = some a)) ∧
      ∀ dto ∈ st.db.2, ∀ dto' ∈ st.db.2,
        dto.attemptId = dto'.attemptId ∧ dto.clientSecret = dto'.clientSecret := by
  have hrun := Machine.run_invariant (M := cardCalls stripe k)
    (I := Progress stripe intents k db (intents s) p)
    (fun st a hst hc => progress_step hnew hknown ho hp hr hst a hc.1 hc.2)
    (.waiting rfl rfl fun t x hx => by cases hx) h
  intro st
  -- before the attempt is started, the database is the first one
  have hfirst : st.db = (db, []) → (intents st.world).length ≤ (intents s).length + 1 →
      (intents st.world).length ≤ (intents s).length + 1 ∧
      (∃ o' q, st.db.1.order? k = some o' ∧ o'.payment = some q ∧
        (q.attempts = p.attempts ∨
          ∃ a, q.attempts = a :: p.attempts ∧ getReusableAttempt q = some a)) ∧
      ∀ dto ∈ st.db.2, ∀ dto' ∈ st.db.2,
        dto.attemptId = dto'.attemptId ∧ dto.clientSecret = dto'.clientSecret := by
    intro hdb hlength
    rw [hdb]
    exact ⟨hlength, ⟨o, p, ho, hp, Or.inl rfl⟩, fun dto hdto => by cases hdto⟩
  cases hrun with
  | waiting hdb hworld hall => exact hfirst hdb (by rw [hworld]; omega)
  | starting hdb t x hx hread hsees hothers hstarting =>
    refine hfirst hdb ?_
    rcases hstarting with ⟨hworld, -⟩ | ⟨-, ⟨id, hworld⟩, -⟩
    · rw [hworld]
      omega
    · rw [hworld]
      rfl
  | started a hdb hworld hall =>
    obtain ⟨o', q, ho', hq, hattempts, hreuse⟩ := hdb.attempt
    refine ⟨hworld, ⟨o', q, ho', hq, Or.inr ⟨a, hattempts, hreuse⟩⟩, fun dto hdto dto' hdto' => ?_⟩
    obtain ⟨hid, hsecret⟩ := hdb.answers dto hdto
    obtain ⟨hid', hsecret'⟩ := hdb.answers dto' hdto'
    exact ⟨hid.trans hid'.symm, hsecret.trans hsecret'.symm⟩

namespace Shop

/-- The shop once the order is confirmed. -/
def afterConfirmation : Database := (ledger.run (World.init .empty) confirmed).db

/-- Two calls for the order. -/
def card (n : Nat) : CardCall := { env := { now := 20, uuid := fun i => ⟨20 + n, i⟩ }, org := org }

def twoCalls : List (Move CardCall M) := [.begin 1 (card 1), .begin 2 (card 2)]

/-- The first one reads, asks Stripe, starts an attempt, and answers; then the second one reads. -/
def callsInTurn : List (Move CardCall M) :=
  twoCalls ++ List.replicate 9 (.statement 1) ++ List.replicate 3 (.statement 2)

/-- Both read before either asks Stripe. -/
def callsAtOnce : List (Move CardCall M) :=
  twoCalls ++ [.statement 1, .statement 2] ++ List.replicate 8 (.statement 1) ++
    List.replicate 8 (.statement 2)

/-- A Stripe that numbers its intents. -/
def numbers : StripeService Nat Unit where
  move _ n := n
  createPaymentIntent args n := (.ok ((StripeAccount.newIntent args).snapshot n), n + 1)
  retrievePaymentIntent _ n := (.error (.stripe "No such payment_intent"), n)
  cancelPaymentIntent _ n := (.error (.stripe "No such payment_intent"), n)
  createRefund _ n := (.error (.stripe "No such payment_intent"), n)

/-- Its intents, newest first. -/
def numbered (n : Nat) : List PaymentIntentId := (List.range n).reverse

theorem numbers_answersNew : numbers.AnswersNew numbered where
  create args n := by
    refine ⟨_, _, _, rfl, rfl, ?_, ?_, ?_⟩
    · simp [clientSecretOf, String.ext_iff]
    · simp [numbered, StripeIntent.snapshot]
    · simp [numbered, StripeIntent.snapshot, List.range_succ]
  move _ _ := rfl

end Shop

theorem one_attempt_shop :
    let st := (cardCalls Shop.numbers Shop.orderId).run
      (Store.start (Shop.afterConfirmation, []) 0) Shop.callsInTurn
    st.world ≤ 1 ∧ st.db.2.length = 2 ∧
      ∀ dto ∈ st.db.2, ∀ dto' ∈ st.db.2, dto.attemptId = dto'.attemptId := by
  obtain ⟨o, ho, hpay⟩ := (Option.any_eq_true _ _).mp (show
    (Shop.afterConfirmation.order? Shop.orderId).any (fun o => o.payment.any fun p =>
      (getReusableAttempt p).isNone) = true by decide)
  obtain ⟨p, hp, hr⟩ := (Option.any_eq_true _ _).mp hpay
  have hknown : ∀ id, id ∉ Shop.numbered 0 →
      Shop.afterConfirmation.findAttempt? (fun a => a.stripePaymentIntentId == id) = none :=
    fun _ _ => rfl
  obtain ⟨hintents, -, hanswers⟩ := one_attempt Shop.numbers Shop.numbered Shop.numbers_answersNew
    Shop.orderId Shop.afterConfirmation 0 o p ho hp (Option.isNone_iff_eq_none.mp hr) hknown
    Shop.callsInTurn (by decide)
  refine ⟨?_, by decide, fun dto hdto dto' hdto' => (hanswers dto hdto dto' hdto').1⟩
  have hlength : ∀ n, (Shop.numbered n).length = n := by simp [Shop.numbered]
  rw [hlength, hlength] at hintents
  exact hintents

/-- Two calls that both read that there is no attempt start one each, with an intent each, and
answer different attempts. -/
theorem two_attempts :
    let st := (cardCalls stripeAccount Shop.orderId).run
      (Store.start (Shop.afterConfirmation, []) .empty) Shop.callsAtOnce
    st.world.intents.keys.length = 2 ∧
      ((st.db.1.payment? Shop.orderId Shop.paymentId).map fun p => p.attempts.map (·.id)) =
        some [⟨22, 1⟩, ⟨21, 1⟩] ∧
      st.db.2.map (·.attemptId) = [⟨22, 1⟩, ⟨21, 1⟩] := by
  decide

end LedgerLight
