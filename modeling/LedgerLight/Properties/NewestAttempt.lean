import LedgerLight.Properties.Lifecycle

/-!
# A card payment mirrors its newest attempt

The payment has one status, its attempts have one each, and `applyPaymentIntentStateTx` writes the
payment's from whatever attempt an event names.

* `mirrors_newest` : if what is said of a superseded attempt never changes the payment, a payment
  has the status of its newest attempt, and cash is not recorded while that attempt is in progress.
* `mirror_broken` : a run in which an event about the first attempt overwrites the second.
-/

namespace LedgerLight

open Infra

/-- The payment status an attempt's status stands for. -/
def PaymentAttemptStatus.paymentStatus : PaymentAttemptStatus → PaymentStatus
  | .succeeded => .paid
  | .pending | .requiresAction => .pending
  | .failed | .canceled => .failed

/-- What Stripe says maps to an attempt status and the payment status it stands for. -/
theorem mapPaymentIntentState_mirrors (now : Date) (paymentIntent : StripePaymentIntent)
    (p : Payment) :
    (mapPaymentIntentState now paymentIntent p).paymentStatus =
      (mapPaymentIntentState now paymentIntent p).attemptStatus.paymentStatus := by
  unfold mapPaymentIntentState
  cases paymentIntent.status <;> rfl

structure PaymentWithAttempts.Mirrors (p : PaymentWithAttempts) : Prop where
  newest : ∀ a, p.attempts.head? = some a → p.method ≠ some .cash →
    p.paymentStatus = a.status.paymentStatus
  cash : p.method = some .cash → p.paymentStatus = .paid

/-- The snapshot is about the newest attempt, or says of the payment what the payment says. -/
def IntentSync.AboutNewest (now : Date) (y : IntentSync) : Prop :=
  y.payment.attempts.head? = some y.attempt ∨
    ¬ paymentChangedBy y.payment.toPayment
      (mapPaymentIntentState now y.paymentIntent y.payment.toPayment)

instance (now : Date) (y : IntentSync) : Decidable (y.AboutNewest now) :=
  inferInstanceAs (Decidable (_ ∨ _))

/-- A snapshot of a superseded attempt that the step applies does not change the payment. -/
def World.SyncsNewest {S M : Type} (stripe : StripeService S M) (w : World S) (a : Action M) :
    Prop :=
  match w.intentSync? stripe a with
  | none => True
  | some y => y.AboutNewest w.now

instance {S M : Type} (stripe : StripeService S M) (w : World S) (a : Action M) :
    Decidable (w.SyncsNewest stripe a) := by
  unfold World.SyncsNewest
  split <;> infer_instance

section

variable {S M : Type} {stripe : StripeService S M} {w : World S} {a : Action M} {k : Id}
  {p q : PaymentWithAttempts} {y : IntentSync}

/-! ## The attempt a snapshot is about -/

/-- An attempt that a snapshot is applied to is the first one with its id. -/
theorem freshAttempt?_first {attemptId : Id} {attempt newest : PaymentAttempt}
    (h : freshAttempt? p attemptId = some attempt) (hnewest : p.attempts.head? = some newest)
    (hid : newest.id = attempt.id) : newest = attempt := by
  unfold freshAttempt? at h
  obtain ⟨rest, hrest⟩ : ∃ rest, p.attempts = newest :: rest := by
    cases ha : p.attempts with
    | nil => rw [ha] at hnewest; cases hnewest
    | cons b rest => rw [ha] at hnewest; cases hnewest; exact ⟨rest, rfl⟩
  rw [hrest, List.head?_cons] at h
  cases hf : (newest :: rest).find? fun a => a.id == attemptId with
  | none => rw [hf, Option.none_or] at h; exact Option.some.inj h
  | some b =>
    rw [hf, Option.some_or] at h
    obtain rfl := Option.some.inj h
    have hb := List.find?_some (p := fun a : PaymentAttempt => a.id == attemptId) hf
    rw [List.find?_cons_of_pos (by rw [hid]; exact hb)] at hf
    exact Option.some.inj hf

/-- What a step syncs is found in the database, and its attempt is the first with its id. -/
theorem intentSync?_first {newest : PaymentAttempt} (h : w.intentSync? stripe a = some y)
    (hnewest : y.payment.attempts.head? = some newest) (hid : newest.id = y.attempt.id) :
    newest = y.attempt := by
  cases intentSync?_from h with
  | cancelled ho hp hs hr hans =>
    exact Option.some.inj (hnewest.symm.trans (getReusableAttempt_eq_some.mp hr).1)
  | confirmed ho hp hcall hf => exact freshAttempt?_first hf hnewest hid
  | received ho hp ha htest hf => exact freshAttempt?_first hf hnewest hid

/-! ## What every step keeps -/

theorem head?_updateAttempt {env : Env} {attemptId : Id} {f : PaymentAttempt → PaymentAttempt}
    {attempts : List PaymentAttempt} {b : PaymentAttempt}
    (h : (updateAttempt env attemptId f attempts).head? = some b) :
    ∃ newest, attempts.head? = some newest ∧
      b = if newest.id = attemptId then { f newest with updatedAt := env.now } else newest := by
  rw [updateAttempt, List.head?_map] at h
  obtain ⟨newest, hn, rfl⟩ := Option.map_eq_some_iff.mp h
  exact ⟨newest, hn, rfl⟩

theorem mirrors_synced (hsync : w.intentSync? stripe a = some y) (hy : y.AboutNewest w.now)
    (h : y.payment.Mirrors) :
    (syncedPayment w.env y.payment y.attempt y.paymentIntent).Mirrors := by
  have hmap := mapPaymentIntentState_mirrors w.now y.paymentIntent y.payment.toPayment
  constructor
  · intro b hb _
    rw [syncedPayment_attempts] at hb
    rw [syncedPayment_paymentStatus]
    show (mapPaymentIntentState w.now y.paymentIntent y.payment.toPayment).paymentStatus = _
    simp only [show w.env.now = w.now from rfl] at hb
    unfold IntentSync.AboutNewest at hy
    generalize mapPaymentIntentState w.now y.paymentIntent y.payment.toPayment = next at *
    -- the newest attempt, before and after
    have hnewest : ∃ newest, y.payment.attempts.head? = some newest ∧
        b.status = if newest = y.attempt then next.attemptStatus else newest.status := by
      split at hb
      · obtain ⟨newest, hn, rfl⟩ := head?_updateAttempt hb
        refine ⟨newest, hn, ?_⟩
        by_cases hid : newest.id = y.attempt.id
        · rw [if_pos hid, if_pos (intentSync?_first hsync hn hid)]
          rfl
        · rw [if_neg hid, if_neg fun he => hid (congrArg PaymentAttempt.id he)]
      · next hsame =>
        refine ⟨b, hb, ?_⟩
        split
        · next he =>
          unfold attemptChangedBy at hsame
          rw [he]
          exact not_not.mp fun hne => hsame (Or.inl hne)
        · rfl
    obtain ⟨newest, hn, hstatus⟩ := hnewest
    rw [hstatus]
    split
    · exact hmap
    · next hne =>
      -- a superseded attempt: the payment is as it was
      have hunchanged := hy.resolve_left fun he => hne (Option.some.inj (hn.symm.trans he))
      simp only [paymentChangedBy, not_or, not_not] at hunchanged
      obtain ⟨hps, -, -, hmethod⟩ := hunchanged
      rw [← hps]
      exact h.newest newest hn (by rw [hmethod]; simp)
  · intro hcash
    rw [syncedPayment_method] at hcash
    cases hcash

/-- A snapshot of a superseded attempt leaves the payment as it is, up to the time of the write. -/
theorem syncedPayment_of_superseded (hnewest : w.SyncsNewest stripe a)
    (hsync : w.intentSync? stripe a = some y)
    (hold : y.payment.attempts.head? ≠ some y.attempt) :
    ∃ u, (syncedPayment w.env y.payment y.attempt y.paymentIntent).toPayment =
      { y.payment.toPayment with updatedAt := u } := by
  rw [World.SyncsNewest, hsync] at hnewest
  have hunchanged := Or.resolve_left hnewest hold
  simp only [paymentChangedBy, not_or, not_not] at hunchanged
  obtain ⟨hstatus, hfailure, hpaidAt, hmethod⟩ := hunchanged
  obtain ⟨u, hu⟩ := syncedPayment_toPayment w.env y.payment y.attempt y.paymentIntent
  refine ⟨u, ?_⟩
  rw [hu]
  simp only [PaymentTransitionResult.onPayment, show w.env.now = w.now from rfl, ← hstatus,
    ← hfailure, ← hpaidAt, ← hmethod]

theorem PaymentChange.mirrors (hc : PaymentChange stripe w k a p q)
    (hnewest : w.SyncsNewest stripe a) (h : p.Mirrors) : q.Mirrors := by
  cases hc with
  | same => exact h
  | attemptStarted hrefund hpaid =>
    exact ⟨fun b hb _ => by cases hb; rfl, fun hm => by cases hm⟩
  | paidInCash hpaid => exact ⟨fun _ _ hm => absurd rfl hm, fun _ => rfl⟩
  | synced y hsync hid =>
    rw [World.SyncsNewest, hsync] at hnewest
    exact mirrors_synced hsync hnewest h
  | cashRefunded ha hcall hid hpid => exact ⟨h.newest, h.cash⟩
  | refundRequested ha hcall hid hpid => exact ⟨h.newest, h.cash⟩
  | refundFailed ha hcall hid hpid => exact ⟨h.newest, h.cash⟩
  | refundSynced y hsync hid =>
    obtain ⟨hmethod, hstatus, -⟩ := refundSynced_collected w.env y.payment y.refund
    constructor
    · rw [refundSynced_attempts, hmethod, hstatus]
      exact h.newest
    · rw [hmethod, hstatus]
      exact h.cash

/-- A payment that was just created has no attempt and no method. -/
theorem mirrors_new {env : Env} (h : p.New env) : p.Mirrors := by
  obtain ⟨organizationId, orderStatus, amountCents, createdAt, placedAt, rfl⟩ := h
  constructor
  · intro a ha
    cases ha
  · intro hm
    cases hm

/-! ## Runs -/

theorem every_mirrors {s : S} {as : List (Action M)}
    (h : (system stripe).Meets (World.SyncsNewest stripe) (World.init s) as) :
    ((system stripe).run (World.init s) as).Every fun o =>
      ∀ p, o.payment = some p → p.Mirrors :=
  every_payment_run (fun _ _ => mirrors_new) (fun hc h hpc => hpc.mirrors hc h) h

/-- Cash is not recorded over a payment that mirrors an attempt in progress. -/
theorem markCashPaid_refused (hlife : w.Every OrderRecord.Lifecycle)
    (h : w.Every fun o => ∀ p, o.payment = some p → p.Mirrors) {o : OrderRecord}
    {orderId : Id} (ho : w.db.order? orderId = some o) (hp : o.payment = some p)
    {newest : PaymentAttempt} (hn : p.attempts.head? = some newest)
    (hprogress : newest.status.paymentStatus = .pending) (org : CurrentOrg)
    (auditContext : AuditContext) (r : Response) :
    (w.exec stripe (.markCashPaid org orderId auditContext)).1 ≠ .ok r := by
  show (w.transact (markCashPaid w.env org orderId auditContext)).1.map Response.payment ≠ .ok r
  rcases transact_cases w (markCashPaid w.env org orderId auditContext) with
    ⟨e, s, he⟩ | ⟨dto, db, s, hrun, -⟩
  · rw [he]
    exact fun hr => by cases hr
  · obtain ⟨o', p', ho', -, -, hp', -, -, hpaid, hpending, -⟩ := markCashPaid_ok hrun
    obtain rfl := Option.some.inj (ho.symm.trans ho')
    have hp'' := (hlife _ o ho).payment_of_paymentOrLegacy hp'
    obtain rfl := Option.some.inj (hp.symm.trans hp'')
    by_cases hm : p.method = some .cash
    · exact absurd ((h _ o ho p hp).cash hm) hpaid
    · exact absurd (((h _ o ho p hp).newest newest hn hm).trans hprogress) hpending

end

end LedgerLight
