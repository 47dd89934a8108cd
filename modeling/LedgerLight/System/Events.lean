import LedgerLight.System.Refunds

/-!
# Events about refunds, and their receipts

Every status of a refund is announced by an event, and the receipts tell which events were
processed. When events are processed in the order they were emitted in, what is not told yet is the
newest.

* `World.Standing` : a refund that succeeded, as far as was told.
* `World.EventsOrdered.step` : the order of the events and their receipts is kept.
* `World.Standing.step`, `standing_delivered` : which refunds stand after a step.
-/

namespace LedgerLight

open Infra

namespace World

variable (w : World StripeAccount)

/-- An event that was emitted and has no receipt yet. -/
def Untold (event : StripeEventId) (refund : StripeRefund) : Prop :=
  (event, refund) ∈ w.stripe.emitted ∧ w.db.receipts.lookup event = none

/-- The refund has succeeded, or something is still to be told about it. -/
def Standing (id : RefundId) : Prop :=
  ∃ r, w.stripe.refunds.lookup id = some r ∧
    (r.status = .succeeded ∨ ∃ event refund, w.Untold event refund ∧ refund.id = id)

instance (id : RefundId) : Decidable (w.Standing id) :=
  decidable_of_iff (∃ r ∈ w.stripe.refunds.lookup id, r.status = .succeeded ∨
      ∃ e ∈ w.stripe.emitted, w.db.receipts.lookup e.1 = none ∧ e.2.id = id) <| by
    constructor
    · rintro ⟨r, hr, hs | ⟨e, hmem, hnone, hid⟩⟩
      · exact ⟨r, hr, Or.inl hs⟩
      · exact ⟨r, hr, Or.inr ⟨e.1, e.2, ⟨hmem, hnone⟩, hid⟩⟩
    · rintro ⟨r, hr, hs | ⟨event, refund, hu, hid⟩⟩
      · exact ⟨r, hr, Or.inl hs⟩
      · exact ⟨r, hr, Or.inr ⟨(event, refund), hu.1, hu.2, hid⟩⟩

/-- The order of the events about refunds, and of their receipts. -/
structure EventsOrdered : Prop where
  unique : ∀ event refund refund', (event, refund) ∈ w.stripe.emitted →
    (event, refund') ∈ w.stripe.emitted → refund = refund'
  /-- The newest event about a refund tells its status. -/
  newest : ∀ id r, w.stripe.refunds.lookup id = some r → ∃ event,
    (event, r.snapshot id) ∈ w.stripe.emitted ∧
      ∀ event' refund, (event', refund) ∈ w.stripe.emitted → refund.id = id → event' ≤ event
  receipts : ∀ event, w.db.receipts.lookup event ≠ none → event < w.stripe.nextId
  /-- What was emitted before a processed event was processed. -/
  closed : ∀ event refund event' refund', (event, refund) ∈ w.stripe.emitted →
    (event', refund') ∈ w.stripe.emitted → event ≤ event' →
    w.db.receipts.lookup event' ≠ none → w.db.receipts.lookup event ≠ none

/-- Events about refunds are processed in the order they were emitted in, and other events have
ids of their own. -/
def InOrder : Action StripeMove → Prop
  | .webhookPaymentIntent event _ _ =>
    event < w.stripe.nextId ∧ ∀ e ∈ w.stripe.emitted, e.1 ≠ event
  | .webhookRefund event _ _ =>
    ∀ e ∈ w.stripe.emitted, e.1 < event → w.db.receipts.lookup e.1 ≠ none
  | _ => True

instance (a : Action StripeMove) : Decidable (w.InOrder a) := by
  unfold InOrder
  obtain ⟨⟩ := a <;> infer_instance

end World

section

variable {w : World StripeAccount} {a : Action StripeMove} {id : RefundId}
  {event : StripeEventId} {refund : StripeRefund}

/-- A receipt stays. -/
theorem receipt_stays (h : w.db.receipts.lookup event ≠ none) :
    (ledger.step w a).db.receipts.lookup event ≠ none := by
  cases step_receipts stripeAccount w a with
  | same hsame => rw [hsame]; exact h
  | @delivered own ha hother hown =>
    by_cases he : event = own
    · exact he ▸ hown
    · rw [hother event he]
      exact h

/-- A receipt that a step adds is the one of the event it delivers. -/
theorem receipt_new (h : w.db.receipts.lookup event = none)
    (h' : (ledger.step w a).db.receipts.lookup event ≠ none) : a.event? = some event := by
  cases step_receipts stripeAccount w a with
  | same hsame => exact absurd (hsame ▸ h) h'
  | @delivered own ha hother hown =>
    by_cases he : event = own
    · exact he ▸ ha
    · exact absurd ((hother event he).trans h) h'

/-- An event that was emitted stays. -/
theorem emitted_stays (h : (event, refund) ∈ w.stripe.emitted) :
    (event, refund) ∈ (ledger.step w a).stripe.emitted := by
  rcases (step_refunds w a).announced with ⟨-, he⟩ | ⟨_, _, -, he, -⟩
  · exact he ▸ h
  · rw [he]
    exact List.mem_cons_of_mem _ h

/-- An event that a step emits has the next id. -/
theorem emitted_cases (h : (event, refund) ∈ (ledger.step w a).stripe.emitted) :
    (event, refund) ∈ w.stripe.emitted ∨ event = w.stripe.nextId := by
  rcases (step_refunds w a).announced with ⟨-, he⟩ | ⟨_, _, -, he, -⟩
  · exact Or.inl (he ▸ h)
  · rw [he] at h
    rcases List.mem_cons.mp h with heq | hold
    · exact Or.inr (congrArg Prod.fst heq)
    · exact Or.inl hold

/-! ## The order is kept -/

theorem World.EventsOrdered.unique_step (h : w.EventsOrdered) (hr : w.RefundsKnown)
    {refund' : StripeRefund} (he : (event, refund) ∈ (ledger.step w a).stripe.emitted)
    (he' : (event, refund') ∈ (ledger.step w a).stripe.emitted) : refund = refund' := by
  have hlt : ∀ refund, (w.stripe.nextId, refund) ∉ w.stripe.emitted := fun refund hmem =>
    Nat.lt_irrefl _ (hr.emitted _ _ hmem).1
  rcases (step_refunds w a).announced with ⟨-, hemitted⟩ | ⟨id, r, -, hemitted, -⟩
  · rw [hemitted] at he he'
    exact h.unique event refund refund' he he'
  · rw [hemitted] at he he'
    rcases List.mem_cons.mp he with hnew | hold <;> rcases List.mem_cons.mp he' with hnew' | hold'
    · exact (congrArg Prod.snd hnew).trans (congrArg Prod.snd hnew').symm
    · cases hnew
      exact absurd hold' (hlt _)
    · cases hnew'
      exact absurd hold (hlt _)
    · exact h.unique event refund refund' hold hold'

theorem World.EventsOrdered.newest_step (h : w.EventsOrdered) (hr : w.RefundsKnown)
    {r : StripeRefundObject} (hlookup : (ledger.step w a).stripe.refunds.lookup id = some r) :
    ∃ event, (event, r.snapshot id) ∈ (ledger.step w a).stripe.emitted ∧
      ∀ event' refund, (event', refund) ∈ (ledger.step w a).stripe.emitted → refund.id = id →
        event' ≤ event := by
  rcases (step_refunds w a).announced with ⟨hrefunds, hemitted⟩ | ⟨id', r', hrefunds, hemitted, -⟩
  · rw [hrefunds] at hlookup
    rw [hemitted]
    exact h.newest id r hlookup
  · rw [hrefunds, Table.lookup_insert_ite] at hlookup
    rw [hemitted]
    split at hlookup
    · next hid =>
      -- the refund that the step sets: its event is the newest of all
      cases hlookup
      subst hid
      refine ⟨w.stripe.nextId, List.mem_cons_self, fun event' refund hmem _ => ?_⟩
      rcases List.mem_cons.mp hmem with heq | hold
      · exact le_of_eq (congrArg Prod.fst heq)
      · exact Nat.le_of_lt (hr.emitted _ _ hold).1
    · next hid =>
      obtain ⟨event, hmem, hmax⟩ := h.newest id r hlookup
      refine ⟨event, List.mem_cons_of_mem _ hmem, fun event' refund hmem' hrefund => ?_⟩
      rcases List.mem_cons.mp hmem' with heq | hold
      · cases heq
        exact absurd hrefund.symm hid
      · exact hmax event' refund hold hrefund

theorem World.EventsOrdered.receipts_step (h : w.EventsOrdered) (hr : w.RefundsKnown)
    (hc : w.Honest a) (horder : w.InOrder a)
    (hreceipt : (ledger.step w a).db.receipts.lookup event ≠ none) :
    event < (ledger.step w a).stripe.nextId := by
  refine lt_of_lt_of_le ?_ (step_refunds w a).nextId_le
  by_cases hold : w.db.receipts.lookup event = none
  · have ha := receipt_new hold hreceipt
    cases a with
    | webhookPaymentIntent own eventType paymentIntent =>
      cases ha
      exact horder.1
    | webhookRefund own eventType refund =>
      cases ha
      exact (hr.emitted _ _ hc).1
    | _ => cases ha
  · exact h.receipts event hold

theorem World.EventsOrdered.closed_step (h : w.EventsOrdered) (hr : w.RefundsKnown)
    (hc : w.Honest a) (horder : w.InOrder a) {event' : StripeEventId} {refund' : StripeRefund}
    (he : (event, refund) ∈ (ledger.step w a).stripe.emitted)
    (he' : (event', refund') ∈ (ledger.step w a).stripe.emitted) (hle : event ≤ event')
    (hreceipt : (ledger.step w a).db.receipts.lookup event' ≠ none) :
    (ledger.step w a).db.receipts.lookup event ≠ none := by
  rcases Nat.eq_or_lt_of_le hle with heq | hlt
  · exact heq ▸ hreceipt
  by_cases hold : w.db.receipts.lookup event' = none
  · -- the step delivers `event'`
    have ha := receipt_new hold hreceipt
    cases a with
    | webhookPaymentIntent own eventType paymentIntent =>
      cases ha
      rcases emitted_cases he' with hmem | hnew
      · exact absurd rfl (horder.2 _ hmem)
      · exact absurd horder.1 (hnew ▸ Nat.lt_irrefl _)
    | webhookRefund own eventType refund₁ =>
      cases ha
      have hnext : event' < w.stripe.nextId := (hr.emitted _ _ hc).1
      rcases emitted_cases he with hmem | hnew
      · exact receipt_stays (horder _ hmem hlt)
      · exact absurd (hnew ▸ hlt) (Nat.not_lt.mpr (Nat.le_of_lt hnext))
    | _ => cases ha
  · have hnext := h.receipts event' hold
    have hmem : (event, refund) ∈ w.stripe.emitted := by
      rcases emitted_cases he with hmem | hnew
      · exact hmem
      · exact absurd (hnew ▸ hlt) (Nat.not_lt.mpr (Nat.le_of_lt hnext))
    have hmem' : (event', refund') ∈ w.stripe.emitted := by
      rcases emitted_cases he' with hmem | hnew
      · exact hmem
      · exact absurd hnext (hnew ▸ Nat.lt_irrefl _)
    exact receipt_stays (h.closed _ _ _ _ hmem hmem' hle hold)

theorem World.EventsOrdered.step (h : w.EventsOrdered) (hr : w.RefundsKnown) (hc : w.Honest a)
    (horder : w.InOrder a) : (ledger.step w a).EventsOrdered where
  unique _ _ _ he he' := h.unique_step hr he he'
  newest _ _ hlookup := h.newest_step hr hlookup
  receipts _ hreceipt := h.receipts_step hr hc horder hreceipt
  closed _ _ _ _ he he' hle hreceipt := h.closed_step hr hc horder he he' hle hreceipt

theorem eventsOrdered_init : (World.init StripeAccount.empty).EventsOrdered where
  unique := fun _ _ _ h => by cases h
  newest := fun _ _ h => by cases h
  receipts := fun _ h => absurd rfl h
  closed := fun _ _ _ _ h => by cases h

/-! ## Refunds that stand -/

theorem World.Untold.step (hu : w.Untold event refund) (h : w.EventsOrdered) (hc : w.Honest a)
    (horder : w.InOrder a)
    (hother : ∀ event' eventType refund', a = .webhookRefund event' eventType refund' →
      w.db.receipts.lookup event' = none →
      (ledger.step w a).db.receipts.lookup event' ≠ none → refund'.id ≠ refund.id) :
    (ledger.step w a).Untold event refund := by
  refine ⟨emitted_stays hu.1, ?_⟩
  by_contra hreceipt
  have ha := receipt_new hu.2 hreceipt
  cases a with
  | webhookPaymentIntent own eventType paymentIntent =>
    cases ha
    exact horder.2 _ hu.1 rfl
  | webhookRefund own eventType refund' =>
    cases ha
    have hsame := h.unique _ _ _ hu.1 hc
    exact hother _ _ _ rfl hu.2 hreceipt (hsame ▸ rfl)
  | _ => cases ha

/-- **A refund stands until the last that was to be told about it is told.** -/
theorem World.Standing.step (hs : w.Standing id) (h : w.EventsOrdered) (hr : w.RefundsKnown)
    (hc : w.Honest a) (horder : w.InOrder a)
    (hother : ∀ event eventType refund, a = .webhookRefund event eventType refund →
      w.db.receipts.lookup event = none →
      (ledger.step w a).db.receipts.lookup event ≠ none → refund.id ≠ id) :
    (ledger.step w a).Standing id := by
  obtain ⟨r, hlookup, hcase⟩ := hs
  have hkept : (ledger.step w a).stripe.refunds.lookup id = some r →
      (ledger.step w a).Standing id := fun hlookup' => by
    refine ⟨r, hlookup', ?_⟩
    rcases hcase with hstatus | ⟨event, refund, hu, hid⟩
    · exact Or.inl hstatus
    · exact Or.inr ⟨event, refund, hu.step h hc horder (by rw [hid]; exact hother), hid⟩
  rcases (step_refunds w a).announced with ⟨hrefunds, -⟩ | ⟨id', r', hrefunds, hemitted, hnext⟩
  · exact hkept (hrefunds ▸ hlookup)
  · by_cases hid : id = id'
    · -- its new status is announced by an event that has no receipt
      subst hid
      refine ⟨r', by rw [hrefunds]; exact AList.lookup_insert _, Or.inr ⟨w.stripe.nextId,
        r'.snapshot id, ⟨by rw [hemitted]; exact List.mem_cons_self, ?_⟩, rfl⟩⟩
      by_contra hreceipt
      by_cases hold : w.db.receipts.lookup w.stripe.nextId = none
      · have ha := receipt_new hold hreceipt
        cases a with
        | webhookPaymentIntent own eventType paymentIntent =>
          cases ha
          exact Nat.lt_irrefl _ horder.1
        | webhookRefund own eventType refund =>
          cases ha
          exact Nat.lt_irrefl _ (hr.emitted _ _ hc).1
        | _ => cases ha
      · exact Nat.lt_irrefl _ (h.receipts _ hold)
    · exact hkept (by rw [hrefunds, Table.lookup_insert_ite, if_neg hid, hlookup])

/-- A refund that is told to have succeeded stands, whatever it was told after. -/
theorem standing_delivered {eventType : String} (h : w.EventsOrdered) (hr : w.RefundsKnown)
    (hc : w.Honest (.webhookRefund event eventType refund))
    (hnew : w.db.receipts.lookup event = none) (hs : refund.status = .succeeded) :
    (ledger.step w (.webhookRefund event eventType refund)).Standing refund.id := by
  have hstripe : (ledger.step w (.webhookRefund event eventType refund)).stripe = w.stripe := by
    have hstep := step_stripe stripeAccount w (.webhookRefund event eventType refund)
    generalize (ledger.step w (.webhookRefund event eventType refund)).stripe = acct at hstep ⊢
    cases hstep
    rfl
  obtain ⟨-, paymentId, r, hlookup, -⟩ := hr.emitted _ _ hc
  obtain ⟨newest, hmem, hmax⟩ := h.newest _ r hlookup
  refine ⟨r, hstripe ▸ hlookup, ?_⟩
  rcases Nat.eq_or_lt_of_le (hmax _ _ hc rfl) with heq | hlt
  · -- nothing was told after
    have hsame : refund = r.snapshot refund.id := h.unique event _ _ hc (heq ▸ hmem)
    exact Or.inl ((congrArg StripeRefund.status hsame).symm.trans hs)
  · have hnone : w.db.receipts.lookup newest = none := by
      by_contra hreceipt
      exact h.closed _ _ _ _ hc hmem (Nat.le_of_lt hlt) hreceipt hnew
    refine Or.inr ⟨newest, r.snapshot refund.id, ⟨emitted_stays hmem, ?_⟩, rfl⟩
    by_contra hreceipt
    have ha := receipt_new hnone hreceipt
    cases ha
    exact Nat.lt_irrefl _ hlt

end

end LedgerLight
