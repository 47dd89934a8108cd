import LedgerLight.Infra.Inbox
import LedgerLight.System.Outside

/-!
# Every event is processed once

Stripe delivers an event again until it is answered. A handler makes a receipt of the event, works
and marks the receipt, in one transaction, and does nothing for an event that has a receipt.

* `webhook_new`, `webhook_again` : what a handler does for a new event, and for a received one.
* `webhooks_once` : the first delivery of each event that is not aborted is all that counts.
-/

namespace LedgerLight

open Infra Prog

/-! ## One handler -/

section

variable {S : Type} {env : Env} {event : StripeEventId} {eventType : String} {sync : Tx S Unit}
  {db : Database} {s : S}

/-- What both handlers are made of: the work `sync` under a new receipt. -/
def webhook (env : Env) (event : StripeEventId) (eventType : String) (sync : Tx S Unit) :
    Tx S Unit := do
  let shouldProcess ← createWebhookReceiptTx env event eventType
  doWhen (shouldProcess = true) (do
    sync
    markWebhookReceiptProcessedTx env event)

theorem webhook_again (h : (db.receipts.lookup event).isSome = true) :
    (webhook env event eventType sync).run db s = (.ok ((), db), s) := by
  rw [webhook, run_bind, createWebhookReceiptTx, run_bind]
  simp only [select, run, h, if_true, Pure.pure]
  rfl

/-- The database with the receipt of a new event. -/
def Database.received (db : Database) (env : Env) (event : StripeEventId) (eventType : String) :
    Database :=
  db.setReceipt event { eventType := eventType, receivedAt := env.now, processedAt := none }

/-- The database once the work for a new event is done. -/
def Database.processed (db : Database) (env : Env) (event : StripeEventId) (eventType : String) :
    Database :=
  db.setReceipt event
    { eventType := eventType, receivedAt := env.now, processedAt := some env.now }

theorem webhook_new (hsync : sync.Quiet Database.receipts) {db' : Database} {s' : S} {u : Unit}
    (hnew : db.receipts.lookup event = none)
    (h : (webhook env event eventType sync).run db s = (.ok (u, db'), s')) :
    ∃ worked, sync.run (db.received env event eventType) s = (.ok ((), worked), s') ∧
      db' = worked.processed env event eventType := by
  obtain ⟨shouldProcess, d, t, hreceipt, h₁⟩ := run_bind_ok.mp h
  obtain ⟨received, d₁, t₁, hread, h₂⟩ := run_bind_ok.mp hreceipt
  obtain ⟨rfl, rfl, rfl⟩ := run_select_ok.mp hread
  rw [hnew] at h₂
  obtain ⟨u₃, d₃, t₃, hinsert, h₄⟩ := run_bind_ok.mp h₂
  obtain ⟨-, rfl, rfl⟩ := run_exec_ok.mp hinsert
  obtain ⟨rfl, rfl, rfl⟩ := run_pure_ok.mp h₄
  rcases run_doWhen_ok.mp h₁ with ⟨-, hrun⟩ | ⟨hold, -⟩
  · obtain ⟨u₅, worked, t₅, hwork, hmark⟩ := run_bind_ok.mp hrun
    obtain ⟨-, rfl, rfl⟩ := run_exec_ok.mp hmark
    refine ⟨worked, hwork, ?_⟩
    have hleft : worked.receipts = d₁.receipts.insert event _ :=
      (hsync.callsOnce (R := fun _ _ => True)).run_left hwork
    rw [hleft, AList.lookup_insert]
    rfl
  · exact absurd rfl hold

end

/-! ## Deliveries -/

inductive WebhookPayload where
  | paymentIntent (paymentIntent : StripePaymentIntent)
  | refund (refund : StripeRefund)

/-- One delivery of an event, at its own time. -/
structure Delivery where
  env : Env
  event : StripeEventId
  eventType : String
  payload : WebhookPayload
  /-- An exception around the handler's own: the transaction is rolled back. -/
  aborts : Bool

namespace Delivery

variable (d : Delivery) (db db' : Database)

/-- The handlers make no call, so there is nothing outside the database. -/
def handler : Tx Unit Unit :=
  match d.payload with
  | .paymentIntent paymentIntent =>
    handleWebhookPaymentIntent d.env d.event d.eventType paymentIntent
  | .refund refund => handleWebhookRefund d.env d.event d.eventType refund

def sync : Tx Unit Unit :=
  match d.payload with
  | .paymentIntent paymentIntent => syncWebhookPaymentIntent d.env paymentIntent
  | .refund refund => syncWebhookRefund d.env refund

/-- What a delivery leaves, or `none` if it is aborted: by an exception of the handler or by another
one. -/
def apply : Option Database :=
  if d.aborts then none
  else
    match (d.handler.run db ()).1 with
    | .ok (_, db') => some db'
    | .error _ => none

theorem handler_eq : d.handler = webhook d.env d.event d.eventType d.sync := by
  unfold handler sync
  cases d.payload <;> rfl

theorem sync_quiet : d.sync.Quiet Database.receipts := by
  unfold sync
  cases d.payload
  · exact syncWebhookPaymentIntent_quiet
  · exact syncWebhookRefund_quiet

variable {d db db'}

theorem apply_eq_some :
    d.apply db = some db' ↔
      d.aborts = false ∧ (webhook d.env d.event d.eventType d.sync).run db () =
        (.ok ((), db'), ()) := by
  rw [apply, handler_eq]
  rcases (webhook d.env d.event d.eventType d.sync).run db () with ⟨_ | ⟨_, _⟩, _⟩ <;>
    cases d.aborts <;> simp

theorem apply_again (hold : (db.receipts.lookup d.event).isSome = true)
    (h : d.apply db = some db') : db' = db := by
  have hrun := (apply_eq_some.mp h).2
  rw [webhook_again hold] at hrun
  cases hrun
  rfl

theorem apply_new (hnew : db.receipts.lookup d.event = none) (h : d.apply db = some db') :
    ∃ worked, d.sync.run (db.received d.env d.event d.eventType) () = (.ok ((), worked), ()) ∧
      db' = worked.processed d.env d.event d.eventType :=
  webhook_new d.sync_quiet hnew (apply_eq_some.mp h).2

/-- What a delivery that is carried through does to the receipts. -/
theorem receipts_of_apply_new (hnew : db.receipts.lookup d.event = none)
    (h : d.apply db = some db') (event : StripeEventId) :
    db'.receipts.lookup event =
      if event = d.event then
        some { eventType := d.eventType, receivedAt := d.env.now, processedAt := some d.env.now }
      else db.receipts.lookup event := by
  obtain ⟨worked, hwork, rfl⟩ := apply_new hnew h
  have hleft : worked.receipts = (db.received d.env d.event d.eventType).receipts :=
    (d.sync_quiet.callsOnce (R := fun _ _ => True)).run_left hwork
  show (worked.receipts.insert d.event _).lookup event = _
  rw [Table.lookup_insert_ite, hleft]
  show (if event = d.event then _ else (db.receipts.insert d.event _).lookup event) = _
  rw [Table.lookup_insert_ite]
  split <;> rfl

end Delivery

/-- The handlers as the receiver of deliveries: an event was seen if it has a receipt. -/
def webhooks : Inbox Database Delivery StripeEventId where
  key d := d.event
  apply db d := d.apply db
  seen db event := (db.receipts.lookup event).isSome
  seen_apply := by
    intro db d db' h event
    cases hnew : db.receipts.lookup d.event with
    | some r =>
      obtain rfl := Delivery.apply_again (by rw [hnew]; rfl) h
      constructor
      · exact Or.inr
      · rintro (rfl | hs)
        · rw [hnew]; rfl
        · exact hs
    | none =>
      rw [Delivery.receipts_of_apply_new hnew h]
      split <;> simp_all
  apply_seen := Delivery.apply_again

/-- A receipt of the event is marked as processed. -/
def Database.MarksEvent (db : Database) (event : StripeEventId) : Prop :=
  ∀ r ∈ db.receipts.lookup event, r.processedAt ≠ none

/-- The receipts that a run adds are marked as processed. -/
theorem webhooks_processed {db : Database} {event : StripeEventId}
    (hnew : db.receipts.lookup event = none) (ds : List Delivery) :
    (webhooks.machine.run db ds).MarksEvent event := by
  refine Machine.run_invariant' (I := fun db : Database => db.MarksEvent event) (fun db d hdb => ?_)
    (by simp [Database.MarksEvent, hnew]) ds
  cases h : d.apply db with
  | none => rwa [Inbox.step_of_aborted (I := webhooks) h]
  | some db' =>
    rw [Inbox.step_of_apply (I := webhooks) h]
    cases hold : db.receipts.lookup d.event with
    | some r =>
      obtain rfl := Delivery.apply_again (by rw [hold]; rfl) h
      exact hdb
    | none =>
      rw [Database.MarksEvent, Delivery.receipts_of_apply_new hold h]
      split
      · simp
      · exact hdb

/-- **Webhooks are processed exactly once**: for all deliveries from any state,

* the first delivery of each event that is not aborted leads to the same database;
* an event without a receipt gets one exactly if one delivery of it is carried through, and the
  receipt is then marked as processed;
* a delivery that is carried through makes the receipt, does the work and marks the receipt;
* an aborted delivery leaves the database as it was, so that the next one is carried through. -/
theorem webhooks_once (db : Database) (ds : List Delivery) :
    webhooks.machine.run db ds = webhooks.machine.run db (webhooks.firsts [] db ds) ∧
    (∀ event, db.receipts.lookup event = none →
      ((webhooks.machine.run db ds).receipts.lookup event ≠ none ↔
        ((webhooks.carried db ds).filter fun d => d.event = event).length = 1) ∧
      ((webhooks.carried db ds).filter fun d => d.event = event).length ≤ 1 ∧
      (webhooks.machine.run db ds).MarksEvent event) ∧
    ∀ before d after, ds = before ++ d :: after →
      (d.apply (webhooks.machine.run db before) = none →
        webhooks.machine.run db (before ++ [d]) = webhooks.machine.run db before) ∧
      (∀ db', d.apply (webhooks.machine.run db before) = some db' →
        (webhooks.machine.run db before).receipts.lookup d.event = none →
        ∃ worked, d.sync.run ((webhooks.machine.run db before).received d.env d.event
            d.eventType) () = (.ok ((), worked), ()) ∧
          webhooks.machine.run db (before ++ [d]) =
            worked.processed d.env d.event d.eventType) := by
  refine ⟨(Inbox.run_firsts (I := webhooks) (by simp) ds).symm, fun event hnew => ?_, ?_⟩
  · have hcount := Inbox.length_carried (I := webhooks) (s := db) ds event
    have hseen : webhooks.seen db event = false := by simp [webhooks, hnew]
    rw [hseen] at hcount
    refine ⟨?_, ?_, webhooks_processed hnew ds⟩
    · show _ ↔ ((webhooks.carried db ds).filter fun d => webhooks.key d = event).length = 1
      rw [hcount, ← Option.isSome_iff_ne_none]
      show _ ↔ (!false && ((webhooks.machine.run db ds).receipts.lookup event).isSome).toNat = 1
      cases ((webhooks.machine.run db ds).receipts.lookup event).isSome <;> simp
    · exact hcount ▸ Bool.toNat_le _
  · rintro before d after -
    constructor
    · intro haborted
      rw [Machine.run_append, Machine.run_cons, Machine.run_nil]
      exact Inbox.step_of_aborted (I := webhooks) haborted
    · intro db' h hnew
      obtain ⟨worked, hwork, rfl⟩ := Delivery.apply_new hnew h
      refine ⟨worked, hwork, ?_⟩
      rw [Machine.run_append, Machine.run_cons, Machine.run_nil]
      exact Inbox.step_of_apply (I := webhooks) h

end LedgerLight
