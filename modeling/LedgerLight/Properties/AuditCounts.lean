import LedgerLight.System.AuditTrail
import LedgerLight.System.Honest

/-!
# The audit trail counts the moves of a payment

Every committed update that brings a payment to paid, to failed, to refunded or to a failed refund
has one entry in the audit trail, and no other step makes such an entry. What breaks the count is a
refund that Stripe refuses: its failure is entered whatever the payment's refund status has become
meanwhile.

* `audit_counts` : the trail counts the moves all along a run exactly if no failed refund is entered
  of a payment whose refund has failed last.
* `refund_fails_twice` : two requests at the same time that Stripe refuses.
-/

namespace LedgerLight

open Infra

variable {S M : Type}

/-! ## The updates of a step -/

namespace World

variable (stripe : StripeService S M) (m : PaymentMove) (pid : Id) (w : World S)

/-- The moves of a transaction if it is committed; one that is rolled back makes none. -/
def committedMoves {α : Type} (x : Tx S α) : Nat :=
  match (x.run w.db w.stripe).1 with
  | .ok _ => x.tally (Database.moved m pid) w.db w.stripe
  | .error _ => 0

/-- The moves of a service call that is not in a transaction: each statement is committed. -/
def autocommittedMoves {α : Type} (x : Tx S α) : Nat :=
  x.tally (Database.moved m pid) w.db w.stripe

def resumeMoves : InFlight → Nat
  | .confirmRetrieve _ _ _ _ => 0
  | .confirmApply orderId paymentId attemptId paymentIntent auditContext =>
    w.committedMoves m pid
      (confirmCardPaymentApply w.env orderId paymentId attemptId paymentIntent auditContext)
  | .refundCash call => w.committedMoves m pid (refundPaymentCash w.env call)
  | .refundRequest call _ => w.committedMoves m pid (refundPaymentRequest w.env call)
  | .refundCreate _ _ => 0
  | .refundFail call failureMessage =>
    w.committedMoves m pid (refundPaymentFail w.env call failureMessage)
  | .refundApply call refund => w.committedMoves m pid (refundPaymentApply w.env call refund)

/-- The committed updates of a step that make this move of the payment. -/
def moves : Action M → Nat
  | .createOrder org data => w.committedMoves m pid (LedgerLight.createOrder w.env org data)
  | .addOrderItem org orderId data =>
    w.committedMoves m pid (LedgerLight.addOrderItem w.env org orderId data)
  | .deleteOrderItem org orderId itemId =>
    w.committedMoves m pid (LedgerLight.deleteOrderItem w.env org orderId itemId)
  | .updateOrder org orderId data =>
    w.autocommittedMoves m pid (LedgerLight.updateOrder w.env org orderId data)
  | .deleteOrder org orderId => w.autocommittedMoves m pid (LedgerLight.deleteOrder org orderId)
  | .transitionStatus org orderId toStatus auditContext =>
    w.committedMoves m pid
      (LedgerLight.transitionStatus stripe w.env org orderId toStatus auditContext)
  | .initiateCardPayment org orderId auditContext =>
    w.committedMoves m pid (LedgerLight.initiateCardPayment stripe w.env org orderId auditContext)
  | .markCashPaid org orderId auditContext =>
    w.committedMoves m pid (LedgerLight.markCashPaid w.env org orderId auditContext)
  | .getPayment org orderId => w.autocommittedMoves m pid (getPaymentByOrderId w.env org orderId)
  | .confirmCardPayment org orderId _ =>
    w.autocommittedMoves m pid (confirmCardPaymentRead w.env org orderId)
  | .refundPayment org orderId refundReason auditContext =>
    w.autocommittedMoves m pid (refundPaymentGuard w.env org orderId refundReason auditContext)
  | .resume callId => (w.calls.lookup callId).elim 0 (w.resumeMoves m pid)
  | .webhookPaymentIntent event eventType paymentIntent =>
    w.committedMoves m pid (handleWebhookPaymentIntent w.env event eventType paymentIntent)
  | .webhookRefund event eventType refund =>
    w.committedMoves m pid (handleWebhookRefund w.env event eventType refund)
  | .stripe _ => 0
  | .tick _ => 0
  | .catalog _ _ _ => 0

/-- The part of a call that is next enters the failure of a refund, and the payment's refund has
failed already. -/
def FailsAgain : Action M → Prop
  | .resume callId =>
    ∃ call failureMessage p, w.calls.lookup callId = some (.refundFail call failureMessage) ∧
      w.db.payment? call.orderId call.paymentId = some p ∧ p.refundStatus = .failed
  | _ => False

end World

/-! ## Steps -/

section

variable {stripe : StripeService S M} {m : PaymentMove} {pid : Id} {w : World S} {a : Action M}
  {env : Env} {org : CurrentOrg} {orderId : Id} {auditContext : AuditContext}

theorem transact_entered {α : Type} {x : Tx S α} (hx : BalancedTx m pid x w.db w.stripe) :
    (w.transact x).2.db.entered m pid = w.db.entered m pid + w.committedMoves m pid x := by
  unfold World.transact World.committedMoves
  rcases hr : x.run w.db w.stripe with ⟨_ | ⟨a, db⟩, s⟩
  · rfl
  · exact hx a db s hr

theorem transact_of_run {α : Type} {x : Tx S α} {b : α} {db : Database} {s : S}
    (h : x.run w.db w.stripe = (.ok (b, db), s)) : (w.transact x).2.db = db := by
  rw [World.transact, h]

theorem autocommit_entered {α : Type} {x : Tx S α} (hx : StillTx m pid x) :
    (w.autocommit x).2.db.entered m pid = w.db.entered m pid + w.autocommittedMoves m pid x := by
  obtain ⟨hsame, hzero⟩ := hx.runAuto w.db w.stripe
  rw [World.autocommittedMoves, hzero]
  exact hsame

theorem getPaymentByOrderId_still : StillTx m pid (getPaymentByOrderId env org orderId : Tx S _) :=
  Prog.Writes.bind orderAndPaymentTx_still fun _ => Prog.writes_ofExcept

theorem confirmCardPaymentRead_still :
    StillTx m pid (confirmCardPaymentRead env org orderId : Tx S _) :=
  Prog.Writes.bind orderAndPaymentTx_still fun _ => Prog.writes_ofExcept

theorem refundPaymentGuard_still {refundReason : String} :
    StillTx m pid (refundPaymentGuard env org orderId refundReason auditContext : Tx S _) :=
  Prog.Writes.bind orderAndPaymentTx_still fun _ => Prog.writes_ofExcept

/-- The next part of a call, unless it is the failure of a refund that has failed before. -/
theorem resume_entered {callId : Id} {call : InFlight} (hcall : w.calls.lookup callId = some call)
    (h : ¬ w.FailsAgain (.resume callId : Action M)) :
    (w.resumeCall stripe callId call).2.db.entered m pid =
      w.db.entered m pid + w.resumeMoves m pid call := by
  cases call with
  | confirmRetrieve orderId paymentId attempt auditContext =>
    rw [World.resumeCall, World.confirmRetrieved_db]
    rfl
  | confirmApply orderId paymentId attemptId paymentIntent auditContext =>
    exact transact_entered (w := w.endCall callId) confirmCardPaymentApply_balanced
  | refundCash call => exact transact_entered (w := w.endCall callId) refundPaymentCash_balanced
  | refundRequest call paymentIntentId =>
    rw [World.resumeCall, (World.requested_db ..).1]
    exact transact_entered (w := w.endCall callId) refundPaymentRequest_still.balanced
  | refundCreate call paymentIntentId =>
    rw [World.resumeCall, World.refundAnswered_db]
    rfl
  | refundFail call failureMessage =>
    refine transact_entered (w := w.endCall callId)
      (refundPaymentFail_balanced fun p hp hfailed => ?_)
    exact h ⟨call, failureMessage, p, hcall, hp, hfailed⟩
  | refundApply call refund =>
    exact transact_entered (w := w.endCall callId) refundPaymentApply_balanced

/-- A step enters the moves it makes. -/
theorem exec_entered (h : ¬ w.FailsAgain a) :
    (w.exec stripe a).2.db.entered m pid = w.db.entered m pid + w.moves stripe m pid a := by
  cases a with
  | createOrder org data => exact transact_entered createOrder_still.balanced
  | addOrderItem org orderId data => exact transact_entered addOrderItem_still.balanced
  | deleteOrderItem org orderId itemId => exact transact_entered deleteOrderItem_still.balanced
  | updateOrder org orderId data =>
    exact autocommit_entered (x := LedgerLight.updateOrder w.env org orderId data)
      updateOrder_still
  | deleteOrder org orderId =>
    exact autocommit_entered (x := LedgerLight.deleteOrder org orderId) deleteOrder_still
  | transitionStatus org orderId toStatus auditContext =>
    exact transact_entered transitionStatus_balanced
  | initiateCardPayment org orderId auditContext =>
    rw [World.exec, World.respond, (World.reveal_db _).1]
    exact transact_entered initiateCardPayment_still.balanced
  | markCashPaid org orderId auditContext => exact transact_entered markCashPaid_balanced
  | getPayment org orderId =>
    exact autocommit_entered (x := getPaymentByOrderId w.env org orderId) getPaymentByOrderId_still
  | confirmCardPayment org orderId auditContext =>
    rw [World.exec, (World.start_db ..).1]
    exact autocommit_entered confirmCardPaymentRead_still
  | refundPayment org orderId refundReason auditContext =>
    rw [World.exec, (World.start_db ..).1]
    exact autocommit_entered refundPaymentGuard_still
  | resume callId =>
    cases hcall : w.calls.lookup callId with
    | none =>
      rw [World.exec_resume_none hcall, World.moves, hcall]
      rfl
    | some call =>
      rw [World.exec_resume hcall, World.moves, hcall]
      exact resume_entered hcall h
  | webhookPaymentIntent event eventType paymentIntent =>
    exact transact_entered handleWebhookPaymentIntent_balanced
  | webhookRefund event eventType refund => exact transact_entered handleWebhookRefund_balanced
  | stripe move => rfl
  | tick milliseconds => rfl
  | catalog products customers locations => rfl

/-- The failure of a refund of a payment whose refund has failed last is entered, and moves
nothing. -/
theorem failsAgain_entered (h : w.FailsAgain a) : ∃ pid,
    (w.exec stripe a).2.db.entered .refundFailed pid = w.db.entered .refundFailed pid + 1 ∧
      w.moves stripe .refundFailed pid a = 0 := by
  cases a with
  | resume callId =>
    obtain ⟨call, failureMessage, p, hcall, hp, hfailed⟩ := h
    obtain ⟨o, ho, hpo, hid⟩ := Database.payment?_eq_some.mp hp
    have hrun : ∃ dto db', (refundPaymentFail w.env call failureMessage).run w.db w.stripe =
        (.ok (dto, db'), w.stripe) := refundPaymentFail_of_payment ho hpo hid
    obtain ⟨dto, db', hrun⟩ := hrun
    obtain ⟨hentered, htally⟩ := refundPaymentFail_counts .refundFailed p.id hp hrun
    refine ⟨p.id, ?_, ?_⟩
    · rw [World.exec_resume hcall]
      have hdb : (w.resumeCall stripe callId (.refundFail call failureMessage)).2.db = db' :=
        transact_of_run (w := w.endCall callId) hrun
      rw [hdb, hentered]
      simp [PaymentMove.action]
    · rw [World.moves, hcall]
      show w.committedMoves .refundFailed p.id (refundPaymentFail w.env call failureMessage) = 0
      rw [World.committedMoves, hrun]
      simp [htally, hfailed]
  | _ => exact h.elim

theorem entered_iff : ¬ w.FailsAgain a ↔ ∀ i : PaymentMove × Id,
    ((system stripe).step w a).db.entered i.1 i.2 =
      w.db.entered i.1 i.2 + w.moves stripe i.1 i.2 a := by
  constructor
  · exact fun h i => exec_entered h
  · intro h hagain
    have hagain' : ∃ pid, (w.exec stripe a).2.db.entered .refundFailed pid =
        w.db.entered .refundFailed pid + 1 ∧ w.moves stripe .refundFailed pid a = 0 :=
      failsAgain_entered hagain
    obtain ⟨pid, hone, hnone⟩ := hagain'
    have hstep : (w.exec stripe a).2.db.entered .refundFailed pid =
      w.db.entered .refundFailed pid + w.moves stripe .refundFailed pid a := h (.refundFailed, pid)
    omega

end

/-! ## Runs -/

/-- **The audit trail counts the moves** of every payment, all along a run, exactly if no step of it
enters the failure of a refund of a payment whose refund has failed last. Where it does, a step that
makes no such move makes no such entry. -/
theorem audit_counts (stripe : StripeService S M) (w : World S) (as : List (Action M)) :
    (system stripe).Meets (fun w a => ¬ w.FailsAgain a) w as ↔
      ∀ as₁ as₂, as = as₁ ++ as₂ →
        (∀ m pid, ((system stripe).run w as₁).db.entered m pid = w.db.entered m pid +
          (system stripe).total (fun w a => w.moves stripe m pid a) w as₁) ∧
        ∀ m pid a as₃, as₂ = a :: as₃ → ((system stripe).run w as₁).moves stripe m pid a = 0 →
          ((system stripe).run w (as₁ ++ [a])).db.entered m pid =
            ((system stripe).run w as₁).db.entered m pid := by
  have htotal : (system stripe).Meets (fun w a => ¬ w.FailsAgain a) w as ↔
      ∀ as₁ as₂, as = as₁ ++ as₂ → ∀ i : PaymentMove × Id,
        ((system stripe).run w as₁).db.entered i.1 i.2 = w.db.entered i.1 i.2 +
          (system stripe).total (fun w a => w.moves stripe i.1 i.2 a) w as₁ :=
    (Machine.meets_iff (I := fun _ => True) (fun _ _ _ => entered_iff) (fun _ _ _ _ => trivial)
      trivial).trans (Machine.meets_iff_total
        (r := fun (i : PaymentMove × Id) (w : World S) => w.db.entered i.1 i.2))
  rw [htotal]
  constructor
  · rintro h as₁ as₂ rfl
    refine ⟨fun m pid => h as₁ as₂ rfl (m, pid), ?_⟩
    rintro m pid a as₃ rfl hnone
    have hfirst := h as₁ (a :: as₃) rfl (m, pid)
    have hthen := h (as₁ ++ [a]) as₃ (by simp) (m, pid)
    rw [Machine.total_append, Machine.total, Machine.total, hnone, Nat.zero_add,
      Nat.add_zero] at hthen
    exact hthen.trans hfirst.symm
  · exact fun h as₁ as₂ he i => (h as₁ as₂ he).1 i.1 i.2

namespace Shop

/-- Stripe is not reached from now on. -/
def unreachable : Action StripeMove := .stripe (.plan { unreachable := true })

/-- Two requests for the paid order pass the guard, Stripe is not reached for either, and both
enter the failure. -/
def refusedTwice : List (Action StripeMove) :=
  paidByCard ++ [unreachable, refund, refund, .resume ⟨7, 0⟩, .resume ⟨8, 0⟩, .resume ⟨7, 0⟩,
    .resume ⟨8, 0⟩, .resume ⟨7, 0⟩, .resume ⟨8, 0⟩]

end Shop

/-- Of two refunds at the same time that Stripe refuses, both enter a failure, and one moves the
payment. -/
theorem refund_fails_twice :
    (ledger.run (World.init .empty) Shop.refusedTwice).db.entered .refundFailed Shop.paymentId = 2 ∧
      ledger.total (fun w a => w.moves stripeAccount .refundFailed Shop.paymentId a)
        (World.init .empty) Shop.refusedTwice = 1 := by
  decide

end LedgerLight
