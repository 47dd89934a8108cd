import LedgerLight.Stripe.View
import LedgerLight.System.World

/-!
# The system over two clients

The system over a client that keeps more goes through the states of the system over the plain one:
what holds of every run over the plain client holds of the runs over the other.

* `step_see` : a step over both clients.
* `run_see` : a run over both clients.
-/

namespace LedgerLight

open Infra Prog

variable {S S' M α : Type}

/-- The state with what is seen of Stripe. -/
def World.see (see : S → S') (w : World S) : World S' :=
  { db := w.db, stripe := see w.stripe, calls := w.calls, returned := w.returned, now := w.now,
    steps := w.steps }

section

variable {see : S → S'} {x : Tx S α} {y : Tx S' α}

theorem transact_see (h : x.Mirrors see y) (w : World S) :
    (w.see see).transact y = ((w.transact x).1, (w.transact x).2.see see) := by
  unfold World.transact
  rw [show (w.see see).stripe = see w.stripe from rfl, show (w.see see).db = w.db from rfl,
    h.run]
  rcases x.run w.db w.stripe with ⟨_ | ⟨a, db⟩, s⟩ <;> rfl

theorem autocommit_see (h : x.Mirrors see y) (w : World S) :
    (w.see see).autocommit y = ((w.autocommit x).1, (w.autocommit x).2.see see) := by
  unfold World.autocommit
  rw [show (w.see see).stripe = see w.stripe from rfl, show (w.see see).db = w.db from rfl,
    h.runAuto]
  rfl

theorem respond_see {f : α → Response} (r : Except AppError α × World S) :
    World.respond f (r.1, r.2.see see) =
      ((World.respond f r).1, (World.respond f r).2.see see) := rfl

theorem start_see (w : World S) (f : α → InFlight) (r : Except AppError α × World S) :
    (w.see see).start f (r.1, r.2.see see) = ((w.start f r).1, (w.start f r).2.see see) := by
  rcases r with ⟨_ | _, _⟩ <;> rfl

theorem reveal_see (r : Except AppError CreateCardPaymentResponseDto × World S) :
    World.reveal (r.1, r.2.see see) = ((World.reveal r).1, (World.reveal r).2.see see) := by
  rcases r with ⟨_ | _, _⟩ <;> rfl

theorem requested_see (callId : Id) (call : RefundCall) (paymentIntentId : PaymentIntentId)
    (r : Except AppError Unit × World S) :
    World.requested callId call paymentIntentId (r.1, r.2.see see) =
      ((World.requested callId call paymentIntentId r).1,
        (World.requested callId call paymentIntentId r).2.see see) := by
  rcases r with ⟨_ | _, _⟩ <;> rfl

theorem confirmRetrieved_see (w : World S) (callId orderId paymentId attemptId : Id)
    (auditContext : AuditContext) (r : Except AppError StripePaymentIntent × S) :
    (w.see see).confirmRetrieved callId orderId paymentId attemptId auditContext (r.1, see r.2) =
      ((w.confirmRetrieved callId orderId paymentId attemptId auditContext r).1,
        (w.confirmRetrieved callId orderId paymentId attemptId auditContext r).2.see see) := by
  rcases r with ⟨_ | _, _⟩ <;> rfl

theorem refundAnswered_see (w : World S) (callId : Id) (call : RefundCall)
    (r : Except AppError StripeRefund × S) :
    (w.see see).refundAnswered callId call (r.1, see r.2) =
      ((w.refundAnswered callId call r).1, (w.refundAnswered callId call r).2.see see) := by
  rcases r with ⟨_ | _, _⟩ <;> rfl

end

section

variable {stripe : StripeService S M} {stripe' : StripeService S' M}
  (view : StripeView stripe stripe') (w : World S)

/-- The next part of a call. -/
theorem resumeCall_see (callId : Id) (call : InFlight) :
    (w.see view.see).resumeCall stripe' callId call =
      ((w.resumeCall stripe callId call).1, (w.resumeCall stripe callId call).2.see view.see) := by
  cases call with
  | confirmRetrieve orderId paymentId attempt auditContext =>
    refine Eq.trans ?_ (confirmRetrieved_see w callId orderId paymentId attempt.id auditContext _)
    rw [← view.retrievePaymentIntent]
    rfl
  | confirmApply orderId paymentId attemptId paymentIntent auditContext =>
    exact congrArg (World.respond .payment)
      (transact_see confirmCardPaymentApply_mirrors (w.endCall callId))
  | refundCash call =>
    exact congrArg (World.respond .payment)
      (transact_see refundPaymentCash_mirrors (w.endCall callId))
  | refundRequest call paymentIntentId =>
    exact (congrArg (World.requested callId call paymentIntentId)
      (transact_see refundPaymentRequest_mirrors (w.endCall callId))).trans (requested_see ..)
  | refundCreate call paymentIntentId =>
    refine Eq.trans ?_ (refundAnswered_see w callId call _)
    unfold refundPaymentCreate
    rw [← view.createRefund]
    rfl
  | refundFail call failureMessage =>
    exact congrArg (World.respond .payment)
      (transact_see refundPaymentFail_mirrors (w.endCall callId))
  | refundApply call refund =>
    exact congrArg (World.respond .payment)
      (transact_see refundPaymentApply_mirrors (w.endCall callId))

theorem exec_see (a : Action M) :
    (w.see view.see).exec stripe' a =
      ((w.exec stripe a).1, (w.exec stripe a).2.see view.see) := by
  cases a with
  | createOrder org data =>
    exact congrArg (World.respond fun r => .order r.1 r.2) (transact_see createOrder_mirrors w)
  | addOrderItem org orderId data =>
    exact congrArg (World.respond (.order orderId)) (transact_see addOrderItem_mirrors w)
  | deleteOrderItem org orderId itemId =>
    exact congrArg (World.respond (.order orderId)) (transact_see deleteOrderItem_mirrors w)
  | updateOrder org orderId data =>
    exact congrArg (World.respond (.order orderId)) (autocommit_see updateOrder_mirrors w)
  | deleteOrder org orderId =>
    exact congrArg (World.respond fun _ => .deleted) (autocommit_see deleteOrder_mirrors w)
  | transitionStatus org orderId toStatus auditContext =>
    exact congrArg (World.respond (.order orderId))
      (transact_see (transitionStatus_mirrors view toStatus) w)
  | initiateCardPayment org orderId auditContext =>
    exact congrArg (World.respond .card) ((congrArg World.reveal
      (transact_see (initiateCardPayment_mirrors view) w)).trans (reveal_see _))
  | markCashPaid org orderId auditContext =>
    exact congrArg (World.respond .payment) (transact_see markCashPaid_mirrors w)
  | getPayment org orderId =>
    exact congrArg (World.respond .payment) (autocommit_see getPaymentByOrderId_mirrors w)
  | confirmCardPayment org orderId auditContext =>
    exact (congrArg ((w.see view.see).start _)
      (autocommit_see confirmCardPaymentRead_mirrors w)).trans (start_see ..)
  | refundPayment org orderId refundReason auditContext =>
    exact (congrArg ((w.see view.see).start _)
      (autocommit_see refundPaymentGuard_mirrors w)).trans (start_see ..)
  | resume callId =>
    cases hcall : w.calls.lookup callId with
    | none =>
      rw [World.exec_resume_none hcall, World.exec_resume_none (w := w.see view.see) hcall]
    | some call =>
      rw [World.exec_resume hcall, World.exec_resume (w := w.see view.see) hcall]
      exact resumeCall_see view w callId call
  | webhookPaymentIntent event eventType paymentIntent =>
    exact congrArg (World.respond fun _ => .received)
      (transact_see handleWebhookPaymentIntent_mirrors w)
  | webhookRefund event eventType refund =>
    exact congrArg (World.respond fun _ => .received) (transact_see handleWebhookRefund_mirrors w)
  | stripe move =>
    show (Except.ok Response.none, { w.see view.see with
      stripe := stripe'.move move (view.see w.stripe) }) = _
    rw [view.move]
    rfl
  | tick milliseconds => rfl
  | catalog products customers locations => rfl

/-- **A step over both clients** leads to the same state, as far as it is seen. -/
theorem step_see (a : Action M) :
    (system stripe').step (w.see view.see) a = ((system stripe).step w a).see view.see :=
  congrArg (fun r : Except AppError Response × World S' => r.2.next) (exec_see view w a)

/-- **A run over both clients.** -/
theorem run_see (as : List (Action M)) :
    (system stripe').run (w.see view.see) as = ((system stripe).run w as).see view.see := by
  induction as generalizing w with
  | nil => rfl
  | cons a as ih =>
    rw [Machine.run_cons, Machine.run_cons, step_see]
    exact ih _

/-- A condition on the steps, where it is about what is seen. -/
theorem meets_see {C : World S' → Action M → Prop} {as : List (Action M)}
    (h : (system stripe).Meets (fun w a => C (w.see view.see) a) w as) :
    (system stripe').Meets C (w.see view.see) as := by
  induction as generalizing w with
  | nil => trivial
  | cons a as ih =>
    refine ⟨h.1, ?_⟩
    rw [step_see]
    exact ih _ h.2

end

end LedgerLight
