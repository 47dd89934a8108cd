import LedgerLight.System.Effect

/-!
# What a step does at Stripe

A call of the service asks Stripe for one thing at most, so a step leaves Stripe as it was or as
that one call, or a move of its own, left it. This also holds of transactions that are rolled back:
what they did at Stripe stays.

* `step_stripe` : the state of Stripe after a step.
* `step_receipts` : the receipts of events after a step.
* `step_calls` : the calls between two of their parts after a step.
-/

namespace LedgerLight

open Infra Prog

variable {S M : Type}

section

variable {env : Env} {org : CurrentOrg} {orderId paymentId : Id} {auditContext : AuditContext}
  {o : OrderRecord} {p : PaymentWithAttempts} {stripe : StripeService S M} {R : S → S → Prop}

/-! ## Statements -/

theorem receipts_modifyOrder (db : Database) (orderId : Id) (f : OrderRecord → OrderRecord) :
    (db.modifyOrder orderId f).receipts = db.receipts := by
  unfold Database.modifyOrder
  split <;> rfl

theorem orderUpdate_quiet {organizationId : Id} {f : OrderRecord → OrderRecord} :
    (orderUpdate env orderId organizationId f : Tx S _).Quiet Database.receipts :=
  quiet_returning fun _ => receipts_modifyOrder ..

theorem orderUpdateDeletingItem_quiet {organizationId itemId : Id}
    {f : OrderRecord → OrderRecord} :
    (orderUpdateDeletingItem env orderId organizationId itemId f : Tx S _).Quiet
      Database.receipts :=
  quiet_returning fun _ => receipts_modifyOrder ..

theorem orderCreate_quiet : (orderCreate orderId o : Tx S _).Quiet Database.receipts :=
  quiet_returning fun _ => rfl

theorem orderDelete_quiet {organizationId : Id} :
    (orderDelete orderId organizationId : Tx S _).Quiet Database.receipts :=
  quiet_exec fun _ => rfl

theorem paymentCreate_quiet : (paymentCreate orderId p : Tx S _).Quiet Database.receipts :=
  quiet_returning fun _ => receipts_modifyOrder ..

theorem paymentWrite_quiet {rows : List RowKey} {violated : Database → Bool}
    {f : PaymentWithAttempts → PaymentWithAttempts} :
    (paymentWrite rows orderId paymentId violated f : Tx S _).Quiet Database.receipts :=
  quiet_returning fun _ => receipts_modifyOrder ..

theorem paymentDelete_quiet : (paymentDelete orderId paymentId : Tx S _).Quiet Database.receipts :=
  quiet_exec fun _ => receipts_modifyOrder ..

theorem auditLogCreate_quiet {row : AuditLog} :
    (auditLogCreate row : Tx S _).Quiet Database.receipts :=
  quiet_exec fun _ => rfl

/-! ## Payments -/

theorem paymentUpdate_quiet {f : Payment → Payment} :
    (paymentUpdate env orderId paymentId f : Tx S _).Quiet Database.receipts := paymentWrite_quiet

theorem writePaymentAuditLogTx_quiet {payment : Payment} {action : AuditAction}
    {beforeJson afterJson : Option AuditJson} :
    (writePaymentAuditLogTx payment action beforeJson afterJson auditContext :
      Tx S Unit).Quiet Database.receipts :=
  auditLogCreate_quiet

theorem getOrderWithPaymentTx_quiet :
    (getOrderWithPaymentTx org orderId : Tx S _).Quiet Database.receipts := by
  refine Quiet.bind quiet_select fun found => ?_
  cases found <;> trivial

theorem getPaymentByIdTx_quiet :
    (getPaymentByIdTx orderId paymentId : Tx S _).Quiet Database.receipts := by
  refine Quiet.bind quiet_select fun found => ?_
  cases found <;> trivial

theorem createPaymentForConfirmedOrderTx_quiet {organizationId : Id} {amountCents : Int}
    {orderCreatedAt : Date} :
    (createPaymentForConfirmedOrderTx env orderId organizationId amountCents orderCreatedAt
      auditContext : Tx S _).Quiet Database.receipts := by
  refine Quiet.bind quiet_select fun existing => ?_
  cases existing with
  | some existing => trivial
  | none =>
    exact Quiet.bind paymentCreate_quiet fun payment =>
      Quiet.bind writePaymentAuditLogTx_quiet fun _ => trivial

theorem ensureLegacyPaymentForOrderTx_quiet {organizationId : Id} {orderStatus : OrderStatus}
    {amountCents : Int} {orderCreatedAt : Date} {placedAt : Option Date} :
    (ensureLegacyPaymentForOrderTx env orderId organizationId orderStatus amountCents
      orderCreatedAt placedAt : Tx S _).Quiet Database.receipts := by
  refine Quiet.bind quiet_select fun existing => ?_
  cases existing with
  | some existing => trivial
  | none =>
    dsimp only
    split
    · trivial
    · exact Quiet.bind paymentCreate_quiet fun _ => trivial

theorem orderAndPaymentTx_quiet :
    (orderAndPaymentTx env org orderId : Tx S _).Quiet Database.receipts := by
  refine Quiet.bind getOrderWithPaymentTx_quiet fun order => Quiet.bind ?_ fun _ => trivial
  unfold paymentOrLegacyTx
  split
  · trivial
  · exact ensureLegacyPaymentForOrderTx_quiet

theorem applyPaymentIntentStateTx_quiet {attempt : PaymentAttempt}
    {paymentIntent : StripePaymentIntent} :
    (applyPaymentIntentStateTx env orderId p attempt paymentIntent auditContext :
      Tx S _).Quiet Database.receipts := by
  unfold applyPaymentIntentStateTx
  generalize mapPaymentIntentState env.now paymentIntent p.toPayment = next
  dsimp only
  split
  · trivial
  · refine Quiet.bind (quiet_doWhen (Quiet.bind paymentWrite_quiet fun _ => trivial)) fun _ => ?_
    refine Quiet.bind paymentUpdate_quiet fun updated => ?_
    split
    · split
      · exact Quiet.bind writePaymentAuditLogTx_quiet fun _ => trivial
      · trivial
    · trivial

theorem applyRefundStateTx_quiet {refund : StripeRefund} :
    (applyRefundStateTx env orderId o p refund auditContext : Tx S _).Quiet Database.receipts := by
  unfold applyRefundStateTx
  generalize mapRefundState env.now refund p.toPayment = next
  refine Quiet.bind ?_ fun updated => ?_
  · unfold updateRefundTx
    split
    · exact paymentWrite_quiet
    · trivial
  · refine Quiet.bind (quiet_doWhen (Quiet.bind orderUpdate_quiet fun _ => trivial)) fun _ => ?_
    refine Quiet.bind (quiet_doWhen writePaymentAuditLogTx_quiet) fun _ => ?_
    exact Quiet.bind (quiet_doWhen writePaymentAuditLogTx_quiet) fun _ => trivial

theorem markCashPaid_quiet :
    (markCashPaid env org orderId auditContext : Tx S _).Quiet Database.receipts := by
  refine Quiet.bind orderAndPaymentTx_quiet fun ⟨order, payment?⟩ => ?_
  cases payment? with
  | none => trivial
  | some payment =>
    refine Quiet.bind quiet_require fun _ => Quiet.bind quiet_ofExcept fun _ => ?_
    refine Quiet.bind quiet_require fun _ => Quiet.bind quiet_require fun _ => ?_
    refine Quiet.bind paymentUpdate_quiet fun updated => ?_
    exact Quiet.bind writePaymentAuditLogTx_quiet fun _ => trivial

theorem confirmCardPaymentApply_quiet {attemptId : Id} {paymentIntent : StripePaymentIntent} :
    (confirmCardPaymentApply env orderId paymentId attemptId paymentIntent auditContext :
      Tx S _).Quiet Database.receipts := by
  refine Quiet.bind getPaymentByIdTx_quiet fun payment => ?_
  split
  · trivial
  · exact applyPaymentIntentStateTx_quiet

theorem markRefundRequestedTx_quiet {refundReason : String} :
    (markRefundRequestedTx env orderId p refundReason auditContext :
      Tx S _).Quiet Database.receipts :=
  Quiet.bind paymentUpdate_quiet fun _ =>
    Quiet.bind (quiet_doWhen writePaymentAuditLogTx_quiet) fun _ => trivial

theorem refundPaymentCash_quiet {call : RefundCall} :
    (refundPaymentCash env call : Tx S _).Quiet Database.receipts := by
  refine Quiet.bind getOrderWithPaymentTx_quiet fun order => ?_
  refine Quiet.bind getPaymentByIdTx_quiet fun payment => ?_
  refine Quiet.bind markRefundRequestedTx_quiet fun _ => Quiet.bind paymentUpdate_quiet fun _ => ?_
  refine Quiet.bind (quiet_doWhen (Quiet.bind orderUpdate_quiet fun _ => trivial)) fun _ => ?_
  exact Quiet.bind writePaymentAuditLogTx_quiet fun _ => trivial

theorem refundPaymentRequest_quiet {call : RefundCall} :
    (refundPaymentRequest env call : Tx S _).Quiet Database.receipts :=
  Quiet.bind getPaymentByIdTx_quiet fun _ =>
    Quiet.bind markRefundRequestedTx_quiet fun _ => trivial

theorem refundPaymentFail_quiet {call : RefundCall} {failureMessage : String} :
    (refundPaymentFail env call failureMessage : Tx S _).Quiet Database.receipts :=
  Quiet.bind getPaymentByIdTx_quiet fun _ => Quiet.bind paymentUpdate_quiet fun _ =>
    Quiet.bind writePaymentAuditLogTx_quiet fun _ => trivial

theorem refundPaymentApply_quiet {call : RefundCall} {refund : StripeRefund} :
    (refundPaymentApply env call refund : Tx S _).Quiet Database.receipts :=
  Quiet.bind getOrderWithPaymentTx_quiet fun _ => Quiet.bind getPaymentByIdTx_quiet fun _ =>
    applyRefundStateTx_quiet

/-! ## Webhooks -/

/-- Both handlers make a receipt first, and work and mark it if it is new. -/
theorem webhook_quiet {event : StripeEventId} {eventType : String} {sync : Tx S Unit}
    (hsync : sync.Quiet Database.receipts) :
    (createWebhookReceiptTx env event eventType >>= fun shouldProcess =>
      doWhen (shouldProcess = true) (sync >>= fun _ =>
        markWebhookReceiptProcessedTx env event)).Quiet fun _ => () := by
  refine Quiet.bind (Quiet.bind quiet_select fun received => ?_) fun shouldProcess => ?_
  · split
    · trivial
    · exact Quiet.bind (quiet_exec fun _ => rfl) fun _ => trivial
  · exact quiet_doWhen (Quiet.bind (hsync.comp fun _ => ()) fun _ => quiet_exec fun _ => rfl)

theorem syncWebhookPaymentIntent_quiet {paymentIntent : StripePaymentIntent} :
    (syncWebhookPaymentIntent env paymentIntent : Tx S _).Quiet Database.receipts := by
  refine Quiet.bind quiet_select fun found => ?_
  cases found with
  | none => trivial
  | some found =>
    refine Quiet.bind getPaymentByIdTx_quiet fun payment => ?_
    split
    · trivial
    · exact Quiet.bind applyPaymentIntentStateTx_quiet fun _ => trivial

theorem syncWebhookRefund_quiet {refund : StripeRefund} :
    (syncWebhookRefund env refund : Tx S _).Quiet Database.receipts := by
  refine Quiet.bind quiet_select fun found => ?_
  cases found with
  | none => trivial
  | some found => exact Quiet.bind applyRefundStateTx_quiet fun _ => trivial

/-! ## Orders -/

theorem createOrder_quiet {data : CreateOrderDto} :
    (createOrder env org data : Tx S _).Quiet Database.receipts := by
  refine Quiet.bind quiet_require fun _ => Quiet.bind quiet_ofExcept fun _ => ?_
  refine Quiet.bind quiet_select fun db => Quiet.bind quiet_require fun _ => ?_
  refine Quiet.bind quiet_require fun _ => Quiet.bind quiet_require fun _ => ?_
  refine Quiet.bind quiet_ofExcept fun computed => ?_
  dsimp only
  split
  · exact Quiet.bind orderCreate_quiet fun _ =>
      Quiet.bind (quiet_exec fun _ => receipts_modifyOrder ..) fun _ => trivial
  · exact Quiet.bind orderCreate_quiet fun _ => trivial

theorem assertOrderAccessible_quiet :
    (assertOrderAccessible org orderId : Tx S _).Quiet Database.receipts :=
  assertOrderAccessible_readOnly.quiet

theorem updateOrder_quiet {data : UpdateOrderDto} :
    (updateOrder env org orderId data : Tx S _).Quiet Database.receipts := by
  refine Quiet.bind quiet_select fun db => Quiet.bind quiet_require fun _ => ?_
  refine Quiet.bind quiet_ofExcept fun _ => Quiet.bind quiet_require fun _ => ?_
  exact Quiet.bind (quiet_doWhen assertOrderAccessible_quiet) fun _ => orderUpdate_quiet

theorem deleteOrder_quiet : (deleteOrder org orderId : Tx S _).Quiet Database.receipts :=
  Quiet.bind (quiet_doWhen assertOrderAccessible_quiet) fun _ => orderDelete_quiet

theorem addOrderItem_quiet {data : CreateOrderItemDto} :
    (addOrderItem env org orderId data : Tx S _).Quiet Database.receipts := by
  refine Quiet.bind quiet_select fun order => ?_
  cases order with
  | none => trivial
  | some order =>
    refine Quiet.bind quiet_select fun product => ?_
    cases product with
    | none => trivial
    | some product =>
      exact Quiet.bind quiet_require fun _ => Quiet.bind quiet_ofExcept fun _ =>
        orderUpdate_quiet

theorem deleteOrderItem_quiet {itemId : Id} :
    (deleteOrderItem env org orderId itemId : Tx S _).Quiet Database.receipts := by
  refine Quiet.bind (quiet_doWhen assertOrderAccessible_quiet) fun _ => ?_
  refine Quiet.bind quiet_select fun item => ?_
  cases item with
  | none => trivial
  | some item =>
    exact Quiet.bind quiet_select fun _ => Quiet.bind quiet_require fun _ =>
      orderUpdateDeletingItem_quiet

theorem ensureTransitionPaymentTx_quiet :
    (ensureTransitionPaymentTx env orderId o : Tx S _).Quiet Database.receipts := by
  unfold ensureTransitionPaymentTx
  split
  · exact Quiet.bind getPaymentByIdTx_quiet fun _ => trivial
  · exact ensureLegacyPaymentForOrderTx_quiet

theorem transitionConfirmed_quiet :
    (transitionConfirmed env orderId o auditContext : Tx S _).Quiet Database.receipts :=
  Quiet.bind orderUpdate_quiet fun _ =>
    Quiet.bind createPaymentForConfirmedOrderTx_quiet fun _ => trivial

theorem transitionFulfilled_quiet :
    (transitionFulfilled env orderId o : Tx S _).Quiet Database.receipts := by
  refine Quiet.bind ensureTransitionPaymentTx_quiet fun payment => ?_
  cases payment with
  | none => trivial
  | some payment =>
    exact Quiet.bind quiet_require fun _ => Quiet.bind orderUpdate_quiet fun _ => trivial

/-! ## Calls to Stripe -/

theorem initiateCardPayment_callsOnce
    (hR : ∀ organizationId payment s, R s (stripe.createPaymentIntent
      (cardPaymentArgs orderId organizationId (env.uuid 1) payment) s).2) :
    (initiateCardPayment stripe env org orderId auditContext).CallsOnce Database.receipts R := by
  refine Quiet.bind_callsOnce orderAndPaymentTx_quiet fun ⟨order, payment?⟩ => ?_
  cases payment? with
  | none => trivial
  | some payment =>
    refine Quiet.bind_callsOnce quiet_require fun _ => ?_
    refine Quiet.bind_callsOnce quiet_ofExcept fun _ => ?_
    dsimp only
    split
    · trivial
    · refine CallsOnce.bind (callsOnce_invoke fun s => hR _ _ s) fun paymentIntent => ?_
      split
      · trivial
      · refine Quiet.bind paymentWrite_quiet fun _ => Quiet.bind paymentUpdate_quiet fun _ => ?_
        exact Quiet.bind writePaymentAuditLogTx_quiet fun _ => trivial

section

variable (hR : ∀ paymentIntentId s, R s (stripe.cancelOrRetrieve paymentIntentId s).2)

include hR

theorem cancelActiveCardAttemptTx_callsOnce :
    (cancelActiveCardAttemptTx stripe env orderId paymentId auditContext).CallsOnce
      Database.receipts R := by
  refine Quiet.bind_callsOnce getPaymentByIdTx_quiet fun payment => ?_
  split
  · trivial
  · exact CallsOnce.bind (callsOnce_invoke fun s => hR _ s) fun paymentIntent =>
      Quiet.bind applyPaymentIntentStateTx_quiet fun _ => getPaymentByIdTx_quiet

theorem deletePaymentForReopenTx_callsOnce :
    (deletePaymentForReopenTx stripe orderId paymentId auditContext).CallsOnce
      Database.receipts R := by
  refine Quiet.bind_callsOnce getPaymentByIdTx_quiet fun payment => ?_
  refine CallsOnce.bind ?_ fun _ => ?_
  · unfold cancelReusableAttempt
    split
    · trivial
    · exact CallsOnce.bind (callsOnce_invoke fun s => hR _ s) fun _ => trivial
  · exact Quiet.bind paymentWrite_quiet fun _ => Quiet.bind paymentDelete_quiet fun _ =>
      writePaymentAuditLogTx_quiet

theorem transitionCancelled_callsOnce :
    (transitionCancelled stripe env orderId o auditContext).CallsOnce Database.receipts R := by
  refine CallsOnce.bind (callsOnce_doWhen ?_) fun _ => Quiet.bind orderUpdate_quiet fun _ => trivial
  refine Quiet.bind_callsOnce ensureTransitionPaymentTx_quiet fun payment => ?_
  cases payment with
  | none => trivial
  | some payment =>
    refine Quiet.bind_callsOnce quiet_require fun _ => ?_
    refine Quiet.bind_callsOnce quiet_require fun _ => ?_
    exact CallsOnce.bind (cancelActiveCardAttemptTx_callsOnce hR) fun _ => trivial

theorem transitionPending_callsOnce :
    (transitionPending stripe env orderId o auditContext).CallsOnce Database.receipts R := by
  refine CallsOnce.bind ?_ fun _ => Quiet.bind orderUpdate_quiet fun _ => trivial
  refine Quiet.bind_callsOnce ensureTransitionPaymentTx_quiet fun payment => ?_
  cases payment with
  | none => trivial
  | some payment =>
    refine Quiet.bind_callsOnce quiet_require fun _ => ?_
    refine Quiet.bind_callsOnce quiet_require fun _ => ?_
    exact deletePaymentForReopenTx_callsOnce hR

theorem transitionStatus_callsOnce (toStatus : OrderStatus) :
    (transitionStatus stripe env org orderId toStatus auditContext).CallsOnce
      Database.receipts R := by
  refine Quiet.bind_callsOnce quiet_select fun found => ?_
  cases found with
  | none => trivial
  | some order =>
    refine Quiet.bind_callsOnce quiet_require fun _ => CallsOnce.bind ?_ fun _ => ?_
    · cases toStatus with
      | confirmed => exact transitionConfirmed_quiet.callsOnce
      | fulfilled => exact transitionFulfilled_quiet.callsOnce
      | cancelled => exact transitionCancelled_callsOnce hR
      | pending => exact transitionPending_callsOnce hR
    · refine Quiet.bind quiet_select fun found' => ?_
      cases found' <;> trivial

end

end

/-! ## Stripe and the receipts after a step -/

/-- What a step does at Stripe. -/
inductive StripeStep (stripe : StripeService S M) (w : World S) : Action M → S → Prop
  | same {a} : StripeStep stripe w a w.stripe
  /-- A card payment, whether or not its transaction was committed. -/
  | created {org orderId auditContext} (organizationId : Id) (payment : Payment) :
      StripeStep stripe w (.initiateCardPayment org orderId auditContext)
        (stripe.createPaymentIntent
          (cardPaymentArgs orderId organizationId (w.env.uuid 1) payment) w.stripe).2
  /-- A cancellation or a reopening, whether or not its transaction was committed. -/
  | cancelled {org orderId toStatus auditContext} (paymentIntentId : PaymentIntentId) :
      StripeStep stripe w (.transitionStatus org orderId toStatus auditContext)
        (stripe.cancelOrRetrieve paymentIntentId w.stripe).2
  | retrieved {callId orderId paymentId attempt auditContext}
      (hcall : w.calls.lookup callId =
        some (.confirmRetrieve orderId paymentId attempt auditContext)) :
      StripeStep stripe w (.resume callId)
        (stripe.retrievePaymentIntent attempt.stripePaymentIntentId w.stripe).2
  | refundCreated {callId call paymentIntentId}
      (hcall : w.calls.lookup callId = some (.refundCreate call paymentIntentId)) :
      StripeStep stripe w (.resume callId)
        (refundPaymentCreate stripe call paymentIntentId w.stripe).2
  | moved {move} : StripeStep stripe w (.stripe move) (stripe.move move w.stripe)

/-- The event that a webhook delivers. -/
def Action.event? : Action M → Option StripeEventId
  | .webhookPaymentIntent event _ _ => some event
  | .webhookRefund event _ _ => some event
  | _ => none

/-- The receipts before and after a step. -/
inductive ReceiptStep (db : Database) (a : Action M) (db' : Database) : Prop
  | same (h : db'.receipts = db.receipts)
  | delivered {event} (ha : a.event? = some event)
      (hother : ∀ e, e ≠ event → db'.receipts.lookup e = db.receipts.lookup e)
      (hown : db'.receipts.lookup event ≠ none)

section

variable {stripe : StripeService S M} {w : World S} {α γ : Type} {x : Tx S α} {f : Database → γ}
  {R : S → S → Prop} {a : Action M}

theorem transact_stripe (w : World S) (x : Tx S α) :
    (w.transact x).2.stripe = (x.run w.db w.stripe).2 := by
  unfold World.transact
  rcases x.run w.db w.stripe with ⟨_ | ⟨_, _⟩, _⟩ <;> rfl

theorem transact_quiet (w : World S) (hx : x.Quiet f) : (w.transact x).2.stripe = w.stripe :=
  (transact_stripe w x).trans (hx.run_snd _ _)

theorem autocommit_quiet (w : World S) (hx : x.Quiet f) : (w.autocommit x).2.stripe = w.stripe :=
  hx.runAuto_snd _ _

theorem transact_left (w : World S) (hx : x.CallsOnce f R) : f (w.transact x).2.db = f w.db := by
  rcases transact_cases w x with ⟨e, s, he⟩ | ⟨r, db, s, hr, he⟩
  · rw [he]
  · rw [he]
    exact hx.run_left hr

theorem autocommit_left (w : World S) (hx : x.CallsOnce f R) :
    f (w.autocommit x).2.db = f w.db :=
  hx.runAuto_left _ _

/-! ### Transactions without a call -/

theorem transact_outside (hx : x.Quiet Database.receipts) :
    StripeStep stripe w a (w.transact x).2.stripe ∧ ReceiptStep w.db a (w.transact x).2.db := by
  rw [transact_quiet w hx]
  exact ⟨.same, .same (transact_left w (hx.callsOnce (R := fun _ _ => True)))⟩

theorem autocommit_outside (hx : x.Quiet Database.receipts) :
    StripeStep stripe w a (w.autocommit x).2.stripe ∧
      ReceiptStep w.db a (w.autocommit x).2.db := by
  rw [autocommit_quiet w hx]
  exact ⟨.same, .same (autocommit_left w (hx.callsOnce (R := fun _ _ => True)))⟩

/-- The delivery of an event leaves the other receipts as they are, and its own afterwards. -/
theorem webhook_receipts {env : Env} {event : StripeEventId} {eventType : String}
    {sync : Tx S Unit} (hsync : sync.Quiet Database.receipts) {u : Unit} {db db' : Database}
    {s s' : S}
    (h : (createWebhookReceiptTx env event eventType >>= fun shouldProcess =>
      doWhen (shouldProcess = true) (sync >>= fun _ =>
        markWebhookReceiptProcessedTx env event)).run db s = (.ok (u, db'), s')) :
    (∀ e, e ≠ event → db'.receipts.lookup e = db.receipts.lookup e) ∧
      db'.receipts.lookup event ≠ none := by
  obtain ⟨shouldProcess, d, t, hreceipt, h₁⟩ := Prog.run_bind_ok.mp h
  obtain ⟨received, d₁, t₁, hread, h₂⟩ := Prog.run_bind_ok.mp hreceipt
  obtain ⟨rfl, rfl, rfl⟩ := Prog.run_select_ok.mp hread
  split at h₂
  · next hold =>
    -- received before: nothing is done
    obtain ⟨rfl, rfl, rfl⟩ := Prog.run_pure_ok.mp h₂
    rcases Prog.run_doWhen_ok.mp h₁ with ⟨hnew, -⟩ | ⟨-, rfl, rfl⟩
    · cases hnew
    · exact ⟨fun _ _ => rfl, Option.isSome_iff_ne_none.mp hold⟩
  · obtain ⟨u₃, d₃, t₃, hinsert, h₄⟩ := Prog.run_bind_ok.mp h₂
    obtain ⟨-, rfl, rfl⟩ := Prog.run_exec_ok.mp hinsert
    obtain ⟨rfl, rfl, rfl⟩ := Prog.run_pure_ok.mp h₄
    rcases Prog.run_doWhen_ok.mp h₁ with ⟨-, hrun⟩ | ⟨hold, -⟩
    · obtain ⟨u₅, d₅, t₅, hwork, hmark⟩ := Prog.run_bind_ok.mp hrun
      have hleft : d₅.receipts = d₁.receipts.insert event _ :=
        (hsync.callsOnce (R := fun _ _ => True)).run_left hwork
      obtain ⟨-, rfl, -⟩ := Prog.run_exec_ok.mp hmark
      rw [hleft, AList.lookup_insert]
      refine ⟨fun e hne => ?_, ?_⟩
      · show ((d₅.receipts.insert event _).lookup e) = _
        rw [hleft, AList.lookup_insert_ne hne, AList.lookup_insert_ne hne]
      · show ((d₅.receipts.insert event _).lookup event) ≠ none
        rw [AList.lookup_insert]
        exact Option.some_ne_none _
    · exact absurd rfl hold

theorem transact_webhook {env : Env} {event : StripeEventId} {eventType : String}
    {sync : Tx S Unit} (ha : a.event? = some event) (hsync : sync.Quiet Database.receipts) :
    StripeStep stripe w a (w.transact (createWebhookReceiptTx env event eventType >>=
        fun shouldProcess => doWhen (shouldProcess = true) (sync >>= fun _ =>
          markWebhookReceiptProcessedTx env event))).2.stripe ∧
      ReceiptStep w.db a (w.transact (createWebhookReceiptTx env event eventType >>=
        fun shouldProcess => doWhen (shouldProcess = true) (sync >>= fun _ =>
          markWebhookReceiptProcessedTx env event))).2.db := by
  rw [transact_quiet w (webhook_quiet hsync)]
  refine ⟨.same, ?_⟩
  rcases transact_cases w (createWebhookReceiptTx env event eventType >>= fun shouldProcess =>
    doWhen (shouldProcess = true) (sync >>= fun _ => markWebhookReceiptProcessedTx env event)) with
    ⟨e, s, he⟩ | ⟨r, db, s, hr, he⟩
  · rw [he]
    exact .same rfl
  · rw [he]
    exact .delivered ha (webhook_receipts hsync hr).1 (webhook_receipts hsync hr).2

/-! ### All steps -/

theorem resumeCall_outside {callId : Id} {call : InFlight}
    (hcall : w.calls.lookup callId = some call) :
    StripeStep stripe w (.resume callId) (w.resumeCall stripe callId call).2.stripe ∧
      (w.resumeCall stripe callId call).2.db.receipts = w.db.receipts := by
  have hquiet : ∀ {α : Type} {x : Tx S α}, x.Quiet Database.receipts →
      StripeStep stripe w (.resume callId) ((w.endCall callId).transact x).2.stripe ∧
        ((w.endCall callId).transact x).2.db.receipts = w.db.receipts := fun hx => by
    rw [transact_quiet _ hx]
    exact ⟨.same, transact_left (w.endCall callId) (hx.callsOnce (R := fun _ _ => True))⟩
  cases call with
  | confirmRetrieve orderId paymentId attempt auditContext =>
    refine ⟨?_, by rw [World.resumeCall, World.confirmRetrieved_db]⟩
    have hstep : StripeStep stripe w _ _ := .retrieved hcall
    show StripeStep stripe w _ (w.confirmRetrieved callId orderId paymentId attempt.id auditContext
      (stripe.retrievePaymentIntent attempt.stripePaymentIntentId w.stripe)).2.stripe
    rcases hr : stripe.retrievePaymentIntent attempt.stripePaymentIntentId w.stripe with ⟨_ | _, _⟩
    all_goals
      rw [hr] at hstep
      exact hstep
  | refundCreate call paymentIntentId =>
    refine ⟨?_, by rw [World.resumeCall, World.refundAnswered_db]⟩
    have hstep : StripeStep stripe w _ _ := .refundCreated hcall
    show StripeStep stripe w _ (w.refundAnswered callId call
      (refundPaymentCreate stripe call paymentIntentId w.stripe)).2.stripe
    rcases hr : refundPaymentCreate stripe call paymentIntentId w.stripe with ⟨_ | _, _⟩
    all_goals
      rw [hr] at hstep
      exact hstep
  | refundRequest call paymentIntentId =>
    rw [World.resumeCall, (World.requested_db ..).1, (World.requested_db ..).2]
    exact hquiet refundPaymentRequest_quiet
  | confirmApply orderId paymentId attemptId paymentIntent auditContext =>
    exact hquiet confirmCardPaymentApply_quiet
  | refundCash call => exact hquiet refundPaymentCash_quiet
  | refundFail call message => exact hquiet refundPaymentFail_quiet
  | refundApply call refund => exact hquiet refundPaymentApply_quiet

/-- A step, at Stripe and in the receipts. -/
theorem step_outside (stripe : StripeService S M) (w : World S) (a : Action M) :
    StripeStep stripe w a ((system stripe).step w a).stripe ∧
      ReceiptStep w.db a ((system stripe).step w a).db := by
  show StripeStep stripe w a (w.exec stripe a).2.stripe ∧ ReceiptStep w.db a (w.exec stripe a).2.db
  cases a with
  | createOrder org data => exact transact_outside createOrder_quiet
  | addOrderItem org orderId data => exact transact_outside addOrderItem_quiet
  | deleteOrderItem org orderId itemId => exact transact_outside deleteOrderItem_quiet
  | updateOrder org orderId data =>
    exact autocommit_outside (x := updateOrder w.env org orderId data) updateOrder_quiet
  | deleteOrder org orderId => exact autocommit_outside deleteOrder_quiet
  | transitionStatus org orderId toStatus auditContext =>
    constructor
    · rcases (transitionStatus_callsOnce (R := fun s s' => ∃ paymentIntentId,
        s' = (stripe.cancelOrRetrieve paymentIntentId s).2) (fun paymentIntentId s =>
          ⟨paymentIntentId, rfl⟩) toStatus).run_snd w.db w.stripe with h | ⟨paymentIntentId, h⟩
      all_goals
        have hs := (transact_stripe w (transitionStatus stripe w.env org orderId toStatus
          auditContext)).trans h
        show StripeStep stripe w _ (w.transact (transitionStatus stripe w.env org orderId toStatus
          auditContext)).2.stripe
        rw [hs]
      · exact .same
      · exact .cancelled paymentIntentId
    · exact .same (transact_left w
        (transitionStatus_callsOnce (R := fun _ _ => True) (fun _ _ => trivial) toStatus))
  | initiateCardPayment org orderId auditContext =>
    show StripeStep stripe w _ (World.reveal (w.transact (initiateCardPayment stripe w.env org
      orderId auditContext))).2.stripe ∧ ReceiptStep w.db _ (World.reveal (w.transact
        (initiateCardPayment stripe w.env org orderId auditContext))).2.db
    rw [(World.reveal_db _).1, (World.reveal_db _).2]
    constructor
    · rcases (initiateCardPayment_callsOnce (R := fun s s' => ∃ organizationId payment,
        s' = (stripe.createPaymentIntent (cardPaymentArgs orderId organizationId (w.env.uuid 1)
          payment) s).2) (fun organizationId payment s => ⟨organizationId, payment, rfl⟩)).run_snd
        w.db w.stripe with h | ⟨organizationId, payment, h⟩
      all_goals
        rw [(transact_stripe w (initiateCardPayment stripe w.env org orderId
          auditContext)).trans h]
      · exact .same
      · exact .created organizationId payment
    · exact .same (transact_left w
        (initiateCardPayment_callsOnce (R := fun _ _ => True) fun _ _ _ => trivial))
  | markCashPaid org orderId auditContext => exact transact_outside markCashPaid_quiet
  | getPayment org orderId =>
    exact autocommit_outside (x := getPaymentByOrderId w.env org orderId)
      (Quiet.bind orderAndPaymentTx_quiet fun _ => quiet_ofExcept)
  | confirmCardPayment org orderId auditContext =>
    show StripeStep stripe w _ (w.start _ _).2.stripe ∧ ReceiptStep w.db _ (w.start _ _).2.db
    rw [(World.start_db ..).1, (World.start_db ..).2]
    exact autocommit_outside (Quiet.bind orderAndPaymentTx_quiet fun _ => quiet_ofExcept)
  | refundPayment org orderId refundReason auditContext =>
    show StripeStep stripe w _ (w.start _ _).2.stripe ∧ ReceiptStep w.db _ (w.start _ _).2.db
    rw [(World.start_db ..).1, (World.start_db ..).2]
    exact autocommit_outside (Quiet.bind orderAndPaymentTx_quiet fun _ => quiet_ofExcept)
  | resume callId =>
    cases hcall : w.calls.lookup callId with
    | none =>
      rw [World.exec_resume_none hcall]
      exact ⟨.same, .same rfl⟩
    | some call =>
      rw [World.exec_resume hcall]
      exact (resumeCall_outside hcall).imp_right .same
  | webhookPaymentIntent event eventType paymentIntent =>
    exact transact_webhook rfl syncWebhookPaymentIntent_quiet
  | webhookRefund event eventType refund => exact transact_webhook rfl syncWebhookRefund_quiet
  | stripe move => exact ⟨.moved, .same rfl⟩
  | tick milliseconds => exact ⟨.same, .same rfl⟩
  | catalog products customers locations => exact ⟨.same, .same rfl⟩

/-- **A step asks Stripe for one thing at most.** -/
theorem step_stripe (stripe : StripeService S M) (w : World S) (a : Action M) :
    StripeStep stripe w a ((system stripe).step w a).stripe := (step_outside stripe w a).1

/-- **A step leaves the receipts as they are, or it delivers an event and leaves its receipt.** -/
theorem step_receipts (stripe : StripeService S M) (w : World S) (a : Action M) :
    ReceiptStep w.db a ((system stripe).step w a).db := (step_outside stripe w a).2

end

/-! ## Calls after a step -/

/-- How a call got to be between two of its parts. -/
inductive CallStep (stripe : StripeService S M) (w : World S) : Action M → Id → InFlight → Prop
  | kept {a callId call} (hcall : w.calls.lookup callId = some call) :
      CallStep stripe w a callId call
  | confirmStarted {org orderId auditContext o p attempt} (ho : w.db.order? orderId = some o)
      (hp : o.paymentOrLegacy w.env = some p) (ha : p.attempts.head? = some attempt) :
      CallStep stripe w (.confirmCardPayment org orderId auditContext) (w.env.uuid 0)
        (.confirmRetrieve orderId p.id attempt auditContext)
  | confirmRetrieved {callId orderId paymentId attempt auditContext paymentIntent s'}
      (hcall : w.calls.lookup callId =
        some (.confirmRetrieve orderId paymentId attempt auditContext))
      (hans : stripe.retrievePaymentIntent attempt.stripePaymentIntentId w.stripe =
        (.ok paymentIntent, s')) :
      CallStep stripe w (.resume callId) callId
        (.confirmApply orderId paymentId attempt.id paymentIntent auditContext)
  | cashStarted {org orderId refundReason auditContext o call} (ho : w.db.order? orderId = some o)
      (htarget : refundPaymentTarget org orderId refundReason auditContext o
        (o.paymentOrLegacy w.env) = .ok (call, none)) :
      CallStep stripe w (.refundPayment org orderId refundReason auditContext) (w.env.uuid 0)
        (.refundCash call)
  | cardStarted {org orderId refundReason auditContext o call paymentIntentId}
      (ho : w.db.order? orderId = some o)
      (htarget : refundPaymentTarget org orderId refundReason auditContext o
        (o.paymentOrLegacy w.env) = .ok (call, some paymentIntentId)) :
      CallStep stripe w (.refundPayment org orderId refundReason auditContext) (w.env.uuid 0)
        (.refundRequest call paymentIntentId)
  | requested {callId call paymentIntentId}
      (hcall : w.calls.lookup callId = some (.refundRequest call paymentIntentId)) :
      CallStep stripe w (.resume callId) callId (.refundCreate call paymentIntentId)
  | answered {callId call paymentIntentId refund s'}
      (hcall : w.calls.lookup callId = some (.refundCreate call paymentIntentId))
      (hans : refundPaymentCreate stripe call paymentIntentId w.stripe = (.ok refund, s')) :
      CallStep stripe w (.resume callId) callId (.refundApply call refund)
  | refused {callId call paymentIntentId message}
      (hcall : w.calls.lookup callId = some (.refundCreate call paymentIntentId)) :
      CallStep stripe w (.resume callId) callId (.refundFail call message)

section

variable {stripe : StripeService S M} {w : World S} {α : Type} {x : Tx S α} {callId k : Id}
  {call : InFlight}

theorem transact_calls (w : World S) (x : Tx S α) : (w.transact x).2.calls = w.calls := by
  unfold World.transact
  rcases x.run w.db w.stripe with ⟨_ | ⟨_, _⟩, _⟩ <;> rfl

theorem lookup_endCall (w : World S) (callId k : Id) :
    (w.endCall callId).calls.lookup k = if k = callId then none else w.calls.lookup k :=
  Table.lookup_erase_ite ..

theorem lookup_setCall (w : World S) (callId k : Id) (call : InFlight) :
    (w.setCall callId call).calls.lookup k =
      if k = callId then some call else w.calls.lookup k :=
  Table.lookup_insert_ite ..

theorem kept_of_endCall {a : Action M} (h : (w.endCall callId).calls.lookup k = some call) :
    CallStep stripe w a k call := by
  rw [lookup_endCall] at h
  split at h
  · cases h
  · exact .kept h

theorem kept_of_resumed {a : Action M}
    (h : ((w.endCall callId).transact x).2.calls.lookup k = some call) :
    CallStep stripe w a k call := by
  rw [transact_calls] at h
  exact kept_of_endCall h

/-- A call that was put is the new one, or it was there before. -/
theorem step_of_setCall {a : Action M} {new : InFlight} {w' : World S}
    (hcalls : ∀ k call, w'.calls.lookup k = some call → CallStep stripe w a k call)
    (hnew : CallStep stripe w a callId new)
    (h : (w'.setCall callId new).calls.lookup k = some call) : CallStep stripe w a k call := by
  rw [lookup_setCall] at h
  split at h
  · next hk =>
    cases h
    rw [hk]
    exact hnew
  · exact hcalls k call h

theorem resumeCall_calls {inFlight : InFlight} (hcall : w.calls.lookup callId = some inFlight)
    (h : (w.resumeCall stripe callId inFlight).2.calls.lookup k = some call) :
    CallStep stripe w (.resume callId) k call := by
  cases inFlight with
  | confirmRetrieve orderId paymentId attempt auditContext =>
    simp only [World.resumeCall] at h
    rcases hr : stripe.retrievePaymentIntent attempt.stripePaymentIntentId w.stripe with
      ⟨e | paymentIntent, s⟩
    · rw [hr] at h
      exact kept_of_endCall (w := w) h
    · rw [hr] at h
      exact step_of_setCall (fun k call hk => .kept hk) (.confirmRetrieved hcall hr) h
  | refundRequest refundCall paymentIntentId =>
    simp only [World.resumeCall] at h
    rcases transact_cases (w.endCall callId) (refundPaymentRequest w.env refundCall) with
      ⟨e, s, he⟩ | ⟨u, db, s, hr, he⟩
    · rw [he] at h
      exact kept_of_endCall h
    · rw [he] at h
      exact step_of_setCall (fun k call hk => kept_of_endCall hk) (.requested hcall) h
  | refundCreate refundCall paymentIntentId =>
    simp only [World.resumeCall] at h
    rcases hr : refundPaymentCreate stripe refundCall paymentIntentId w.stripe with ⟨e | refund, s⟩
    · rw [hr] at h
      exact step_of_setCall (fun k call hk => .kept hk) (.refused hcall) h
    · rw [hr] at h
      exact step_of_setCall (fun k call hk => .kept hk) (.answered hcall hr) h
  | confirmApply orderId paymentId attemptId paymentIntent auditContext => exact kept_of_resumed h
  | refundCash refundCall => exact kept_of_resumed h
  | refundFail refundCall message => exact kept_of_resumed h
  | refundApply refundCall refund => exact kept_of_resumed h

/-- **A call after a step was there before, has just started, or went on.** -/
theorem step_calls {a : Action M} (h : ((system stripe).step w a).calls.lookup k = some call) :
    CallStep stripe w a k call := by
  replace h : (w.exec stripe a).2.calls.lookup k = some call := h
  have hkept : ∀ {α : Type} {x : Tx S α}, (w.transact x).2.calls.lookup k = some call →
      CallStep stripe w a k call := fun hk => by
    rw [transact_calls] at hk
    exact .kept hk
  cases a with
  | createOrder org data => exact hkept h
  | addOrderItem org orderId data => exact hkept h
  | deleteOrderItem org orderId itemId => exact hkept h
  | updateOrder org orderId data => exact .kept h
  | deleteOrder org orderId => exact .kept h
  | transitionStatus org orderId toStatus auditContext => exact hkept h
  | initiateCardPayment org orderId auditContext =>
    simp only [World.exec] at h
    rcases transact_cases w (initiateCardPayment stripe w.env org orderId auditContext) with
      ⟨e, s, he⟩ | ⟨u, db, s, hr, he⟩
    all_goals
      rw [he] at h
      exact .kept h
  | markCashPaid org orderId auditContext => exact hkept h
  | getPayment org orderId => exact .kept h
  | confirmCardPayment org orderId auditContext =>
    simp only [World.exec] at h
    unfold World.autocommit at h
    rcases hr : (confirmCardPaymentRead w.env org orderId).runAuto w.db w.stripe with
      ⟨e | ⟨p, attempt⟩, db, s⟩
    · rw [hr] at h
      exact .kept h
    · rw [hr] at h
      obtain ⟨read, d, t, run_read, h₁⟩ := Prog.run_bind_ok.mp (Prog.runAuto_ok.mp hr)
      obtain ⟨ho, -, hp, -, -⟩ := orderAndPaymentTx_ok run_read
      obtain ⟨htarget, -, -⟩ := Prog.run_ofExcept_ok.mp h₁
      obtain ⟨hpay, hattempt⟩ := confirmCardPaymentTarget_ok.mp htarget
      exact step_of_setCall (fun k call hk => .kept hk)
        (.confirmStarted ho (hp.symm.trans hpay) hattempt) h
  | refundPayment org orderId refundReason auditContext =>
    simp only [World.exec] at h
    unfold World.autocommit at h
    rcases hr : (refundPaymentGuard w.env org orderId refundReason auditContext).runAuto w.db
      w.stripe with ⟨e | ⟨refundCall, intent?⟩, db, s⟩
    · rw [hr] at h
      exact .kept h
    · rw [hr] at h
      obtain ⟨read, d, t, run_read, h₁⟩ := Prog.run_bind_ok.mp (Prog.runAuto_ok.mp hr)
      obtain ⟨ho, -, hp, -, -⟩ := orderAndPaymentTx_ok run_read
      obtain ⟨htarget, -, -⟩ := Prog.run_ofExcept_ok.mp h₁
      rw [hp] at htarget
      cases intent? with
      | none => exact step_of_setCall (fun k call hk => .kept hk) (.cashStarted ho htarget) h
      | some paymentIntentId =>
        exact step_of_setCall (fun k call hk => .kept hk) (.cardStarted ho htarget) h
  | resume callId =>
    cases hcall : w.calls.lookup callId with
    | none =>
      rw [World.exec_resume_none hcall] at h
      exact .kept h
    | some inFlight =>
      rw [World.exec_resume hcall] at h
      exact resumeCall_calls hcall h
  | webhookPaymentIntent event eventType paymentIntent => exact hkept h
  | webhookRefund event eventType refund => exact hkept h
  | stripe move => exact .kept h
  | tick milliseconds => exact .kept h
  | catalog products customers locations => exact .kept h

end

/-! ## A card payment -/

section

variable {stripe : StripeService S M} {w : World S} {α : Type} {x : Tx S α}

theorem transact_returned (w : World S) (x : Tx S α) :
    (w.transact x).2.returned = w.returned := by
  unfold World.transact
  rcases x.run w.db w.stripe with ⟨_ | ⟨_, _⟩, _⟩ <;> rfl

theorem start_returned (f : α → InFlight) (r : Except AppError α × World S) :
    (w.start f r).2.returned = r.2.returned := by
  rcases r with ⟨_ | _, _⟩ <;> rfl

theorem resumeCall_returned (callId : Id) (call : InFlight) :
    (w.resumeCall stripe callId call).2.returned = w.returned := by
  cases call with
  | confirmRetrieve orderId paymentId attempt auditContext =>
    simp only [World.resumeCall]
    rcases stripe.retrievePaymentIntent attempt.stripePaymentIntentId w.stripe with ⟨_ | _, _⟩ <;>
      rfl
  | refundRequest call paymentIntentId =>
    simp only [World.resumeCall]
    rcases transact_cases (w.endCall callId) (refundPaymentRequest w.env call) with
      ⟨e, s, he⟩ | ⟨u, db, s, -, he⟩ <;> rw [he] <;> rfl
  | refundCreate call paymentIntentId =>
    simp only [World.resumeCall]
    rcases refundPaymentCreate stripe call paymentIntentId w.stripe with ⟨_ | _, _⟩ <;> rfl
  | confirmApply orderId paymentId attemptId paymentIntent auditContext =>
    exact transact_returned (w.endCall callId) _
  | refundCash call => exact transact_returned (w.endCall callId) _
  | refundFail call message => exact transact_returned (w.endCall callId) _
  | refundApply call refund => exact transact_returned (w.endCall callId) _

/-- Only a card payment makes a client secret known. -/
theorem step_returned {a : Action M}
    (ha : ∀ org orderId auditContext, a ≠ .initiateCardPayment org orderId auditContext) :
    ((system stripe).step w a).returned = w.returned := by
  show (w.exec stripe a).2.returned = w.returned
  cases a with
  | createOrder org data => exact transact_returned w _
  | addOrderItem org orderId data => exact transact_returned w _
  | deleteOrderItem org orderId itemId => exact transact_returned w _
  | updateOrder org orderId data => rfl
  | deleteOrder org orderId => rfl
  | transitionStatus org orderId toStatus auditContext => exact transact_returned w _
  | initiateCardPayment org orderId auditContext => exact absurd rfl (ha _ _ _)
  | markCashPaid org orderId auditContext => exact transact_returned w _
  | getPayment org orderId => rfl
  | confirmCardPayment org orderId auditContext => exact start_returned _ _
  | refundPayment org orderId refundReason auditContext => exact start_returned _ _
  | resume callId =>
    cases hcall : w.calls.lookup callId with
    | none => rw [World.exec_resume_none hcall]
    | some call =>
      rw [World.exec_resume hcall]
      exact resumeCall_returned callId call
  | webhookPaymentIntent event eventType paymentIntent => exact transact_returned w _
  | webhookRefund event eventType refund => exact transact_returned w _
  | stripe move => rfl
  | tick milliseconds => rfl
  | catalog products customers locations => rfl

/-- What a card payment does: it fails, or answers the secret of the attempt in progress, or starts
an attempt and answers the secret of a new intent. -/
inductive CardStep (stripe : StripeService S M) (w : World S) (org : CurrentOrg) (orderId : Id)
    (w' : World S) : Prop
  | failed (hdb : w'.db = w.db) (hret : w'.returned = w.returned)
  | resumed {o p attempt} (ho : w.db.order? orderId = some o) (hp : o.payment = some p)
      (ha : attempt ∈ p.attempts) (hret : w'.returned = attempt.clientSecret :: w.returned)
      (hput : w.db.Puts orderId o [] w'.db) (hs : w'.stripe = w.stripe)
  | created (o : OrderRecord) (p : PaymentWithAttempts) (paymentIntent : StripePaymentIntent)
      (clientSecret : ClientSecret) (ho : w.db.order? orderId = some o)
      (hv : o.visibleTo org = true) (hs : o.status = .confirmed)
      (hp : o.paymentOrLegacy w.env = some p)
      (hrefund : p.refundStatus = .none ∨ p.refundStatus = .failed)
      (hpaid : p.paymentStatus ≠ .paid) (hr : getReusableAttempt p = none)
      (hans : stripe.createPaymentIntent (cardPaymentArgs orderId o.organizationId (w.env.uuid 1)
        p.toPayment) w.stripe = (.ok paymentIntent, w'.stripe))
      (hsecret : paymentIntent.clientSecret = some clientSecret)
      (hret : w'.returned = clientSecret :: w.returned)
      (hput : w.db.Puts orderId { o with payment := some (withAttempt w.env p
        (newAttempt w.env p.toPayment paymentIntent.id clientSecret)) }
        [(p.id, .paymentAttemptStarted)] w'.db)

theorem step_initiateCardPayment (stripe : StripeService S M) (w : World S) (org : CurrentOrg)
    (orderId : Id) (auditContext : AuditContext) :
    CardStep stripe w org orderId
      ((system stripe).step w (.initiateCardPayment org orderId auditContext)) := by
  show CardStep stripe w org orderId (World.reveal
    (w.transact (initiateCardPayment stripe w.env org orderId auditContext))).2.next
  rcases transact_cases w (initiateCardPayment stripe w.env org orderId auditContext) with
    ⟨e, s, he⟩ | ⟨dto, db, s, hr, he⟩
  · rw [he]
    exact .failed rfl rfl
  · rw [he]
    show CardStep stripe w org orderId (World.next
      { w with db := db, stripe := s, returned := dto.clientSecret :: w.returned })
    obtain ⟨o, p, ho, hv, hs, hp, hrefund, hpaid, hcase⟩ := initiateCardPayment_ok hr
    rcases hcase with ⟨attempt, hre, hsecret, hput, rfl⟩ | ⟨paymentIntent, hre, hans, hsecret, hput⟩
    · have hmem : attempt ∈ p.attempts :=
        List.mem_of_mem_head? (getReusableAttempt_eq_some.mp hre).1
      have hpay : o.payment = some p := OrderRecord.payment_of_reusable hp hre
      rw [OrderRecord.backfilled_of_payment hpay] at hput
      exact .resumed ho hpay hmem (congrArg (· :: w.returned) hsecret) hput rfl
    · exact .created o p paymentIntent _ ho hv hs hp hrefund hpaid hre hans hsecret rfl hput

end

end LedgerLight
