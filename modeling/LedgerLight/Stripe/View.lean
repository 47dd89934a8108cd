import LedgerLight.Infra.Mirror
import LedgerLight.Order.Service
import LedgerLight.Payment.Calls

/-!
# What the services see of Stripe

Two clients of Stripe that answer alike cannot be told apart by the services, also if one of them
keeps more of what it was asked.

* `StripeView` : a client, and what another one sees of its state.
* `transitionStatus_mirrors`, `initiateCardPayment_mirrors`, … : a service call over both clients
  makes the same statements.
-/

namespace LedgerLight

open Infra Prog

variable {S S' M : Type}

/-- The clients answer alike: `see` shows the state of the second in that of the first. -/
structure StripeView (stripe : StripeService S M) (stripe' : StripeService S' M) where
  see : S → S'
  move : ∀ m s, stripe'.move m (see s) = see (stripe.move m s)
  createPaymentIntent : ∀ args s, stripe'.createPaymentIntent args (see s) =
    ((stripe.createPaymentIntent args s).1, see (stripe.createPaymentIntent args s).2)
  retrievePaymentIntent : ∀ id s, stripe'.retrievePaymentIntent id (see s) =
    ((stripe.retrievePaymentIntent id s).1, see (stripe.retrievePaymentIntent id s).2)
  cancelPaymentIntent : ∀ id s, stripe'.cancelPaymentIntent id (see s) =
    ((stripe.cancelPaymentIntent id s).1, see (stripe.cancelPaymentIntent id s).2)
  createRefund : ∀ args s, stripe'.createRefund args (see s) =
    ((stripe.createRefund args s).1, see (stripe.createRefund args s).2)

section

variable {see : S → S'} {env : Env} {org : CurrentOrg} {orderId paymentId : Id}
  {auditContext : AuditContext} {p : PaymentWithAttempts} {o : OrderRecord}

/-! ## Payments -/

theorem createPaymentForConfirmedOrderTx_mirrors {organizationId : Id} {amountCents : Int}
    {orderCreatedAt : Date} :
    (createPaymentForConfirmedOrderTx env orderId organizationId amountCents orderCreatedAt
      auditContext : Tx S _).Mirrors see (createPaymentForConfirmedOrderTx env orderId
        organizationId amountCents orderCreatedAt auditContext) := by
  refine .bind (mirrors_select _) fun existing => ?_
  cases existing with
  | some existing => exact .done existing
  | none =>
    exact .bind (mirrors_returning ..) fun payment =>
      .bind (mirrors_exec ..) fun _ => .done payment

theorem ensureLegacyPaymentForOrderTx_mirrors {organizationId : Id} {orderStatus : OrderStatus}
    {amountCents : Int} {orderCreatedAt : Date} {placedAt : Option Date} :
    (ensureLegacyPaymentForOrderTx env orderId organizationId orderStatus amountCents
      orderCreatedAt placedAt : Tx S _).Mirrors see (ensureLegacyPaymentForOrderTx env orderId
        organizationId orderStatus amountCents orderCreatedAt placedAt) := by
  refine .bind (mirrors_select _) fun existing => ?_
  cases existing with
  | some existing => exact .done _
  | none =>
    dsimp only
    split
    · exact .done none
    · exact .map (mirrors_returning ..) some

theorem getPaymentByIdTx_mirrors :
    (getPaymentByIdTx orderId paymentId : Tx S _).Mirrors see
      (getPaymentByIdTx orderId paymentId) := by
  refine .bind (mirrors_select _) fun found => ?_
  cases found with
  | none => exact .fail _
  | some payment => exact .done payment

theorem getOrderWithPaymentTx_mirrors :
    (getOrderWithPaymentTx org orderId : Tx S _).Mirrors see
      (getOrderWithPaymentTx org orderId) := by
  refine .bind (mirrors_select _) fun found => ?_
  cases found with
  | none => exact .fail _
  | some order => exact .done order

theorem orderAndPaymentTx_mirrors :
    (orderAndPaymentTx env org orderId : Tx S _).Mirrors see
      (orderAndPaymentTx env org orderId) := by
  refine .bind getOrderWithPaymentTx_mirrors fun order => .bind ?_ fun payment => .done _
  unfold paymentOrLegacyTx
  split
  · exact .done _
  · exact ensureLegacyPaymentForOrderTx_mirrors

theorem applyPaymentIntentStateTx_mirrors {attempt : PaymentAttempt}
    {paymentIntent : StripePaymentIntent} :
    (applyPaymentIntentStateTx env orderId p attempt paymentIntent auditContext :
      Tx S _).Mirrors see
        (applyPaymentIntentStateTx env orderId p attempt paymentIntent auditContext) := by
  unfold applyPaymentIntentStateTx
  dsimp only
  split
  · exact .done _
  · refine .bind (mirrors_doWhen _ (.bind (mirrors_returning ..) fun _ => .done ())) fun _ =>
      .bind (mirrors_returning ..) fun updated => ?_
    split
    · cases paymentStatusAction updated.paymentStatus with
      | none => exact .done _
      | some action => exact .bind (mirrors_exec ..) fun _ => .done _
    · exact .done _

theorem applyRefundStateTx_mirrors {refund : StripeRefund} :
    (applyRefundStateTx env orderId o p refund auditContext : Tx S _).Mirrors see
      (applyRefundStateTx env orderId o p refund auditContext) := by
  refine .bind ?_ fun updated =>
    .bind (mirrors_doWhen _ (.bind (mirrors_returning ..) fun _ => .done ())) fun _ =>
    .bind (mirrors_doWhen _ (mirrors_exec ..)) fun _ =>
    .bind (mirrors_doWhen _ (mirrors_exec ..)) fun _ => .done _
  unfold updateRefundTx
  split
  · exact mirrors_returning ..
  · exact .done p

theorem markCashPaid_mirrors :
    (markCashPaid env org orderId auditContext : Tx S _).Mirrors see
      (markCashPaid env org orderId auditContext) := by
  refine .bind orderAndPaymentTx_mirrors fun read => ?_
  obtain ⟨order, payment⟩ := read
  cases payment with
  | none => exact .fail _
  | some payment =>
    exact .bind (mirrors_require ..) fun _ => .bind (mirrors_ofExcept _) fun _ =>
      .bind (mirrors_require ..) fun _ => .bind (mirrors_require ..) fun _ =>
      .bind (mirrors_returning ..) fun _ => .bind (mirrors_exec ..) fun _ => .done _

theorem getPaymentByOrderId_mirrors :
    (getPaymentByOrderId env org orderId : Tx S _).Mirrors see
      (getPaymentByOrderId env org orderId) :=
  .bind orderAndPaymentTx_mirrors fun _ => mirrors_ofExcept _

theorem confirmCardPaymentRead_mirrors :
    (confirmCardPaymentRead env org orderId : Tx S _).Mirrors see
      (confirmCardPaymentRead env org orderId) :=
  .bind orderAndPaymentTx_mirrors fun _ => mirrors_ofExcept _

theorem confirmCardPaymentApply_mirrors {attemptId : Id} {paymentIntent : StripePaymentIntent} :
    (confirmCardPaymentApply env orderId paymentId attemptId paymentIntent auditContext :
      Tx S _).Mirrors see
        (confirmCardPaymentApply env orderId paymentId attemptId paymentIntent auditContext) := by
  refine .bind getPaymentByIdTx_mirrors fun payment => ?_
  cases freshAttempt? payment attemptId with
  | none => exact .fail _
  | some attempt => exact applyPaymentIntentStateTx_mirrors

theorem markRefundRequestedTx_mirrors {refundReason : String} :
    (markRefundRequestedTx env orderId p refundReason auditContext : Tx S _).Mirrors see
      (markRefundRequestedTx env orderId p refundReason auditContext) :=
  .bind (mirrors_returning ..) fun requested =>
    .bind (mirrors_doWhen _ (mirrors_exec ..)) fun _ => .done requested

theorem refundPaymentGuard_mirrors {refundReason : String} :
    (refundPaymentGuard env org orderId refundReason auditContext : Tx S _).Mirrors see
      (refundPaymentGuard env org orderId refundReason auditContext) :=
  .bind orderAndPaymentTx_mirrors fun _ => mirrors_ofExcept _

theorem refundPaymentCash_mirrors {call : RefundCall} :
    (refundPaymentCash env call : Tx S _).Mirrors see (refundPaymentCash env call) :=
  .bind getOrderWithPaymentTx_mirrors fun _ => .bind getPaymentByIdTx_mirrors fun _ =>
    .bind markRefundRequestedTx_mirrors fun _ => .bind (mirrors_returning ..) fun _ =>
    .bind (mirrors_doWhen _ (.bind (mirrors_returning ..) fun _ => .done ())) fun _ =>
    .bind (mirrors_exec ..) fun _ => .done _

theorem refundPaymentRequest_mirrors {call : RefundCall} :
    (refundPaymentRequest env call : Tx S _).Mirrors see (refundPaymentRequest env call) :=
  .bind getPaymentByIdTx_mirrors fun _ => .bind markRefundRequestedTx_mirrors fun _ => .done ()

theorem refundPaymentFail_mirrors {call : RefundCall} {failureMessage : String} :
    (refundPaymentFail env call failureMessage : Tx S _).Mirrors see
      (refundPaymentFail env call failureMessage) :=
  .bind getPaymentByIdTx_mirrors fun _ => .bind (mirrors_returning ..) fun _ =>
    .bind (mirrors_exec ..) fun _ => .done _

theorem refundPaymentApply_mirrors {call : RefundCall} {refund : StripeRefund} :
    (refundPaymentApply env call refund : Tx S _).Mirrors see
      (refundPaymentApply env call refund) :=
  .bind getOrderWithPaymentTx_mirrors fun _ => .bind getPaymentByIdTx_mirrors fun _ =>
    applyRefundStateTx_mirrors

/-! ## Webhooks -/

/-- A handler around its work. -/
theorem received_mirrors {event : StripeEventId} {eventType : String} {x : Tx S Unit}
    {y : Tx S' Unit} (h : x.Mirrors see y) :
    (do let shouldProcess ← createWebhookReceiptTx env event eventType
        doWhen (shouldProcess = true) (do
          x
          markWebhookReceiptProcessedTx env event) : Tx S Unit).Mirrors see (do
        let shouldProcess ← createWebhookReceiptTx env event eventType
        doWhen (shouldProcess = true) (do
          y
          markWebhookReceiptProcessedTx env event)) := by
  refine .bind (.bind (mirrors_select _) fun received => ?_) fun _ =>
    mirrors_doWhen _ (.bind h fun _ => mirrors_exec ..)
  cases received with
  | true => exact .done false
  | false => exact .bind (mirrors_exec ..) fun _ => .done true

theorem handleWebhookPaymentIntent_mirrors {event : StripeEventId} {eventType : String}
    {paymentIntent : StripePaymentIntent} :
    (handleWebhookPaymentIntent env event eventType paymentIntent : Tx S _).Mirrors see
      (handleWebhookPaymentIntent env event eventType paymentIntent) := by
  refine received_mirrors (.bind (mirrors_select _) fun found => ?_)
  cases found with
  | none => exact .done ()
  | some found =>
    refine .bind getPaymentByIdTx_mirrors fun payment => ?_
    cases freshAttempt? payment found.2.2.id with
    | none => exact .done ()
    | some attempt => exact .bind applyPaymentIntentStateTx_mirrors fun _ => .done ()

theorem handleWebhookRefund_mirrors {event : StripeEventId} {eventType : String}
    {refund : StripeRefund} :
    (handleWebhookRefund env event eventType refund : Tx S _).Mirrors see
      (handleWebhookRefund env event eventType refund) := by
  refine received_mirrors (.bind (mirrors_select _) fun found => ?_)
  cases found with
  | none => exact .done ()
  | some found => exact .bind applyRefundStateTx_mirrors fun _ => .done ()

/-! ## Orders -/

theorem createOrder_mirrors {data : CreateOrderDto} :
    (createOrder env org data : Tx S _).Mirrors see (createOrder env org data) := by
  refine .bind (mirrors_require ..) fun _ => .bind (mirrors_ofExcept _) fun _ =>
    .bind (mirrors_select _) fun db => .bind (mirrors_require ..) fun _ =>
    .bind (mirrors_require ..) fun _ => .bind (mirrors_require ..) fun _ =>
    .bind (mirrors_ofExcept _) fun lines => ?_
  obtain ⟨items, totals⟩ := lines
  dsimp only
  split
  · exact .bind (mirrors_returning ..) fun order => .bind (mirrors_exec ..) fun _ => .done _
  · exact .bind (mirrors_returning ..) fun order => .done _

theorem assertOrderAccessible_mirrors :
    (assertOrderAccessible org orderId : Tx S _).Mirrors see
      (assertOrderAccessible org orderId) := by
  refine .bind (mirrors_select _) fun order => ?_
  cases order with
  | none => exact .fail _
  | some order => exact mirrors_require ..

theorem updateOrder_mirrors {data : UpdateOrderDto} :
    (updateOrder env org orderId data : Tx S _).Mirrors see
      (updateOrder env org orderId data) :=
  .bind (mirrors_select _) fun _ => .bind (mirrors_require ..) fun _ =>
    .bind (mirrors_ofExcept _) fun _ => .bind (mirrors_require ..) fun _ =>
    .bind (mirrors_doWhen _ assertOrderAccessible_mirrors) fun _ => mirrors_returning ..

theorem deleteOrder_mirrors :
    (deleteOrder org orderId : Tx S _).Mirrors see (deleteOrder org orderId) :=
  .bind (mirrors_doWhen _ assertOrderAccessible_mirrors) fun _ => mirrors_exec ..

theorem addOrderItem_mirrors {data : CreateOrderItemDto} :
    (addOrderItem env org orderId data : Tx S _).Mirrors see
      (addOrderItem env org orderId data) := by
  refine .bind (mirrors_select _) fun order => ?_
  cases order with
  | none => exact .fail _
  | some order =>
    refine .bind (mirrors_select _) fun product => ?_
    cases product with
    | none => exact .fail _
    | some product =>
      exact .bind (mirrors_require ..) fun _ => .bind (mirrors_ofExcept _) fun item =>
        mirrors_returning ..

theorem deleteOrderItem_mirrors {itemId : Id} :
    (deleteOrderItem env org orderId itemId : Tx S _).Mirrors see
      (deleteOrderItem env org orderId itemId) := by
  refine .bind (mirrors_doWhen _ assertOrderAccessible_mirrors) fun _ =>
    .bind (mirrors_select _) fun item => ?_
  cases item with
  | none => exact .fail _
  | some item =>
    exact .bind (mirrors_select _) fun _ => .bind (mirrors_require ..) fun _ =>
      mirrors_returning ..

end

/-! ## Calls to Stripe -/

section

variable {stripe : StripeService S M} {stripe' : StripeService S' M}
  (view : StripeView stripe stripe') {env : Env} {org : CurrentOrg} {orderId paymentId : Id}
  {auditContext : AuditContext} {o : OrderRecord}

theorem StripeView.cancelOrRetrieve (paymentIntentId : PaymentIntentId) (s : S) :
    stripe'.cancelOrRetrieve paymentIntentId (view.see s) =
      ((stripe.cancelOrRetrieve paymentIntentId s).1,
        view.see (stripe.cancelOrRetrieve paymentIntentId s).2) := by
  unfold StripeService.cancelOrRetrieve
  rw [view.cancelPaymentIntent]
  rcases stripe.cancelPaymentIntent paymentIntentId s with ⟨_ | paymentIntent, s₁⟩
  · exact view.retrievePaymentIntent paymentIntentId s₁
  · rfl

theorem cancelActiveCardAttemptTx_mirrors :
    (cancelActiveCardAttemptTx stripe env orderId paymentId auditContext).Mirrors view.see
      (cancelActiveCardAttemptTx stripe' env orderId paymentId auditContext) := by
  refine .bind getPaymentByIdTx_mirrors fun payment => ?_
  cases getReusableAttempt payment with
  | none => exact .done payment
  | some attempt =>
    exact .bind (mirrors_invoke fun s => view.cancelOrRetrieve _ s) fun _ =>
      .bind applyPaymentIntentStateTx_mirrors fun _ => getPaymentByIdTx_mirrors

theorem deletePaymentForReopenTx_mirrors :
    (deletePaymentForReopenTx stripe orderId paymentId auditContext).Mirrors view.see
      (deletePaymentForReopenTx stripe' orderId paymentId auditContext) := by
  refine .bind getPaymentByIdTx_mirrors fun payment => .bind ?_ fun _ =>
    .bind (mirrors_returning ..) fun _ => .bind (mirrors_exec ..) fun _ => mirrors_exec ..
  cases getReusableAttempt payment with
  | none => exact .done ()
  | some attempt =>
    exact .bind (mirrors_invoke fun s => view.cancelOrRetrieve _ s) fun _ => .done ()

theorem initiateCardPayment_mirrors :
    (initiateCardPayment stripe env org orderId auditContext).Mirrors view.see
      (initiateCardPayment stripe' env org orderId auditContext) := by
  refine .bind orderAndPaymentTx_mirrors fun read => ?_
  obtain ⟨order, payment⟩ := read
  cases payment with
  | none => exact .fail _
  | some payment =>
    refine .bind (mirrors_require ..) fun _ => .bind (mirrors_ofExcept _) fun _ => ?_
    cases getReusableAttempt payment with
    | some attempt => exact .done _
    | none =>
      refine .bind (mirrors_invoke fun s => view.createPaymentIntent _ s) fun paymentIntent => ?_
      cases paymentIntent.clientSecret.filter (· ≠ "") with
      | none => exact .fail _
      | some clientSecret =>
        exact .bind (mirrors_returning ..) fun _ => .bind (mirrors_returning ..) fun _ =>
          .bind (mirrors_exec ..) fun _ => .done _

theorem ensureTransitionPaymentTx_mirrors {see : S → S'} :
    (ensureTransitionPaymentTx env orderId o : Tx S _).Mirrors see
      (ensureTransitionPaymentTx env orderId o) := by
  unfold ensureTransitionPaymentTx
  split
  · exact .map getPaymentByIdTx_mirrors some
  · exact ensureLegacyPaymentForOrderTx_mirrors

theorem transitionTo_mirrors (toStatus : OrderStatus) :
    (transitionTo stripe env orderId o auditContext toStatus).Mirrors view.see
      (transitionTo stripe' env orderId o auditContext toStatus) := by
  cases toStatus with
  | confirmed =>
    exact .bind (mirrors_returning ..) fun _ =>
      .bind createPaymentForConfirmedOrderTx_mirrors fun _ => .done ()
  | fulfilled =>
    refine .bind ensureTransitionPaymentTx_mirrors fun payment => ?_
    cases payment with
    | none => exact .fail _
    | some payment =>
      exact .bind (mirrors_require ..) fun _ => .bind (mirrors_returning ..) fun _ => .done ()
  | cancelled =>
    refine .bind (mirrors_doWhen _ (.bind ensureTransitionPaymentTx_mirrors fun payment => ?_))
      fun _ => .bind (mirrors_returning ..) fun _ => .done ()
    cases payment with
    | none => exact .done ()
    | some payment =>
      exact .bind (mirrors_require ..) fun _ => .bind (mirrors_require ..) fun _ =>
        .bind (cancelActiveCardAttemptTx_mirrors view) fun _ => .done ()
  | pending =>
    refine .bind (.bind ensureTransitionPaymentTx_mirrors fun payment => ?_) fun _ =>
      .bind (mirrors_returning ..) fun _ => .done ()
    cases payment with
    | none => exact .done ()
    | some payment =>
      exact .bind (mirrors_require ..) fun _ => .bind (mirrors_require ..) fun _ =>
        deletePaymentForReopenTx_mirrors view

theorem transitionStatus_mirrors (toStatus : OrderStatus) :
    (transitionStatus stripe env org orderId toStatus auditContext).Mirrors view.see
      (transitionStatus stripe' env org orderId toStatus auditContext) := by
  refine .bind (mirrors_select _) fun order => ?_
  cases order with
  | none => exact .fail _
  | some order =>
    refine .bind (mirrors_require ..) fun _ => .bind (transitionTo_mirrors view toStatus)
      fun _ => .bind (mirrors_select _) fun updated => ?_
    cases updated with
    | none => exact .fail _
    | some updated => exact .done updated

end

end LedgerLight
