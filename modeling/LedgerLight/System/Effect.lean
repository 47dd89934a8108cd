import LedgerLight.Order.Spec
import LedgerLight.Payment.CallsSpec
import LedgerLight.System.World

/-!
# What a step does to the database

Every step of `system stripe` leaves the orders alone, creates one, deletes one, or changes one
(`Effect`), and `Change` lists the ways an order changes, each with the guards that were passed.
What is proved about orders and payments is proved by a case analysis on `Change`.

* `step_effect` : every step has an effect.
* `every_step`, `every_run` : what a new order has and every change keeps, every order has in
  every run.
-/

namespace LedgerLight

open Infra

variable {S M : Type}

/-! ## What a step applies to a payment -/

/-- A snapshot of a PaymentIntent that a step applies to a payment. -/
structure IntentSync where
  orderId : Id
  order : OrderRecord
  payment : PaymentWithAttempts
  attempt : PaymentAttempt
  paymentIntent : StripePaymentIntent

/-- A snapshot of a refund that a step applies to a payment. -/
structure RefundSync where
  orderId : Id
  order : OrderRecord
  payment : PaymentWithAttempts
  refund : StripeRefund

namespace World

variable (stripe : StripeService S M) (w : World S)

/-- The snapshot that cancelling a confirmed order applies: what Stripe answers about the attempt
in progress. -/
def cancelSync? (org : CurrentOrg) (orderId : Id) : Option IntentSync :=
  (w.db.order? orderId).bind fun o =>
    if o.visibleTo org = true ∧ o.status = .confirmed then
      o.payment.bind fun p =>
        (getReusableAttempt p).bind fun attempt =>
          match (stripe.cancelOrRetrieve attempt.stripePaymentIntentId w.stripe).1 with
          | .ok paymentIntent =>
            some { orderId := orderId, order := o, payment := p, attempt := attempt,
                   paymentIntent := paymentIntent }
          | .error _ => none
    else none

/-- The snapshot that the transaction of `confirmCardPayment` applies. -/
def confirmSync? (orderId paymentId attemptId : Id) (paymentIntent : StripePaymentIntent) :
    Option IntentSync :=
  (w.db.order? orderId).bind fun o =>
    (o.payment? paymentId).bind fun p =>
      (freshAttempt? p attemptId).map fun attempt =>
        { orderId := orderId, order := o, payment := p, attempt := attempt,
          paymentIntent := paymentIntent }

/-- The snapshot that a webhook applies. -/
def webhookSync? (event : StripeEventId) (paymentIntent : StripePaymentIntent) :
    Option IntentSync :=
  (w.db.syncOfEvent? event paymentIntent).bind fun found =>
    (w.db.order? found.1).map fun o =>
      { orderId := found.1, order := o, payment := found.2.1, attempt := found.2.2,
        paymentIntent := paymentIntent }

/-- The snapshot of a PaymentIntent that the step applies, if it applies one. -/
def intentSync? : Action M → Option IntentSync
  | .transitionStatus org orderId .cancelled _ => w.cancelSync? stripe org orderId
  | .resume callId =>
    match w.calls.lookup callId with
    | some (.confirmApply orderId paymentId attemptId paymentIntent _) =>
      w.confirmSync? orderId paymentId attemptId paymentIntent
    | _ => none
  | .webhookPaymentIntent event _ paymentIntent => w.webhookSync? event paymentIntent
  | _ => none

/-- The snapshot of a refund that the step applies, if it applies one. -/
def refundSync? : Action M → Option RefundSync
  | .resume callId =>
    match w.calls.lookup callId with
    | some (.refundApply call refund) =>
      (w.db.order? call.orderId).bind fun o =>
        if o.visibleTo call.org = true then
          (o.payment? call.paymentId).map fun p =>
            { orderId := call.orderId, order := o, payment := p, refund := refund }
        else none
    | _ => none
  | .webhookRefund event _ refund =>
    (w.db.refundOfEvent? event refund).map fun found =>
      { orderId := found.1, order := found.2.1, payment := found.2.2, refund := refund }
  | _ => none

end World

/-- Where a snapshot comes from that a step applies, and the rows it is applied to. -/
inductive IntentSync.From (stripe : StripeService S M) (w : World S) (y : IntentSync) :
    Action M → Prop
  | cancelled {org auditContext} (ho : w.db.order? y.orderId = some y.order)
      (hp : y.order.payment = some y.payment) (hs : y.order.status = .confirmed)
      (hr : getReusableAttempt y.payment = some y.attempt)
      (hans : (stripe.cancelOrRetrieve y.attempt.stripePaymentIntentId w.stripe).1 =
        .ok y.paymentIntent) :
      y.From stripe w (.transitionStatus org y.orderId .cancelled auditContext)
  | confirmed {callId paymentId attemptId auditContext}
      (ho : w.db.order? y.orderId = some y.order) (hp : y.order.payment = some y.payment)
      (hcall : w.calls.lookup callId =
        some (.confirmApply y.orderId paymentId attemptId y.paymentIntent auditContext))
      (hf : freshAttempt? y.payment attemptId = some y.attempt) :
      y.From stripe w (.resume callId)
  | received {event eventType attempt} (ho : w.db.order? y.orderId = some y.order)
      (hp : y.order.payment = some y.payment) (ha : attempt ∈ y.payment.attempts)
      (htest : attemptOfIntent y.paymentIntent attempt = true)
      (hf : freshAttempt? y.payment attempt.id = some y.attempt) :
      y.From stripe w (.webhookPaymentIntent event eventType y.paymentIntent)

theorem intentSync?_from {stripe : StripeService S M} {w : World S} {a : Action M} {y : IntentSync}
    (h : w.intentSync? stripe a = some y) : y.From stripe w a := by
  cases a with
  | transitionStatus org orderId toStatus auditContext =>
    cases toStatus with
    | cancelled =>
      obtain ⟨o, ho, h₁⟩ := Option.bind_eq_some_iff.mp h
      split at h₁
      · next hc =>
        obtain ⟨p, hp, h₂⟩ := Option.bind_eq_some_iff.mp h₁
        obtain ⟨attempt, hr, h₃⟩ := Option.bind_eq_some_iff.mp h₂
        split at h₃
        · next paymentIntent hans =>
          cases h₃
          exact .cancelled ho hp hc.2 hr hans
        · cases h₃
      · cases h₁
    | pending => cases h
    | confirmed => cases h
    | fulfilled => cases h
  | resume callId =>
    simp only [World.intentSync?] at h
    split at h
    · next hcall =>
      obtain ⟨o, ho, h₁⟩ := Option.bind_eq_some_iff.mp h
      obtain ⟨p, hp, h₂⟩ := Option.bind_eq_some_iff.mp h₁
      obtain ⟨attempt, hf, rfl⟩ := Option.map_eq_some_iff.mp h₂
      exact .confirmed ho (OrderRecord.payment?_eq_some.mp hp).1 hcall hf
    · cases h
  | webhookPaymentIntent event eventType paymentIntent =>
    obtain ⟨found, hfound, h₁⟩ := Option.bind_eq_some_iff.mp h
    obtain ⟨o, ho, rfl⟩ := Option.map_eq_some_iff.mp h₁
    unfold Database.syncOfEvent? at hfound
    split at hfound
    · cases hfound
    · obtain ⟨⟨orderId, p, attempt⟩, hfind, h₂⟩ := Option.bind_eq_some_iff.mp hfound
      obtain ⟨fresh, hf, rfl⟩ := Option.map_eq_some_iff.mp h₂
      obtain ⟨o₁, ho₁, hp, hmem, htest⟩ := Database.findAttempt?_eq_some hfind
      obtain rfl := Option.some.inj (ho.symm.trans ho₁)
      exact .received ho hp hmem htest hf
  | _ => cases h

/-- Where a refund comes from that a step applies, and the rows it is applied to. -/
inductive RefundSync.From {S M : Type} (w : World S) (y : RefundSync) : Action M → Prop
  | applied {callId call} (ho : w.db.order? y.orderId = some y.order)
      (hp : y.order.payment = some y.payment)
      (hcall : w.calls.lookup callId = some (.refundApply call y.refund))
      (hid : y.orderId = call.orderId) (hpid : y.payment.id = call.paymentId) :
      y.From w (.resume callId)
  | received {event eventType} (ho : w.db.order? y.orderId = some y.order)
      (hp : y.order.payment = some y.payment) (hnew : w.db.receipts.lookup event = none)
      (htest : paymentOfRefund y.refund y.payment.toPayment = true) :
      y.From w (.webhookRefund event eventType y.refund)

theorem refundSync?_from {w : World S} {a : Action M} {y : RefundSync}
    (h : w.refundSync? a = some y) : y.From w a := by
  cases a with
  | resume callId =>
    simp only [World.refundSync?] at h
    split at h
    · next hcall =>
      obtain ⟨o, ho, h₁⟩ := Option.bind_eq_some_iff.mp h
      split at h₁
      · obtain ⟨p, hp, rfl⟩ := Option.map_eq_some_iff.mp h₁
        obtain ⟨hp, hpid⟩ := OrderRecord.payment?_eq_some.mp hp
        exact .applied ho hp hcall rfl hpid
      · cases h₁
    · cases h
  | webhookRefund event eventType refund =>
    obtain ⟨⟨orderId, o, p⟩, hfound, rfl⟩ := Option.map_eq_some_iff.mp h
    unfold Database.refundOfEvent? at hfound
    split at hfound
    · cases hfound
    · next hnew =>
      obtain ⟨ho, hp, htest⟩ := Database.findPayment?_eq_some hfound
      exact .received ho hp (by simpa using hnew) htest
  | _ => cases h

/-! ## Changes -/

/-- What a step does to one order: the order before and after, the audit rows it adds, and Stripe
afterwards. -/
inductive Change (stripe : StripeService S M) (w : World S) (orderId : Id) :
    Action M → OrderRecord → OrderRecord → List (Id × AuditAction) → S → Prop
  | itemAdded {org data item o} (hs : o.status = .pending)
      (hline : ∃ product, computeLineItem (w.env.uuid 0) org.organizationId data (some product)
        "Cents must be non-negative" "Invalid product" "Discount exceeds line subtotal" =
          .ok item) :
      Change stripe w orderId (.addOrderItem org orderId data) o
        (Order.updated w.env id (itemAdded item o)) [] w.stripe
  | itemDeleted {org itemId item o} (hi : item ∈ o.items) (htwo : 1 < o.items.length) :
      Change stripe w orderId (.deleteOrderItem org orderId itemId) o
        (Order.updated w.env id (itemDeleted item o)) [] w.stripe
  | metadata {org data o} :
      Change stripe w orderId (.updateOrder org orderId data) o
        (Order.updated w.env id (metadataUpdated data o)) [] w.stripe
  | transition {org toStatus auditContext o o' rows s'} (ho : w.db.order? orderId = some o)
      (hv : o.visibleTo org = true) (h : Transition stripe w.env o w.stripe toStatus o' rows s') :
      Change stripe w orderId (.transitionStatus org orderId toStatus auditContext) o o' rows s'
  /-- A read that found an order without its payment, or changed nothing. -/
  | backfilled {a o} : Change stripe w orderId a o (o.backfilled w.env) [] w.stripe
  | attemptStarted {org auditContext o p paymentIntent clientSecret s'}
      (hs : o.status = .confirmed) (hp : o.paymentOrLegacy w.env = some p)
      (hrefund : p.refundStatus = .none ∨ p.refundStatus = .failed)
      (hpaid : p.paymentStatus ≠ .paid) (hr : getReusableAttempt p = none)
      (hans : stripe.createPaymentIntent (cardPaymentArgs orderId o.organizationId (w.env.uuid 1)
        p.toPayment) w.stripe = (.ok paymentIntent, s'))
      (hsecret : paymentIntent.clientSecret = some clientSecret) (hv : o.visibleTo org = true) :
      Change stripe w orderId (.initiateCardPayment org orderId auditContext) o
        { o with payment := some (withAttempt w.env p
          (newAttempt w.env p.toPayment paymentIntent.id clientSecret)) }
        [(p.id, .paymentAttemptStarted)] s'
  | paidInCash {org auditContext o p} (hs : o.status = .confirmed)
      (hp : o.paymentOrLegacy w.env = some p) (hreq : p.refundStatus ≠ .requested)
      (hpend : p.refundStatus ≠ .pending) (hpaid : p.paymentStatus ≠ .paid)
      (hprogress : p.paymentStatus ≠ .pending) (hv : o.visibleTo org = true) :
      Change stripe w orderId (.markCashPaid org orderId auditContext) o
        { o with payment := some (Payment.updated w.env (paidInCash w.env p.toPayment) p) }
        [(p.id, .paymentPaid)] w.stripe
  /-- A webhook, or the transaction of `confirmCardPayment`. -/
  | synced {a} (y : IntentSync) (hsync : w.intentSync? stripe a = some y)
      (hid : y.orderId = orderId) (hp : y.order.payment = some y.payment) :
      Change stripe w orderId a y.order
        { y.order with
          payment := some (syncedPayment w.env y.payment y.attempt y.paymentIntent) }
        (syncedRows w.env y.payment y.paymentIntent) w.stripe
  | cashRefunded {callId call o p} (hcall : w.calls.lookup callId = some (.refundCash call))
      (hid : call.orderId = orderId) (hp : o.payment = some p) (hpid : p.id = call.paymentId)
      (hv : o.visibleTo call.org = true) :
      Change stripe w orderId (.resume callId) o
        (o.afterRefund w.env (cashRefundedPayment w.env call.refundReason p))
        ((p.id, .paymentRefunded) :: requestedRows p) w.stripe
  | refundRequested {callId call paymentIntentId o p}
      (hcall : w.calls.lookup callId = some (.refundRequest call paymentIntentId))
      (hid : call.orderId = orderId) (hp : o.payment = some p) (hpid : p.id = call.paymentId) :
      Change stripe w orderId (.resume callId) o
        { o with payment := some (requestedPayment w.env call.refundReason p) }
        (requestedRows p) w.stripe
  | refundFailed {callId call message o p}
      (hcall : w.calls.lookup callId = some (.refundFail call message))
      (hid : call.orderId = orderId) (hp : o.payment = some p) (hpid : p.id = call.paymentId) :
      Change stripe w orderId (.resume callId) o
        { o with payment := some (Payment.updated w.env (refundFailed w.env message) p) }
        [(p.id, .paymentRefundFailed)] w.stripe
  /-- A webhook, or the last transaction of a card refund. -/
  | refundSynced {a} (y : RefundSync) (hsync : w.refundSync? a = some y)
      (hid : y.orderId = orderId) (hp : y.order.payment = some y.payment) :
      Change stripe w orderId a y.order
        (y.order.afterRefund w.env (refundSynced w.env y.payment y.refund))
        (refundSyncedRows w.env y.payment y.refund) w.stripe

/-- What a step does to a payment that stays: the row before and after. -/
inductive PaymentChange (stripe : StripeService S M) (w : World S) (orderId : Id) (a : Action M) :
    PaymentWithAttempts → PaymentWithAttempts → Prop
  | same {p} : PaymentChange stripe w orderId a p p
  | attemptStarted {p paymentIntentId clientSecret}
      (hrefund : p.refundStatus = .none ∨ p.refundStatus = .failed)
      (hpaid : p.paymentStatus ≠ .paid)
      (ha : ∃ org auditContext, a = .initiateCardPayment org orderId auditContext) :
      PaymentChange stripe w orderId a p
        (withAttempt w.env p (newAttempt w.env p.toPayment paymentIntentId clientSecret))
  | paidInCash {p} (hpaid : p.paymentStatus ≠ .paid) :
      PaymentChange stripe w orderId a p
        (Payment.updated w.env (paidInCash w.env p.toPayment) p)
  | synced (y : IntentSync) (hsync : w.intentSync? stripe a = some y) (hid : y.orderId = orderId) :
      PaymentChange stripe w orderId a y.payment
        (syncedPayment w.env y.payment y.attempt y.paymentIntent)
  | cashRefunded {callId call p} (ha : a = .resume callId)
      (hcall : w.calls.lookup callId = some (.refundCash call)) (hid : call.orderId = orderId)
      (hpid : p.id = call.paymentId) :
      PaymentChange stripe w orderId a p (cashRefundedPayment w.env call.refundReason p)
  | refundRequested {callId call paymentIntentId p} (ha : a = .resume callId)
      (hcall : w.calls.lookup callId = some (.refundRequest call paymentIntentId))
      (hid : call.orderId = orderId) (hpid : p.id = call.paymentId) :
      PaymentChange stripe w orderId a p (requestedPayment w.env call.refundReason p)
  | refundFailed {callId call message p} (ha : a = .resume callId)
      (hcall : w.calls.lookup callId = some (.refundFail call message))
      (hid : call.orderId = orderId) (hpid : p.id = call.paymentId) :
      PaymentChange stripe w orderId a p (Payment.updated w.env (refundFailed w.env message) p)
  | refundSynced (y : RefundSync) (hsync : w.refundSync? a = some y) (hid : y.orderId = orderId) :
      PaymentChange stripe w orderId a y.payment (refundSynced w.env y.payment y.refund)

/-- What a step does to the database. -/
inductive Effect (stripe : StripeService S M) (w : World S) (a : Action M) (w' : World S) : Prop
  | keep (h : w.db.Keeps w'.db)
  | create {org data totals items} (hnew : w.db.order? (w.env.uuid 0) = none)
      (hput : w.db.Puts (w.env.uuid 0) (newOrder w.env org data totals items) [] w'.db)
      (hitems : data.orderItems ≠ [])
      (hlines : ∃ byId, computeLineItems w.env org.organizationId byId 1 data.orderItems [] {} =
        .ok (items, totals))
  | change {orderId o o' rows} (ho : w.db.order? orderId = some o)
      (h : Change stripe w orderId a o o' rows w'.stripe) (hput : w.db.Puts orderId o' rows w'.db)
  | delete {org orderId o} (ha : a = .deleteOrder org orderId) (ho : w.db.order? orderId = some o)
      (hi : o.organizationId = org.organizationId) (hacc : o.accessibleTo org = true)
      (h : ∀ k, w'.db.order? k = if k = orderId then none else w.db.order? k)
      (hrows : w'.db.auditRows = w.db.auditRows)

section

variable {stripe : StripeService S M} {w w' : World S} {α : Type} {x : Tx S α}

theorem intentSync?_of_cancelled {org : CurrentOrg} {orderId : Id} {auditContext : AuditContext}
    {o : OrderRecord} {p : PaymentWithAttempts} {attempt : PaymentAttempt}
    {paymentIntent : StripePaymentIntent} {s' : S} (ho : w.db.order? orderId = some o)
    (hv : o.visibleTo org = true) (hs : o.status = .confirmed) (hp : o.payment = some p)
    (hr : getReusableAttempt p = some attempt)
    (hans : stripe.cancelOrRetrieve attempt.stripePaymentIntentId w.stripe =
      (.ok paymentIntent, s')) :
    w.intentSync? stripe (.transitionStatus org orderId .cancelled auditContext) =
      some { orderId := orderId, order := o, payment := p, attempt := attempt,
             paymentIntent := paymentIntent } := by
  simp [World.intentSync?, World.cancelSync?, ho, hv, hs, hp, hr, hans]

/-! ## Every step has an effect -/

theorem transact_cases (w : World S) (x : Tx S α) :
    (∃ e s, w.transact x = (.error e, { w with stripe := s })) ∨
      ∃ a db s, x.run w.db w.stripe = (.ok (a, db), s) ∧
        w.transact x = (.ok a, { w with db := db, stripe := s }) := by
  unfold World.transact
  rcases x.run w.db w.stripe with ⟨e | ⟨a, db⟩, s⟩
  · exact Or.inl ⟨e, s, rfl⟩
  · exact Or.inr ⟨a, db, s, rfl, rfl⟩

/-- What fails clean is as good as a transaction. -/
theorem autocommit_eq_transact (hx : x.FailsClean) : w.autocommit x = w.transact x := by
  unfold World.autocommit World.transact
  rcases h : x.runAuto w.db w.stripe with ⟨e | a, db, s⟩
  · obtain ⟨rfl, rfl⟩ := hx _ _ _ _ _ h
    rw [Prog.runAuto_error h]
  · rw [Prog.runAuto_ok.mp h]

theorem autocommit_ofExcept {β : Type} (w : World S) (x : Tx S α) (f : α → Except AppError β) :
    (w.autocommit (x >>= fun a => Prog.ofExcept (f a))).2 = (w.autocommit x).2 := by
  have h := Prog.runAuto_bind_ofExcept x f w.db w.stripe
  unfold World.autocommit
  rw [Prod.ext_iff] at h
  rcases hx : (x >>= fun a => Prog.ofExcept (f a)).runAuto w.db w.stripe with ⟨r, db, s⟩
  rcases hy : x.runAuto w.db w.stripe with ⟨r', db', s'⟩
  rw [hx, hy] at h
  obtain ⟨rfl, rfl⟩ := h
  rfl

/-- A transaction keeps the database when it fails, so an effect of the runs that end well is one of
the step. -/
theorem effect_of_transact {a : Action M}
    (h : ∀ r db s, x.run w.db w.stripe = (.ok (r, db), s) →
      Effect stripe w a { w with db := db, stripe := s }) :
    Effect stripe w a (w.transact x).2 := by
  rcases transact_cases w x with ⟨e, s, he⟩ | ⟨r, db, s, hr, he⟩
  · rw [he]
    exact .keep (Database.Keeps.refl _)
  · rw [he]
    exact h r db s hr

/-- Only the database and Stripe count. -/
theorem Effect.congr {a : Action M} {w'' : World S} (h : Effect stripe w a w')
    (hdb : w''.db = w'.db) (hs : w''.stripe = w'.stripe) : Effect stripe w a w'' := by
  cases h with
  | keep h => exact .keep (hdb ▸ h)
  | create hnew hput hitems hlines => exact .create hnew (hdb ▸ hput) hitems hlines
  | change ho h hput => exact .change ho (hs ▸ h) (hdb ▸ hput)
  | delete ha ho hi hacc h hrows => exact .delete ha ho hi hacc (hdb ▸ h) (hdb ▸ hrows)

/-- A read with its backfill, and a check after it. -/
theorem effect_of_read {a : Action M} {org : CurrentOrg} {orderId : Id} {β : Type}
    (f : OrderRecord × Option PaymentWithAttempts → Except AppError β) :
    Effect stripe w a
      (w.autocommit (orderAndPaymentTx w.env org orderId >>= fun r => Prog.ofExcept (f r))).2 := by
  rw [autocommit_ofExcept, autocommit_eq_transact orderAndPaymentTx_failsClean]
  refine effect_of_transact fun read db s hr => ?_
  obtain ⟨ho, -, -, hput, rfl⟩ := orderAndPaymentTx_ok hr
  exact .change ho .backfilled hput

/-- The first part of a call of several parts is a read. -/
theorem effect_of_start {a : Action M} {org : CurrentOrg} {orderId : Id} {β : Type}
    (f : OrderRecord × Option PaymentWithAttempts → Except AppError β) (g : β → InFlight) :
    Effect stripe w a (w.start g
      (w.autocommit (orderAndPaymentTx w.env org orderId >>= fun r => Prog.ofExcept (f r)))).2 :=
  (effect_of_read f).congr (World.start_db g _).1 (World.start_db g _).2

/-- A part of a call is a transaction of the world without that call. -/
theorem effect_of_resumed {a : Action M} {callId : Id}
    (h : ∀ r db s, x.run w.db w.stripe = (.ok (r, db), s) →
      Effect stripe w a { w with db := db, stripe := s }) :
    Effect stripe w a ((w.endCall callId).transact x).2 := by
  rcases transact_cases (w.endCall callId) x with ⟨e, s, he⟩ | ⟨r, db, s, hr, he⟩
  · rw [he]
    exact .keep (Database.Keeps.refl _)
  · rw [he]
    exact (h r db s hr).congr rfl rfl

theorem resume_effect {callId : Id} {call : InFlight} (hcall : w.calls.lookup callId = some call) :
    Effect stripe w (.resume callId) (w.resumeCall stripe callId call).2 := by
  cases call with
  | confirmRetrieve orderId paymentId attempt auditContext =>
    refine .keep ?_
    rw [World.resumeCall, World.confirmRetrieved_db]
    exact Database.Keeps.refl _
  | confirmApply orderId paymentId attemptId paymentIntent auditContext =>
    refine effect_of_resumed (x := confirmCardPaymentApply w.env orderId paymentId attemptId
      paymentIntent auditContext) fun dto db s hr => ?_
    obtain ⟨o, p, attempt, ho, hp, hid, hf, hput, rfl⟩ := confirmCardPaymentApply_ok hr
    have hsync : w.intentSync? stripe (.resume callId) = some
        { orderId := orderId, order := o, payment := p, attempt := attempt,
          paymentIntent := paymentIntent } := by
      simp [World.intentSync?, hcall, World.confirmSync?, ho,
        OrderRecord.payment?_eq_some.mpr ⟨hp, hid⟩, hf]
    exact .change ho (.synced _ hsync rfl hp) hput
  | refundCash call =>
    refine effect_of_resumed (x := refundPaymentCash w.env call) fun dto db s hr => ?_
    obtain ⟨o, p, ho, hv, hp, hid, hput, rfl⟩ := refundPaymentCash_ok hr
    exact .change ho (.cashRefunded hcall rfl hp hid hv) hput
  | refundRequest call paymentIntentId =>
    refine Effect.congr (effect_of_resumed (x := refundPaymentRequest w.env call)
      fun u db s hr => ?_) (World.requested_db ..).1 (World.requested_db ..).2
    obtain ⟨o, p, ho, hp, hid, hput, rfl⟩ := refundPaymentRequest_ok hr
    exact .change ho (.refundRequested hcall rfl hp hid) hput
  | refundCreate call paymentIntentId =>
    refine .keep ?_
    rw [World.resumeCall, World.refundAnswered_db]
    exact Database.Keeps.refl _
  | refundFail call message =>
    refine effect_of_resumed (x := refundPaymentFail w.env call message) fun dto db s hr => ?_
    obtain ⟨o, p, ho, hp, hid, hput, rfl⟩ := refundPaymentFail_ok hr
    exact .change ho (.refundFailed hcall rfl hp hid) hput
  | refundApply call refund =>
    refine effect_of_resumed (x := refundPaymentApply w.env call refund) fun dto db s hr => ?_
    obtain ⟨o, p, ho, hv, hp, hid, hput, rfl⟩ := refundPaymentApply_ok hr
    have hsync : w.refundSync? (.resume callId : Action M) = some
        { orderId := call.orderId, order := o, payment := p, refund := refund } := by
      simp [World.refundSync?, hcall, ho, hv, OrderRecord.payment?_eq_some.mpr ⟨hp, hid⟩]
    exact .change ho (.refundSynced _ hsync rfl hp) hput

/-- **Every step leaves the orders alone, creates one, deletes one or changes one.** -/
theorem step_effect (stripe : StripeService S M) (w : World S) (a : Action M) :
    Effect stripe w a ((system stripe).step w a) := by
  suffices h : Effect stripe w a (w.exec stripe a).2 from h.congr rfl rfl
  cases a with
  | createOrder org data =>
    refine effect_of_transact (x := createOrder w.env org data) fun created db s hr => ?_
    obtain ⟨byId, items, totals, hitems, hlines, -, -, hnew, hput, rfl⟩ := createOrder_ok hr
    exact .create hnew hput hitems ⟨byId, hlines⟩
  | addOrderItem org orderId data =>
    refine effect_of_transact (x := addOrderItem w.env org orderId data) fun o' db s hr => ?_
    obtain ⟨o, product, item, ho, -, hs, hline, rfl, hput, rfl⟩ := addOrderItem_ok hr
    exact .change ho (.itemAdded hs ⟨product, hline⟩) hput
  | deleteOrderItem org orderId itemId =>
    refine effect_of_transact (x := deleteOrderItem w.env org orderId itemId) fun o' db s hr => ?_
    obtain ⟨o, item, ho, -, -, hi, -, htwo, rfl, hput, rfl⟩ := deleteOrderItem_ok hr
    exact .change ho (.itemDeleted hi htwo) hput
  | updateOrder org orderId data =>
    show Effect stripe w _ (w.autocommit (updateOrder w.env org orderId data)).2
    rw [autocommit_eq_transact updateOrder_failsClean]
    refine effect_of_transact fun o' db s hr => ?_
    obtain ⟨o, ho, -, -, -, rfl, hput, rfl⟩ := updateOrder_ok hr
    exact .change ho .metadata hput
  | deleteOrder org orderId =>
    show Effect stripe w _ (w.autocommit (deleteOrder org orderId)).2
    rw [autocommit_eq_transact deleteOrder_failsClean]
    refine effect_of_transact fun u db s hr => ?_
    obtain ⟨o, ho, hi, hacc, rfl, rfl⟩ := deleteOrder_ok hr
    exact .delete rfl ho hi hacc (fun k => Table.lookup_erase_ite ..) rfl
  | transitionStatus org orderId toStatus auditContext =>
    refine effect_of_transact
      (x := transitionStatus stripe w.env org orderId toStatus auditContext) fun o' db s hr => ?_
    obtain ⟨o, rows, ho, hv, htrans, hput⟩ := transitionStatus_ok hr
    exact .change ho (.transition ho hv htrans) hput
  | initiateCardPayment org orderId auditContext =>
    refine Effect.congr (effect_of_transact
      (x := initiateCardPayment stripe w.env org orderId auditContext) fun dto db s hr => ?_)
      (World.reveal_db _).1 (World.reveal_db _).2
    obtain ⟨o, p, ho, hv, hs, hp, hrefund, hpaid, hcase⟩ := initiateCardPayment_ok hr
    rcases hcase with ⟨attempt, -, -, hput, rfl⟩ | ⟨paymentIntent, hre, hans, hsecret, hput⟩
    · exact .change ho .backfilled hput
    · exact .change ho (.attemptStarted hs hp hrefund hpaid hre hans hsecret hv) hput
  | markCashPaid org orderId auditContext =>
    refine effect_of_transact (x := markCashPaid w.env org orderId auditContext)
      fun dto db s hr => ?_
    obtain ⟨o, p, ho, hv, hs, hp, hreq, hpend, hpaid, hprogress, hput, rfl⟩ := markCashPaid_ok hr
    exact .change ho (.paidInCash hs hp hreq hpend hpaid hprogress hv) hput
  | getPayment org orderId => exact effect_of_read _
  | confirmCardPayment org orderId auditContext => exact effect_of_start _ _
  | refundPayment org orderId refundReason auditContext => exact effect_of_start _ _
  | resume callId =>
    cases hcall : w.calls.lookup callId with
    | none =>
      rw [World.exec_resume_none hcall]
      exact .keep (Database.Keeps.refl _)
    | some call =>
      rw [World.exec_resume hcall]
      exact resume_effect hcall
  | webhookPaymentIntent event eventType paymentIntent =>
    refine effect_of_transact
      (x := handleWebhookPaymentIntent w.env event eventType paymentIntent) fun u db s hr => ?_
    obtain ⟨rfl, ⟨-, hkeep⟩ | ⟨orderId, o, p, attempt, hfind, ho, hp, hput⟩⟩ :=
      handleWebhookPaymentIntent_ok hr
    · exact .keep hkeep
    · have hsync : w.intentSync? stripe (.webhookPaymentIntent event eventType paymentIntent) =
          some { orderId := orderId, order := o, payment := p, attempt := attempt,
                 paymentIntent := paymentIntent } := by
        simp [World.intentSync?, World.webhookSync?, hfind, ho]
      exact .change ho (.synced _ hsync rfl hp) hput
  | webhookRefund event eventType refund =>
    refine effect_of_transact (x := handleWebhookRefund w.env event eventType refund)
      fun u db s hr => ?_
    obtain ⟨rfl, ⟨-, hkeep⟩ | ⟨orderId, o, p, hfind, ho, hp, hput⟩⟩ := handleWebhookRefund_ok hr
    · exact .keep hkeep
    · have hsync : w.refundSync? (.webhookRefund event eventType refund : Action M) =
          some { orderId := orderId, order := o, payment := p, refund := refund } := by
        simp [World.refundSync?, hfind]
      exact .change ho (.refundSynced _ hsync rfl hp) hput
  | stripe move => exact .keep (Database.Keeps.refl _)
  | tick milliseconds => exact .keep (Database.Keeps.refl _)
  | catalog products customers locations => exact .keep ⟨fun _ => rfl, rfl⟩

end

/-! ## The payment before and after -/

section

variable {stripe : StripeService S M} {w : World S} {orderId : Id} {a : Action M} {env : Env}
  {o o' : OrderRecord} {p q : PaymentWithAttempts} {rows : List (Id × AuditAction)} {s s' : S}

/-- A payment that was just created, for a confirmed order or by the backfill. -/
def PaymentWithAttempts.New (env : Env) (p : PaymentWithAttempts) : Prop :=
  ∃ organizationId orderStatus amountCents orderCreatedAt placedAt,
    p = legacyPayment env organizationId orderStatus amountCents orderCreatedAt placedAt

theorem PaymentWithAttempts.New.id_eq (h : p.New env) : p.id = env.uuid 0 := by
  obtain ⟨organizationId, orderStatus, amountCents, orderCreatedAt, placedAt, rfl⟩ := h
  rfl

theorem new_newPayment (organizationId : Id) (amountCents : Int) (orderCreatedAt : Date) :
    (newPayment env organizationId amountCents orderCreatedAt).New env :=
  ⟨organizationId, .confirmed, amountCents, orderCreatedAt, none, rfl⟩

/-- A payment that a service call works with is the order's own or a new one. -/
theorem OrderRecord.payment_or_new (h : o.paymentOrLegacy env = some p) :
    o.payment = some p ∨ p.New env := by
  unfold OrderRecord.paymentOrLegacy at h
  cases hp : o.payment with
  | some q => rw [hp, Option.some_or] at h; exact Or.inl h
  | none =>
    rw [hp, Option.none_or] at h
    split at h
    · cases h
    · cases h
      exact Or.inr ⟨_, _, _, _, _, rfl⟩

theorem OrderRecord.payment_afterRefund : (o.afterRefund env p).payment = some p := by
  unfold OrderRecord.afterRefund
  split <;> rfl

theorem Transition.payment {toStatus : OrderStatus}
    (ht : Transition stripe w.env o w.stripe toStatus o' rows s') (hq : o'.payment = some q) :
    (o.payment = some q ∨ q.New w.env) ∨
      ∃ p attempt paymentIntent, o.payment = some p ∧ toStatus = .cancelled ∧
        o.status = .confirmed ∧ getReusableAttempt p = some attempt ∧
        stripe.cancelOrRetrieve attempt.stripePaymentIntentId w.stripe = (.ok paymentIntent, s') ∧
        q = syncedPayment w.env p attempt paymentIntent := by
  cases ht with
  | confirmed hs hp =>
    cases hq
    cases ho : o.payment with
    | none => rw [hp, ho]; exact Or.inl (Or.inr (new_newPayment ..))
    | some p => rw [hp, ho]; exact Or.inl (Or.inl rfl)
  | fulfilled hs hp hpaid hrefund => exact Or.inl (OrderRecord.payment_or_new (o := o) hq)
  | cancelledPending hs => exact Or.inl (Or.inl hq)
  | cancelledConfirmed hs hp hpaid hrefund hr =>
    exact Or.inl (OrderRecord.payment_or_new (o := o) hq)
  | cancelledSynced hs hp hpaid hrefund hr hans =>
    cases hq
    exact Or.inr ⟨_, _, _, hp, rfl, hs, hr, hans, rfl⟩
  | reopenedUnpaid hs hp => cases hq
  | reopened hs hp hpaid hrefund hans => cases hq

/-- **A payment after a step is the one before, or a new one, changed in one of a few ways.** -/
theorem Change.payment (hc : Change stripe w orderId a o o' rows s') (hq : o'.payment = some q) :
    ∃ p, (o.payment = some p ∨ p.New w.env) ∧ q.id = p.id ∧
      PaymentChange stripe w orderId a p q := by
  cases hc with
  | itemAdded hs => exact ⟨q, Or.inl hq, rfl, .same⟩
  | itemDeleted hi => exact ⟨q, Or.inl hq, rfl, .same⟩
  | metadata => exact ⟨q, Or.inl hq, rfl, .same⟩
  | transition ho hv ht =>
    rcases ht.payment hq with h | ⟨p, attempt, paymentIntent, hp, rfl, hs, hr, hans, rfl⟩
    · exact ⟨q, h, rfl, .same⟩
    · refine ⟨p, Or.inl hp, syncedPayment_id .., ?_⟩
      exact .synced _ (intentSync?_of_cancelled ho hv hs hp hr hans) rfl
  | backfilled => exact ⟨q, OrderRecord.payment_or_new hq, rfl, .same⟩
  | attemptStarted hs hp hrefund hpaid hr hans hsecret =>
    cases hq
    exact ⟨_, OrderRecord.payment_or_new hp, rfl, .attemptStarted hrefund hpaid ⟨_, _, rfl⟩⟩
  | paidInCash hs hp hreq hpend hpaid hprogress =>
    cases hq
    exact ⟨_, OrderRecord.payment_or_new hp, rfl, .paidInCash hpaid⟩
  | synced y hsync hid hp =>
    cases hq
    exact ⟨_, Or.inl hp, syncedPayment_id .., .synced y hsync hid⟩
  | cashRefunded hcall hid hp hpid =>
    cases OrderRecord.payment_afterRefund.symm.trans hq
    exact ⟨_, Or.inl hp, rfl, .cashRefunded rfl hcall hid hpid⟩
  | refundRequested hcall hid hp hpid =>
    cases hq
    exact ⟨_, Or.inl hp, rfl, .refundRequested rfl hcall hid hpid⟩
  | refundFailed hcall hid hp hpid =>
    cases hq
    exact ⟨_, Or.inl hp, rfl, .refundFailed rfl hcall hid hpid⟩
  | refundSynced y hsync hid hp =>
    cases OrderRecord.payment_afterRefund.symm.trans hq
    exact ⟨_, Or.inl hp, refundSynced_id .., .refundSynced y hsync hid⟩

/-- The attempt points at the same intent. -/
structure PaymentAttempt.SameIntent (a b : PaymentAttempt) : Prop where
  id : b.id = a.id
  stripePaymentIntentId : b.stripePaymentIntentId = a.stripePaymentIntentId
  clientSecret : b.clientSecret = a.clientSecret

theorem mem_syncedPayment_attempts {attempt b : PaymentAttempt}
    {paymentIntent : StripePaymentIntent}
    (hb : b ∈ (syncedPayment env p attempt paymentIntent).attempts) :
    ∃ a ∈ p.attempts, a.SameIntent b := by
  rw [syncedPayment_attempts] at hb
  dsimp only at hb
  split at hb
  · obtain ⟨a, ha, rfl⟩ := List.mem_map.mp hb
    refine ⟨a, ha, ?_⟩
    split <;> exact ⟨rfl, rfl, rfl⟩
  · exact ⟨b, hb, rfl, rfl, rfl⟩

theorem PaymentWithAttempts.New.attempts_eq (h : p.New env) : p.attempts = [] := by
  obtain ⟨organizationId, orderStatus, amountCents, orderCreatedAt, placedAt, rfl⟩ := h
  rfl

/-- An attempt after a step was there before, unless the step started it. -/
theorem Change.attempts (hc : Change stripe w orderId a o o' rows s') (hq : o'.payment = some q)
    {b : PaymentAttempt} (hb : b ∈ q.attempts) :
    (∃ p c, o.payment = some p ∧ c ∈ p.attempts ∧ c.SameIntent b) ∨
      ∃ org auditContext, a = .initiateCardPayment org orderId auditContext := by
  obtain ⟨p, hp, -, hpc⟩ := hc.payment hq
  have hold : ∀ c ∈ p.attempts, c.SameIntent b →
      ∃ p c, o.payment = some p ∧ c ∈ p.attempts ∧ c.SameIntent b := by
    intro c hmem hsame
    rcases hp with hp | hnew
    · exact ⟨p, c, hp, hmem, hsame⟩
    · rw [hnew.attempts_eq] at hmem
      cases hmem
  have hself : b.SameIntent b := ⟨rfl, rfl, rfl⟩
  cases hpc with
  | same => exact Or.inl (hold b hb hself)
  | attemptStarted hrefund hpaid ha => exact Or.inr ha
  | paidInCash hpaid => exact Or.inl (hold b hb hself)
  | synced y hsync hid =>
    obtain ⟨c, hmem, hsame⟩ := mem_syncedPayment_attempts hb
    exact Or.inl (hold c hmem hsame)
  | cashRefunded ha hcall hid hpid => exact Or.inl (hold b hb hself)
  | refundRequested ha hcall hid hpid => exact Or.inl (hold b hb hself)
  | refundFailed ha hcall hid hpid => exact Or.inl (hold b hb hself)
  | refundSynced y hsync hid =>
    rw [refundSynced_attempts] at hb
    exact Or.inl (hold b hb hself)

end

section

variable {stripe : StripeService S M} {w : World S}

/-! ## What every order has -/

/-- Every order of the database has the property. -/
def World.Every (w : World S) (P : OrderRecord → Prop) : Prop :=
  ∀ k o, w.db.order? k = some o → P o

/-- **An order after a step was there before, is new, or was changed.** -/
theorem step_order_inv {a : Action M} {k : Id} {o' : OrderRecord}
    (ho' : ((system stripe).step w a).db.order? k = some o') :
    w.db.order? k = some o' ∨
      (w.db.order? k = none ∧
        ∃ env org data totals items, o' = newOrder env org data totals items) ∨
      ∃ o rows, w.db.order? k = some o ∧
        Change stripe w k a o o' rows ((system stripe).step w a).stripe := by
  cases step_effect stripe w a with
  | keep hkeep => exact Or.inl (hkeep.order? k ▸ ho')
  | create hfresh hput =>
    rw [hput.order?] at ho'
    split at ho'
    · next hk =>
      cases ho'
      exact Or.inr (Or.inl ⟨hk ▸ hfresh, _, _, _, _, _, rfl⟩)
    · exact Or.inl ho'
  | change ho hc hput =>
    rw [hput.order?] at ho'
    split at ho'
    · next hk =>
      cases ho'
      subst hk
      exact Or.inr (Or.inr ⟨_, _, ho, hc⟩)
    · exact Or.inl ho'
  | delete ha ho hi hacc hrest hrows =>
    rw [hrest] at ho'
    split at ho'
    · cases ho'
    · exact Or.inl ho'

/-- A step leaves all orders but one as they were. -/
theorem step_changes_one (stripe : StripeService S M) (w : World S) (a : Action M) :
    ∃ orderId, ∀ k o, k ≠ orderId → ((system stripe).step w a).db.order? k = some o →
      w.db.order? k = some o := by
  cases step_effect stripe w a with
  | keep hkeep => exact ⟨w.env.uuid 0, fun k o _ hk => hkeep.order? k ▸ hk⟩
  | create hfresh hput =>
    exact ⟨_, fun k o hne hk => by rw [hput.order?, if_neg hne] at hk; exact hk⟩
  | change ho hc hput =>
    exact ⟨_, fun k o hne hk => by rw [hput.order?, if_neg hne] at hk; exact hk⟩
  | delete ha ho hi hacc hrest hrows =>
    exact ⟨_, fun k o hne hk => by rw [hrest, if_neg hne] at hk; exact hk⟩

/-- What new orders have and the changes of one step keep, every order has after the step. -/
theorem every_step {P : OrderRecord → Prop} {a : Action M}
    (hnew : ∀ env org data totals items, P (newOrder env org data totals items))
    (hchange : ∀ {k o o' rows s'}, w.db.order? k = some o → P o →
      Change stripe w k a o o' rows s' → P o')
    (h : w.Every P) : ((system stripe).step w a).Every P := by
  intro k o' ho'
  rcases step_order_inv ho' with hk | ⟨-, env, org, data, totals, items, rfl⟩ | ⟨o, rows, ho, hc⟩
  · exact h k o' hk
  · exact hnew ..
  · exact hchange ho (h k o ho) hc

/-- **What new orders have and every change of the run keeps, every order has at its end.** -/
theorem every_run {P : OrderRecord → Prop} {C : World S → Action M → Prop}
    (hnew : ∀ env org data totals items, P (newOrder env org data totals items))
    (hchange : ∀ {w a k o o' rows s'}, C w a → w.db.order? k = some o → P o →
      Change stripe w k a o o' rows s' → P o')
    {s : S} {as : List (Action M)} (h : (system stripe).Meets C (World.init s) as) :
    ((system stripe).run (World.init s) as).Every P := by
  refine Machine.run_invariant (C := C) (fun w a hw hc => every_step hnew (hchange hc) hw) ?_ h
  intro k o hk
  cases hk

/-- How one step changes an order that is there before and after it. -/
theorem step_order_cases {a : Action M} {k : Id} {o o' : OrderRecord}
    (ho : w.db.order? k = some o) (ho' : ((system stripe).step w a).db.order? k = some o') :
    o' = o ∨ ∃ rows s', Change stripe w k a o o' rows s' := by
  rcases step_order_inv ho' with hk | ⟨hnone, -⟩ | ⟨o₁, rows, ho₁, hc⟩
  · exact Or.inl (Option.some.inj (hk.symm.trans ho))
  · rw [ho] at hnone
    cases hnone
  · obtain rfl := Option.some.inj (ho.symm.trans ho₁)
    exact Or.inr ⟨rows, _, hc⟩

/-- **What new payments have and every change of the run keeps, every payment has at its end.** -/
theorem every_payment_run {P : PaymentWithAttempts → Prop} {C : World S → Action M → Prop}
    (hnew : ∀ env p, p.New env → P p)
    (hchange : ∀ {w a k p q}, C w a → P p → PaymentChange stripe w k a p q → P q)
    {s : S} {as : List (Action M)} (h : (system stripe).Meets C (World.init s) as) :
    ((system stripe).run (World.init s) as).Every fun o => ∀ p, o.payment = some p → P p := by
  refine every_run (fun _ _ _ _ _ p hp => by cases hp) (fun hc ho h hch q hq => ?_) h
  obtain ⟨p, hp | hp, -, hpc⟩ := hch.payment hq
  · exact hchange hc (h p hp) hpc
  · exact hchange hc (hnew _ p hp) hpc

/-! ## A payment as long as it exists -/

/-- Ids of payments carry the step they were generated in. -/
theorem every_paymentId (stripe : StripeService S M) (s : S) (as : List (Action M)) :
    ((system stripe).run (World.init s) as).Every fun o => ∀ p, o.payment = some p →
      p.id.step < ((system stripe).run (World.init s) as).steps := by
  refine Machine.run_invariant' (I := fun w : World S =>
    w.Every fun o => ∀ p, o.payment = some p → p.id.step < w.steps) ?_ ?_ as
  · intro w a hw
    rw [step_steps]
    refine every_step (fun _ _ _ _ _ p hp => by cases hp) (fun ho h hc q hq => ?_)
      (fun k o ho p hp => Nat.lt_succ_of_lt (hw k o ho p hp))
    obtain ⟨p, hp | hp, hid, -⟩ := hc.payment hq
    · rw [hid]
      exact h p hp
    · rw [hid, hp.id_eq]
      exact Nat.lt_succ_self _
  · intro k o hk
    cases hk

/-- **As long as a payment exists, it keeps what every change of it keeps.** The id is not given to
another payment of the order. -/
theorem payment_run {C : World S → Action M → Prop} {I : World S → Prop}
    {P : PaymentWithAttempts → Prop} {orderId paymentId : Id}
    (hI : ∀ w a, I w → C w a → I ((system stripe).step w a))
    (hP : ∀ w a p q, I w → C w a → w.db.payment? orderId paymentId = some p → P p →
      PaymentChange stripe w orderId a p q → P q)
    {as : List (Action M)} (hw : I w) (hid : paymentId.step < w.steps)
    (h : ∀ p, w.db.payment? orderId paymentId = some p → P p)
    (hmeets : (system stripe).Meets C w as) :
    ∀ q, ((system stripe).run w as).db.payment? orderId paymentId = some q → P q := by
  refine (Machine.run_invariant (I := fun w : World S => I w ∧ paymentId.step < w.steps ∧
    ∀ p, w.db.payment? orderId paymentId = some p → P p) ?_ ⟨hw, hid, h⟩ hmeets).2.2
  rintro w a ⟨hi, hlt, hp⟩ hc
  refine ⟨hI w a hi hc, by rw [step_steps]; omega, fun q hq => ?_⟩
  obtain ⟨o', ho', hq', rfl⟩ := Database.payment?_eq_some.mp hq
  have hsame : ∀ o, w.db.order? orderId = some o → o.payment = some q → P q := fun o ho hoq =>
    hp q (Database.payment?_eq_some.mpr ⟨o, ho, hoq, rfl⟩)
  cases step_effect stripe w a with
  | keep hkeep => exact hsame o' (hkeep.order? _ ▸ ho') hq'
  | create hfresh hput =>
    rw [hput.order?] at ho'
    split at ho'
    · cases ho'
      cases hq'
    · exact hsame o' ho' hq'
  | change ho hch hput =>
    rw [hput.order?] at ho'
    split at ho'
    · next hk =>
      subst hk
      cases ho'
      obtain ⟨p, hop | hnew, hpid, hpc⟩ := hch.payment hq'
      · have hpay := Database.payment?_eq_some.mpr ⟨_, ho, hop, hpid.symm⟩
        exact hP w a p q hi hc hpay (hp p hpay) hpc
      · rw [hpid, hnew.id_eq] at hlt
        exact absurd hlt (Nat.lt_irrefl _)
    · exact hsame o' ho' hq'
  | delete ha ho hi hacc hrest hrows =>
    rw [hrest] at ho'
    split at ho'
    · cases ho'
    · exact hsame o' ho' hq'

end

end LedgerLight
