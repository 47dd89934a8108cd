import LedgerLight.Payment.Service

/-!
# The order service

`domain/order/order.service.ts`, without its list queries.
-/

namespace LedgerLight

open Infra Prog

variable {S M : Type}

/-! ## Creating an order -/

structure CreateOrderItemDto where
  productId : Id
  qty : Option Int
  discountCents : Option Int := none
  taxCents : Option Int := none
deriving DecidableEq, Repr

structure CreateOrderDto where
  customerId : Option Id := none
  locationId : Option Id := none
  orderItems : List CreateOrderItemDto
deriving DecidableEq, Repr

/-- The four sums of an order, or the share of one line in them. -/
structure OrderTotals where
  subtotalCents : Int := 0
  taxCents : Int := 0
  discountCents : Int := 0
  totalCents : Int := 0
deriving DecidableEq, Repr

def OrderItem.totals (item : OrderItem) : OrderTotals :=
  { subtotalCents := item.lineSubtotalCents, taxCents := item.taxCents,
    discountCents := item.discountCents, totalCents := item.lineTotalCents }

def OrderTotals.add (a b : OrderTotals) : OrderTotals :=
  { subtotalCents := a.subtotalCents + b.subtotalCents, taxCents := a.taxCents + b.taxCents,
    discountCents := a.discountCents + b.discountCents, totalCents := a.totalCents + b.totalCents }

/-- The four sums of an order row changed by `f`. -/
def Order.mapTotals (f : OrderTotals → OrderTotals) (o : OrderRecord) : OrderRecord :=
  let t := f { subtotalCents := o.subtotalCents, taxCents := o.taxCents,
               discountCents := o.discountCents, totalCents := o.totalCents }
  { o with subtotalCents := t.subtotalCents, taxCents := t.taxCents,
           discountCents := t.discountCents, totalCents := t.totalCents }

/-- The line of one input item, with the messages of its caller. -/
def computeLineItem (itemId organizationId : Id) (raw : CreateOrderItemDto)
    (product? : Option Product) (centsMessage productMessage discountMessage : String) :
    Except AppError OrderItem :=
  let discountCents := raw.discountCents.getD 0
  let taxCents := raw.taxCents.getD 0
  let qty := raw.qty.getD 0
  if qty ≤ 0 then .error (.badRequest "Item qty must be > 0")
  else if discountCents < 0 ∨ taxCents < 0 then .error (.badRequest centsMessage)
  else
    match product? with
    | none => .error (.badRequest productMessage)
    | some product =>
      let lineSubtotalCents := qty * product.priceCents
      if discountCents > lineSubtotalCents then .error (.badRequest discountMessage)
      else
        .ok { id := itemId, productId := raw.productId, organizationId := organizationId,
              productName := product.name, sku := some product.sku, qty := qty,
              unitPriceCents := product.priceCents, lineSubtotalCents := lineSubtotalCents,
              discountCents := discountCents, taxCents := taxCents,
              lineTotalCents := lineSubtotalCents - discountCents + taxCents }

/-- The loop of `createOrder` over the input items, with the lines and the sums so far. -/
def computeLineItems (env : Env) (organizationId : Id) (byId : Id → Option Product) :
    Nat → List CreateOrderItemDto → List OrderItem → OrderTotals →
      Except AppError (List OrderItem × OrderTotals)
  | _, [], lines, totals => .ok (lines, totals)
  | n, raw :: rest, lines, totals =>
    match computeLineItem (env.uuid n) organizationId raw (byId raw.productId)
        "Cents values must be non-negative"
        "One or more products are invalid or inactive for this organization"
        "Discount cannot exceed line subtotal" with
    | .error e => .error e
    | .ok line =>
      computeLineItems env organizationId byId (n + 1) rest (lines ++ [line])
        (totals.add line.totals)

/-- A new order row with its items. -/
def newOrder (env : Env) (org : CurrentOrg) (data : CreateOrderDto) (totals : OrderTotals)
    (items : List OrderItem) : OrderRecord :=
  { organizationId := org.organizationId, customerId := data.customerId,
    locationId := data.locationId, status := .pending, subtotalCents := totals.subtotalCents,
    taxCents := totals.taxCents, discountCents := totals.discountCents,
    totalCents := totals.totalCents, createdAt := env.now, updatedAt := env.now,
    placedAt := none, cancelledAt := none, items := items, payment := none }

/-- `orderItem.createManyAndReturn`. -/
def orderItemCreateMany (orderId : Id) (items : List OrderItem) : Tx S Unit :=
  exec [.order orderId] (fun _ => none)
    (fun db => db.modifyOrder orderId fun o => { o with items := items })

/-- `createOrder`; the ids of the answer are the generated ones. -/
def createOrder (env : Env) (org : CurrentOrg) (data : CreateOrderDto) :
    Tx S (Id × OrderRecord) := do
  require (data.orderItems ≠ []) (.badRequest "Order must contain at least one item")
  ofExcept (if hasRestrictedLocations org then
      ensureLocationAccessible org data.locationId false
        "A location is required when creating orders for a scoped membership"
    else .ok ())
  let db ← select id
  require (data.customerId.all fun c =>
      (db.customers.lookup c).any fun row => row.organizationId == org.organizationId)
    (.badRequest "Invalid customer for organization")
  require (data.locationId.all fun l =>
      (db.locations.lookup l).any fun row =>
        row.organizationId == org.organizationId && getLocationScopeWhere org (some l))
    (.badRequest "Invalid location for organization")
  let productIds := (data.orderItems.map (·.productId)).dedup
  let byId (productId : Id) : Option Product :=
    (db.products.lookup productId).filter fun product =>
      product.organizationId == org.organizationId && product.active
  require ((productIds.filterMap byId).length = productIds.length)
    (.badRequest "One or more products are invalid or inactive for this organization")
  let (computedLineItems, totals) ←
    ofExcept (computeLineItems env org.organizationId byId 1 data.orderItems [] {})
  let orderId := env.uuid 0
  if data.orderItems.length > 20 then
    let order ← orderCreate orderId (newOrder env org data totals [])
    orderItemCreateMany orderId computedLineItems
    pure (orderId, { order with items := computedLineItems })
  else
    let order ← orderCreate orderId (newOrder env org data totals computedLineItems)
    pure (orderId, order)

/-! ## Status transitions -/

def allowedTransitions : OrderStatus → List OrderStatus
  | .pending => [.confirmed, .cancelled]
  | .confirmed => [.fulfilled, .cancelled]
  | .cancelled => [.pending]
  | .fulfilled => []

def ensureTransitionPaymentTx (env : Env) (orderId : Id) (order : OrderRecord) :
    Tx S (Option PaymentWithAttempts) :=
  match order.payment with
  | some payment => some <$> getPaymentByIdTx orderId payment.id
  | none =>
    ensureLegacyPaymentForOrderTx env orderId order.organizationId order.status order.totalCents
      order.createdAt order.placedAt

/-- The order row after `CONFIRMED`. -/
def confirmedOrder (placedAt : Date) (o : OrderRecord) : OrderRecord :=
  { o with status := .confirmed, placedAt := some placedAt, cancelledAt := none }

def fulfilledOrder (o : OrderRecord) : OrderRecord := { o with status := .fulfilled }

def cancelledOrder (env : Env) (o : OrderRecord) : OrderRecord :=
  { o with status := .cancelled, cancelledAt := some env.now }

def reopenedOrder (o : OrderRecord) : OrderRecord :=
  { o with status := .pending, placedAt := none, cancelledAt := none }

/-- `case OrderStatus.CONFIRMED`. -/
def transitionConfirmed (env : Env) (orderId : Id) (order : OrderRecord)
    (auditContext : AuditContext) : Tx S Unit := do
  let placedAt := order.placedAt.getD env.now
  let _ ← orderUpdate env orderId order.organizationId (confirmedOrder placedAt)
  let _ ← createPaymentForConfirmedOrderTx env orderId order.organizationId order.totalCents
    order.createdAt auditContext

/-- `case OrderStatus.FULFILLED`. -/
def transitionFulfilled (env : Env) (orderId : Id) (order : OrderRecord) : Tx S Unit := do
  match ← ensureTransitionPaymentTx env orderId order with
  | none =>
    fail (.badRequest "Confirmed orders can only be fulfilled after payment has been completed")
  | some payment =>
    require (payment.paymentStatus = .paid ∧ payment.refundStatus = .none)
      (.badRequest "Confirmed orders can only be fulfilled after payment has been completed")
    let _ ← orderUpdate env orderId order.organizationId fulfilledOrder

/-- The payment of a confirmed order before it is cancelled. -/
def retirePaymentTx (stripe : StripeService S M) (env : Env) (orderId : Id) (order : OrderRecord)
    (auditContext : AuditContext) : Tx S Unit := do
  match ← ensureTransitionPaymentTx env orderId order with
  | none => pure ()
  | some payment =>
    require (¬ (payment.paymentStatus = .paid ∨ payment.refundStatus = .refunded))
      (.badRequest "Paid orders must be refunded instead of cancelled")
    require (payment.refundStatus ∉ activeRefundStatuses)
      (.badRequest "Orders with refunds in progress cannot be cancelled")
    let _ ← cancelActiveCardAttemptTx stripe env orderId payment.id auditContext

/-- `case OrderStatus.CANCELLED`. -/
def transitionCancelled (stripe : StripeService S M) (env : Env) (orderId : Id)
    (order : OrderRecord) (auditContext : AuditContext) : Tx S Unit := do
  doWhen (order.status = .confirmed) (retirePaymentTx stripe env orderId order auditContext)
  let _ ← orderUpdate env orderId order.organizationId (cancelledOrder env)

/-- The payment of a cancelled order before it is reopened. -/
def voidPaymentTx (stripe : StripeService S M) (env : Env) (orderId : Id) (order : OrderRecord)
    (auditContext : AuditContext) : Tx S Unit := do
  match ← ensureTransitionPaymentTx env orderId order with
  | none => pure ()
  | some payment =>
    require (¬ (payment.paymentStatus = .paid ∨ payment.refundStatus = .refunded))
      (.badRequest "Paid or refunded orders cannot be reopened")
    require (payment.refundStatus ∉ activeRefundStatuses)
      (.badRequest "Orders with refunds in progress cannot be reopened")
    deletePaymentForReopenTx stripe orderId payment.id auditContext

/-- `case OrderStatus.PENDING`. -/
def transitionPending (stripe : StripeService S M) (env : Env) (orderId : Id) (order : OrderRecord)
    (auditContext : AuditContext) : Tx S Unit := do
  voidPaymentTx stripe env orderId order auditContext
  let _ ← orderUpdate env orderId order.organizationId reopenedOrder

def orderFindFirst (org : CurrentOrg) (orderId : Id) : Tx S (Option OrderRecord) :=
  select fun db => (db.order? orderId).filter (·.visibleTo org)

/-- The `switch` on the new status. -/
def transitionTo (stripe : StripeService S M) (env : Env) (orderId : Id) (order : OrderRecord)
    (auditContext : AuditContext) : OrderStatus → Tx S Unit
  | .confirmed => transitionConfirmed env orderId order auditContext
  | .fulfilled => transitionFulfilled env orderId order
  | .cancelled => transitionCancelled stripe env orderId order auditContext
  | .pending => transitionPending stripe env orderId order auditContext

def transitionStatus (stripe : StripeService S M) (env : Env) (org : CurrentOrg) (orderId : Id)
    (toStatus : OrderStatus) (auditContext : AuditContext := {}) : Tx S OrderRecord := do
  match ← orderFindFirst org orderId with
  | none => fail (.notFound "Order not found for organization")
  | some order =>
    require (toStatus ∈ allowedTransitions order.status)
      (.badRequest ("Cannot transition from " ++ order.status.wire ++ " to " ++ toStatus.wire))
    transitionTo stripe env orderId order auditContext toStatus
    match ← orderFindFirst org orderId with
    | none => fail (.notFound "Order not found for organization")
    | some updatedOrder => pure updatedOrder

/-! ## Metadata and deletion -/

/-- The guard that scoped members pass before an update by id. -/
def assertOrderAccessible (org : CurrentOrg) (orderId : Id) : Tx S Unit := do
  let order ← select fun db => (db.order? orderId).filter fun o =>
    o.organizationId == org.organizationId
  match order with
  | none => fail (.notFound "Order not found")
  | some order =>
    require (¬ (hasRestrictedLocations org ∧
        ¬ order.locationId.any fun l => org.allowedLocationIds.contains l))
      (.forbidden "You do not have access to this order")

/-- A missing field is left alone, `null` clears the column. -/
structure UpdateOrderDto where
  customerId : Option (Option Id) := none
  locationId : Option (Option Id) := none
deriving DecidableEq, Repr

def metadataUpdated (data : UpdateOrderDto) (o : OrderRecord) : OrderRecord :=
  { o with customerId := data.customerId.getD o.customerId
           locationId := data.locationId.getD o.locationId }

def updateOrder (env : Env) (org : CurrentOrg) (orderId : Id) (data : UpdateOrderDto) :
    Tx S OrderRecord := do
  let db ← select id
  require (data.customerId.join.all fun c =>
      (db.customers.lookup c).any fun row => row.organizationId == org.organizationId)
    (.badRequest "Customer not found with given id")
  ofExcept (match data.locationId.join with
    | none => .ok ()
    | some l => ensureLocationAccessible org (some l) false)
  require (data.locationId.join.all fun l =>
      (db.locations.lookup l).any fun row =>
        row.organizationId == org.organizationId && getLocationScopeWhere org (some l))
    (.badRequest "Location not found with given id")
  doWhen (hasRestrictedLocations org = true) (assertOrderAccessible org orderId)
  orderUpdate env orderId org.organizationId (metadataUpdated data)

def deleteOrder (org : CurrentOrg) (orderId : Id) : Tx S Unit := do
  doWhen (hasRestrictedLocations org = true) (assertOrderAccessible org orderId)
  orderDelete orderId org.organizationId

/-! ## Items -/

def itemAdded (item : OrderItem) (o : OrderRecord) : OrderRecord :=
  Order.mapTotals (fun t => t.add item.totals) { o with items := o.items ++ [item] }

def addOrderItem (env : Env) (org : CurrentOrg) (orderId : Id) (data : CreateOrderItemDto) :
    Tx S OrderRecord := do
  let order ← select fun db => (db.order? orderId).filter fun o =>
    o.visibleTo org && o.status == .pending
  match order with
  | none => fail (.notFound "Order not found for organization or is not Pending")
  | some order =>
    let product ← select fun db => (db.products.lookup data.productId).filter fun product =>
      product.organizationId == org.organizationId
    match product with
    | none => fail (.badRequest "Invalid product")
    | some product =>
      require (¬ order.items.any fun item => item.productId == data.productId)
        (.badRequest "Product already exist in order, update it instead")
      let item ← ofExcept (computeLineItem (env.uuid 0) org.organizationId data (some product)
        "Cents must be non-negative" "Invalid product" "Discount exceeds line subtotal")
      orderUpdate env orderId org.organizationId (itemAdded item)

def OrderTotals.sub (a b : OrderTotals) : OrderTotals :=
  { subtotalCents := a.subtotalCents - b.subtotalCents, taxCents := a.taxCents - b.taxCents,
    discountCents := a.discountCents - b.discountCents, totalCents := a.totalCents - b.totalCents }

def itemDeleted (item : OrderItem) (o : OrderRecord) : OrderRecord :=
  Order.mapTotals (fun t => t.sub item.totals)
    { o with items := o.items.filter fun i => i.id != item.id }

/-- `where: { orderId, organizationId }` of the queries on items. -/
def itemsOf (db : Database) (org : CurrentOrg) (orderId : Id) : List OrderItem :=
  ((db.order? orderId).elim [] (·.items)).filter fun i => i.organizationId == org.organizationId

def deleteOrderItem (env : Env) (org : CurrentOrg) (orderId itemId : Id) : Tx S OrderRecord := do
  doWhen (hasRestrictedLocations org = true) (assertOrderAccessible org orderId)
  let item ← select fun db => (itemsOf db org orderId).find? fun i => i.id == itemId
  match item with
  | none => fail (.notFound "Order item not found")
  | some item =>
    let count ← select fun db => (itemsOf db org orderId).length
    require (count > 1) (.badRequest "Order must have at least one item")
    orderUpdateDeletingItem env orderId org.organizationId itemId (itemDeleted item)

end LedgerLight
