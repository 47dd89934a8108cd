import LedgerLight.Auth.Calls
import LedgerLight.Auth.Guards
import LedgerLight.System.Routes

/-!
# The backend behind its guards

Every endpoint that the controllers expose: the routes with the permissions they declare and what
their handlers call, the calls of the auth service, the invitations and Stripe's webhooks, as one
machine. A request goes through the guards of its route, then its handler runs, carried through or
failed.

An access token is a text that `login` or `refresh` has answered. The state keeps those that were
answered with what they were signed for, so that it can be said that nobody else signs one
(`Api.Unforged`).
-/

namespace LedgerLight

open Infra Prog

variable {S M : Type}

/-! ## Routes -/

/-- The routes that only read. -/
inductive ReadRoute where
  | getCustomers | getCustomerById | getProducts | getProductById | getOrders | getOrder
  | getLocations | getLocationById | getInventory | getLevels | getAuditLogs | getSummary
  | getSalesOverview | getMembers | getRoles | getMemberDetail
deriving DecidableEq, Repr

/-- The routes under `OrgProtected`, with what their paths and bodies carry. -/
inductive Route where
  | read (route : ReadRoute)
  | createCustomer (customerData : CreateCustomerDto)
  | updateCustomer (id : Id) (customerData : UpdateCustomerDto)
  | deleteCustomer (id : Id)
  | createProduct (productData : CreateProductDto)
  | updateProduct (id : Id) (productData : UpdateProductDto)
  | deleteProduct (id : Id)
  | createOrder (data : CreateOrderDto)
  | transitionStatus (id : Id) (toStatus : OrderStatus)
  | updateOrder (id : Id) (data : UpdateOrderDto)
  | deleteOrder (id : Id)
  | addOrderItem (orderId : Id) (data : CreateOrderItemDto)
  | deleteOrderItem (orderId itemId : Id)
  | createLocation (locationData : CreateLocationDto)
  | updateLocation (id : Id) (locationData : UpdateLocationDto)
  | deleteLocation (id : Id)
  | createAdjustment (adjustmentData : CreateAdjustmentBodyDto)
  | getPayment (orderId : Id)
  | initiateCardPayment (orderId : Id)
  | confirmCardPayment (orderId : Id)
  | markCashPaid (orderId : Id)
  | refundPayment (orderId : Id) (reason : String)
  | inviteMember (input : InviteMemberDto)
  | updateMember (membershipId : Id) (input : UpdateTeamMemberDto)
  | updateMemberRole (membershipId : Id) (role : Role)
  | updateMemberLocations (membershipId : Id) (locationIds : Option (List Id))
  | deactivateMember (membershipId : Id)
  | reactivateMember (membershipId : Id)
  | resendInvite (membershipId : Id)

def ReadRoute.permissions : ReadRoute → RoutePermissions
  | getCustomers | getCustomerById => requirePermissions [.customersRead]
  | getProducts | getProductById => requirePermissions [.productsRead]
  | getOrders | getOrder => requirePermissions [.ordersRead]
  | getLocations | getLocationById => requirePermissions [.locationsRead]
  | getInventory | getLevels => requirePermissions [.inventoryRead]
  | getAuditLogs => requirePermissions [.auditLogsRead]
  | getSummary | getSalesOverview =>
    requirePermissions [.ordersRead, .customersRead, .inventoryRead, .reportsRead]
  | getMembers | getRoles | getMemberDetail => requirePermissions [.usersRead]

/-- `TRANSITION_PERMISSION` of the order controller. -/
def transitionPermission : OrderStatus → Permission
  | .confirmed => .ordersTransitionConfirm
  | .fulfilled => .ordersTransitionFulfill
  | .cancelled => .ordersTransitionCancel
  | .pending => .ordersTransitionReopen

/-- What the decorators of a route declare. -/
def Route.permissions : Route → RoutePermissions
  | read route => route.permissions
  | createCustomer _ => requirePermissions [.customersCreate]
  | updateCustomer .. => requirePermissions [.customersUpdate]
  | deleteCustomer _ => requirePermissions [.customersDelete]
  | createProduct _ => requirePermissions [.productsCreate]
  | updateProduct .. => requirePermissions [.productsUpdate]
  | deleteProduct _ => requirePermissions [.productsArchive]
  | createOrder _ => requirePermissions [.ordersCreate]
  | transitionStatus .. => requireAnyPermission
      [.ordersTransitionConfirm, .ordersTransitionFulfill, .ordersTransitionCancel,
        .ordersTransitionReopen]
  | updateOrder .. => requirePermissions [.ordersUpdate]
  | deleteOrder _ => requirePermissions [.ordersDelete]
  | addOrderItem .. => requirePermissions [.ordersUpdate]
  | deleteOrderItem .. => requirePermissions [.ordersUpdate]
  | createLocation _ => requirePermissions [.locationsCreate]
  | updateLocation .. => requirePermissions [.locationsUpdate]
  | deleteLocation _ => requirePermissions [.locationsArchive]
  | createAdjustment _ => requirePermissions [.inventoryAdjust]
  | getPayment _ => requirePermissions [.paymentsRead]
  | initiateCardPayment _ => requireAnyPermission [.paymentsCreate]
  | confirmCardPayment _ => requireAnyPermission [.paymentsCreate]
  | markCashPaid _ => requireAnyPermission [.paymentsCreate]
  | refundPayment .. => requirePermissions [.paymentsRefund]
  | inviteMember _ => requireAnyPermission [.usersInvite, .usersManage]
  | updateMember .. => requireAnyPermission [.usersInvite, .usersManage]
  | updateMemberRole .. => requireAnyPermission [.usersInvite, .usersManage]
  | updateMemberLocations .. => requireAnyPermission [.usersInvite, .usersManage]
  | deactivateMember _ => requireAnyPermission [.usersInvite, .usersManage]
  | reactivateMember _ => requireAnyPermission [.usersInvite, .usersManage]
  | resendInvite _ => requireAnyPermission [.usersInvite, .usersManage]

/-! ## Handlers -/

/-- What a handler calls, besides nothing for the routes that only read. -/
inductive Call where
  | shop (action : RouteAction)
  | getPayment (orderId : Id)
  | team (action : TeamAction)

/-- What the handler of the route calls, for the user and the organization of the request. -/
def Route.call? (user : RequestUser) (organization : MemberContext) (auditContext : AuditContext) :
    Route → Option Call
  | read _ => none
  | createCustomer customerData => some (.shop (.createCustomer customerData))
  | updateCustomer id customerData => some (.shop (.updateCustomer id customerData))
  | deleteCustomer id => some (.shop (.deleteCustomer id))
  | createProduct productData => some (.shop (.createProduct productData (some user.user.id)))
  | updateProduct id productData => some (.shop (.updateProduct id productData))
  | deleteProduct id => some (.shop (.deleteProduct id))
  | createOrder data => some (.shop (.shop (.createOrder data)))
  | transitionStatus id toStatus =>
    -- the controller checks the permission of the status that is asked for
    if hasPermission organization.role (transitionPermission toStatus) then
      some (.shop (.shop (.transitionStatus id toStatus auditContext)))
    else none
  | updateOrder id data => some (.shop (.shop (.updateOrder id data)))
  | deleteOrder id => some (.shop (.shop (.deleteOrder id)))
  | addOrderItem orderId data => some (.shop (.shop (.addOrderItem orderId data)))
  | deleteOrderItem orderId itemId => some (.shop (.shop (.deleteOrderItem orderId itemId)))
  | createLocation locationData => some (.shop (.createLocation locationData))
  | updateLocation id locationData => some (.shop (.shop (.updateLocation id locationData)))
  | deleteLocation id => some (.shop (.shop (.deleteLocation id)))
  | createAdjustment adjustmentData =>
    some (.shop (.shop (.createAdjustment adjustmentData (some user.user.id))))
  | getPayment orderId => some (.getPayment orderId)
  | initiateCardPayment orderId =>
    some (.shop (.shop (.initiateCardPayment orderId auditContext)))
  | confirmCardPayment orderId => some (.shop (.shop (.confirmCardPayment orderId auditContext)))
  | markCashPaid orderId => some (.shop (.shop (.markCashPaid orderId auditContext)))
  | refundPayment orderId reason =>
    some (.shop (.shop (.refundPayment orderId reason auditContext)))
  | inviteMember input => some (.team (.inviteMember organization user.user.id input))
  | updateMember membershipId input =>
    some (.team (.updateMember organization user.user.id membershipId input))
  | updateMemberRole membershipId role =>
    some (.team (.updateMemberRole organization user.user.id membershipId role))
  | updateMemberLocations membershipId locationIds =>
    some (.team (.updateMemberLocations organization user.user.id membershipId locationIds))
  | deactivateMember membershipId =>
    some (.team (.deactivateMember organization user.user.id membershipId))
  | reactivateMember membershipId =>
    some (.team (.reactivateMember organization user.user.id membershipId))
  | resendInvite membershipId =>
    some (.team (.resendInvite organization user.user.id membershipId))

/-- The database and the Stripe that the call leaves. -/
def Call.exec (stripe : StripeService S M) (env : TeamEnv) (org : CurrentOrg) (db : Backend)
    (s : S) : Call → Backend × S
  | .shop action => (RouteCall.exec stripe ⟨env.toEnv, org, action⟩ db s).2
  | .getPayment orderId => (db.onShop (getPaymentByOrderId env.toEnv org orderId) s).2
  | .team action => ((TeamCall.exec ⟨env, action⟩ db).2, s)

/-! ## Requests -/

/-- A request under `OrgProtected`, with what it reads when it is served. -/
structure ApiRequest where
  env : TeamEnv
  bearer : Option String
  /-- The header `x-organization-id`. -/
  organizationId : Option Id
  requestId : Option String := none
  ip : Option String := none
  userAgent : Option String := none
  route : Route

namespace ApiRequest

/-- The user and the organization of a request that its guards let pass. -/
def guards (jwt : Jwt) (r : ApiRequest) : Except BackendError (RequestUser × MemberContext) :=
  orgProtected jwt r.env.now r.bearer r.organizationId r.route.permissions

/-- `buildAuditContext`. -/
def auditContext (r : ApiRequest) (actorUserId : Id) : AuditContext :=
  { actorUserId := some actorUserId, requestId := r.requestId, ip := r.ip,
    userAgent := r.userAgent }

/-- The database and the Stripe after the request. -/
def exec (jwt : Jwt) (stripe : StripeService S M) (r : ApiRequest) (db : Backend) (s : S) :
    Backend × S :=
  match r.guards jwt with
  | .error _ => (db, s)
  | .ok (user, organization) =>
    match r.route.call? user organization (r.auditContext user.user.id) with
    | none => (db, s)
    | some c => c.exec stripe r.env organization.toCurrentOrg db s

end ApiRequest

/-- What `constructWebhookEvent` makes of a signed payload. -/
inductive StripeEvent where
  | paymentIntent (id : StripeEventId) (type : String) (paymentIntent : StripePaymentIntent)
  | refund (id : StripeEventId) (type : String) (refund : StripeRefund)

/-- `handleStripeWebhook`, with the types of events it passes on. -/
def StripeEvent.handle (env : Env) : StripeEvent → Tx S Unit
  | .paymentIntent id type intent =>
    if type ∈ ["payment_intent.succeeded", "payment_intent.payment_failed",
        "payment_intent.processing", "payment_intent.canceled"] then
      transaction (handleWebhookPaymentIntent env id type intent)
    else pure ()
  | .refund id type stripeRefund =>
    if type ∈ ["refund.created", "refund.updated", "refund.failed"] then
      transaction (handleWebhookRefund env id type stripeRefund)
    else pure ()

/-! ## The machine -/

/-- An access token that was answered: its text, and what was signed when. -/
structure AnsweredToken where
  text : String
  payload : JwtPayload
  issuedAt : Nat
deriving DecidableEq, Repr

structure Api (S : Type) where
  db : Backend
  stripe : S
  answered : List AnsweredToken

inductive ApiCall (M : Type) where
  | login (env : AuthEnv) (input : LoginDto)
  | refresh (env : AuthEnv) (input : RefreshTokenDto)
  | logout (env : AuthEnv) (bearer : Option String)
  | acceptInvitation (env : TeamEnv) (bearer : Option String) (input : AcceptInviteDto)
  | request (r : ApiRequest)
  | webhook (env : Env) (event : StripeEvent)
  /-- Stripe's state changes by itself. -/
  | stripe (move : M)

/-- The token that the call is made with. -/
def ApiCall.bearer? : ApiCall M → Option String
  | .logout _ bearer => bearer
  | .acceptInvitation _ bearer _ => bearer
  | .request r => r.bearer
  | .login .. | .refresh .. | .webhook .. | .stripe _ => none

/-- The payload that `login` and `refresh` sign for a user. -/
def Backend.jwtPayload (db : Backend) (user : PublicUser) : JwtPayload :=
  { sub := user.id, user := user
    memberships := (db.activeMemberships user.id).map serializeJwtMembership }

namespace Api

/-- The state after a call of the auth service that answered, or failed. -/
def answering (st : Api S) (now : Date) (db : Backend) :
    Except BackendError (String × PublicUser) → Api S
  | .error _ => { st with db := db }
  | .ok (accessToken, user) =>
    { st with
      db := db
      answered := ⟨accessToken, db.jwtPayload user, now / 1000⟩ :: st.answered }

def step (jwt : Jwt) (stripe : StripeService S M) (st : Api S) : ApiCall M → Api S
  | .login env input =>
    let r := (login (env.signing jwt) input : Work Unit _).runAuto st.db ()
    st.answering env.now r.2.1 (r.1.map fun answer => (answer.accessToken, answer.user))
  | .refresh env input =>
    let r := (refresh (env.signing jwt) input : Work Unit _).runAuto st.db ()
    st.answering env.now r.2.1 (r.1.map fun answer => (answer.accessToken, answer.user))
  | .logout env bearer =>
    match jwtAuthGuard jwt env.now bearer with
    | .error _ => st
    | .ok user =>
      { st with db := ((logout env user.user.id : Work Unit Unit).runAuto st.db ()).2.1 }
  | .acceptInvitation env bearer input =>
    let userId := (optionalJwtAuthGuard jwt env.now bearer).map (·.user.id)
    { st with db := (TeamCall.exec ⟨env, .acceptInvitation input userId⟩ st.db).2 }
  | .request r =>
    let (db, s) := r.exec jwt stripe st.db st.stripe
    { st with db := db, stripe := s }
  | .webhook env event =>
    let (db, s) := (st.db.onShop (event.handle env) st.stripe).2
    { st with db := db, stripe := s }
  | .stripe move => { st with stripe := stripe.move move st.stripe }

end Api

/-- The backend as its clients and Stripe see it. -/
def api (jwt : Jwt) (stripe : StripeService S M) : Machine (Api S) (ApiCall M) where
  step := Api.step jwt stripe

/-- **Nobody else signs**: a token that is verified carries what was signed for an answer of the
backend. -/
def Api.Unforged (jwt : Jwt) (st : Api S) (c : ApiCall M) : Prop :=
  ∀ text token, c.bearer? = some text → jwt.verify text = some token →
    ⟨text, token.payload, token.issuedAt⟩ ∈ st.answered

end LedgerLight
