import LedgerLight.Auth.Calls
import LedgerLight.System.Api
import LedgerLight.Team.Journal

/-!
# What calls may write

The tables of the backend in six parts, and the parts that each call may write.

* `RouteCall.exec_part`, `TeamCall.exec_part` : a call leaves the other parts alone, whether it
  fails or not.
* `Api.part_step` : what a step of the backend leaves alone.
* `Api.sessions_stay` : sessions are ended, but none is removed.
-/

namespace LedgerLight

open Infra Prog

variable {S M : Type} {db db' : Backend}

/-! ## Parts -/

/-- A part of the database, by the service that is its first writer. -/
inductive Part where
  | orders | customers | products | locations | stock | team
deriving DecidableEq, Repr

/-- The tables of a part. -/
abbrev Part.Tables : Part → Type
  | .orders => Table Id OrderRecord × List AuditLog × Table StripeEventId StripeWebhookReceipt
  | .customers => Table Id CustomerRecord
  | .products => Table Id ProductRecord
  | .locations => Table Id LocationRecord
  | .stock => Table Id InventoryLevel × Table Id InventoryAdjustment
  | .team => Table Id Organization × Table Id User × Table Id Membership ×
      List MembershipLocation × Table Id InviteToken × Table Id RefreshToken × List MemberAuditLog

def Backend.part (db : Backend) : (p : Part) → p.Tables
  | .orders => (db.orders, db.auditLogs, db.receipts)
  | .customers => db.customers
  | .products => db.products
  | .locations => db.locations
  | .stock => (db.inventoryLevels, db.inventoryAdjustments)
  | .team => (db.organizations, db.users, db.memberships, db.membershipLocations, db.inviteTokens,
      db.refreshTokens, db.memberLogs)

/-- Where both databases have the same part. -/
def Backend.SamePart (db db' : Backend) (p : Part) : Prop := db'.part p = db.part p

theorem Backend.samePart_refl (db : Backend) (p : Part) : db.SamePart db p := rfl

theorem Backend.SamePart.trans {db'' : Backend} {p : Part} (h : db.SamePart db' p)
    (h' : db'.SamePart db'' p) : db.SamePart db'' p :=
  Eq.trans h' h

/-! ## What a call writes -/

/-- The parts that a call may write; foreign keys reach into others where a row is deleted. -/
def RouteAction.writes : RouteAction → List Part
  | .shop (.createAdjustment ..) => [.stock]
  | .shop (.updateLocation ..) | .createLocation _ => [.locations]
  | .shop (.deleteLocation _) => [.locations, .stock, .orders, .team]
  | .shop _ => [.orders]
  | .createProduct .. => [.products, .stock]
  | .updateProduct .. | .deleteProduct _ => [.products]
  | .createCustomer _ | .updateCustomer .. => [.customers]
  | .deleteCustomer _ => [.customers, .orders]

section

variable {p : Part} {s : S}

theorem Backend.samePart_setShop {shop : Database} (h : p ≠ .orders) :
    db.SamePart (db.setShop shop) p := by
  cases p with
  | orders => exact absurd rfl h
  | _ => rfl

theorem Backend.samePart_onShop {α : Type} {t : Tx S α} (h : p ≠ .orders) :
    db.SamePart (db.onShop t s).2.1 p := by
  unfold onShop
  rcases t.runAuto db.shop s with ⟨e | a, shop, s'⟩ <;> exact samePart_setShop h

theorem Backend.samePart_onAll {α : Type} {t : Work S α} (hclean : t.CleanAt db s)
    (hok : ∀ a db' s', t.run db s = (.ok (a, db'), s') → db.SamePart db' p) :
    db.SamePart (db.onAll t s).2.1 p := by
  rcases Backend.onAll_clean db s hclean with hsame | ⟨a, db', s', hrun, hdb⟩
  · rw [hsame]
    exact db.samePart_refl p
  · exact hdb.symm ▸ hok a db' s' hrun

theorem productUpdate_samePart {organizationId productId : Id} {data : UpdateProductDto} {env : Env}
    (h : p ≠ .products) :
    db.SamePart (db.onAll (productUpdate env organizationId productId data) s).2.1 p := by
  refine Backend.samePart_onAll (productUpdate_failsClean.cleanAt db s) fun a db' s' hrun => ?_
  obtain ⟨p₀, -, -, rfl, -⟩ := productUpdate_ok hrun
  cases p with
  | products => exact absurd rfl h
  | _ => rfl

/-- **A call of the shop** leaves the parts alone that it does not write. -/
theorem RouteCall.exec_part {stripe : StripeService S M} {c : RouteCall}
    (h : p ∉ c.action.writes) : db.SamePart (c.exec stripe db s).2.1 p := by
  obtain ⟨env, org, action⟩ := c
  cases action with
  | shop action =>
    cases action with
    | createAdjustment data actorUserId =>
      refine Backend.samePart_onAll createAdjustment_cleanAt fun a db' s' hrun => ?_
      obtain ⟨⟨quantity, -, rfl⟩, -⟩ := createAdjustment_ok.mp ⟨a, hrun⟩
      cases p with
      | stock => exact absurd (List.mem_singleton_self _) h
      | _ => rfl
    | updateLocation locationId data =>
      refine Backend.samePart_onAll (updateLocation_failsClean.cleanAt db s)
        fun a db' s' hrun => ?_
      obtain ⟨l₀, -, -, -, rfl, -⟩ := updateLocation_ok hrun
      cases p with
      | locations => exact absurd (List.mem_singleton_self _) h
      | _ => rfl
    | deleteLocation locationId =>
      refine Backend.samePart_onAll (deleteLocation_failsClean.cleanAt db s)
        fun a db' s' hrun => ?_
      obtain ⟨-, -, -, -, rfl, -⟩ := deleteLocation_ok hrun
      cases p with
      | customers => rfl
      | products => rfl
      | _ => exact absurd (by simp [RouteAction.writes]) h
    | _ => exact Backend.samePart_onShop fun he => h (List.mem_singleton.mpr he)
  | createLocation data =>
    refine Backend.samePart_onAll (createLocation_failsClean.cleanAt db s) fun a db' s' hrun => ?_
    obtain ⟨-, -, -, rfl, -⟩ := createLocation_ok hrun
    cases p with
    | locations => exact absurd (List.mem_singleton_self _) h
    | _ => rfl
  | createProduct productData actorUserId =>
    refine Backend.samePart_onAll createProduct_cleanAt fun a db' s' hrun => ?_
    obtain ⟨-, hcreated, -⟩ := createProduct_ok.mp ⟨a, hrun⟩
    cases p with
    | products => exact absurd List.mem_cons_self h
    | stock => exact absurd (List.mem_cons_of_mem _ List.mem_cons_self) h
    | _ => cases hcreated <;> rfl
  | updateProduct productId data =>
    exact productUpdate_samePart fun he => h (List.mem_singleton.mpr he)
  | deleteProduct productId =>
    exact productUpdate_samePart fun he => h (List.mem_singleton.mpr he)
  | createCustomer data =>
    refine Backend.samePart_onAll (createCustomer_failsClean.cleanAt db s) fun a db' s' hrun => ?_
    obtain ⟨-, rfl, -⟩ := createCustomer_ok hrun
    cases p with
    | customers => exact absurd (List.mem_singleton_self _) h
    | _ => rfl
  | updateCustomer customerId data =>
    refine Backend.samePart_onAll (updateCustomer_failsClean.cleanAt db s) fun a db' s' hrun => ?_
    obtain ⟨c₀, -, rfl, -⟩ := updateCustomer_ok hrun
    cases p with
    | customers => exact absurd (List.mem_singleton_self _) h
    | _ => rfl
  | deleteCustomer customerId =>
    refine Backend.samePart_onAll (deleteCustomer_failsClean.cleanAt db s) fun a db' s' hrun => ?_
    obtain ⟨-, rfl, -⟩ := deleteCustomer_ok hrun
    cases p with
    | customers => exact absurd List.mem_cons_self h
    | orders => exact absurd (List.mem_cons_of_mem _ List.mem_cons_self) h
    | _ => rfl

/-! ## The team -/

/-- The tables that the team and the auth service leave alone. -/
def Backend.shopTables (db : Backend) :
    Table Id OrderRecord × List AuditLog × Table StripeEventId StripeWebhookReceipt ×
      Table Id CustomerRecord × Table Id ProductRecord × Table Id LocationRecord ×
      Table Id InventoryLevel × Table Id InventoryAdjustment :=
  (db.orders, db.auditLogs, db.receipts, db.customers, db.products, db.locations,
    db.inventoryLevels, db.inventoryAdjustments)

theorem Backend.samePart_of_shopTables (h : db'.shopTables = db.shopTables) (hp : p ≠ .team) :
    db.SamePart db' p := by
  simp only [shopTables, Prod.mk.injEq] at h
  obtain ⟨horders, hlogs, hreceipts, hcustomers, hproducts, hlocations, hlevels, hadjustments⟩ := h
  cases p with
  | orders => exact congrArg₂ Prod.mk horders (congrArg₂ Prod.mk hlogs hreceipts)
  | customers => exact hcustomers
  | products => exact hproducts
  | locations => exact hlocations
  | stock => exact congrArg₂ Prod.mk hlevels hadjustments
  | team => exact absurd rfl hp

theorem Backend.Logs.shopTables (h : db.Logs db') : db'.shopTables = db.shopTables := by
  obtain ⟨_, _, rfl⟩ := h.eq
  rfl

section

variable {env : TeamEnv} {action : TeamAction} {k : Id}

theorem TeamChange.shopTables (h : TeamChange db env action k db') :
    db'.shopTables = db.shopTables := by
  cases h with
  | invited _ _ _ account _ _ logs => cases account <;> exact logs.shopTables
  | reinvited _ _ _ _ _ logs =>
    refine logs.shopTables.trans ?_
    unfold Backend.reinvited Backend.renewed
    split <;> rfl
  | profileUpdated _ _ _ logs => exact logs.shopTables
  | roleChanged _ _ _ _ _ logs => exact logs.shopTables
  | locationsUpdated _ _ _ _ logs => exact logs.shopTables
  | deactivated _ _ _ _ logs => exact logs.shopTables
  | reactivated _ _ _ _ logs =>
    refine logs.shopTables.trans ?_
    unfold Backend.renewed
    split <;> rfl
  | inviteResent _ _ _ _ _ logs => exact logs.shopTables
  | accepted _ _ _ logs =>
    refine logs.shopTables.trans ?_
    unfold Backend.passworded
    split <;> rfl

theorem TeamCall.exec_shopTables {c : TeamCall} :
    (c.exec db).2.shopTables = db.shopTables := by
  rcases h : c.exec db with ⟨e | member, db'⟩
  · exact congrArg Backend.shopTables (TeamCall.exec_error h)
  · exact (TeamCall.exec_ok h).shopTables

end

/-! ## The auth service -/

section

variable {β : Type} {f : Backend → β} {env : AuthEnv}

theorem createUserAuditLogs_quietOf {userId : Id} {action : MemberAuditAction}
    {organizationIds : List Id} (hf : ∀ db logs, f { db with memberLogs := logs } = f db) :
    (createUserAuditLogs env userId action organizationIds : Work S Unit).Quiet f :=
  quiet_exec fun db => hf db _

/-- `login` writes users, sessions and their audit rows. -/
theorem login_quiet {input : LoginDto}
    (hf : ∀ db users tokens logs,
      f { db with users := users, refreshTokens := tokens, memberLogs := logs } = f db) :
    (login env input : Work S _).Quiet f := by
  refine quiet_select.bind fun found => ?_
  split
  · trivial
  · refine quiet_require.bind fun _ => Quiet.bind (quiet_exec fun db => hf db _ _ _) fun _ => ?_
    refine Quiet.bind (quiet_exec fun db => ?_) fun _ => quiet_select.bind fun row => ?_
    · unfold Backend.modifyUser
      split
      · rfl
      · exact hf db _ _ _
    · split
      · trivial
      · exact quiet_require.bind fun _ =>
          (createUserAuditLogs_quietOf fun db logs => hf db _ _ logs).bind fun _ => trivial

/-- `logout` writes sessions and audit rows. -/
theorem logout_quiet {userId : Id}
    (hf : ∀ db tokens logs, f { db with refreshTokens := tokens, memberLogs := logs } = f db) :
    (logout env userId : Work S Unit).Quiet f :=
  quiet_select.bind fun _ => Quiet.bind (quiet_exec fun db => hf db _ _) fun _ =>
    quiet_doWhen (createUserAuditLogs_quietOf fun db logs => hf db _ logs)

end

end

/-! ## The backend -/

/-- The parts that a handler's call may write. -/
def Call.writes : Call → List Part
  | .shop action => action.writes
  | .getPayment _ => [.orders]
  | .team _ => [.team]

/-- The parts that a route may write. -/
def Route.writes : Route → List Part
  | .read _ => []
  | .createCustomer _ | .updateCustomer .. => [.customers]
  | .deleteCustomer _ => [.customers, .orders]
  | .createProduct _ => [.products, .stock]
  | .updateProduct .. | .deleteProduct _ => [.products]
  | .createLocation _ | .updateLocation .. => [.locations]
  | .deleteLocation _ => [.locations, .stock, .orders, .team]
  | .createAdjustment _ => [.stock]
  | .createOrder _ | .transitionStatus .. | .updateOrder .. | .deleteOrder _ | .addOrderItem ..
  | .deleteOrderItem .. | .getPayment _ | .initiateCardPayment _ | .confirmCardPayment _
  | .markCashPaid _ | .refundPayment .. => [.orders]
  | .inviteMember _ | .updateMember .. | .updateMemberRole .. | .updateMemberLocations ..
  | .deactivateMember _ | .reactivateMember _ | .resendInvite _ => [.team]

section

variable {jwt : Jwt} {stripe : StripeService S M} {p : Part} {s : S} {st : Api S}

theorem Call.exec_part {env : TeamEnv} {org : CurrentOrg} {c : Call} (h : p ∉ c.writes) :
    db.SamePart (c.exec stripe env org db s).1 p := by
  cases c with
  | shop action => exact RouteCall.exec_part (c := ⟨env.toEnv, org, action⟩) h
  | getPayment orderId =>
    exact Backend.samePart_onShop fun he => h (List.mem_singleton.mpr he)
  | team action =>
    exact Backend.samePart_of_shopTables TeamCall.exec_shopTables
      fun he => h (List.mem_singleton.mpr he)

theorem Route.call?_writes {user : RequestUser} {organization : MemberContext}
    {auditContext : AuditContext} {route : Route} {call : Call}
    (h : route.call? user organization auditContext = some call) : call.writes = route.writes := by
  cases route with
  | transitionStatus id toStatus =>
    simp only [Route.call?] at h
    split at h <;> cases h
    rfl
  | _ => cases h <;> rfl

/-- **A request** leaves the parts alone that its route does not write. -/
theorem ApiRequest.exec_part {r : ApiRequest} (h : p ∉ r.route.writes) :
    db.SamePart (r.exec jwt stripe db s).1 p := by
  unfold ApiRequest.exec
  split
  · exact db.samePart_refl p
  · next user organization _ =>
    cases hcall : r.route.call? user organization (r.auditContext user.user.id) with
    | none => exact db.samePart_refl p
    | some call => exact Call.exec_part (Route.call?_writes hcall ▸ h)

/-- What a call of the backend may write, in the eyes of its guards. -/
def ApiCall.Writes (jwt : Jwt) (p : Part) : ApiCall M → Prop
  | .login .. | .logout .. | .acceptInvitation .. => p = .team
  | .refresh .. | .stripe _ => False
  | .webhook .. => p = .orders
  | .request r => p ∈ r.route.writes ∧ ∃ passed, r.guards jwt = .ok passed

/-- **What a step leaves alone.** -/
theorem Api.part_step {c : ApiCall M} (h : ¬ c.Writes jwt p) :
    st.db.SamePart ((api jwt stripe).step st c).db p := by
  have hanswering : ∀ {now db' r}, ((st.answering now db' r).db : Backend) = db' := by
    intro now db' r
    cases r <;> rfl
  cases c with
  | login env input =>
    refine Backend.samePart_of_shopTables (hanswering.symm ▸ ?_) h
    exact (login_quiet fun _ _ _ _ => rfl).runAuto_left st.db ()
  | refresh env input =>
    show st.db.SamePart (Api.answering ..).db p
    rw [hanswering, refresh_readOnly.runAuto_snd]
    exact st.db.samePart_refl p
  | logout env bearer =>
    show st.db.SamePart (Api.step jwt stripe st (.logout env bearer)).db p
    unfold Api.step
    dsimp only
    cases jwtAuthGuard jwt env.now bearer with
    | error e => exact st.db.samePart_refl p
    | ok user =>
      refine Backend.samePart_of_shopTables ?_ h
      exact (logout_quiet fun _ _ _ => rfl).runAuto_left st.db ()
  | acceptInvitation env bearer input =>
    exact Backend.samePart_of_shopTables TeamCall.exec_shopTables h
  | request r =>
    show st.db.SamePart (r.exec jwt stripe st.db st.stripe).1 p
    by_cases hwrites : p ∈ r.route.writes
    · cases hpass : r.guards jwt with
      | error e =>
        rw [ApiRequest.exec, hpass]
        exact st.db.samePart_refl p
      | ok passed => exact absurd ⟨hwrites, passed, hpass⟩ h
    · exact ApiRequest.exec_part hwrites
  | webhook env event => exact Backend.samePart_onShop h
  | stripe move => exact st.db.samePart_refl p

/-! ## Sessions -/

/-- What does not change of a session while it is open, or after it was ended. -/
def RefreshToken.session (t : RefreshToken) : Id × String × Date :=
  (t.userId, t.tokenHash, t.expiresAt)

theorem RouteCall.exec_refreshTokens {c : RouteCall} :
    (c.exec stripe db s).2.1.refreshTokens = db.refreshTokens := by
  by_cases h : Part.team ∈ c.action.writes
  · obtain ⟨env, org, action⟩ := c
    cases action with
    | shop action =>
      cases action with
      | deleteLocation locationId =>
        show (db.onAll _ s).2.1.refreshTokens = _
        rcases Backend.onAll_clean db s (deleteLocation_failsClean.cleanAt db s) with
          hsame | ⟨a, db', s', hrun, hdb⟩
        · rw [hsame]
        · obtain ⟨-, -, -, -, rfl, -⟩ := deleteLocation_ok hrun
          rw [hdb]
          rfl
      | _ => simp [RouteAction.writes] at h
    | _ => simp [RouteAction.writes] at h
  · have hteam : Backend.SamePart db (c.exec stripe db s).2.1 .team := RouteCall.exec_part h
    exact congrArg (fun team => team.2.2.2.2.2.1) hteam

theorem TeamCall.exec_sessions {c : TeamCall} :
    db.refreshTokens.Stays RefreshToken.session (c.exec db).2.refreshTokens := by
  rcases h : c.exec db with ⟨e | member, db'⟩
  · rw [TeamCall.exec_error h]
    exact Table.stays_refl _ _
  · have htokens : db'.refreshTokens = revokeFor c.env.now (c.revokes? db) db.refreshTokens :=
      (TeamCall.journal_ok h).1
    rw [htokens]
    unfold revokeFor
    split
    · exact Table.stays_refl _ _
    · refine Table.stays_mapRows fun t => ?_
      split <;> rfl

/-- **No step removes a session**, or gives it to another user. -/
theorem Api.sessions_stay (c : ApiCall M) :
    st.db.refreshTokens.Stays RefreshToken.session
      ((api jwt stripe).step st c).db.refreshTokens := by
  have hanswering : ∀ {now db' r}, ((st.answering now db' r).db : Backend) = db' := by
    intro now db' r
    cases r <;> rfl
  have hkept : ∀ {db' : Backend}, db'.refreshTokens = st.db.refreshTokens →
      st.db.refreshTokens.Stays RefreshToken.session db'.refreshTokens :=
    fun h => h ▸ Table.stays_refl _ _
  cases c with
  | login env input =>
    show st.db.refreshTokens.Stays _ (Api.answering ..).db.refreshTokens
    rw [hanswering]
    rcases login_cases (env.signing jwt) input st.db with
      ⟨e, hrun, -⟩ | ⟨userId, user, r, db', hrun, -, hfresh, htokens, -⟩
    · rw [hrun]
      exact Table.stays_refl _ _
    · rw [hrun, htokens]
      exact Table.stays_insert_new hfresh
  | refresh env input =>
    refine hkept ?_
    show (Api.answering ..).db.refreshTokens = _
    rw [hanswering, refresh_readOnly.runAuto_snd]
  | logout env bearer =>
    show st.db.refreshTokens.Stays _ (Api.step jwt stripe st (.logout env bearer)).db.refreshTokens
    unfold Api.step
    dsimp only
    cases jwtAuthGuard jwt env.now bearer with
    | error e => exact Table.stays_refl _ _
    | ok user =>
      rw [logout_sessions]
      refine Table.stays_mapRows fun t => ?_
      split <;> rfl
  | acceptInvitation env bearer input => exact TeamCall.exec_sessions
  | request r =>
    show st.db.refreshTokens.Stays _ (r.exec jwt stripe st.db st.stripe).1.refreshTokens
    unfold ApiRequest.exec
    split
    · exact Table.stays_refl _ _
    · next user organization _ =>
      cases r.route.call? user organization (r.auditContext user.user.id) with
      | none => exact Table.stays_refl _ _
      | some call =>
        cases call with
        | shop action => exact hkept (RouteCall.exec_refreshTokens (c := ⟨_, _, action⟩))
        | getPayment orderId => exact hkept (congrArg (fun team => team.2.2.2.2.2.1)
            (Backend.samePart_onShop (p := .team) nofun))
        | team action => exact TeamCall.exec_sessions
  | webhook env event => exact hkept (congrArg (fun team => team.2.2.2.2.2.1)
      (Backend.samePart_onShop (p := .team) nofun))
  | stripe move => exact Table.stays_refl _ _

end

end LedgerLight
