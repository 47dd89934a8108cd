import LedgerLight.Properties.FreshAuthority
import LedgerLight.Properties.TenantRefs

/-!
# Who changes an organization

What is of an organization changes by the requests of its own members, by the answers to its
invitations and by Stripe. `ROLE_PERMISSIONS` gives each role permissions, the routes declare
permissions, and the services write tables: put together, each part of the database is written for
the members of some roles only, whatever routes are called in whatever order.

Users are left out of it, one may be a member of two organizations; and of the stock it is not said
whose it is, an adjustment may name a product of another organization.

* `Route.role_mem` : a route that writes a part of the database is open to the roles of the part.
* `changes_authorized` : in every run, a change in a part of an organization goes back to a request of
  a member with such a role, whose membership the database had less than fifteen minutes before.
-/

namespace LedgerLight

open Infra Prog

variable {S M : Type}

/-- The permissions that open a route which writes the part. A payment that is read may be backfilled,
and a row that is deleted takes others with it. -/
def Part.permissions : Part → List Permission
  | .customers => [.customersCreate, .customersUpdate, .customersDelete]
  | .products => [.productsCreate, .productsUpdate, .productsArchive]
  | .locations => [.locationsCreate, .locationsUpdate, .locationsArchive]
  | .stock => [.inventoryAdjust, .productsCreate, .locationsArchive]
  | .team => [.usersInvite, .usersManage, .locationsArchive]
  | .orders =>
    [.ordersCreate, .ordersUpdate, .ordersDelete, .ordersTransitionConfirm,
      .ordersTransitionFulfill, .ordersTransitionCancel, .ordersTransitionReopen, .paymentsRead,
      .paymentsCreate, .paymentsRefund, .customersDelete, .locationsArchive]

/-- The roles whose requests may write the part. -/
def Part.roles : Part → List Role
  | .customers => [.owner, .manager, .cashier]
  | .products | .locations | .team => [.owner, .manager]
  | .stock => [.owner, .manager, .inventoryClerk]
  | .orders => [.owner, .manager, .cashier, .support]

/-- What a route asks for, with any or with all of it. -/
def RoutePermissions.needed (route : RoutePermissions) : List Permission :=
  route.required ++ route.requiredAny

theorem RoutePermissions.Allow.exists_needed {route : RoutePermissions} {role : Role}
    (h : route.Allow role) : ∃ q ∈ route.needed, hasPermission role q = true := by
  obtain hsome | hany := h.declared
  · obtain ⟨q, hq⟩ := List.exists_mem_of_ne_nil _ hsome
    exact ⟨q, List.mem_append_left _ hq, h.all q hq⟩
  · obtain ⟨q, hq, hhas⟩ := h.any hany
    exact ⟨q, List.mem_append_right _ hq, hhas⟩

/-- A permission that opens a part is one of the part's roles only. -/
theorem Part.role_of_permission {p : Part} {role : Role} :
    ∀ q ∈ p.permissions, hasPermission role q = true → role ∈ p.roles := by
  cases role <;> cases p <;> decide

/-- The routes that write a part ask for permissions of the part. -/
theorem Route.needed_of_writes (route : Route) :
    ∀ p ∈ route.writes, ∀ q ∈ route.permissions.needed, q ∈ p.permissions := by
  cases route with
  | read route => exact nofun
  | _ =>
    simp only [Route.writes, Route.permissions]
    decide

/-- **A route that writes a part** is open to the roles of the part only. -/
theorem Route.role_mem {p : Part} {route : Route} {role : Role} (hwrites : p ∈ route.writes)
    (hallow : route.permissions.Allow role) : role ∈ p.roles := by
  obtain ⟨q, hq, hhas⟩ := hallow.exists_needed
  exact Part.role_of_permission q (route.needed_of_writes p hwrites q hq) hhas

/-! ## Changes of a part -/

/-- From `db` to `db'` what of the part is of the organization `y` is the same; of the stock,
everything is. -/
def Backend.SparesPart (db : Backend) (y : Id) (db' : Backend) : Part → Prop
  | .orders => db.orders.ChangesWithin (fun _ o => o.organizationId ≠ y) db'.orders
  | .customers => db.customers.ChangesWithin (fun _ c => c.organizationId ≠ y) db'.customers
  | .products => db.products.ChangesWithin (fun _ p => p.organizationId ≠ y) db'.products
  | .locations => db.locations.ChangesWithin (fun _ l => l.organizationId ≠ y) db'.locations
  | .team => db.SameTeam y db'
  | .stock => db.SamePart db' .stock

section

variable {db db' db'' : Backend} {y : Id} {p : Part}

theorem Backend.sparesPart_refl (db : Backend) (y : Id) (p : Part) : db.SparesPart y db p := by
  have hspares := db.spares_refl y
  cases p with
  | orders => exact hspares.orders
  | customers => exact hspares.customers
  | products => exact hspares.products
  | locations => exact hspares.locations
  | stock => exact db.samePart_refl .stock
  | team => exact hspares.team

theorem Backend.SparesPart.trans (h : db.SparesPart y db' p) (h' : db'.SparesPart y db'' p) :
    db.SparesPart y db'' p := by
  cases p with
  | stock => exact Backend.SamePart.trans h h'
  | team => exact Backend.SameTeam.trans h h'
  | _ => exact Table.ChangesWithin.trans h h'

theorem Backend.Spares.part (h : db.Spares y db') (hp : p ≠ .stock) : db.SparesPart y db' p := by
  cases p with
  | orders => exact h.orders
  | customers => exact h.customers
  | products => exact h.products
  | locations => exact h.locations
  | stock => exact absurd rfl hp
  | team => exact h.team

/-- A table that is as it was has not changed within anything. -/
theorem changesWithin_of_eq {ρ : Type} {t t' : Table Id ρ} {q : Id → ρ → Prop} (h : t' = t) :
    t.ChangesWithin q t' :=
  h ▸ Table.changesWithin_refl _ _

theorem Backend.SamePart.sparesPart (h : db.SamePart db' p) : db.SparesPart y db' p := by
  cases p with
  | stock => exact h
  | team =>
    simp only [SamePart, part, Prod.mk.injEq] at h
    obtain ⟨-, -, hmemberships, hlocations, hinvites, -⟩ := h
    refine ⟨fun k m _ => by rw [hmemberships], fun k m _ _ => ?_, fun k t m _ _ => by rw [hinvites]⟩
    unfold scopeOf
    rw [hlocations]
  | orders => exact changesWithin_of_eq (congrArg Prod.fst h)
  | customers => exact changesWithin_of_eq h
  | products => exact changesWithin_of_eq h
  | locations => exact changesWithin_of_eq h

end

/-- The call may write the part of the organization `y`, after the calls `before` : a webhook the
orders, the acceptance of an invitation of `y` the team, and a request what its route writes. The
guards of the request found a membership in `y` that the database had less than fifteen minutes ago,
with a role that is one of the part and has the permissions of the route. -/
def ApiCall.MayWrite (jwt : Jwt) (stripe : StripeService S M) (st : Api S)
    (before : List (ApiCall M)) (y : Id) (p : Part) : ApiCall M → Prop
  | .request r => ∃ user organization, r.guards jwt = .ok (user, organization) ∧
      (p = .stock ∨ organization.organizationId = y) ∧ p ∈ r.route.writes ∧
      organization.role ∈ p.roles ∧ r.route.permissions.Allow organization.role ∧
      r.FreshIn jwt stripe st before user organization
  | .acceptInvitation env _ input => p = .team ∧
      ((api jwt stripe).run st before).db.organizationOf? env (.acceptInvitation input none) = some y
  | .webhook _ _ => p = .orders
  | .login .. | .refresh .. | .logout .. | .stripe _ => False

section

variable {jwt : Jwt} {stripe : StripeService S M} {st : Api S} {y : Id} {p : Part}

/-- **A step that changes a part** is one that may. -/
theorem ApiCall.mayWrite_of_step {before : List (ApiCall M)} {c : ApiCall M}
    (hnone : st.answered = []) (hrefs : ((api jwt stripe).run st before).db.TenantRefs)
    (hunforged : ((api jwt stripe).run st before).Unforged jwt c)
    (h : ¬ ((api jwt stripe).run st before).db.SparesPart y
      ((api jwt stripe).step ((api jwt stripe).run st before) c).db p) :
    c.MayWrite jwt stripe st before y p := by
  have hwrites : c.Writes jwt p := by
    by_contra hnot
    exact h (Api.part_step hnot).sparesPart
  have hreaches : p = .stock ∨ c.Reaches jwt ((api jwt stripe).run st before).db y := by
    by_contra hnot
    obtain ⟨hstock, hnot⟩ := not_or.mp hnot
    exact h (((Api.tenant_step hrefs c).2 y hnot).part hstock)
  cases c with
  | request r =>
    obtain ⟨hroute, ⟨user, organization⟩, hpass⟩ := hwrites
    obtain ⟨_, _, _, _, _, _, _, _, _, _, horg, hallow⟩ := orgProtected_ok.mp hpass
    subst horg
    refine ⟨user, _, hpass, ?_, hroute, Route.role_mem hroute hallow, hallow,
      guards_fresh hnone hunforged hpass⟩
    refine hreaches.imp_right fun ⟨user', organization', hpass', hy⟩ => ?_
    cases hpass.symm.trans hpass'
    exact hy
  | acceptInvitation env bearer input =>
    cases hwrites
    exact ⟨rfl, hreaches.resolve_left nofun⟩
  | webhook env event => exact hwrites
  | login env input =>
    cases hwrites
    exact hreaches.resolve_left nofun
  | logout env bearer =>
    cases hwrites
    exact hreaches.resolve_left nofun
  | refresh env input => exact hwrites
  | stripe move => exact hwrites

/-- **Nobody else changes an organization.** In every run from a state in which no token is out and
references stay within organizations, a change in a part of the database goes back to a call that may
write it. -/
theorem changes_authorized (jwt : Jwt) (stripe : StripeService S M) (st : Api S)
    (hnone : st.answered = []) (hrefs : st.db.TenantRefs) (calls : List (ApiCall M))
    (hunforged : (api jwt stripe).Meets (Api.Unforged jwt) st calls) (y : Id) (p : Part)
    (hchanged : ¬ st.db.SparesPart y ((api jwt stripe).run st calls).db p) :
    ∃ before c after, calls = before ++ c :: after ∧
      c.MayWrite jwt stripe st before y p := by
  have hstart : ¬ ¬ st.db.SparesPart y st.db p := not_not.mpr (st.db.sparesPart_refl y p)
  obtain ⟨before, c, after, rfl, hbefore, hafter⟩ :=
    Machine.exists_step_of_run (P := fun st' : Api S => ¬ st.db.SparesPart y st'.db p) hstart
      hchanged
  have hrefs' : ((api jwt stripe).run st before).db.TenantRefs :=
    Machine.run_invariant' (I := fun st : Api S => st.db.TenantRefs)
      (fun _ c h => (Api.tenant_step h c).1) hrefs before
  refine ⟨before, c, after, rfl, ApiCall.mayWrite_of_step hnone hrefs' ?_ ?_⟩
  · exact ((Machine.meets_append ..).mp hunforged).2.1
  · exact fun hsame => hafter ((not_not.mp hbefore).trans hsame)

end

namespace Office

/-- The owner logs in and opens the store. -/
def openingLoggedIn : List (ApiCall StripeMove) :=
  .login (authEnv 5000) ⟨"ann@office.test", ""⟩ :: opening

/-- The office before anybody has logged in. -/
def locked : Api StripeAccount :=
  ⟨staffed [(annMember, membership ann .owner, user "ann")], .empty, []⟩

theorem unforged_annAsks {st : Api StripeAccount} {n : Nat} {route : Route}
    (h : ⟨"ann", annSigned.payload, annSigned.issuedAt⟩ ∈ st.answered) :
    st.Unforged annJwt (annAsks n route) := by
  rintro text token ⟨⟩ hverify
  obtain rfl : annSigned = token := Option.some.inj hverify
  exact h

theorem locked_refs : locked.db.TenantRefs := by
  constructor
  · intro orderId o ho
    cases ho
  · intro k m _ l hl
    cases hl

/-- The owner has got the token with which the store is opened. -/
theorem openingLoggedIn_unforged :
    (api annJwt stripeAccount).Meets (Api.Unforged annJwt) locked openingLoggedIn := by
  have hout : ⟨"ann", annSigned.payload, annSigned.issuedAt⟩ ∈ ((api annJwt stripeAccount).step locked
      (.login (authEnv 5000) ⟨"ann@office.test", ""⟩)).answered := by decide
  have hlogin : locked.Unforged annJwt
      (.login (authEnv 5000) ⟨"ann@office.test", ""⟩ : ApiCall StripeMove) := by
    rintro text token ⟨⟩
  refine ⟨hlogin, ?_, ?_, ?_, ?_, trivial⟩
  all_goals exact unforged_annAsks hout

end Office

/-- The product of the office is new: a call that may write products has been made. -/
theorem changes_authorized_office :
    ∃ before c after, Office.openingLoggedIn = before ++ c :: after ∧
      c.MayWrite Office.annJwt stripeAccount Office.locked before Office.organizationId
        .products := by
  have hproduct : (((api Office.annJwt stripeAccount).run Office.locked
      Office.openingLoggedIn).db.products.lookup ⟨5003, 0⟩).map (·.organizationId) =
        some Office.organizationId := by decide
  refine changes_authorized Office.annJwt stripeAccount Office.locked rfl Office.locked_refs _
    Office.openingLoggedIn_unforged Office.organizationId .products fun hspares => ?_
  obtain ⟨q, hq, horganization⟩ := Option.map_eq_some_iff.mp hproduct
  rcases hspares ⟨5003, 0⟩ with he | ⟨-, hnew⟩
  · rw [hq] at he
    cases he
  · exact hnew q hq horganization

end LedgerLight
