import LedgerLight.Auth.Service

/-!
# Permissions of routes

`common/permissions/permissions.ts`, `common/decorators/permissions.decorator.ts` and
`common/guards/permissions.guard.ts`. A route declares permissions, and the guard compares them with
those of the role that the token has for the organization.

* `permissionsGuard_ok` : what the guard lets pass.
-/

namespace LedgerLight

/-! ## Permissions -/

inductive Permission where
  | customersRead | customersCreate | customersUpdate | customersDelete
  | productsRead | productsCreate | productsUpdate | productsArchive
  | ordersRead | ordersCreate | ordersUpdate | ordersDelete
  | ordersTransitionConfirm | ordersTransitionFulfill | ordersTransitionCancel
  | ordersTransitionReopen
  | paymentsRead | paymentsCreate | paymentsRefund
  | inventoryRead | inventoryAdjust | inventoryCount
  | locationsRead | locationsCreate | locationsUpdate | locationsArchive | locationsDelete
  | usersRead | usersInvite | usersManage | rolesManage
  | settingsManage | auditLogsRead | reportsRead
deriving DecidableEq, Repr

/-- The text of the permission, as `ROLE_PERMISSIONS` has it. -/
def Permission.text : Permission → String
  | customersRead => "customers.read"
  | customersCreate => "customers.create"
  | customersUpdate => "customers.update"
  | customersDelete => "customers.delete"
  | productsRead => "products.read"
  | productsCreate => "products.create"
  | productsUpdate => "products.update"
  | productsArchive => "products.archive"
  | ordersRead => "orders.read"
  | ordersCreate => "orders.create"
  | ordersUpdate => "orders.update"
  | ordersDelete => "orders.delete"
  | ordersTransitionConfirm => "orders.transition.confirm"
  | ordersTransitionFulfill => "orders.transition.fulfill"
  | ordersTransitionCancel => "orders.transition.cancel"
  | ordersTransitionReopen => "orders.transition.reopen"
  | paymentsRead => "payments.read"
  | paymentsCreate => "payments.create"
  | paymentsRefund => "payments.refund"
  | inventoryRead => "inventory.read"
  | inventoryAdjust => "inventory.adjust"
  | inventoryCount => "inventory.count"
  | locationsRead => "locations.read"
  | locationsCreate => "locations.create"
  | locationsUpdate => "locations.update"
  | locationsArchive => "locations.archive"
  | locationsDelete => "locations.delete"
  | usersRead => "users.read"
  | usersInvite => "users.invite"
  | usersManage => "users.manage"
  | rolesManage => "roles.manage"
  | settingsManage => "settings.manage"
  | auditLogsRead => "audit_logs.read"
  | reportsRead => "reports.read"

def wildcardPermission : String := "*"

def hasPermission (role : Role) (permission : Permission) : Bool :=
  let rolePerms := rolePermissions role
  rolePerms.contains wildcardPermission || rolePerms.contains permission.text

/-- What `RequirePermissions` and `RequireAnyPermission` attach to a route. Metadata that is not
there counts as the empty list. -/
structure RoutePermissions where
  required : List Permission := []
  requiredAny : List Permission := []
deriving DecidableEq, Repr

def requirePermissions (permissions : List Permission) : RoutePermissions :=
  { required := permissions }

def requireAnyPermission (permissions : List Permission) : RoutePermissions :=
  { requiredAny := permissions }

/-! ## The guard -/

/-- `req.user` : what `JwtStrategy.validate` takes from the token. -/
structure UserWithMemberships where
  user : PublicUser
  memberships : List JwtMembership
deriving DecidableEq, Repr

/-- `PermissionsGuard.canActivate`, after the organization guard has set the organization. -/
def permissionsGuard (user : UserWithMemberships) (organizationId : Option Id)
    (route : RoutePermissions) : Except BackendError Unit :=
  match organizationId with
  | none => .error (.forbidden "Organization context is missing")
  | some orgId =>
    match user.memberships.find? fun m => m.organizationId == orgId with
    | none => .error (.forbidden "User does not have access to the specified organization")
    | some membership =>
      let rolePerms := rolePermissions membership.role
      -- a route that declares nothing is closed, to owners too
      if route.required = [] ∧ route.requiredAny = [] then
        .error (.forbidden "No permission declared for this route")
      else if rolePerms.contains wildcardPermission then .ok ()
      else if route.required ≠ [] ∧ !route.required.all fun p => rolePerms.contains p.text then
        .error (.forbidden "Insufficient permissions")
      else if route.requiredAny ≠ [] ∧ !route.requiredAny.any fun p => rolePerms.contains p.text then
        .error (.forbidden "Insufficient permissions")
      else .ok ()

/-- A role has the permissions that a route declares, and the route declares some. -/
structure RoutePermissions.Allow (route : RoutePermissions) (role : Role) : Prop where
  declared : route.required ≠ [] ∨ route.requiredAny ≠ []
  all : ∀ p ∈ route.required, hasPermission role p = true
  any : route.requiredAny ≠ [] → ∃ p ∈ route.requiredAny, hasPermission role p = true

theorem hasPermission_iff {role : Role} {permission : Permission} :
    hasPermission role permission = true ↔
      (rolePermissions role).contains wildcardPermission = true ∨
        (rolePermissions role).contains permission.text = true :=
  iff_of_eq (Bool.or_eq_true _ _)

/-- **The guard** lets a request pass exactly if the role of the first membership that the token has
in the organization has what the route declares. -/
theorem permissionsGuard_ok {user : UserWithMemberships} {orgId : Id} {route : RoutePermissions}
    {u : Unit} :
    permissionsGuard user (some orgId) route = .ok u ↔
      ∃ m, user.memberships.find? (fun m => m.organizationId == orgId) = some m ∧
        route.Allow m.role := by
  unfold permissionsGuard
  dsimp only
  cases user.memberships.find? fun m => m.organizationId == orgId with
  | none => simp
  | some m =>
    simp only [Option.some.injEq, exists_eq_left']
    by_cases hdeclared : route.required = [] ∧ route.requiredAny = []
    · rw [if_pos hdeclared]
      constructor
      · rintro ⟨⟩
      · intro h
        exact absurd hdeclared (not_and_or.mpr h.declared)
    rw [if_neg hdeclared]
    rw [not_and_or] at hdeclared
    by_cases hwild : (rolePermissions m.role).contains wildcardPermission = true
    · rw [if_pos hwild]
      refine iff_of_true rfl ⟨hdeclared, fun p _ => hasPermission_iff.mpr (Or.inl hwild), fun h => ?_⟩
      obtain ⟨p, hp⟩ := List.exists_mem_of_ne_nil _ h
      exact ⟨p, hp, hasPermission_iff.mpr (Or.inl hwild)⟩
    rw [if_neg hwild]
    have hhas : ∀ p : Permission, hasPermission m.role p = true ↔
        (rolePermissions m.role).contains p.text = true := fun p =>
      hasPermission_iff.trans (or_iff_right hwild)
    by_cases hall : route.required ≠ [] ∧
        !route.required.all fun p => (rolePermissions m.role).contains p.text
    · rw [if_pos hall]
      refine iff_of_false (by rintro ⟨⟩) fun h => ?_
      obtain ⟨p, hp, hmissing⟩ := List.all_eq_false.mp (Bool.not_eq_true' _ ▸ hall.2)
      exact hmissing ((hhas p).mp (h.all p hp))
    rw [if_neg hall]
    by_cases hany : route.requiredAny ≠ [] ∧
        !route.requiredAny.any fun p => (rolePermissions m.role).contains p.text
    · rw [if_pos hany]
      refine iff_of_false (by rintro ⟨⟩) fun h => ?_
      obtain ⟨p, hp, hheld⟩ := h.any hany.1
      exact List.any_eq_false.mp (Bool.not_eq_true' _ ▸ hany.2) p hp ((hhas p).mp hheld)
    rw [if_neg hany]
    refine iff_of_true rfl ⟨hdeclared, fun p hp => ?_, fun h => ?_⟩
    · have hne : route.required ≠ [] := List.ne_nil_of_mem hp
      simp only [hne, ne_eq, not_false_eq_true, true_and, Bool.not_eq_true', Bool.not_eq_false]
        at hall
      exact (hhas p).mpr (List.all_eq_true.mp hall p hp)
    · simp only [h, ne_eq, not_false_eq_true, true_and, Bool.not_eq_true', Bool.not_eq_false]
        at hany
      obtain ⟨p, hp, hin⟩ := List.any_eq_true.mp hany
      exact ⟨p, hp, (hhas p).mpr hin⟩

end LedgerLight
