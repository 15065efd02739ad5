import SaasKit.TenantMiddleware

/-!
# Permissions: authentication and `HasRolePermission`

`apps/rbac/permissions.py`, with the authentication that runs before it.
A request reaches a permission check with a user loaded from the database
and with the tenant the middleware found; the permission picks its own
tenant from the URL, the `X-Tenant-ID` header or the middleware's, in that
order.

`Drf` collects the conversions the REST framework and Django bring along:
form fields (each either a value or its error text) and the conversion of
a header to a UUID. Nothing is assumed of them.
-/

namespace SaasKit

structure Drf where
  integerField : Option Json → Except String Int
  choiceField : Option String → Option Json → Except String String
  emailField : Option Json → Except String String
  notADict : Json → String
  icontains : String → String → Bool
  toPython : String → Option UUID

/-- A request as the views see it. `bearer` is the user id of a valid
access token. -/
structure Request where
  bearer : Option UserId
  headerTenantId : Option String
  tenant : Option Tenant
  deriving DecidableEq, Repr

namespace Permissions

/-- `request.user`: the row the token names, if the account is active. -/
def authenticate (s : Site) (bearer : Option UserId) : Except Envelope (Option User) :=
  match bearer with
  | none => .ok none
  | some pk =>
      match s.getUser pk with
      | none => .error ⟨"authentication_failed", "detail: User not found", []⟩
      | some u =>
          if u.isActive then .ok (some u)
          else .error ⟨"authentication_failed", "detail: User is inactive", []⟩

/-- `Tenant.objects.get(id=tenant_id)` for a header value. A value that is
no UUID raises Django's `ValidationError`, which is not a `ValueError`. -/
def tenantByHeader (drf : Drf) (s : Site) (header : String) : Except Exc (Option Tenant) :=
  match drf.toPython header with
  | none => .error .djangoValidationError
  | some id => .ok (s.getTenant id)

def resolveTenant (drf : Drf) (s : Site) (request : Request) (tenantId : Option UUID) :
    Except Exc (Option Tenant) :=
  match tenantId with
  | some id => .ok (s.getTenant id)
  | none =>
      match request.headerTenantId with
      | none => .ok request.tenant
      | some header =>
          if header = "" then .ok request.tenant else tenantByHeader drf s header

/-- `HasRolePermission.has_permission`, with the view's `required_roles`
and `tenant_id` keyword argument. -/
def hasPermission (drf : Drf) (s : Site) (request : Request) (user : Option User)
    (requiredRoles : List RoleChoices) (tenantId : Option UUID) : Except Exc Bool :=
  if requiredRoles = [] then .ok true
  else
    match resolveTenant drf s request tenantId with
    | .error e => .error e
    | .ok none => .ok false
    | .ok (some tenant) => .ok (RBACService.hasRole s user tenant requiredRoles)

/-- The tenant whose roles the permission looks at. -/
theorem hasPermission_true {drf : Drf} {s : Site} {request : Request} {user : Option User}
    {requiredRoles : List RoleChoices} {tenantId : Option UUID}
    (hroles : requiredRoles ≠ [])  :
    hasPermission drf s request user requiredRoles tenantId = .ok true ↔
      ∃ tenant, resolveTenant drf s request tenantId = .ok (some tenant)
        ∧ RBACService.hasRole s user tenant requiredRoles = true := by
  unfold hasPermission
  rw [if_neg hroles]
  split
  · rename_i e he
    simp [he]
  · rename_i he
    simp [he]
  · rename_i tenant he
    simp [he]

theorem authenticate_some {s : Site} {bearer : Option UserId} {u : User}
    (h : authenticate s bearer = .ok (some u)) :
    s.getUser u.pk = some u ∧ u.isActive = true ∧ bearer = some u.pk := by
  unfold authenticate at h
  split at h
  · cases h
  · rename_i pk
    split at h
    · cases h
    · rename_i v hv
      split at h
      · rename_i hact
        obtain rfl := Option.some.inj (Except.ok.inj h)
        obtain ⟨hmem, rfl⟩ := Site.getUser_some hv
        exact ⟨hv, hact, rfl⟩
      · cases h

end Permissions

end SaasKit
