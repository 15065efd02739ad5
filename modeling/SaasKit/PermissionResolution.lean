import Mathlib.Algebra.Group.Int.Defs
import SaasKit.DemoSeed

/-!
# When a permission check has an answer

`_resolve_tenant` takes a tenant's key from the URL or from a header and looks
it up. A key of no tenant gives `None`, and so is a text that is no key to: but
that raises Django's `ValidationError`, and what is caught is `ValueError`. So
the check answers where the key that comes first is one, or there is none
(`total_iff`).
-/

namespace SaasKit

namespace Permissions

/-- A value among a view's keyword arguments; `other` is an object of a type
that no key is converted from. -/
inductive KwargValue where
  | none
  | str (s : String)
  | uuid (id : UUID)
  | int (n : Int)
  | other (truthy : Bool)

namespace KwargValue

/-- `bool(v)`. -/
def truthy : KwargValue → Bool
  | none => false
  | str s => s != ""
  | uuid _ => true
  | int n => n != 0
  | other truthy => truthy

end KwargValue

abbrev Kwargs := List (String × KwargValue)

/-- `UUIDField.to_python`; `none` where it raises a `ValidationError`. -/
def toPython (drf : Drf) : KwargValue → Option UUID
  | .uuid id => some id
  | .str s => drf.toPython s
  | .int n => if 0 ≤ n ∧ n < 2 ^ 128 then some n.toNat else none
  | .none | .other _ => none

/-- `kwargs.get("tenant_id") or request.headers.get("X-Tenant-ID")`. -/
def tenantKey (request : Request) (kwargs : Kwargs) : KwargValue :=
  match kwargs.lookup "tenant_id" with
  | some v =>
      if v.truthy then v else (request.headerTenantId.map .str).getD .none
  | none => (request.headerTenantId.map .str).getD .none

/-- `_resolve_tenant(request, kwargs)`. -/
def resolveTenantKwargs (drf : Drf) (s : Site) (request : Request) (kwargs : Kwargs) :
    Except Exc (Option Tenant) :=
  let key := tenantKey request kwargs
  if key.truthy then
    match toPython drf key with
    | some id => .ok (s.getTenant id)
    | none => .error .djangoValidationError
  else .ok request.tenant

/-- `HasRolePermission.has_permission` with any keyword arguments. -/
def hasPermissionKwargs (drf : Drf) (s : Site) (request : Request) (user : Option User)
    (requiredRoles : List RoleChoices) (kwargs : Kwargs) : Except Exc Bool :=
  if requiredRoles = [] then .ok true
  else
    match resolveTenantKwargs drf s request kwargs with
    | .error e => .error e
    | .ok none => .ok false
    | .ok (some tenant) => .ok (RBACService.hasRole s user tenant requiredRoles)

/-- The keyword arguments of the views with `tenant_id` in their URL and of the
others. -/
def urlKwargs (tenantId : Option UUID) : Kwargs :=
  (tenantId.map fun id => ("tenant_id", .uuid id)).toList

/-- On what the URLs of the project pass it is the resolution of the views. -/
theorem resolveTenantKwargs_url (drf : Drf) (s : Site) (request : Request)
    (tenantId : Option UUID) :
    resolveTenantKwargs drf s request (urlKwargs tenantId)
      = resolveTenant drf s request tenantId := by
  cases tenantId with
  | some id => rfl
  | none =>
      unfold resolveTenantKwargs resolveTenant tenantKey urlKwargs
      cases request.headerTenantId with
      | none => rfl
      | some header =>
          by_cases hempty : header = ""
          · simp [hempty, KwargValue.truthy]
          · simp only [Option.map_none, Option.toList_none, List.lookup_nil, Option.map_some,
              Option.getD_some, KwargValue.truthy, hempty, bne_iff_ne, ne_eq, not_false_eq_true,
              if_true, if_false, toPython, tenantByHeader]
            cases drf.toPython header <;> rfl

theorem hasPermissionKwargs_url (drf : Drf) (s : Site) (request : Request) (user : Option User)
    (requiredRoles : List RoleChoices) (tenantId : Option UUID) :
    hasPermissionKwargs drf s request user requiredRoles (urlKwargs tenantId)
      = hasPermission drf s request user requiredRoles tenantId := by
  unfold hasPermissionKwargs
  rw [resolveTenantKwargs_url]
  rfl

/-- The resolution returns, and the check answers whatever roles it is for. -/
structure Total (drf : Drf) (s : Site) (request : Request) (kwargs : Kwargs) : Prop where
  resolves : ∃ tenant, resolveTenantKwargs drf s request kwargs = .ok tenant
  answers : ∀ user requiredRoles, ∃ answer,
    hasPermissionKwargs drf s request user requiredRoles kwargs = .ok answer

/-- The key that is looked up, if any, is one. -/
def WellKeyed (drf : Drf) (request : Request) (kwargs : Kwargs) : Prop :=
  (tenantKey request kwargs).truthy = true → ∃ id, toPython drf (tenantKey request kwargs) = some id

section

variable {drf : Drf} {s : Site} {request : Request} {kwargs : Kwargs}

theorem resolves_iff : (∃ tenant, resolveTenantKwargs drf s request kwargs = .ok tenant) ↔
    WellKeyed drf request kwargs := by
  unfold resolveTenantKwargs WellKeyed
  simp only
  cases htruthy : (tenantKey request kwargs).truthy with
  | false => simp
  | true =>
      cases hid : toPython drf (tenantKey request kwargs) with
      | none => simp
      | some id => simp

theorem answers_of_resolves {user : Option User} {requiredRoles : List RoleChoices}
    (h : ∃ tenant, resolveTenantKwargs drf s request kwargs = .ok tenant) :
    ∃ answer, hasPermissionKwargs drf s request user requiredRoles kwargs = .ok answer := by
  obtain ⟨tenant, htenant⟩ := h
  unfold hasPermissionKwargs
  rw [htenant]
  split
  · exact ⟨true, rfl⟩
  · cases tenant with
    | none => exact ⟨false, rfl⟩
    | some tenant => exact ⟨_, rfl⟩

/-- A permission check has an answer exactly if the key it goes by is one. -/
theorem total_iff (drf : Drf) (s : Site) (request : Request) (kwargs : Kwargs) :
    Total drf s request kwargs ↔ WellKeyed drf request kwargs := by
  rw [← resolves_iff (s := s)]
  exact ⟨fun h => h.resolves, fun h => ⟨h, fun _ _ => answers_of_resolves h⟩⟩

end

/-- A header that is no UUID. -/
theorem header_raises :
    ¬ ∀ (drf : Drf) (s : Site) (request : Request) (kwargs : Kwargs),
      Total drf s request kwargs := by
  intro hall
  obtain ⟨tenant, h⟩ :=
    (hall DemoSeed.drf DemoSeed.site ⟨none, some "not-a-uuid", none⟩ []).resolves
  have hraised : resolveTenantKwargs DemoSeed.drf DemoSeed.site ⟨none, some "not-a-uuid", none⟩ []
      = .error .djangoValidationError := by decide +kernel
  rw [hraised] at h
  cases h

end Permissions

end SaasKit
