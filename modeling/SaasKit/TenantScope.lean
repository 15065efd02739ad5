import SaasKit.DemoSeed

/-!
# Tenant scoping of the role-gated views

A role check is worth something when the tenant whose roles it looks at is
the tenant whose rows the handler then touches. For the views with the
tenant in the URL the two are one lookup (`runs_of_url`). For the views
scoped by host they are the same as long as no `X-Tenant-ID` header is
sent; a header makes the permission look elsewhere while the handler stays
with the host. `scoped_iff` says that this is the only way the two part.
-/

namespace SaasKit

namespace TenantScope

open Views Permissions

variable {drf : Drf} {s : Site} {cache : TenantCache} {now : Time} {http : HttpRequest}
  {u : User} {id : UUID}

/-- `u` holds one of `roles` in tenant `id`. -/
def Holds (s : Site) (u : User) (id : UUID) (roles : List RoleChoices) : Prop :=
  ∃ r ∈ s.userTenantRoles, r.user = u.pk ∧ r.tenant = id ∧ r.role ∈ roles

/-- The handler runs for `u`, on the rows of tenant `id`. -/
def Runs (drf : Drf) (s : Site) (cache : TenantCache) (now : Time) (http : HttpRequest)
    (u : User) (id : UUID) : Prop :=
  ∃ tenant, (TenantMiddleware.call s cache now http.endpoint.path http.host).1 = .next tenant
    ∧ initial drf s (http.withTenant tenant) http.endpoint = .ok u
    ∧ target s tenant http.endpoint = some id

/-- A host-scoped view on the host of a tenant where `u` has none of the
required roles, with a header naming a tenant where `u` has one. -/
def HeaderElsewhere (drf : Drf) (s : Site) (cache : TenantCache) (now : Time)
    (http : HttpRequest) (u : User) : Prop :=
  http.endpoint.hostScoped = true ∧ ∃ host header id named,
    (TenantMiddleware.call s cache now http.endpoint.path http.host).1 = .next (some host)
    ∧ http.headerTenantId = some header ∧ header ≠ ""
    ∧ drf.toPython header = some id ∧ s.getTenant id = some named
    ∧ Holds s u named.id http.endpoint.requiredRoles
    ∧ ¬ Holds s u host.id http.endpoint.requiredRoles

/-- Behind the middleware every tenant-scoped view has a tenant. -/
theorem call_next {tenant : Option Tenant}
    (h : (TenantMiddleware.call s cache now http.endpoint.path http.host).1 = .next tenant) :
    ∃ t, tenant = some t ∧ t.isActive = true := by
  obtain ⟨t, -, ht, hact⟩ := (TenantMiddleware.call_next (path_not_exempt _)).mp h
  exact ⟨t, ht, hact⟩

theorem target_of_hostScoped {t : Tenant} (h : http.endpoint.hostScoped = true) :
    target s (some t) http.endpoint = some t.id ∧ http.endpoint.tenantId = none := by
  cases hep : http.endpoint <;> rw [hep] at h <;> first | exact ⟨rfl, rfl⟩ | cases h

/-- A view with required roles that is not scoped by host has its tenant in
the URL. -/
theorem target_of_url {t : Option Tenant} (h : http.endpoint.hostScoped = false)
    (hroles : http.endpoint.requiredRoles ≠ []) :
    ∃ id, http.endpoint.tenantId = some id ∧ target s t http.endpoint = some id := by
  cases hep : http.endpoint with
  | roleList id => exact ⟨id, rfl, rfl⟩
  | roleAssign id data => exact ⟨id, rfl, rfl⟩
  | roleRevoke id data => exact ⟨id, rfl, rfl⟩
  | invitationAccept token => rw [hep] at hroles; exact absurd rfl hroles
  | userList => rw [hep] at h; cases h
  | auditLogList action actor => rw [hep] at h; cases h
  | invitationList => rw [hep] at h; cases h
  | invitationCreate data => rw [hep] at h; cases h
  | invitationRevoke id => rw [hep] at h; cases h

/-- The permission passed because of a role in the tenant it resolved. -/
theorem holds_of_initial {request : Request} {endpoint : Endpoint}
    (hsup : u.isSuperuser = false) (hroles : endpoint.requiredRoles ≠ [])
    (h : initial drf s request endpoint = .ok u) :
    ∃ named, resolveTenant drf s request endpoint.tenantId = .ok (some named)
      ∧ Holds s u named.id endpoint.requiredRoles := by
  obtain ⟨-, hperm⟩ := initial_ok.mp h
  obtain ⟨named, hres, hrole⟩ := (hasPermission_true hroles).mp hperm
  exact ⟨named, hres, (RBACService.hasRole_iff hsup).mp hrole⟩

theorem initial_of_holds {request : Request} {endpoint : Endpoint} {named : Tenant}
    (hu : authenticate s request.bearer = .ok (some u)) (hsup : u.isSuperuser = false)
    (hroles : endpoint.requiredRoles ≠ [])
    (hres : resolveTenant drf s request endpoint.tenantId = .ok (some named))
    (hholds : Holds s u named.id endpoint.requiredRoles) :
    initial drf s request endpoint = .ok u :=
  initial_ok.mpr ⟨hu, (hasPermission_true hroles).mpr
    ⟨named, hres, (RBACService.hasRole_iff hsup).mpr hholds⟩⟩

/-- With the tenant in the URL, check and handler name the same tenant. -/
theorem runs_of_url (hsup : u.isSuperuser = false) (hroles : http.endpoint.requiredRoles ≠ [])
    (hurl : http.endpoint.hostScoped = false) (h : Runs drf s cache now http u id) :
    Holds s u id http.endpoint.requiredRoles := by
  obtain ⟨tenant, -, hinitial, htarget⟩ := h
  obtain ⟨id', hid, htarget'⟩ := target_of_url (s := s) (t := tenant) hurl hroles
  obtain rfl : id' = id := Option.some.inj (htarget'.symm.trans htarget)
  obtain ⟨named, hres, hholds⟩ := holds_of_initial hsup hroles hinitial
  rw [hid] at hres
  obtain ⟨-, rfl⟩ := Site.getTenant_some (Except.ok.inj hres)
  exact hholds

/-- A request leaves every tenant alone that no handler runs for. -/
theorem serve_untouched {cfg : Settings} {call : Call}
    (h : ∀ u, ¬ Runs drf s cache call.now http u id) :
    Untouched s (serve cfg drf call s cache http).2.1
      (serve cfg drf call s cache http).1.body id := by
  unfold serve
  split
  · exact .of_eq fun hl => hl
  · rename_i tenant cache' hcall
    simp only [dispatch]
    split
    · rename_i response hinitial
      obtain ⟨e, he⟩ := initial_error hinitial
      exact .of_eq (by rw [he]; exact fun hl => hl)
    · rename_i u hinitial
      refine handle_scoped fun htarget => h u ⟨tenant, ?_, hinitial, htarget⟩
      rw [hcall]

theorem serve_of_initial {cfg : Settings} {call : Call} {tenant : Option Tenant}
    (hcall : (TenantMiddleware.call s cache call.now http.endpoint.path http.host).1
      = .next tenant)
    (hinitial : initial drf s (http.withTenant tenant) http.endpoint = .ok u) :
    (serve cfg drf call s cache http).1
        = (handle cfg drf call s u tenant http.endpoint).1
      ∧ (serve cfg drf call s cache http).2.1
        = (handle cfg drf call s u tenant http.endpoint).2 := by
  unfold serve
  split
  · rename_i status body cache' heq
    rw [heq] at hcall; cases hcall
  · rename_i tenant' cache' heq
    rw [heq] at hcall
    obtain rfl := TenantMiddleware.Gate.next.inj hcall
    simp only [dispatch, hinitial]
    exact ⟨rfl, rfl⟩

/-- A handler works in a tenant where its user has a required role, unless
a header points the permission to another tenant. -/
theorem scoped_iff (drf : Drf) (s : Site) (cache : TenantCache) (now : Time)
    (http : HttpRequest) (u : User)
    (hu : authenticate s http.bearer = .ok (some u)) (hsup : u.isSuperuser = false)
    (hroles : http.endpoint.requiredRoles ≠ []) :
    (∀ id, Runs drf s cache now http u id → Holds s u id http.endpoint.requiredRoles)
      ↔ ¬ HeaderElsewhere drf s cache now http u := by
  constructor
  · rintro hall ⟨hhost, host, header, id, named, hcall, hheader, hne, hid, hnamed, hin, hout⟩
    obtain ⟨htarget, hkw⟩ := target_of_hostScoped (s := s) (t := host) hhost
    have hres : resolveTenant drf s (http.withTenant (some host)) http.endpoint.tenantId
        = .ok (some named) := by
      rw [hkw]
      simp only [resolveTenant, HttpRequest.withTenant, hheader, if_neg hne, tenantByHeader,
        hid, hnamed]
    exact hout (hall host.id
      ⟨some host, hcall, initial_of_holds hu hsup hroles hres hin, htarget⟩)
  · intro hnone id hruns
    by_cases hhost : http.endpoint.hostScoped = true
    · obtain ⟨tenant, hcall, hinitial, htarget⟩ := hruns
      obtain ⟨host, rfl, -⟩ := call_next hcall
      obtain ⟨htarget', hkw⟩ := target_of_hostScoped (s := s) (t := host) hhost
      obtain rfl : host.id = id := Option.some.inj (htarget'.symm.trans htarget)
      obtain ⟨named, hres, hin⟩ := holds_of_initial hsup hroles hinitial
      rw [hkw] at hres
      -- which of the two sources the permission used
      cases hheader : http.headerTenantId with
      | none =>
          simp only [resolveTenant, HttpRequest.withTenant, hheader] at hres
          obtain rfl := Option.some.inj (Except.ok.inj hres)
          exact hin
      | some header =>
          simp only [resolveTenant, HttpRequest.withTenant, hheader] at hres
          by_cases hne : header = ""
          · rw [if_pos hne] at hres
            obtain rfl := Option.some.inj (Except.ok.inj hres)
            exact hin
          · rw [if_neg hne, tenantByHeader] at hres
            by_contra hout
            cases hid : drf.toPython header with
            | none => rw [hid] at hres; cases hres
            | some a =>
                rw [hid] at hres
                exact hnone ⟨hhost, host, header, a, named, hcall, hheader, hne, hid,
                  Except.ok.inj hres, hin, hout⟩
    · exact runs_of_url hsup hroles (Bool.not_eq_true _ ▸ hhost) hruns

/-- Tenant One's admin on its own host, without a header. -/
theorem scoped_on_own_host :
    Holds DemoSeed.site DemoSeed.admin DemoSeed.tenant1.id [.owner, .admin] :=
  (scoped_iff DemoSeed.drf DemoSeed.site .empty 0
      ⟨"tenant1.localhost", some 1, none, .userList⟩ DemoSeed.admin rfl rfl (by decide)).mpr
    (by rintro ⟨-, _, header, _, _, -, hheader, -⟩; cases hheader)
    DemoSeed.tenant1.id ⟨some DemoSeed.tenant1, by decide, by rfl, rfl⟩

/-- Tenant One's admin lists the users of Tenant Two: the host is Tenant
Two's, the header names Tenant One. -/
theorem header_crosses_tenants :
    ¬ ∀ (drf : Drf) (s : Site) (cache : TenantCache) (now : Time) (http : HttpRequest)
        (u : User), authenticate s http.bearer = .ok (some u) → u.isSuperuser = false →
      http.endpoint.requiredRoles ≠ [] →
      ∀ id, Runs drf s cache now http u id → Holds s u id http.endpoint.requiredRoles := by
  intro hall
  have hruns : Runs DemoSeed.drf DemoSeed.site .empty 0
      ⟨"tenant2.localhost", some 1, some (uuidStr DemoSeed.tenant1.id), .userList⟩
      DemoSeed.admin DemoSeed.tenant2.id :=
    ⟨some DemoSeed.tenant2, by decide, by rfl, rfl⟩
  have hholds := hall _ _ _ _ _ _ rfl rfl (by decide) _ hruns
  revert hholds
  unfold Holds
  decide

end TenantScope

end SaasKit
