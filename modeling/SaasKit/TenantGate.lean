import SaasKit.TenantScope

/-!
# Inactive tenants

The middleware refuses the host of an inactive tenant, and behind a
coherent cache no host-scoped view can reach one (`host_active`). The
routes that do not go by host are not gated: a tenant named in the URL is
only checked for a role, and an invitation only for its token. `Reaches`
lists what those routes need to touch a tenant, handler by handler
(`handle_untouched_iff`), and `inactive_gated_iff` puts the two halves
together.
-/

namespace SaasKit

namespace TenantGate

open Views TenantScope

variable {cfg : Settings} {drf : Drf} {call : Call} {s : Site} {cache : TenantCache}
  {http : HttpRequest} {u : User} {T : Tenant}

/-- What the handler needs to touch tenant `T` by URL or token: any role
listing, the assignment of a valid role, the revocation of a member, a
pending invitation that is expired or whose token a non-member presents. -/
def Reaches (drf : Drf) (call : Call) (s : Site) (u : User) (T : Tenant) : Endpoint → Prop
  | .roleList id => id = T.id
  | .roleAssign id data => id = T.id ∧ ∃ user role,
      roleAssignSerializer drf s data = .ok (user, role)
        ∧ (RoleChoices.ofValue? role).isSome = true
  | .roleRevoke id data => id = T.id ∧ ∃ user,
      roleRevokeSerializer drf s data = .ok user
        ∧ RBACService.isMember s user.pk T.id = true
  | .invitationAccept token => ∃ inv,
      InvitationService.getByToken s token = some (inv, T) ∧ inv.status = .pending
        ∧ (inv.isExpired call.now = true ∨ RBACService.isMember s u.pk T.id = false)
  | _ => False

theorem tenant_eq_of_id {T' : Tenant} (hT : T ∈ s.tenants) (hT' : T' ∈ s.tenants)
    (h : T'.id = T.id) : T' = T :=
  Table.eq_of_clash Site.tenant_clash_symm hT' hT (by simp [Tenant.clash, h])

theorem mem_rolesOf {r : UserTenantRole} {id : UUID} :
    r ∈ rolesOf s id ↔ r ∈ s.userTenantRoles ∧ r.tenant = id := by
  simp [rolesOf, Table.mem_filter]

theorem mem_invitationsOf {i : TenantInvitation} {id : UUID} :
    i ∈ invitationsOf s id ↔ i ∈ s.invitations ∧ i.tenant = id := by
  simp [invitationsOf, Table.mem_filter]

/-! ## Handler by handler -/

theorem roleList_untouched_iff {id : UUID} (hT : T ∈ s.tenants)
    (hrow : ∃ r ∈ s.userTenantRoles, r.tenant = T.id) :
    ¬ lists T.id (roleListGet s id).body ↔ id ≠ T.id := by
  constructor
  · rintro h rfl
    obtain ⟨r, hr, ht⟩ := hrow
    refine h ?_
    rw [roleListGet, Site.getTenant_of_mem hT]
    exact ⟨r, List.mem_reverse.mpr (mem_rolesOf.mpr ⟨hr, ht⟩), ht⟩
  · exact roleListGet_hidden

theorem userIdField_mem {fields : List (String × Json)} {user : User}
    (h : userIdField drf s fields = .ok user) : user ∈ s.users := by
  unfold userIdField at h
  split at h
  · cases h
  · split at h
    · cases h
    · rename_i v hv
      obtain rfl := Except.ok.inj h
      exact (Table.find?_some hv).1

theorem bothFields_ok {α β : Type} {f g : String} {a : Except String α} {b : Except String β}
    {x : α} {y : β} (h : bothFields f g a b = .ok (x, y)) : a = .ok x ∧ b = .ok y := by
  unfold bothFields at h
  split at h <;> cases h
  exact ⟨rfl, rfl⟩

theorem roleAssignSerializer_mem {data : Json} {user : User} {role : String}
    (h : roleAssignSerializer drf s data = .ok (user, role)) : user ∈ s.users := by
  cases data with
  | obj fields => exact userIdField_mem (bothFields_ok h).1
  | _ => cases h

theorem getUser_of_mem {user : User} (h : user ∈ s.users) : s.getUser user.pk = some user :=
  Table.find?_eq_of_mem Site.user_clash_symm h (by simp) fun x hx => by
    simp only [User.clash, Bool.or_eq_true]; exact Or.inl hx

theorem roleAssign_untouched_iff {id : UUID} {data : Json} (hT : T ∈ s.tenants)
    (hu : s.getUser u.pk = some u) :
    Untouched s (roleAssignPost drf s u id data).2 (roleAssignPost drf s u id data).1.body T.id
      ↔ ¬ Reaches drf call s u T (.roleAssign id data) := by
  constructor
  · rintro h ⟨rfl, user, role, hval, hrole⟩
    obtain ⟨r, hr⟩ := Option.isSome_iff_exists.mp hrole
    obtain rfl := RoleChoices.ofValue?_eq_some.mp hr
    have hfk : RBACService.roleFk s ⟨user.pk, T.id, r, some u.pk⟩ = true := by
      simp [RBACService.roleFk, getUser_of_mem (roleAssignSerializer_mem hval),
        Site.getTenant_of_mem hT, hu]
    have hok := @RBACService.assignRole_of_valid s user T (some u) r hfk
    have hl := h.hidden
    rw [roleAssignPost, Site.getTenant_of_mem hT] at hl
    simp only [hval] at hl
    exact hl (lists_assignResponse.mpr ⟨_, hok, rfl⟩)
  · intro hnot
    by_cases hid : id = T.id
    · subst hid
      unfold roleAssignPost
      split
      · exact .of_eq fun hl => hl
      · split
        · exact .of_eq fun hl => hl
        · rename_i user role hval
          have hrole : RoleChoices.ofValue? role = none := by
            by_contra hsome
            exact hnot ⟨rfl, user, role, hval, Option.isSome_iff_ne_none.mpr hsome⟩
          simp only [RBACService.assignRole, hrole]
          exact .of_eq fun hl => hl
    · exact roleAssignPost_untouched hid

theorem roleRevoke_untouched_iff {id : UUID} {data : Json} (hT : T ∈ s.tenants) :
    Untouched s (roleRevokePost drf s id data).2 (roleRevokePost drf s id data).1.body T.id
      ↔ ¬ Reaches drf call s u T (.roleRevoke id data) := by
  constructor
  · rintro h ⟨rfl, user, hval, hmember⟩
    obtain ⟨r, hr, huser, ht⟩ := RBACService.isMember_iff.mp hmember
    have hroles := h.roles
    rw [roleRevokePost, Site.getTenant_of_mem hT] at hroles
    simp only [hval] at hroles
    have hin : r ∈ rolesOf (RBACService.revokeRole s user T).2 T.id := by
      rw [hroles]; exact mem_rolesOf.mpr ⟨hr, ht⟩
    obtain ⟨hmem, -⟩ := mem_rolesOf.mp hin
    rw [RBACService.revokeRole_roles, Table.mem_delete] at hmem
    simp [huser, ht] at hmem
  · intro hnot
    by_cases hid : id = T.id
    · subst hid
      unfold roleRevokePost
      rw [Site.getTenant_of_mem hT]
      simp only
      split
      · exact .of_eq fun hl => hl
      · rename_i user hval
        have hmember : RBACService.isMember s user.pk T.id = false := by
          by_contra hm
          exact hnot ⟨rfl, user, hval, Bool.not_eq_false _ ▸ hm⟩
        have hany : s.userTenantRoles.any
            (fun r => r.user == user.pk && r.tenant == T.id) = false := by
          refine Table.any_eq_false.mpr fun r hr => ?_
          by_contra hr'
          simp only [Bool.not_eq_false, Bool.and_eq_true, beq_iff_eq] at hr'
          rw [RBACService.isMember_iff.mpr ⟨r, hr, hr'⟩] at hmember
          cases hmember
        simp only [RBACService.revokeRole, hany]
        exact .of_eq fun hl => hl
    · exact roleRevokePost_untouched hid

theorem accept_untouched_iff {token : String} (hT : T ∈ s.tenants)
    (hu : s.getUser u.pk = some u) :
    Untouched s (invitationAcceptPost call s u token).2
        (invitationAcceptPost call s u token).1.body T.id
      ↔ ¬ Reaches drf call s u T (.invitationAccept token) := by
  constructor
  · rintro h ⟨inv, hget, hpend, hcond⟩
    obtain ⟨hmem, -, -, hid⟩ := InvitationService.getByToken_some.mp hget
    by_cases hexp : inv.isExpired call.now = true
    · -- the pending row is gone: its status is now `expired`
      have hinv := h.invitations
      rw [invitationAcceptPost, InvitationService.acceptInvitation_of_expired hget hpend hexp]
        at hinv
      have hin : inv ∈ invitationsOf
          (InvitationService.saveInvitation s inv.id (InvitationService.setStatus .expired))
          T.id := by
        rw [hinv]; exact mem_invitationsOf.mpr ⟨hmem, hid.symm⟩
      obtain ⟨hin, -⟩ := mem_invitationsOf.mp hin
      obtain ⟨j, -, hj⟩ := Table.mem_modify.mp hin
      by_cases hji : j.id = inv.id
      · rw [if_pos (by simpa using hji)] at hj
        have : inv.status = .expired := by rw [hj]; rfl
        rw [hpend] at this; cases this
      · rw [if_neg (by simpa using hji)] at hj
        exact hji (by rw [← hj])
    · have hmember := hcond.resolve_left hexp
      have hgrants : InvitationService.grants? s call.now token u = some inv := by
        simp [InvitationService.grants?, hget, TenantInvitation.isUsable, hpend, hexp, hmember,
          hu]
      obtain ⟨hres, -⟩ := InvitationService.acceptInvitation_of_grants hgrants
      exact h.hidden (lists_acceptResponse.mpr ⟨_, hres, hid.symm⟩)
  · intro hnot
    by_cases htarget : (InvitationService.getByToken s token).map
        (fun found => found.1.tenant) = some T.id
    · obtain ⟨⟨inv, T'⟩, hget, hid⟩ := Option.map_eq_some_iff.mp htarget
      obtain ⟨-, -, hT', hid'⟩ := InvitationService.getByToken_some.mp hget
      obtain rfl := tenant_eq_of_id hT hT' (hid'.trans hid)
      have hgrants : InvitationService.grants? s call.now token u = none := by
        by_contra hsome
        obtain ⟨i, hi⟩ := Option.ne_none_iff_exists'.mp hsome
        obtain ⟨hmem, htok, husable, hmember, -, -⟩ := InvitationService.grants?_some hi
        obtain ⟨hmem', htok', -, -⟩ := InvitationService.getByToken_some.mp hget
        obtain rfl : i = inv := Table.eq_of_clash InvitationService.invitation_clash_symm hmem
          hmem' (by simp [TenantInvitation.clash, htok, htok'])
        simp only [TenantInvitation.isUsable, Bool.and_eq_true, decide_eq_true_eq] at husable
        exact hnot ⟨i, hget, husable.1, Or.inr (by rw [hid']; exact hmember)⟩
      obtain ⟨⟨e, he⟩, hs | ⟨i, T', hget', hpend, hexp, -⟩⟩ :=
        InvitationService.acceptInvitation_of_not hgrants
      · have hbody : ¬ lists T'.id (invitationAcceptPost call s u token).1.body := by
          intro hl
          obtain ⟨i, hres, -⟩ := lists_acceptResponse.mp hl
          rw [he] at hres; cases hres
        exact ⟨by rw [invitationAcceptPost, hs], by rw [invitationAcceptPost, hs], hbody⟩
      · rw [hget] at hget'
        obtain ⟨rfl, rfl⟩ := Prod.mk.inj (Option.some.inj hget')
        exact absurd ⟨inv, hget, hpend, Or.inl hexp⟩ hnot
    · exact invitationAcceptPost_untouched htarget

/-- A handler whose host is another tenant's touches `T` exactly when it
reaches it by URL or token. -/
theorem handle_untouched_iff {tenant : Option Tenant} {endpoint : Endpoint}
    (hT : T ∈ s.tenants) (hu : s.getUser u.pk = some u)
    (hhost : tenant.map (·.id) ≠ some T.id)
    (hrow : endpoint = .roleList T.id → ∃ r ∈ s.userTenantRoles, r.tenant = T.id) :
    Untouched s (handle cfg drf call s u tenant endpoint).2
        (handle cfg drf call s u tenant endpoint).1.body T.id
      ↔ ¬ Reaches drf call s u T endpoint := by
  cases endpoint with
  | roleList id =>
      constructor
      · rintro h rfl
        exact (roleList_untouched_iff hT (hrow rfl)).mp h.hidden rfl
      · exact fun h => .of_eq (roleListGet_hidden h)
  | roleAssign id data => exact roleAssign_untouched_iff hT hu
  | roleRevoke id data => exact roleRevoke_untouched_iff hT
  | invitationAccept token => exact accept_untouched_iff hT hu
  | userList => exact ⟨fun _ h => h, fun _ => handle_scoped hhost⟩
  | auditLogList action actor => exact ⟨fun _ h => h, fun _ => handle_scoped hhost⟩
  | invitationList => exact ⟨fun _ h => h, fun _ => handle_scoped hhost⟩
  | invitationCreate data => exact ⟨fun _ h => h, fun _ => handle_scoped hhost⟩
  | invitationRevoke id => exact ⟨fun _ h => h, fun _ => handle_scoped hhost⟩

/-! ## The whole request -/

/-- Behind a coherent cache the host's tenant is an active one. -/
theorem host_active {tenant : Option Tenant}
    (hcache : TenantMiddleware.CacheCoherent s cache call.now)
    (h : (TenantMiddleware.call s cache call.now http.endpoint.path http.host).1
      = .next tenant) :
    ∃ t ∈ s.tenants, tenant = some t ∧ t.isActive = true := by
  obtain ⟨t, hfound, ht, hact⟩ := (TenantMiddleware.call_next (path_not_exempt _)).mp h
  rw [TenantMiddleware.resolveTenant_of_coherent hcache] at hfound
  exact ⟨t, (TenantMiddleware.lookupDomain_some hfound).1, ht, hact⟩

/-- An admitted request reaches an inactive tenant by URL or token. -/
def ReachesInactive (drf : Drf) (call : Call) (s : Site) (cache : TenantCache)
    (http : HttpRequest) : Prop :=
  ∃ T ∈ s.tenants, T.isActive = false ∧ ∃ tenant u,
    (TenantMiddleware.call s cache call.now http.endpoint.path http.host).1 = .next tenant
    ∧ initial drf s (http.withTenant tenant) http.endpoint = .ok u
    ∧ Reaches drf call s u T http.endpoint

/-- For an admitted request and an inactive tenant the handler's criterion
decides. -/
theorem serve_untouched_iff {tenant : Option Tenant} (hT : T ∈ s.tenants)
    (hinactive : T.isActive = false) (hsup : u.isSuperuser = false)
    (hcache : TenantMiddleware.CacheCoherent s cache call.now)
    (hcall : (TenantMiddleware.call s cache call.now http.endpoint.path http.host).1
      = .next tenant)
    (hinitial : initial drf s (http.withTenant tenant) http.endpoint = .ok u) :
    Untouched s (serve cfg drf call s cache http).2.1
        (serve cfg drf call s cache http).1.body T.id
      ↔ ¬ Reaches drf call s u T http.endpoint := by
  obtain ⟨hresponse, hsite⟩ := @serve_of_initial _ _ _ _ _ cfg _ _ hcall hinitial
  rw [hresponse, hsite]
  obtain ⟨host, hmem, rfl, hactive⟩ := host_active hcache hcall
  have hhost : (some host).map (·.id) ≠ some T.id := by
    intro heq
    rw [tenant_eq_of_id hT hmem (Option.some.inj heq), hinactive] at hactive
    cases hactive
  have hu := (Permissions.authenticate_some (initial_ok.mp hinitial).1).1
  refine handle_untouched_iff hT hu hhost fun hep => ?_
  -- a caller the list view admits has a role of its own in the tenant
  have hroles : http.endpoint.requiredRoles ≠ [] := by rw [hep]; exact List.cons_ne_nil _ _
  have hurl : http.endpoint.hostScoped = false := by rw [hep]; rfl
  obtain ⟨r, hr, -, ht, -⟩ := @runs_of_url _ _ _ _ _ _ T.id hsup hroles hurl
    ⟨some host, hcall, hinitial, by rw [hep]; rfl⟩
  exact ⟨r, hr, ht⟩

/-- Inactive tenants are left alone by every request except the admitted
ones that reach them by URL or token. -/
theorem inactive_gated_iff (cfg : Settings) (drf : Drf) (call : Call) (s : Site)
    (cache : TenantCache) (http : HttpRequest)
    (hsup : ∀ u, Permissions.authenticate s http.bearer = .ok (some u) →
      u.isSuperuser = false)
    (hcache : TenantMiddleware.CacheCoherent s cache call.now) :
    (∀ T ∈ s.tenants, T.isActive = false →
        Untouched s (serve cfg drf call s cache http).2.1
          (serve cfg drf call s cache http).1.body T.id)
      ↔ ¬ ReachesInactive drf call s cache http := by
  constructor
  · rintro hall ⟨T, hT, hinactive, tenant, u, hcall, hinitial, hreaches⟩
    have hsup := hsup u (initial_ok.mp hinitial).1
    exact (serve_untouched_iff hT hinactive hsup hcache hcall hinitial).mp (hall T hT hinactive)
      hreaches
  · intro hnone T hT hinactive
    by_cases hruns : ∃ u, Runs drf s cache call.now http u T.id
    · obtain ⟨u, tenant, hcall, hinitial, -⟩ := hruns
      have hsup := hsup u (initial_ok.mp hinitial).1
      exact (serve_untouched_iff hT hinactive hsup hcache hcall hinitial).mpr fun hreaches =>
        hnone ⟨T, hT, hinactive, tenant, u, hcall, hinitial, hreaches⟩
    · exact serve_untouched fun u hu => hruns ⟨u, hu⟩

/-! ## A deactivated tenant -/

/-- The request that lists the roles of Tenant One on the other tenant's
host. -/
def listInactive : HttpRequest :=
  ⟨"tenant2.localhost", some 1, none, .roleList DemoSeed.tenant1.id⟩

/-- Its own host is refused, so nothing of it is touched. -/
theorem inactive_gated_on_own_host :
    Untouched DemoSeed.deactivated
      (serve DemoSeed.settings DemoSeed.drf (DemoSeed.callAt 0 1) DemoSeed.deactivated .empty
        ⟨"tenant1.localhost", some 1, none, .roleList DemoSeed.tenant1.id⟩).2.1
      (serve DemoSeed.settings DemoSeed.drf (DemoSeed.callAt 0 1) DemoSeed.deactivated .empty
        ⟨"tenant1.localhost", some 1, none, .roleList DemoSeed.tenant1.id⟩).1.body
      DemoSeed.tenant1.id := by
  refine (inactive_gated_iff DemoSeed.settings DemoSeed.drf (DemoSeed.callAt 0 1)
    DemoSeed.deactivated .empty
    ⟨"tenant1.localhost", some 1, none, .roleList DemoSeed.tenant1.id⟩ ?_ ?_).mpr ?_
    { DemoSeed.tenant1 with isActive := false } (by decide) rfl
  · intro u hu
    obtain rfl : DemoSeed.admin = u := Option.some.inj (Except.ok.inj hu)
    rfl
  · intro host entry hget; cases hget
  · rintro ⟨T, -, -, tenant, u, hcall, -⟩
    have hrefused : (TenantMiddleware.call DemoSeed.deactivated .empty 0
        (Endpoint.roleList DemoSeed.tenant1.id).path "tenant1.localhost").1
        = .refuse 403 ⟨"tenant_inactive", "This tenant is inactive.", []⟩ := by decide
    rw [show (DemoSeed.callAt 0 1).now = 0 from rfl] at hcall
    exact absurd (hrefused.symm.trans hcall) (by simp)

/-- The roles of a deactivated tenant are listed through another host. -/
theorem inactive_listed_by_url :
    ¬ ∀ (cfg : Settings) (drf : Drf) (call : Call) (s : Site) (cache : TenantCache)
        (http : HttpRequest),
      (∀ u, Permissions.authenticate s http.bearer = .ok (some u) → u.isSuperuser = false) →
      TenantMiddleware.CacheCoherent s cache call.now →
      ∀ T ∈ s.tenants, T.isActive = false →
        Untouched s (serve cfg drf call s cache http).2.1
          (serve cfg drf call s cache http).1.body T.id := by
  intro hall
  have h := hall DemoSeed.settings DemoSeed.drf (DemoSeed.callAt 0 1) DemoSeed.deactivated .empty
    listInactive
    (by
      intro u hu
      obtain rfl : DemoSeed.admin = u := Option.some.inj (Except.ok.inj hu)
      rfl)
    (by intro host entry hget; cases hget)
    { DemoSeed.tenant1 with isActive := false } (by decide) rfl
  exact h.hidden ⟨⟨1, DemoSeed.tenant1.id, .admin, none⟩, List.mem_cons_self, rfl⟩

end TenantGate

end SaasKit
