import SaasKit.RbacPermissions

/-!
# The tenant-scoped views

The REST views of users, audit log, roles and invitations, and the way a
request gets to them: middleware, authentication, permission, handler.
Four views take their tenant from the host (`request.tenant`), three from
the URL, and accepting an invitation takes it from the token; `target`
names it. The main result of the module is `handle_scoped`: whatever a
handler does concerns its target only.

The list views' rows are what `get_queryset` hands to filtering and
pagination, which only narrow them.
-/

namespace SaasKit

/-- A view with the arguments its URL and body carry. -/
inductive Endpoint where
  | userList
  | auditLogList (action actor : Option String)
  | invitationList
  | invitationCreate (data : Json)
  | invitationRevoke (invitationId : UUID)
  | roleList (tenantId : UUID)
  | roleAssign (tenantId : UUID) (data : Json)
  | roleRevoke (tenantId : UUID) (data : Json)
  | invitationAccept (token : String)
  deriving Repr

namespace Endpoint

def path (endpoint : Endpoint) : String :=
  "/api/v1/" ++ match endpoint with
    | userList => "users/"
    | auditLogList .. => "audit-logs/"
    | invitationList | invitationCreate _ => "invitations/"
    | invitationRevoke id => "invitations/" ++ uuidStr id ++ "/revoke/"
    | roleList id => "rbac/" ++ uuidStr id ++ "/roles/"
    | roleAssign id _ => "rbac/" ++ uuidStr id ++ "/roles/assign/"
    | roleRevoke id _ => "rbac/" ++ uuidStr id ++ "/roles/revoke/"
    | invitationAccept token => "invitations/" ++ token ++ "/accept/"

/-- `required_roles`; accepting an invitation has no role check. -/
def requiredRoles : Endpoint → List RoleChoices
  | userList | auditLogList .. | invitationList | invitationCreate _ | invitationRevoke _ =>
      [.owner, .admin]
  | roleList _ => [.owner, .admin, .member]
  | roleAssign .. | roleRevoke .. => [.owner, .admin]
  | invitationAccept _ => []

/-- `view.kwargs["tenant_id"]`. -/
def tenantId : Endpoint → Option UUID
  | roleList id | roleAssign id _ | roleRevoke id _ => some id
  | _ => none

/-- The view reads `request.tenant`. -/
def hostScoped : Endpoint → Bool
  | userList | auditLogList .. | invitationList | invitationCreate _ | invitationRevoke _ => true
  | _ => false

end Endpoint

inductive Body where
  | empty
  | envelope (e : Envelope)
  | detail (text : String)
  | users (rows : List User)
  | auditLogs (rows : List AuditLog)
  | roles (rows : List UserTenantRole)
  | role (row : UserTenantRole)
  | invitations (rows : List TenantInvitation)
  | invitation (row : TenantInvitation)
  deriving Repr

structure Response where
  status : Nat
  body : Body
  deriving Repr

namespace Views

/-- What `saas_exception_handler` makes of an exception it does not know. -/
def serverError : Response :=
  ⟨500, .envelope ⟨"server_error", "An unexpected error occurred.", []⟩⟩

def tenantNotFound : Response :=
  ⟨404, .envelope ⟨"http404", "No Tenant matches the given query.", []⟩⟩

def invalidInput (details : List (String × String)) : Response :=
  ⟨400, .envelope ⟨"invalid", "Invalid input.", details.map fun d => (d.1, [d.2])⟩⟩

def tenantContextRequired : Response := ⟨400, .detail "Tenant context required."⟩

/-! ## Serializers -/

/-- The errors of two fields, in field order. -/
def bothFields {α β : Type} (f g : String) (a : Except String α) (b : Except String β) :
    Except (List (String × String)) (α × β) :=
  match a, b with
  | .ok a, .ok b => .ok (a, b)
  | .error e, .ok _ => .error [(f, e)]
  | .ok _, .error e => .error [(g, e)]
  | .error e, .error e' => .error [(f, e), (g, e')]

/-- `user_id`: an integer field whose `validate_user_id` loads the row. -/
def userIdField (drf : Drf) (s : Site) (fields : List (String × Json)) : Except String User :=
  match drf.integerField (fields.lookup "user_id") with
  | .error e => .error e
  | .ok pk =>
      match s.users.find? fun u => (u.pk : Int) == pk with
      | none => .error "User not found."
      | some u => .ok u

def roleAssignSerializer (drf : Drf) (s : Site) :
    Json → Except (List (String × String)) (User × String)
  | .obj fields => bothFields "user_id" "role" (userIdField drf s fields)
      (drf.choiceField none (fields.lookup "role"))
  | data => .error [("non_field_errors", drf.notADict data)]

def roleRevokeSerializer (drf : Drf) (s : Site) :
    Json → Except (List (String × String)) User
  | .obj fields => (userIdField drf s fields).mapError fun e => [("user_id", e)]
  | data => .error [("non_field_errors", drf.notADict data)]

def invitationCreateSerializer (drf : Drf) :
    Json → Except (List (String × String)) (String × String)
  | .obj fields => bothFields "email" "role" (drf.emailField (fields.lookup "email"))
      (drf.choiceField (some RoleChoices.member.value) (fields.lookup "role"))
  | data => .error [("non_field_errors", drf.notADict data)]

/-! ## Handlers -/

/-- `UserListView.get_queryset`, newest first. -/
def userListQueryset (s : Site) : Option Tenant → List User
  | none => []
  | some tenant => (s.users.filter fun u => RBACService.isMember s u.pk tenant.id).reverse

def auditActionValue : AuditAction → String
  | .login => "login"
  | .logout => "logout"
  | .loginFailed => "login_failed"
  | .passwordResetRequested => "password_reset_requested"
  | .passwordResetConfirmed => "password_reset_confirmed"
  | .userRegistered => "user_registered"
  | .userDeleted => "user_deleted"
  | .roleAssigned => "role_assigned"
  | .roleRevoked => "role_revoked"
  | .memberInvited => "member_invited"
  | .invitationAccepted => "invitation_accepted"
  | .invitationRevoked => "invitation_revoked"
  | .subscriptionCreated => "subscription_created"
  | .subscriptionUpdated => "subscription_updated"
  | .subscriptionCanceled => "subscription_canceled"
  | .paymentSucceeded => "payment_succeeded"
  | .paymentFailed => "payment_failed"

/-- `AuditLogListView.get_queryset`, newest first. Empty query parameters
do not filter. -/
def auditLogQueryset (drf : Drf) (s : Site) (action actor : Option String) :
    Option Tenant → List AuditLog
  | none => []
  | some tenant => (s.auditLogs.filter fun a =>
      a.tenant == some tenant.id
        && (action.all fun v => v == "" || auditActionValue a.action == v)
        && (actor.all fun v => v == "" || drf.icontains a.actorEmail v)).reverse

def invitationListGet (call : Call) (s : Site) : Option Tenant → Response
  | none => tenantContextRequired
  | some tenant => ⟨200, .invitations (InvitationService.listPending s call.now tenant)⟩

/-- The answers of `post` to what the service returned or raised. -/
def createResponse : Except Exc TenantInvitation → Response
  | .ok inv => ⟨201, .invitation inv⟩
  | .error (.conflictServiceError text) => ⟨409, .detail text⟩
  | .error (.planLimitExceededError text) => ⟨402, .detail text⟩
  | .error (.validationServiceError text) => ⟨400, .detail text⟩
  | .error _ => serverError

def invitationCreatePost (cfg : Settings) (drf : Drf) (call : Call) (s : Site) (user : User)
    (tenant : Option Tenant) (data : Json) : Response × Site :=
  match tenant with
  | none => (tenantContextRequired, s)
  | some tenant =>
      match invitationCreateSerializer drf data with
      | .error details => (invalidInput details, s)
      | .ok (email, role) =>
          let out := InvitationService.sendInvitation cfg call s tenant email role user
          (createResponse out.1, out.2)

def revokeResponse : Except Exc TenantInvitation → Response
  | .ok _ => ⟨204, .empty⟩
  | .error (.notFoundServiceError text) => ⟨404, .detail text⟩
  | .error (.validationServiceError text) => ⟨400, .detail text⟩
  | .error _ => serverError

def invitationRevokeDelete (s : Site) (user : User) (tenant : Option Tenant)
    (invitationId : UUID) : Response × Site :=
  match tenant with
  | none => (tenantContextRequired, s)
  | some tenant =>
      let out := InvitationService.revokeInvitation s invitationId tenant user
      (revokeResponse out.1, out.2)

def acceptResponse : Except Exc TenantInvitation → Response
  | .ok inv => ⟨200, .invitation inv⟩
  | .error (.notFoundServiceError text) => ⟨404, .detail text⟩
  | .error (.validationServiceError text) => ⟨400, .detail text⟩
  | .error (.conflictServiceError text) => ⟨409, .detail text⟩
  | .error _ => serverError

def invitationAcceptPost (call : Call) (s : Site) (user : User) (token : String) :
    Response × Site :=
  let out := InvitationService.acceptInvitation s call.now token user
  (acceptResponse out.1, out.2)

def roleListGet (s : Site) (tenantId : UUID) : Response :=
  match s.getTenant tenantId with
  | none => tenantNotFound
  | some tenant => ⟨200, .roles (s.userTenantRoles.filter (·.tenant == tenant.id)).reverse⟩

def assignResponse : Except Exc UserTenantRole → Response
  | .ok row => ⟨201, .role row⟩
  | .error _ => serverError

def roleAssignPost (drf : Drf) (s : Site) (user : User) (tenantId : UUID) (data : Json) :
    Response × Site :=
  match s.getTenant tenantId with
  | none => (tenantNotFound, s)
  | some tenant =>
      match roleAssignSerializer drf s data with
      | .error details => (invalidInput details, s)
      | .ok (target, role) =>
          let out := RBACService.assignRole s target tenant role (some user)
          (assignResponse out.1, out.2)

def roleRevokePost (drf : Drf) (s : Site) (tenantId : UUID) (data : Json) : Response × Site :=
  match s.getTenant tenantId with
  | none => (tenantNotFound, s)
  | some tenant =>
      match roleRevokeSerializer drf s data with
      | .error details => (invalidInput details, s)
      | .ok target => (⟨204, .empty⟩, (RBACService.revokeRole s target tenant).2)

/-- The handler of a view, for the authenticated `user` and the
middleware's `tenant`. -/
def handle (cfg : Settings) (drf : Drf) (call : Call) (s : Site) (user : User)
    (tenant : Option Tenant) : Endpoint → Response × Site
  | .userList => (⟨200, .users (userListQueryset s tenant)⟩, s)
  | .auditLogList action actor =>
      (⟨200, .auditLogs (auditLogQueryset drf s action actor tenant)⟩, s)
  | .invitationList => (invitationListGet call s tenant, s)
  | .invitationCreate data => invitationCreatePost cfg drf call s user tenant data
  | .invitationRevoke id => invitationRevokeDelete s user tenant id
  | .roleList id => (roleListGet s id, s)
  | .roleAssign id data => roleAssignPost drf s user id data
  | .roleRevoke id data => roleRevokePost drf s id data
  | .invitationAccept token => invitationAcceptPost call s user token

/-! ## From the request to the handler -/

def notAuthenticated : Envelope :=
  ⟨"not_authenticated", "Authentication credentials were not provided.", []⟩

def permissionDenied : Envelope :=
  ⟨"permission_denied", "You do not have the required role to perform this action.", []⟩

/-- The user whose request the permission classes let through. -/
def initial (drf : Drf) (s : Site) (request : Request) (endpoint : Endpoint) :
    Except Response User :=
  match Permissions.authenticate s request.bearer with
  | .error e => .error ⟨401, .envelope e⟩
  | .ok none => .error ⟨401, .envelope notAuthenticated⟩
  | .ok (some user) =>
      match Permissions.hasPermission drf s request (some user) endpoint.requiredRoles
          endpoint.tenantId with
      | .error _ => .error serverError
      | .ok false => .error ⟨403, .envelope permissionDenied⟩
      | .ok true => .ok user

def dispatch (cfg : Settings) (drf : Drf) (call : Call) (s : Site) (request : Request)
    (endpoint : Endpoint) : Response × Site :=
  match initial drf s request endpoint with
  | .error response => (response, s)
  | .ok user => handle cfg drf call s user request.tenant endpoint

/-- A request on the wire. -/
structure HttpRequest where
  host : String
  bearer : Option UserId
  headerTenantId : Option String
  endpoint : Endpoint

def HttpRequest.withTenant (http : HttpRequest) (tenant : Option Tenant) : Request :=
  ⟨http.bearer, http.headerTenantId, tenant⟩

/-- The whole stack: middleware, then the view. -/
def serve (cfg : Settings) (drf : Drf) (call : Call) (s : Site) (cache : TenantCache)
    (http : HttpRequest) : Response × Site × TenantCache :=
  match TenantMiddleware.call s cache call.now http.endpoint.path http.host with
  | (.refuse status body, cache) => (⟨status, .envelope body⟩, s, cache)
  | (.next tenant, cache) =>
      let (response, s) := dispatch cfg drf call s (http.withTenant tenant) http.endpoint
      (response, s, cache)

theorem initial_ok {drf : Drf} {s : Site} {request : Request} {endpoint : Endpoint} {u : User} :
    initial drf s request endpoint = .ok u ↔
      Permissions.authenticate s request.bearer = .ok (some u)
        ∧ Permissions.hasPermission drf s request (some u) endpoint.requiredRoles
            endpoint.tenantId = .ok true := by
  unfold initial
  split
  · rename_i e he; simp [he]
  · rename_i he; simp [he]
  · rename_i user he
    have hrefused (hp : Permissions.hasPermission drf s request (some user)
        endpoint.requiredRoles endpoint.tenantId ≠ .ok true) :
        ¬ (Permissions.authenticate s request.bearer = .ok (some u)
          ∧ Permissions.hasPermission drf s request (some u) endpoint.requiredRoles
            endpoint.tenantId = .ok true) := by
      rintro ⟨h, hp'⟩
      rw [he] at h
      obtain rfl := Option.some.inj (Except.ok.inj h)
      exact hp hp'
    split
    · rename_i hp
      exact iff_of_false (fun h => nomatch h) (hrefused fun hok => nomatch hp.symm.trans hok)
    · rename_i hp
      refine iff_of_false (fun h => nomatch h) (hrefused fun hok => ?_)
      exact absurd (Except.ok.inj (hp.symm.trans hok)) (by decide)
    · rename_i hp
      simp only [he]
      constructor
      · intro h
        obtain rfl := Except.ok.inj h
        exact ⟨rfl, hp⟩
      · rintro ⟨h, -⟩
        exact congrArg Except.ok (Option.some.inj (Except.ok.inj h))

/-- A request that is not let through is answered with an envelope. -/
theorem initial_error {drf : Drf} {s : Site} {request : Request} {endpoint : Endpoint}
    {response : Response} (h : initial drf s request endpoint = .error response) :
    ∃ e, response.body = .envelope e := by
  unfold initial at h
  split at h
  · obtain rfl := Except.error.inj h; exact ⟨_, rfl⟩
  · obtain rfl := Except.error.inj h; exact ⟨_, rfl⟩
  · split at h
    · obtain rfl := Except.error.inj h; exact ⟨_, rfl⟩
    · obtain rfl := Except.error.inj h; exact ⟨_, rfl⟩
    · cases h

/-- No tenant-scoped view is under an exempt path. -/
theorem path_not_exempt (endpoint : Endpoint) :
    TenantMiddleware.isExempt endpoint.path = false := by
  have happ : ∀ rest : String,
      TenantMiddleware.isExempt ("/api/v1/" ++ rest) = false := by
    intro rest
    simp [TenantMiddleware.isExempt, TenantMiddleware.exemptPrefixes, String.toList_append,
      List.isPrefixOf]
  exact happ _

/-! ## Whose rows a handler touches -/

def rolesOf (s : Site) (id : UUID) : List UserTenantRole :=
  s.userTenantRoles.filter (·.tenant == id)

def invitationsOf (s : Site) (id : UUID) : List TenantInvitation :=
  s.invitations.filter (·.tenant == id)

/-- The body lists a role assignment or an invitation of tenant `id`. -/
def lists (id : UUID) : Body → Prop
  | .roles rows => ∃ r ∈ rows, r.tenant = id
  | .role row => row.tenant = id
  | .invitations rows => ∃ i ∈ rows, i.tenant = id
  | .invitation row => row.tenant = id
  | _ => False

/-- A request left tenant `id`'s role assignments and invitations alone:
none was listed, created, changed or deleted. -/
structure Untouched (s s' : Site) (body : Body) (id : UUID) : Prop where
  roles : rolesOf s' id = rolesOf s id
  invitations : invitationsOf s' id = invitationsOf s id
  hidden : ¬ lists id body

/-- The tenant a handler works on. -/
def target (s : Site) (tenant : Option Tenant) : Endpoint → Option UUID
  | .roleList id | .roleAssign id _ | .roleRevoke id _ => some id
  | .invitationAccept token =>
      (InvitationService.getByToken s token).map fun found => found.1.tenant
  | _ => tenant.map (·.id)

theorem Untouched.of_eq {s : Site} {body : Body} {id : UUID} (h : ¬ lists id body) :
    Untouched s s body id := ⟨rfl, rfl, h⟩

section

variable {cfg : Settings} {drf : Drf} {call : Call} {s s' : Site} {user : User}
  {tenant : Tenant} {id : UUID}

theorem rolesOf_assignRole {role : String} {assignedBy : Option User} (h : tenant.id ≠ id) :
    rolesOf (RBACService.assignRole s user tenant role assignedBy).2 id = rolesOf s id := by
  cases hres : RBACService.assignRole s user tenant role assignedBy with
  | mk res s' =>
      cases res with
      | error e => rw [RBACService.assignRole_error hres]
      | ok row =>
          obtain ⟨r, -, rfl, -, rfl⟩ := RBACService.assignRole_ok hres
          refine Table.filter_put fun x hx => ?_
          simp only [UserTenantRole.key, Prod.mk.injEq] at hx
          simpa [hx.2] using h

theorem rolesOf_revokeRole (h : tenant.id ≠ id) :
    rolesOf (RBACService.revokeRole s user tenant).2 id = rolesOf s id := by
  unfold rolesOf
  rw [RBACService.revokeRole_roles]
  refine Table.filter_delete fun x _ hx => ?_
  simp only [Bool.and_eq_true, beq_iff_eq] at hx
  simpa [hx.2] using h

theorem sendInvitation_untouched {email role : String} (h : tenant.id ≠ id) :
    rolesOf (InvitationService.sendInvitation cfg call s tenant email role user).2 id
        = rolesOf s id
      ∧ invitationsOf (InvitationService.sendInvitation cfg call s tenant email role user).2 id
        = invitationsOf s id := by
  have hcases := InvitationService.sendInvitation_cases cfg call s tenant email role user
  generalize (InvitationService.sendInvitation cfg call s tenant email role user).2 = s'
    at hcases ⊢
  cases hcases with
  | refused => exact ⟨rfl, rfl⟩
  | created r _ _ _ hins hroles _ =>
      refine ⟨by rw [rolesOf, hroles]; rfl, Table.filter_insert? hins ?_⟩
      simpa [InvitationService.newInvitation] using h

/-- Changing an invitation of another tenant is not seen here. -/
theorem invitationsOf_save {inv : TenantInvitation} {f : Table.Rewrite TenantInvitation.clash}
    (hmem : inv ∈ s.invitations) (h : inv.tenant ≠ id) (hf : ∀ i, (f.apply i).tenant = i.tenant) :
    invitationsOf (InvitationService.saveInvitation s inv.id f) id = invitationsOf s id := by
  refine Table.filter_modify fun x hx hid => ?_
  obtain rfl := InvitationService.invitation_eq_of_id hx hmem (by simpa using hid)
  simpa [hf] using h

theorem revokeInvitation_untouched {invitationId : UUID} (h : tenant.id ≠ id) :
    rolesOf (InvitationService.revokeInvitation s invitationId tenant user).2 id = rolesOf s id
      ∧ invitationsOf (InvitationService.revokeInvitation s invitationId tenant user).2 id
        = invitationsOf s id := by
  rcases InvitationService.revokeInvitation_cases s invitationId tenant user with
    ⟨hs, -⟩ | ⟨inv, hmem, -, ht, -, -, hinv, hroles, -⟩
  · rw [hs]; exact ⟨rfl, rfl⟩
  · refine ⟨by rw [rolesOf, hroles]; rfl, ?_⟩
    rw [invitationsOf, hinv]
    exact invitationsOf_save hmem (by rw [ht]; exact h) fun _ => rfl

theorem acceptInvitation_untouched {now : Time} {token : String}
    (h : (InvitationService.getByToken s token).map (fun found => found.1.tenant) ≠ some id) :
    rolesOf (InvitationService.acceptInvitation s now token user).2 id = rolesOf s id
      ∧ invitationsOf (InvitationService.acceptInvitation s now token user).2 id
        = invitationsOf s id := by
  cases hg : InvitationService.grants? s now token user with
  | none =>
      rcases (InvitationService.acceptInvitation_of_not hg).2 with
        hs | ⟨inv, t, hget, -, -, hs⟩
      · rw [hs]; exact ⟨rfl, rfl⟩
      · rw [hs]
        obtain ⟨hmem, -⟩ := InvitationService.getByToken_some.mp hget
        exact ⟨rfl, invitationsOf_save hmem (fun heq => h (by rw [hget, ← heq]; rfl))
          fun _ => rfl⟩
  | some inv =>
      obtain ⟨-, hroles, hinv, -⟩ := InvitationService.acceptInvitation_of_grants hg
      obtain ⟨hmem, htok, -, -, -, ht⟩ := InvitationService.grants?_some hg
      obtain ⟨t, ht⟩ := Option.isSome_iff_exists.mp ht
      obtain ⟨htm, hid⟩ := Site.getTenant_some ht
      have hget := InvitationService.getByToken_some.mpr ⟨hmem, htok, htm, hid⟩
      have hne : inv.tenant ≠ id := fun heq => h (by rw [hget, ← heq]; rfl)
      constructor
      · rw [rolesOf, hroles]
        refine Table.filter_put fun x hx => ?_
        simp only [UserTenantRole.key, InvitationService.grantedRow, Prod.mk.injEq] at hx
        simpa [hx.2] using hne
      · rw [invitationsOf, hinv]
        exact invitationsOf_save hmem hne fun _ => rfl

/-! ### Responses -/

/-- A successful acceptance answers with the invitation of the token. -/
theorem acceptInvitation_ok {now : Time} {token : String} {inv : TenantInvitation}
    (h : InvitationService.acceptInvitation s now token user = (.ok inv, s')) :
    (InvitationService.getByToken s token).map (fun found => found.1.tenant)
      = some inv.tenant := by
  cases hg : InvitationService.grants? s now token user with
  | none =>
      obtain ⟨⟨e, he⟩, -⟩ := InvitationService.acceptInvitation_of_not hg
      rw [h] at he; cases he
  | some i =>
      obtain ⟨hres, -⟩ := InvitationService.acceptInvitation_of_grants hg
      rw [h] at hres
      obtain rfl := Except.ok.inj hres
      obtain ⟨hmem, htok, -, -, -, ht⟩ := InvitationService.grants?_some hg
      obtain ⟨t, ht⟩ := Option.isSome_iff_exists.mp ht
      obtain ⟨htm, hid⟩ := Site.getTenant_some ht
      rw [InvitationService.getByToken_some.mpr ⟨hmem, htok, htm, hid⟩]
      rfl

theorem listPending_mem {i : TenantInvitation}
    (h : i ∈ InvitationService.listPending s call.now tenant) : i.tenant = tenant.id := by
  simp only [InvitationService.listPending, List.mem_reverse, Table.mem_filter,
    Bool.and_eq_true, beq_iff_eq] at h
  exact h.2.1.1

theorem lists_createResponse {res : Except Exc TenantInvitation} :
    lists id (createResponse res).body ↔ ∃ inv, res = .ok inv ∧ inv.tenant = id := by
  unfold createResponse
  split <;> simp [lists, serverError]

theorem lists_revokeResponse {res : Except Exc TenantInvitation} :
    ¬ lists id (revokeResponse res).body := by
  unfold revokeResponse
  split <;> simp [lists, serverError]

theorem lists_acceptResponse {res : Except Exc TenantInvitation} :
    lists id (acceptResponse res).body ↔ ∃ inv, res = .ok inv ∧ inv.tenant = id := by
  unfold acceptResponse
  split <;> simp [lists, serverError]

theorem lists_assignResponse {res : Except Exc UserTenantRole} :
    lists id (assignResponse res).body ↔ ∃ row, res = .ok row ∧ row.tenant = id := by
  unfold assignResponse
  split <;> simp [lists, serverError]

/-! ### One lemma a handler -/

theorem invitationCreatePost_untouched {data : Json} (h : tenant.id ≠ id) :
    Untouched s (invitationCreatePost cfg drf call s user (some tenant) data).2
      (invitationCreatePost cfg drf call s user (some tenant) data).1.body id := by
  unfold invitationCreatePost
  simp only
  split
  · exact .of_eq fun hl => hl
  · rename_i email role hval
    obtain ⟨hroles, hinv⟩ := sendInvitation_untouched h
    refine ⟨hroles, hinv, fun hl => ?_⟩
    obtain ⟨inv, hres, ht⟩ := lists_createResponse.mp hl
    obtain ⟨r, -, rfl⟩ := InvitationService.sendInvitation_ok (Prod.ext hres rfl)
    exact h ht

theorem roleAssignPost_untouched {tenantId : UUID} {data : Json} (h : tenantId ≠ id) :
    Untouched s (roleAssignPost drf s user tenantId data).2
      (roleAssignPost drf s user tenantId data).1.body id := by
  unfold roleAssignPost
  split
  · exact .of_eq fun hl => hl
  · rename_i tenant hget
    obtain ⟨-, rfl⟩ := Site.getTenant_some hget
    split
    · exact .of_eq fun hl => hl
    · rename_i target role hval
      refine ⟨rolesOf_assignRole h, ?_, fun hl => ?_⟩
      · rw [invitationsOf, RBACService.assignRole_frame.invitations]; rfl
      · obtain ⟨row, hres, ht⟩ := lists_assignResponse.mp hl
        obtain ⟨r, -, rfl, -⟩ := RBACService.assignRole_ok (Prod.ext hres rfl)
        exact h ht

theorem roleRevokePost_untouched {tenantId : UUID} {data : Json} (h : tenantId ≠ id) :
    Untouched s (roleRevokePost drf s tenantId data).2
      (roleRevokePost drf s tenantId data).1.body id := by
  unfold roleRevokePost
  split
  · exact .of_eq fun hl => hl
  · rename_i tenant hget
    obtain ⟨-, rfl⟩ := Site.getTenant_some hget
    split
    · exact .of_eq fun hl => hl
    · refine ⟨rolesOf_revokeRole h, ?_, fun hl => hl⟩
      rw [invitationsOf, RBACService.revokeRole_frame.invitations]; rfl

theorem roleListGet_hidden {tenantId : UUID} (h : tenantId ≠ id) :
    ¬ lists id (roleListGet s tenantId).body := by
  unfold roleListGet
  split
  · exact fun hl => hl
  · rename_i tenant hget
    obtain ⟨-, rfl⟩ := Site.getTenant_some hget
    rintro ⟨r, hr, rfl⟩
    simp only [List.mem_reverse, Table.mem_filter, beq_iff_eq] at hr
    exact h hr.2.symm

theorem invitationAcceptPost_untouched {token : String}
    (h : (InvitationService.getByToken s token).map (fun found => found.1.tenant) ≠ some id) :
    Untouched s (invitationAcceptPost call s user token).2
      (invitationAcceptPost call s user token).1.body id := by
  obtain ⟨hroles, hinv⟩ := @acceptInvitation_untouched s user id call.now token h
  refine ⟨hroles, hinv, fun hl => ?_⟩
  obtain ⟨inv, hres, rfl⟩ := lists_acceptResponse.mp hl
  exact h (acceptInvitation_ok (Prod.ext hres rfl))

/-- A handler concerns its target tenant only. -/
theorem handle_scoped {t : Option Tenant} {endpoint : Endpoint}
    (h : target s t endpoint ≠ some id) :
    Untouched s (handle cfg drf call s user t endpoint).2
      (handle cfg drf call s user t endpoint).1.body id := by
  cases endpoint with
  | userList => exact .of_eq fun hl => hl
  | auditLogList => exact .of_eq fun hl => hl
  | invitationList =>
      cases t with
      | none => exact .of_eq fun hl => hl
      | some tenant =>
          refine .of_eq ?_
          rintro ⟨i, hi, rfl⟩
          exact h (congrArg some (listPending_mem hi).symm)
  | invitationCreate data =>
      cases t with
      | none => exact .of_eq fun hl => hl
      | some tenant => exact invitationCreatePost_untouched fun heq => h (congrArg some heq)
  | invitationRevoke invitationId =>
      cases t with
      | none => exact .of_eq fun hl => hl
      | some tenant =>
          obtain ⟨hroles, hinv⟩ := revokeInvitation_untouched fun heq => h (congrArg some heq)
          exact ⟨hroles, hinv, lists_revokeResponse⟩
  | roleList tenantId =>
      exact .of_eq (roleListGet_hidden fun heq => h (congrArg some heq))
  | roleAssign tenantId data => exact roleAssignPost_untouched fun heq => h (congrArg some heq)
  | roleRevoke tenantId data => exact roleRevokePost_untouched fun heq => h (congrArg some heq)
  | invitationAccept token => exact invitationAcceptPost_untouched h

end

end Views

end SaasKit
