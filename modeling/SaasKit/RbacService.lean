import SaasKit.Models

/-!
# Roles: `RBACService` and the audit trail it leaves

`services/rbac` and `services/audit`. A service call is a function from
the site to its result and the site afterwards. Nothing wraps the calls in
a transaction, so an exception keeps the writes made before it.

The specification lemmas at the end of each section say what a call can
have done (`assignRole_ok`, `assignRole_error`, `revokeRole_roles`);
nothing later unfolds the services again.
-/

namespace SaasKit

/-! ## AuditService -/

namespace AuditService

/-- `AuditService.log` as the services call it, without a request. A
failure to write the entry is swallowed, so it cannot fail. -/
def log (s : Site) (action : AuditAction) (tenant : Option Tenant) (actor : Option User)
    (resourceType resourceId : String) (metadata : List (String × Json)) : Site :=
  { s with auditLogs := s.auditLogs ++ [{
      tenant := tenant.map (·.id)
      actor := actor.map (·.pk)
      actorEmail := (actor.map (·.email)).getD ""
      action, resourceType, resourceId, metadata
      ipAddress := none
      userAgent := "" }] }

variable (s : Site) (action : AuditAction) (tenant : Option Tenant) (actor : Option User)
  (resourceType resourceId : String) (metadata : List (String × Json))

@[simp] theorem log_users :
    (log s action tenant actor resourceType resourceId metadata).users = s.users := rfl

@[simp] theorem log_tenants :
    (log s action tenant actor resourceType resourceId metadata).tenants = s.tenants := rfl

@[simp] theorem log_domains :
    (log s action tenant actor resourceType resourceId metadata).domains = s.domains := rfl

@[simp] theorem log_roles :
    (log s action tenant actor resourceType resourceId metadata).userTenantRoles
      = s.userTenantRoles := rfl

@[simp] theorem log_invitations :
    (log s action tenant actor resourceType resourceId metadata).invitations
      = s.invitations := rfl

@[simp] theorem log_plans :
    (log s action tenant actor resourceType resourceId metadata).plans = s.plans := rfl

@[simp] theorem log_subscriptions :
    (log s action tenant actor resourceType resourceId metadata).subscriptions
      = s.subscriptions := rfl

@[simp] theorem log_queue :
    (log s action tenant actor resourceType resourceId metadata).queue = s.queue := rfl

/-- What the log says was done, and in which tenant. -/
def trail (s : Site) : List (AuditAction × Option UUID) :=
  s.auditLogs.map fun entry => (entry.action, entry.tenant)

@[simp] theorem trail_log :
    trail (log s action tenant actor resourceType resourceId metadata)
      = trail s ++ [(action, tenant.map (·.id))] := by
  simp [trail, log]

end AuditService

/-! ## RBACService -/

/-- Nothing but roles and the audit log differs. -/
structure RolesOnly (s s' : Site) : Prop where
  users : s'.users = s.users
  tenants : s'.tenants = s.tenants
  domains : s'.domains = s.domains
  invitations : s'.invitations = s.invitations
  plans : s'.plans = s.plans
  subscriptions : s'.subscriptions = s.subscriptions
  queue : s'.queue = s.queue

theorem RolesOnly.refl (s : Site) : RolesOnly s s := ⟨rfl, rfl, rfl, rfl, rfl, rfl, rfl⟩

namespace RBACService

/-- The row of `user` in `tenant`. -/
def getRow (s : Site) (user : UserId) (tenant : UUID) : Option UserTenantRole :=
  s.userTenantRoles.find? fun r => r.user == user && r.tenant == tenant

/-- The foreign keys of a role row, checked when it is written. -/
def roleFk (s : Site) (r : UserTenantRole) : Bool :=
  (s.getUser r.user).isSome && (s.getTenant r.tenant).isSome
    && r.assignedBy.all fun pk => (s.getUser pk).isSome

def assignRole (s : Site) (user : User) (tenant : Tenant) (role : String)
    (assignedBy : Option User) : Except Exc UserTenantRole × Site :=
  match RoleChoices.ofValue? role with
  | none =>
      (.error (.validationServiceError ("Invalid role '" ++ role ++ "'. Must be one of: "
        ++ ", ".intercalate ["admin", "member", "owner"])), s)
  | some r =>
      -- update_or_create(user_id=…, tenant=…, defaults={role, assigned_by_id})
      let obj : UserTenantRole := ⟨user.pk, tenant.id, r, assignedBy.map (·.pk)⟩
      if roleFk s obj then
        (.ok obj,
          AuditService.log { s with userTenantRoles := s.userTenantRoles.put obj }
            .roleAssigned (some tenant) assignedBy "User" (toString user.pk)
            [("role", .str role), ("target_email", .str user.email)])
      else (.error .integrityError, s)

def revokeRole (s : Site) (user : User) (tenant : Tenant) : Bool × Site :=
  let mine := fun r : UserTenantRole => r.user == user.pk && r.tenant == tenant.id
  if s.userTenantRoles.any mine then
    (true,
      AuditService.log { s with userTenantRoles := s.userTenantRoles.delete mine }
        .roleRevoked (some tenant) none "User" (toString user.pk)
        [("target_email", .str user.email)])
  else (false, s)

def getRole (s : Site) (user : User) (tenant : Tenant) : Option RoleChoices :=
  (getRow s user.pk tenant.id).map (·.role)

/-- `user` is the authenticated user of the request, `none` an anonymous
one. -/
def hasRole (s : Site) (user : Option User) (tenant : Tenant) (roles : List RoleChoices) :
    Bool :=
  match user with
  | none => false
  | some u =>
      u.isSuperuser || s.userTenantRoles.any fun r =>
        r.user == u.pk && r.tenant == tenant.id && roles.contains r.role

/-! ### What the calls read and write -/

/-- `user` has a role, any role, in `tenant`. -/
def isMember (s : Site) (user : UserId) (tenant : UUID) : Bool := (getRow s user tenant).isSome

variable {s s' : Site} {user : User} {tenant : Tenant} {role : String}
  {assignedBy : Option User} {obj : UserTenantRole}

theorem getRow_some {pk : UserId} {id : UUID} {r : UserTenantRole} :
    getRow s pk id = some r ↔ r ∈ s.userTenantRoles ∧ r.user = pk ∧ r.tenant = id := by
  constructor
  · intro h
    obtain ⟨hmem, hkey⟩ := Table.find?_some h
    simpa [hmem] using hkey
  · rintro ⟨hmem, rfl, rfl⟩
    refine Table.find?_eq_of_mem Table.sameKey_symm hmem (by simp) fun x hx => ?_
    simpa [UserTenantRole.key] using hx

theorem isMember_iff {pk : UserId} {id : UUID} :
    isMember s pk id = true ↔ ∃ r ∈ s.userTenantRoles, r.user = pk ∧ r.tenant = id := by
  simp only [isMember, Option.isSome_iff_exists, getRow_some]

theorem hasRole_iff {u : User} {roles : List RoleChoices} (hu : u.isSuperuser = false) :
    hasRole s (some u) tenant roles = true ↔
      ∃ r ∈ s.userTenantRoles, r.user = u.pk ∧ r.tenant = tenant.id ∧ r.role ∈ roles := by
  simp [hasRole, hu, Table.any_iff, and_assoc]

/-- A successful assignment wrote exactly its row and one audit entry. -/
theorem assignRole_ok (h : assignRole s user tenant role assignedBy = (.ok obj, s')) :
    ∃ r, role = r.value ∧ obj = ⟨user.pk, tenant.id, r, assignedBy.map (·.pk)⟩
      ∧ roleFk s obj = true
      ∧ s' = AuditService.log { s with userTenantRoles := s.userTenantRoles.put obj }
          .roleAssigned (some tenant) assignedBy "User" (toString user.pk)
          [("role", .str role), ("target_email", .str user.email)] := by
  unfold assignRole at h
  split at h
  · cases h
  · rename_i r hr
    simp only at h
    split at h
    · rename_i hfk
      obtain ⟨hobj, rfl⟩ := Prod.mk.inj h
      obtain rfl := Except.ok.inj hobj
      exact ⟨r, RoleChoices.ofValue?_eq_some.mp hr, rfl, hfk, rfl⟩
    · cases h

theorem assignRole_roles (h : assignRole s user tenant role assignedBy = (.ok obj, s')) :
    s'.userTenantRoles = s.userTenantRoles.put obj := by
  obtain ⟨r, -, -, -, rfl⟩ := assignRole_ok h
  rfl

theorem assignRole_error {e : Exc}
    (h : assignRole s user tenant role assignedBy = (.error e, s')) : s' = s := by
  unfold assignRole at h
  split at h
  · exact (Prod.mk.inj h).2.symm
  · simp only at h
    split at h
    · cases h
    · exact (Prod.mk.inj h).2.symm

/-- A valid role whose row's references exist is assigned. -/
theorem assignRole_of_fk {r : RoleChoices}
    (hfk : roleFk s ⟨user.pk, tenant.id, r, assignedBy.map (·.pk)⟩ = true) :
    assignRole s user tenant r.value assignedBy
      = (.ok ⟨user.pk, tenant.id, r, assignedBy.map (·.pk)⟩,
        AuditService.log { s with
            userTenantRoles :=
              s.userTenantRoles.put ⟨user.pk, tenant.id, r, assignedBy.map (·.pk)⟩ }
          .roleAssigned (some tenant) assignedBy "User" (toString user.pk)
          [("role", .str r.value), ("target_email", .str user.email)]) := by
  unfold assignRole
  simp [hfk]

theorem assignRole_of_not_fk {r : RoleChoices}
    (hfk : roleFk s ⟨user.pk, tenant.id, r, assignedBy.map (·.pk)⟩ = false) :
    assignRole s user tenant r.value assignedBy = (.error .integrityError, s) := by
  unfold assignRole
  simp [hfk]

theorem assignRole_of_valid {r : RoleChoices}
    (hfk : roleFk s ⟨user.pk, tenant.id, r, assignedBy.map (·.pk)⟩ = true) :
    (assignRole s user tenant r.value assignedBy).1
      = .ok ⟨user.pk, tenant.id, r, assignedBy.map (·.pk)⟩ := by
  rw [assignRole_of_fk hfk]

theorem revokeRole_roles :
    (revokeRole s user tenant).2.userTenantRoles
      = s.userTenantRoles.delete fun r => r.user == user.pk && r.tenant == tenant.id := by
  unfold revokeRole
  simp only
  split
  · rfl
  · rename_i h
    have hnone := Table.any_eq_false.mp (Bool.not_eq_true _ ▸ h)
    refine Table.ext_rows (List.filter_eq_self.mpr fun r hr => ?_).symm
    simp only [hnone r hr, Bool.not_false]

theorem assignRole_frame : RolesOnly s (assignRole s user tenant role assignedBy).2 := by
  unfold assignRole
  split
  · exact .refl s
  · simp only
    split
    · exact ⟨rfl, rfl, rfl, rfl, rfl, rfl, rfl⟩
    · exact .refl s

theorem revokeRole_frame : RolesOnly s (revokeRole s user tenant).2 := by
  unfold revokeRole
  simp only
  split
  · exact ⟨rfl, rfl, rfl, rfl, rfl, rfl, rfl⟩
  · exact .refl s

end RBACService

end SaasKit
