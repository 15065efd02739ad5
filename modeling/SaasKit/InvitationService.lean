import SaasKit.PlanLimitService

/-!
# Invitations: `InvitationService`

Sending, accepting, revoking and listing invitations. What a call takes
from outside the database (the clock, the fresh key and token of a new
row, whether the broker answers) is a `Call`; `Settings` is what stays
fixed over a deployment.

Accepting is the one call that writes two tables. Its precondition is
pulled out as `grants?`: `acceptInvitation_of_grants` and
`acceptInvitation_of_not` say that the call makes its user a member
exactly when that precondition holds, and what else it can write
otherwise. `sendInvitation_cases` and `revokeInvitation_cases` do the same
for the other two.
-/

namespace SaasKit

/-- `str.lower` and the settings the service reads. -/
structure Settings where
  lower : String → String
  frontendUrl : String

structure Call where
  now : Time
  newId : UUID
  newToken : String
  brokerUp : Bool

namespace InvitationService

def roleValues : List String := [RoleChoices.owner, .admin, .member].map (·.value)

/-! ## Writes to the invitation table -/

/-- `save(update_fields=["status"])`. -/
def setStatus (status : InvitationStatus) : Table.Rewrite TenantInvitation.clash :=
  ⟨fun inv => { inv with status }, fun _ _ => rfl, fun _ _ => rfl⟩

/-- `save(update_fields=["status", "accepted_by"])` of an accepted
invitation. -/
def setAccepted (user : UserId) : Table.Rewrite TenantInvitation.clash :=
  ⟨fun inv => { inv with status := .accepted, acceptedBy := some user },
    fun _ _ => rfl, fun _ _ => rfl⟩

def saveInvitation (s : Site) (id : UUID) (f : Table.Rewrite TenantInvitation.clash) : Site :=
  { s with invitations := s.invitations.modify (·.id == id) f }

/-! ## The service -/

/-- `_dispatch_email`: the task is handed to the broker, or the call
raises. -/
def dispatchEmail (cfg : Settings) (call : Call) (s : Site) (tenant : Tenant)
    (inv : TenantInvitation) (invitedBy : User) : Except Exc Unit × Site :=
  let name := strip (invitedBy.firstName ++ " " ++ invitedBy.lastName)
  let invitedByName := if name = "" then invitedBy.email else name
  if call.brokerUp then
    (.ok (), { s with queue := s.queue ++ [.sendInvitationEmail inv.email tenant.name
      invitedByName inv.role.value
      (cfg.frontendUrl ++ "/invitations/" ++ inv.token ++ "/accept")] })
  else (.error .operationalError, s)

/-- The row `TenantInvitation.objects.create` writes, with its defaults. -/
def newInvitation (call : Call) (tenant : Tenant) (email : String) (role : RoleChoices)
    (invitedBy : User) : TenantInvitation where
  id := call.newId
  tenant := tenant.id
  email := email
  role := role
  token := call.newToken
  status := .pending
  invitedBy := some invitedBy.pk
  acceptedBy := none
  expiresAt := call.now + hours TenantInvitation.expiryHours

/-- `TenantInvitation.objects.create`: the column is 254 characters wide,
both references must exist and the keys be new. -/
def createInvitation (s : Site) (inv : TenantInvitation) : Except Exc Site :=
  if 254 < inv.email.length then .error .dataError
  else if !((s.getTenant inv.tenant).isSome
      && inv.invitedBy.all fun pk => (s.getUser pk).isSome) then .error .integrityError
  else match s.invitations.insert? inv with
    | none => .error .integrityError
    | some invitations => .ok { s with invitations }

def sendInvitation (cfg : Settings) (call : Call) (s : Site) (tenant : Tenant)
    (email role : String) (invitedBy : User) : Except Exc TenantInvitation × Site :=
  let email := cfg.lower (strip email)
  match RoleChoices.ofValue? role with
  | none =>
      (.error (.validationServiceError ("Invalid role '" ++ role ++ "'. Must be one of: "
        ++ ", ".intercalate roleValues)), s)
  | some r =>
      let existingUser := firstByPk (s.users.filter (·.email == email))
      if existingUser.any fun u => RBACService.isMember s u.pk tenant.id then
        (.error (.conflictServiceError (email ++ " is already a member of this tenant.")), s)
      else if s.invitations.any fun i =>
          i.tenant == tenant.id && i.email == email && decide (i.status = .pending) then
        (.error (.conflictServiceError ("A pending invitation already exists for " ++ email
          ++ ". Revoke it first.")), s)
      else match PlanLimitService.checkMemberLimit s tenant with
        | .error e => (.error e, s)
        | .ok () =>
            let inv := newInvitation call tenant email r invitedBy
            match createInvitation s inv with
            | .error e => (.error e, s)
            | .ok s =>
                match dispatchEmail cfg call s tenant inv invitedBy with
                | (.error e, s) => (.error e, s)
                | (.ok (), s) => (.ok inv, s)

/-- `TenantInvitation.objects.select_related("tenant").get(token=token)`. -/
def getByToken (s : Site) (token : String) : Option (TenantInvitation × Tenant) :=
  match s.invitations.find? (·.token == token) with
  | none => none
  | some inv => (s.getTenant inv.tenant).map fun tenant => (inv, tenant)

def acceptInvitation (s : Site) (now : Time) (token : String) (user : User) :
    Except Exc TenantInvitation × Site :=
  match getByToken s token with
  | none => (.error (.notFoundServiceError "Invitation not found."), s)
  | some (inv, tenant) =>
      if inv.status ≠ .pending then
        (.error (.notFoundServiceError "This invitation has already been used or revoked."), s)
      else if inv.isExpired now then
        (.error (.validationServiceError "This invitation has expired."),
          saveInvitation s inv.id (setStatus .expired))
      else if RBACService.isMember s user.pk tenant.id then
        (.error (.conflictServiceError "You are already a member of this tenant."), s)
      else
        match RBACService.assignRole s user tenant inv.role.value
            (inv.invitedBy.bind s.getUser) with
        | (.error e, s) => (.error e, s)
        | (.ok _, s) =>
            (.ok { inv with status := .accepted, acceptedBy := some user.pk },
              AuditService.log (saveInvitation s inv.id (setAccepted user.pk)) .invitationAccepted
                (some tenant) (some user) "TenantInvitation" (uuidStr inv.id)
                [("email", .str inv.email), ("role", .str inv.role.value)])

def revokeInvitation (s : Site) (invitationId : UUID) (tenant : Tenant) (revokedBy : User) :
    Except Exc TenantInvitation × Site :=
  match s.invitations.find? fun i => i.id == invitationId && i.tenant == tenant.id with
  | none => (.error (.notFoundServiceError "Invitation not found."), s)
  | some inv =>
      if inv.status ≠ .pending then
        (.error (.validationServiceError ("Cannot revoke an invitation with status '"
          ++ inv.status.value ++ "'.")), s)
      else
        (.ok { inv with status := .revoked },
          AuditService.log (saveInvitation s inv.id (setStatus .revoked)) .invitationRevoked
            (some tenant) (some revokedBy) "TenantInvitation" (uuidStr inv.id)
            [("email", .str inv.email)])

/-- Newest first (`ordering = ["-created_at"]`). -/
def listPending (s : Site) (now : Time) (tenant : Tenant) : List TenantInvitation :=
  (s.invitations.filter fun i =>
    i.tenant == tenant.id && decide (i.status = .pending) && decide (now < i.expiresAt)).reverse

/-! ## What each call can have done -/

/-- Nothing but invitations, roles, the audit log and the queue differs. -/
structure MembershipOnly (s s' : Site) : Prop where
  users : s'.users = s.users
  tenants : s'.tenants = s.tenants
  domains : s'.domains = s.domains
  plans : s'.plans = s.plans
  subscriptions : s'.subscriptions = s.subscriptions

theorem MembershipOnly.refl (s : Site) : MembershipOnly s s := ⟨rfl, rfl, rfl, rfl, rfl⟩

theorem invitation_clash_symm (a b : TenantInvitation) :
    TenantInvitation.clash a b = TenantInvitation.clash b a := by
  simp only [TenantInvitation.clash, BEq.comm]

theorem invitation_eq_of_id {s : Site} {a b : TenantInvitation} (ha : a ∈ s.invitations)
    (hb : b ∈ s.invitations) (h : a.id = b.id) : a = b :=
  Table.eq_of_clash invitation_clash_symm ha hb (by simp [TenantInvitation.clash, h])

theorem getByToken_some {s : Site} {token : String} {inv : TenantInvitation}
    {tenant : Tenant} : getByToken s token = some (inv, tenant) ↔
      inv ∈ s.invitations ∧ inv.token = token ∧ tenant ∈ s.tenants
        ∧ tenant.id = inv.tenant := by
  unfold getByToken
  constructor
  · intro h
    split at h
    · cases h
    · rename_i i hi
      obtain ⟨t, ht, heq⟩ := Option.map_eq_some_iff.mp h
      obtain ⟨rfl, rfl⟩ := Prod.mk.inj heq
      obtain ⟨hmem, htok⟩ := Table.find?_some hi
      obtain ⟨htm, hid⟩ := Site.getTenant_some ht
      exact ⟨hmem, by simpa using htok, htm, hid⟩
  · rintro ⟨hmem, rfl, ht, hid⟩
    have hfind : s.invitations.find? (·.token == inv.token) = some inv :=
      Table.find?_eq_of_mem invitation_clash_symm hmem (by simp) fun x hx => by
        simp only [TenantInvitation.clash, Bool.or_eq_true]; exact Or.inr hx
    simp only [hfind]
    rw [← hid, Site.getTenant_of_mem ht]
    rfl

/-! ### Sending -/

/-- A call that sends adds one pending invitation, with the role and the
tenant it was given, and touches no role. -/
inductive Sends (cfg : Settings) (call : Call) (s : Site) (tenant : Tenant)
    (email role : String) (invitedBy : User) : Site → Prop
  | refused : Sends cfg call s tenant email role invitedBy s
  | created (r : RoleChoices) (s' : Site) :
      role = r.value →
      PlanLimitService.checkMemberLimit s tenant = .ok () →
      s.invitations.insert? (newInvitation call tenant (cfg.lower (strip email)) r invitedBy)
        = some s'.invitations →
      s'.userTenantRoles = s.userTenantRoles →
      MembershipOnly s s' →
      Sends cfg call s tenant email role invitedBy s'

theorem dispatchEmail_cases (cfg : Settings) (call : Call) (s : Site) (tenant : Tenant)
    (inv : TenantInvitation) (invitedBy : User) :
    (∃ task, dispatchEmail cfg call s tenant inv invitedBy
        = (.ok (), { s with queue := s.queue ++ [task] }))
      ∨ call.brokerUp = false
        ∧ dispatchEmail cfg call s tenant inv invitedBy = (.error .operationalError, s) := by
  unfold dispatchEmail
  simp only
  split
  · exact Or.inl ⟨_, rfl⟩
  · rename_i hdown
    exact Or.inr ⟨Bool.eq_false_iff.mpr hdown, rfl⟩

theorem createInvitation_ok {s s' : Site} {inv : TenantInvitation}
    (h : createInvitation s inv = .ok s') :
    ∃ invitations, s.invitations.insert? inv = some invitations
      ∧ s' = { s with invitations } := by
  unfold createInvitation at h
  split at h
  · cases h
  · split at h
    · cases h
    · split at h
      · cases h
      · rename_i invitations hins
        exact ⟨invitations, hins, (Except.ok.inj h).symm⟩

/-- A call raises with nothing written, or creates the invitation; then it
returns, unless the broker is down. -/
theorem sendInvitation_outcome (cfg : Settings) (call : Call) (s : Site) (tenant : Tenant)
    (email role : String) (invitedBy : User) :
    (∃ e, sendInvitation cfg call s tenant email role invitedBy = (.error e, s))
      ∨ ∃ r invitations queue res, role = r.value
        ∧ PlanLimitService.checkMemberLimit s tenant = .ok ()
        ∧ s.invitations.insert? (newInvitation call tenant (cfg.lower (strip email)) r invitedBy)
          = some invitations
        ∧ sendInvitation cfg call s tenant email role invitedBy
          = (res, { s with invitations, queue })
        ∧ (res = .ok (newInvitation call tenant (cfg.lower (strip email)) r invitedBy)
          ∨ call.brokerUp = false ∧ ∃ e, res = .error e) := by
  unfold sendInvitation
  simp only
  split
  · exact Or.inl ⟨_, rfl⟩
  · rename_i r hr
    split
    · exact Or.inl ⟨_, rfl⟩
    · split
      · exact Or.inl ⟨_, rfl⟩
      · split
        · exact Or.inl ⟨_, rfl⟩
        · rename_i hlimit
          split
          · exact Or.inl ⟨_, rfl⟩
          · rename_i s₁ hcreate
            obtain ⟨invitations, hinsert, rfl⟩ := createInvitation_ok hcreate
            have hrole : role = r.value := RoleChoices.ofValue?_eq_some.mp hr
            rcases dispatchEmail_cases cfg call { s with invitations } tenant
              (newInvitation call tenant (cfg.lower (strip email)) r invitedBy) invitedBy with
              ⟨task, hsent⟩ | ⟨hdown, hraised⟩
            · rw [hsent]
              exact Or.inr ⟨r, invitations, _, _, hrole, hlimit, hinsert, rfl, Or.inl rfl⟩
            · rw [hraised]
              exact Or.inr ⟨r, invitations, s.queue, _, hrole, hlimit, hinsert, rfl,
                Or.inr ⟨hdown, _, rfl⟩⟩

theorem sendInvitation_cases (cfg : Settings) (call : Call) (s : Site) (tenant : Tenant)
    (email role : String) (invitedBy : User) :
    Sends cfg call s tenant email role invitedBy
      (sendInvitation cfg call s tenant email role invitedBy).2 := by
  rcases sendInvitation_outcome cfg call s tenant email role invitedBy with
    ⟨e, hraised⟩ | ⟨r, invitations, queue, res, hrole, hlimit, hinsert, hcreated, -⟩
  · rw [hraised]
    exact .refused
  · rw [hcreated]
    exact .created r _ hrole hlimit hinsert rfl ⟨rfl, rfl, rfl, rfl, rfl⟩

theorem sendInvitation_frame (cfg : Settings) (call : Call) (s : Site) (tenant : Tenant)
    (email role : String) (invitedBy : User) :
    (sendInvitation cfg call s tenant email role invitedBy).2.userTenantRoles
        = s.userTenantRoles
      ∧ MembershipOnly s (sendInvitation cfg call s tenant email role invitedBy).2 := by
  have hcases := sendInvitation_cases cfg call s tenant email role invitedBy
  generalize (sendInvitation cfg call s tenant email role invitedBy).2 = s' at hcases ⊢
  cases hcases with
  | refused => exact ⟨rfl, .refl s⟩
  | created r _ _ _ _ hroles hframe => exact ⟨hroles, hframe⟩

theorem sendInvitation_ok {cfg : Settings} {call : Call} {s s' : Site} {tenant : Tenant}
    {email role : String} {invitedBy : User} {inv : TenantInvitation}
    (h : sendInvitation cfg call s tenant email role invitedBy = (.ok inv, s')) :
    ∃ r, role = r.value
      ∧ inv = newInvitation call tenant (cfg.lower (strip email)) r invitedBy := by
  rcases sendInvitation_outcome cfg call s tenant email role invitedBy with
    ⟨e, hraised⟩ | ⟨r, _, _, res, hrole, -, -, hcreated, hres⟩
  · rw [hraised] at h
    cases h
  · rw [hcreated] at h
    obtain ⟨rfl, -⟩ := Prod.mk.inj h
    rcases hres with hok | ⟨-, e, herror⟩
    · exact ⟨r, hrole, Except.ok.inj hok⟩
    · cases herror

/-! ### Accepting -/

/-- The invitation under which the call makes `user` a member: pending,
unexpired, of a tenant the user does not belong to. -/
def grants? (s : Site) (now : Time) (token : String) (user : User) :
    Option TenantInvitation :=
  match getByToken s token with
  | none => none
  | some (inv, tenant) =>
      if inv.isUsable now && !RBACService.isMember s user.pk tenant.id
          && (s.getUser user.pk).isSome then some inv
      else none

/-- The row an accepted invitation creates. -/
def grantedRow (s : Site) (inv : TenantInvitation) (user : User) : UserTenantRole :=
  ⟨user.pk, inv.tenant, inv.role, (inv.invitedBy.bind s.getUser).map (·.pk)⟩

theorem grants?_some {s : Site} {now : Time} {token : String} {user : User}
    {inv : TenantInvitation} (h : grants? s now token user = some inv) :
    inv ∈ s.invitations ∧ inv.token = token ∧ inv.isUsable now = true
      ∧ RBACService.isMember s user.pk inv.tenant = false
      ∧ (s.getUser user.pk).isSome = true ∧ (s.getTenant inv.tenant).isSome = true := by
  unfold grants? at h
  split at h
  · cases h
  · rename_i i tenant hget
    split at h
    · rename_i hcond
      obtain rfl := Option.some.inj h
      obtain ⟨hmem, htok, htm, hid⟩ := getByToken_some.mp hget
      simp only [Bool.and_eq_true, Bool.not_eq_true', hid] at hcond
      refine ⟨hmem, htok, hcond.1.1, hcond.1.2, hcond.2, ?_⟩
      rw [← hid, Site.getTenant_of_mem htm]; rfl
    · cases h

theorem roleFk_granted {s : Site} {inv : TenantInvitation} {user : User}
    (hu : (s.getUser user.pk).isSome = true) (ht : (s.getTenant inv.tenant).isSome = true) :
    RBACService.roleFk s (grantedRow s inv user) = true := by
  have hby : (((inv.invitedBy.bind s.getUser).map (·.pk)).all
      fun pk => (s.getUser pk).isSome) = true := by
    cases hb : inv.invitedBy.bind s.getUser with
    | none => rfl
    | some u =>
        obtain ⟨pk, -, hpk⟩ := Option.bind_eq_some_iff.mp hb
        obtain ⟨-, rfl⟩ := Site.getUser_some hpk
        simp [hpk]
  simp only [RBACService.roleFk, grantedRow, hu, ht, hby, Bool.and_self]

/-- The precondition holds: the role is assigned, then the invitation marked
and the entry written. -/
theorem acceptInvitation_eq {s : Site} {now : Time} {token : String} {user : User}
    {inv : TenantInvitation} (h : grants? s now token user = some inv) :
    ∃ tenant s₁, tenant.id = inv.tenant
      ∧ RBACService.assignRole s user tenant inv.role.value (inv.invitedBy.bind s.getUser)
        = (.ok (grantedRow s inv user), s₁)
      ∧ acceptInvitation s now token user
        = (.ok { inv with status := .accepted, acceptedBy := some user.pk },
          AuditService.log (saveInvitation s₁ inv.id (setAccepted user.pk)) .invitationAccepted
            (some tenant) (some user) "TenantInvitation" (uuidStr inv.id)
            [("email", .str inv.email), ("role", .str inv.role.value)]) := by
  obtain ⟨-, -, husable, hnot, hu, ht⟩ := grants?_some h
  simp only [TenantInvitation.isUsable, Bool.and_eq_true, decide_eq_true_eq,
    Bool.not_eq_true'] at husable
  unfold grants? at h
  split at h
  · cases h
  · rename_i i tenant hget
    split at h
    · obtain rfl := Option.some.inj h
      obtain ⟨-, -, -, hid⟩ := getByToken_some.mp hget
      have hrow : grantedRow s i user = ⟨user.pk, tenant.id, i.role,
          (i.invitedBy.bind s.getUser).map (·.pk)⟩ := by rw [grantedRow, hid]
      have hassign := RBACService.assignRole_of_fk (hrow ▸ roleFk_granted hu ht)
      rw [← hrow] at hassign
      refine ⟨tenant, _, hid, hassign, ?_⟩
      unfold acceptInvitation
      simp only [hget, husable.1, husable.2, hid ▸ hnot, ne_eq, not_true_eq_false, if_false,
        Bool.false_eq_true, hassign]
    · cases h

/-- The role row is put and the invitation marked, whatever else is in the
tables. -/
theorem acceptInvitation_of_grants {s : Site} {now : Time} {token : String} {user : User}
    {inv : TenantInvitation} (h : grants? s now token user = some inv) :
    (acceptInvitation s now token user).1
        = .ok { inv with status := .accepted, acceptedBy := some user.pk }
      ∧ (acceptInvitation s now token user).2.userTenantRoles
        = s.userTenantRoles.put (grantedRow s inv user)
      ∧ (acceptInvitation s now token user).2.invitations
        = (saveInvitation s inv.id (setAccepted user.pk)).invitations
      ∧ MembershipOnly s (acceptInvitation s now token user).2 := by
  obtain ⟨tenant, s₁, -, hassign, haccepted⟩ := acceptInvitation_eq h
  obtain ⟨r, -, -, -, rfl⟩ := RBACService.assignRole_ok hassign
  rw [haccepted]
  exact ⟨rfl, rfl, rfl, rfl, rfl, rfl, rfl, rfl⟩

/-- The precondition fails: the call raises, no role changes, and at most
a pending invitation that has expired is marked so. -/
theorem acceptInvitation_of_not {s : Site} {now : Time} {token : String} {user : User}
    (h : grants? s now token user = none) :
    (∃ e, (acceptInvitation s now token user).1 = .error e)
      ∧ ((acceptInvitation s now token user).2 = s
        ∨ ∃ inv tenant, getByToken s token = some (inv, tenant) ∧ inv.status = .pending
            ∧ inv.isExpired now = true
            ∧ (acceptInvitation s now token user).2
              = saveInvitation s inv.id (setStatus .expired)) := by
  unfold acceptInvitation
  split
  · exact ⟨⟨_, rfl⟩, Or.inl rfl⟩
  · rename_i inv tenant hget
    split
    · exact ⟨⟨_, rfl⟩, Or.inl rfl⟩
    · rename_i hpend
      simp only [ne_eq, Decidable.not_not] at hpend
      split
      · rename_i hexp
        exact ⟨⟨_, rfl⟩, Or.inr ⟨inv, tenant, hget, hpend, hexp, rfl⟩⟩
      · rename_i hexp
        split
        · exact ⟨⟨_, rfl⟩, Or.inl rfl⟩
        · rename_i hnot
          simp only [grants?, hget, TenantInvitation.isUsable, hpend, decide_true,
            Bool.not_eq_true _ ▸ hexp, Bool.not_eq_true _ ▸ hnot, Bool.not_false,
            Bool.true_and] at h
          split
          · rename_i e s₁ hres
            exact ⟨⟨e, rfl⟩, Or.inl (RBACService.assignRole_error hres)⟩
          · rename_i row s₁ hres
            obtain ⟨r, -, rfl, hfk, -⟩ := RBACService.assignRole_ok hres
            simp only [RBACService.roleFk, Bool.and_eq_true] at hfk
            rw [if_pos hfk.1.1] at h
            cases h

/-- An expired invitation is marked, whoever presents its token. -/
theorem acceptInvitation_of_expired {s : Site} {now : Time} {token : String} {user : User}
    {inv : TenantInvitation} {tenant : Tenant} (hget : getByToken s token = some (inv, tenant))
    (hpend : inv.status = .pending) (hexp : inv.isExpired now = true) :
    (acceptInvitation s now token user).2 = saveInvitation s inv.id (setStatus .expired) := by
  unfold acceptInvitation
  simp [hget, hpend, hexp]

theorem acceptInvitation_frame (s : Site) (now : Time) (token : String) (user : User) :
    MembershipOnly s (acceptInvitation s now token user).2 := by
  cases hg : grants? s now token user with
  | some inv => exact (acceptInvitation_of_grants hg).2.2.2
  | none =>
      rcases (acceptInvitation_of_not hg).2 with hs | ⟨inv, tenant, -, -, -, hs⟩
      · rw [hs]; exact .refl s
      · rw [hs]; exact ⟨rfl, rfl, rfl, rfl, rfl⟩

/-- Without a grant no role changes. -/
theorem acceptInvitation_roles {s : Site} {now : Time} {token : String} {user : User}
    (h : grants? s now token user = none) :
    (acceptInvitation s now token user).2.userTenantRoles = s.userTenantRoles := by
  rcases (acceptInvitation_of_not h).2 with hs | ⟨inv, tenant, -, -, -, hs⟩
  · rw [hs]
  · rw [hs]; rfl

/-! ### Revoking -/

theorem revokeInvitation_cases (s : Site) (invitationId : UUID) (tenant : Tenant)
    (revokedBy : User) :
    ((revokeInvitation s invitationId tenant revokedBy).2 = s
        ∧ ∃ e, (revokeInvitation s invitationId tenant revokedBy).1 = .error e)
      ∨ ∃ inv ∈ s.invitations, inv.id = invitationId ∧ inv.tenant = tenant.id
          ∧ inv.status = .pending
          ∧ (revokeInvitation s invitationId tenant revokedBy).1
              = .ok { inv with status := .revoked }
          ∧ (revokeInvitation s invitationId tenant revokedBy).2.invitations
              = (saveInvitation s inv.id (setStatus .revoked)).invitations
          ∧ (revokeInvitation s invitationId tenant revokedBy).2.userTenantRoles
              = s.userTenantRoles
          ∧ MembershipOnly s (revokeInvitation s invitationId tenant revokedBy).2 := by
  unfold revokeInvitation
  split
  · exact Or.inl ⟨rfl, _, rfl⟩
  · rename_i inv hfind
    obtain ⟨hmem, hkey⟩ := Table.find?_some hfind
    simp only [Bool.and_eq_true, beq_iff_eq] at hkey
    split
    · exact Or.inl ⟨rfl, _, rfl⟩
    · rename_i hpend
      simp only [ne_eq, Decidable.not_not] at hpend
      exact Or.inr ⟨inv, hmem, hkey.1, hkey.2, hpend, rfl, rfl, rfl, rfl, rfl, rfl, rfl, rfl⟩

theorem revokeInvitation_frame (s : Site) (invitationId : UUID) (tenant : Tenant)
    (revokedBy : User) :
    MembershipOnly s (revokeInvitation s invitationId tenant revokedBy).2 := by
  rcases revokeInvitation_cases s invitationId tenant revokedBy with
    ⟨hsame, -⟩ | ⟨inv, -, -, -, -, -, -, -, hframe⟩
  · rw [hsame]
    exact .refl s
  · exact hframe

end InvitationService

end SaasKit
