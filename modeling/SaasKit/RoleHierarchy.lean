import SaasKit.Lib.Run
import SaasKit.DemoSeed

/-!
# Owners over runs of requests

`ROLE_HIERARCHY` ranks the roles, and no code path compares ranks: an admin
may assign any role, take any role away and invite to any role. The
owners of a tenant are therefore safe only in runs whose admitted requests
respect the top rank of their own accord (`Respects`). There the
invariant is that no invitation to the owner role is pending, and each of
the four ways to change a role leaves the owners alone (`owners_run`).
-/

namespace SaasKit

namespace RoleHierarchy

open Views

/-- A request with what its call takes from outside the database. -/
structure Event where
  call : Call
  request : Request
  endpoint : Endpoint

def Step (cfg : Settings) (drf : Drf) (s : Site) (e : Event) (t : Site) : Prop :=
  t = (dispatch cfg drf e.call s e.request e.endpoint).2

/-- `pk` holds the owner role in tenant `id`. -/
def Owns (s : Site) (id : UUID) (pk : UserId) : Prop :=
  ∃ r ∈ s.userTenantRoles, r.user = pk ∧ r.tenant = id ∧ r.role = .owner

def SameOwners (id : UUID) (s t : Site) : Prop := ∀ pk, Owns t id pk ↔ Owns s id pk

/-- The request comes from nobody ranked as an owner of `id`. -/
def Below (id : UUID) (s : Site) (e : Event) : Prop :=
  ∀ u, Permissions.authenticate s e.request.bearer = .ok (some u) → u.isSuperuser = false
    ∧ ∀ r ∈ s.userTenantRoles, r.user = u.pk → r.tenant = id →
        r.role.weight < RoleChoices.owner.weight

/-- An admitted request assigns the owner role in `id` to owners only and
no other role to them, revokes no owner and invites nobody to be one. -/
def Respects (drf : Drf) (id : UUID) (s : Site) (e : Event) : Prop :=
  ∀ u, initial drf s e.request e.endpoint = .ok u →
    match e.endpoint with
    | .roleAssign tenantId data => tenantId = id → ∀ target role,
        roleAssignSerializer drf s data = .ok (target, role) →
        (role = RoleChoices.owner.value ↔ Owns s id target.pk)
    | .roleRevoke tenantId data => tenantId = id → ∀ target,
        roleRevokeSerializer drf s data = .ok target → ¬ Owns s id target.pk
    | .invitationCreate data => e.request.tenant.map (·.id) = some id → ∀ email role,
        invitationCreateSerializer drf data = .ok (email, role) →
        role ≠ RoleChoices.owner.value
    | _ => True

/-- Nobody is waiting to become an owner of `id`. -/
def NoOwnerInvitation (id : UUID) (s : Site) : Prop :=
  ∀ i ∈ s.invitations, i.tenant = id → i.status = .pending → i.role ≠ .owner

section

variable {cfg : Settings} {drf : Drf} {call : Call} {s : Site} {id : UUID}

theorem SameOwners.of_roles {t : Site} (h : t.userTenantRoles = s.userTenantRoles) :
    SameOwners id s t := by
  intro pk
  simp only [Owns, h]

/-- Putting a row keeps the owners when its user is an owner before and
after, or neither. -/
theorem SameOwners.of_put {t : Site} {row : UserTenantRole}
    (h : t.userTenantRoles = s.userTenantRoles.put row)
    (hsame : row.tenant = id → (row.role = .owner ↔ Owns s id row.user)) :
    SameOwners id s t := by
  intro pk
  constructor
  · rintro ⟨r, hr, huser, ht, hrole⟩
    rw [h] at hr
    rcases Table.mem_put.mp hr with rfl | ⟨hr, -⟩
    · exact huser ▸ (hsame ht).mp hrole
    · exact ⟨r, hr, huser, ht, hrole⟩
  · rintro ⟨r, hr, huser, ht, hrole⟩
    by_cases hkey : r.key = row.key
    · simp only [UserTenantRole.key, Prod.mk.injEq] at hkey
      have ht' : row.tenant = id := hkey.2.symm.trans ht
      refine ⟨row, by rw [h]; exact Table.mem_put.mpr (Or.inl rfl), hkey.1.symm.trans huser,
        ht', (hsame ht').mpr ⟨r, hr, hkey.1, ht, hrole⟩⟩
    · exact ⟨r, by rw [h]; exact Table.mem_put.mpr (Or.inr ⟨hr, hkey⟩), huser, ht, hrole⟩

theorem owners_assign {user : User} {tenantId : UUID} {data : Json}
    (h : tenantId = id → ∀ target role,
      roleAssignSerializer drf s data = .ok (target, role) →
      (role = RoleChoices.owner.value ↔ Owns s id target.pk)) :
    SameOwners id s (roleAssignPost drf s user tenantId data).2 := by
  unfold roleAssignPost
  split
  · exact .of_roles rfl
  · rename_i tenant htenant
    obtain ⟨-, rfl⟩ := Site.getTenant_some htenant
    split
    · exact .of_roles rfl
    · rename_i target role hval
      cases hres : RBACService.assignRole s target tenant role (some user) with
      | mk res t =>
          cases res with
          | error e => rw [RBACService.assignRole_error hres]; exact .of_roles rfl
          | ok row =>
              refine .of_put (RBACService.assignRole_roles hres) fun hid => ?_
              obtain ⟨r, rfl, rfl, -, -⟩ := RBACService.assignRole_ok hres
              rw [← h hid target _ hval]
              exact (RoleChoices.value_inj).symm

theorem owners_revoke {tenantId : UUID} {data : Json}
    (h : tenantId = id → ∀ target,
      roleRevokeSerializer drf s data = .ok target → ¬ Owns s id target.pk) :
    SameOwners id s (roleRevokePost drf s tenantId data).2 := by
  unfold roleRevokePost
  split
  · exact .of_roles rfl
  · rename_i tenant htenant
    obtain ⟨-, rfl⟩ := Site.getTenant_some htenant
    split
    · exact .of_roles rfl
    · rename_i target hval
      intro pk
      have hroles := @RBACService.revokeRole_roles s target tenant
      constructor
      · rintro ⟨r, hr, huser, ht, hrole⟩
        rw [hroles, Table.mem_delete] at hr
        exact ⟨r, hr.1, huser, ht, hrole⟩
      · rintro ⟨r, hr, huser, ht, hrole⟩
        refine ⟨r, ?_, huser, ht, hrole⟩
        rw [hroles, Table.mem_delete]
        refine ⟨hr, ?_⟩
        by_contra hmine
        simp only [Bool.not_eq_false, Bool.and_eq_true, beq_iff_eq] at hmine
        -- the deleted row would be an owner's
        exact h (hmine.2.symm.trans ht) target hval ⟨r, hr, hmine.1, ht, hrole⟩

/-- Accepting makes nobody an owner while no owner invitation is pending. -/
theorem owners_accept {user : User} {token : String} (hinv : NoOwnerInvitation id s) :
    SameOwners id s (invitationAcceptPost call s user token).2 := by
  cases hg : InvitationService.grants? s call.now token user with
  | none => exact .of_roles (InvitationService.acceptInvitation_roles hg)
  | some inv =>
      obtain ⟨-, hroles, -, -⟩ := InvitationService.acceptInvitation_of_grants hg
      obtain ⟨hmem, -, husable, hnot, -, -⟩ := InvitationService.grants?_some hg
      refine .of_put hroles fun hid => ?_
      simp only [TenantInvitation.isUsable, Bool.and_eq_true, decide_eq_true_eq] at husable
      constructor
      · intro hrole
        exact absurd hrole (hinv inv hmem hid husable.1)
      · rintro ⟨r, hr, huser, ht, -⟩
        have hmember := RBACService.isMember_iff.mpr ⟨r, hr, huser, ht⟩
        simp only [InvitationService.grantedRow] at hid hmember
        rw [← hid, hnot] at hmember
        cases hmember

/-- No handler that keeps the statuses of pending invitations and the role
of new ones brings an owner invitation. -/
theorem NoOwnerInvitation.of_save {inv : TenantInvitation}
    {f : Table.Rewrite TenantInvitation.clash} (h : NoOwnerInvitation id s)
    (hf : ∀ i, (f.apply i).status ≠ .pending) {t : Site}
    (ht : t.invitations = (InvitationService.saveInvitation s inv.id f).invitations) :
    NoOwnerInvitation id t := by
  intro i hi hid hpend
  rw [ht] at hi
  obtain ⟨j, hj, rfl⟩ := Table.mem_modify.mp hi
  split at hpend
  · exact absurd hpend (hf j)
  · rename_i hne
    rw [if_neg hne] at hid ⊢
    exact h j hj hid hpend

theorem NoOwnerInvitation.of_eq {t : Site} (h : NoOwnerInvitation id s)
    (ht : t.invitations = s.invitations) : NoOwnerInvitation id t := by
  intro i hi
  rw [ht] at hi
  exact h i hi

theorem noOwnerInvitation_create {user : User} {tenant : Option Tenant} {data : Json}
    (hinv : NoOwnerInvitation id s)
    (h : tenant.map (·.id) = some id → ∀ email role,
      invitationCreateSerializer drf data = .ok (email, role) →
      role ≠ RoleChoices.owner.value) :
    NoOwnerInvitation id (invitationCreatePost cfg drf call s user tenant data).2 := by
  unfold invitationCreatePost
  split
  · exact hinv
  · rename_i tenant
    split
    · exact hinv
    · rename_i email role hval
      have hcases := InvitationService.sendInvitation_cases cfg call s tenant email role user
      simp only
      generalize (InvitationService.sendInvitation cfg call s tenant email role user).2 = t
        at hcases ⊢
      cases hcases with
      | refused => exact hinv
      | created r _ hrole _ hins _ _ =>
          intro i hi hid hpend
          rcases (Table.mem_insert? hins).mp hi with hi | rfl
          · exact hinv i hi hid hpend
          · -- the new invitation has the role the guard let through
            intro howner
            have hne := h (congrArg some hid) email role hval
            rw [hrole] at hne
            exact hne (by rw [show r = .owner from howner])

theorem noOwnerInvitation_accept {user : User} {token : String}
    (hinv : NoOwnerInvitation id s) :
    NoOwnerInvitation id (invitationAcceptPost call s user token).2 := by
  cases hg : InvitationService.grants? s call.now token user with
  | some inv =>
      obtain ⟨-, -, hsave, -⟩ := InvitationService.acceptInvitation_of_grants hg
      exact hinv.of_save (fun _ h => by cases h) hsave
  | none =>
      rcases (InvitationService.acceptInvitation_of_not hg).2 with hs | ⟨inv, _, -, -, -, hs⟩
      · rw [invitationAcceptPost, hs]; exact hinv
      · rw [invitationAcceptPost, hs]
        exact @NoOwnerInvitation.of_save s id inv _ hinv (fun _ h => by cases h) _ rfl

theorem noOwnerInvitation_revoke {user : User} {tenant : Option Tenant} {invitationId : UUID}
    (hinv : NoOwnerInvitation id s) :
    NoOwnerInvitation id (invitationRevokeDelete s user tenant invitationId).2
      ∧ SameOwners id s (invitationRevokeDelete s user tenant invitationId).2 := by
  cases tenant with
  | none => exact ⟨hinv, .of_roles rfl⟩
  | some tenant =>
      rcases InvitationService.revokeInvitation_cases s invitationId tenant user with
        ⟨hs, -⟩ | ⟨inv, -, -, -, -, -, hsave, hroles, -⟩
      · rw [invitationRevokeDelete, hs]; exact ⟨hinv, .of_roles rfl⟩
      · exact ⟨hinv.of_save (fun _ h => by cases h) hsave, .of_roles hroles⟩

/-! ## Steps and runs -/

/-- What one request keeps. -/
theorem step_keeps {t : Site} {e : Event} (hinv : NoOwnerInvitation id s)
    (hstep : Step cfg drf s e t) (hresp : Respects drf id s e) :
    NoOwnerInvitation id t ∧ SameOwners id s t := by
  unfold Step dispatch at hstep
  subst hstep
  split
  · exact ⟨hinv, .of_roles rfl⟩
  · rename_i u hinitial
    have hguard := hresp u hinitial
    cases hep : e.endpoint with
    | userList => exact ⟨hinv, .of_roles rfl⟩
    | auditLogList action actor => exact ⟨hinv, .of_roles rfl⟩
    | invitationList => exact ⟨hinv, .of_roles rfl⟩
    | roleList tenantId => exact ⟨hinv, .of_roles rfl⟩
    | invitationRevoke invitationId => exact noOwnerInvitation_revoke hinv
    | invitationAccept token => exact ⟨noOwnerInvitation_accept hinv, owners_accept hinv⟩
    | invitationCreate data =>
        rw [hep] at hguard
        refine ⟨noOwnerInvitation_create hinv hguard, .of_roles ?_⟩
        simp only [handle, invitationCreatePost]
        split
        · rfl
        · split
          · rfl
          · exact (InvitationService.sendInvitation_frame ..).1
    | roleAssign tenantId data =>
        rw [hep] at hguard
        refine ⟨hinv.of_eq ?_, owners_assign hguard⟩
        simp only [handle, roleAssignPost]
        split
        · rfl
        · split
          · rfl
          · exact RBACService.assignRole_frame.invitations
    | roleRevoke tenantId data =>
        rw [hep] at hguard
        refine ⟨hinv.of_eq ?_, owners_revoke hguard⟩
        simp only [handle, roleRevokePost]
        split
        · rfl
        · split
          · rfl
          · exact RBACService.revokeRole_frame.invitations

end

/-- In a run of requests by users below the owners, each of which respects
the owner role, the owners of the tenant stay the same. -/
theorem owners_run (cfg : Settings) (drf : Drf) (id : UUID) (s t : Site) (es : List Event)
    (hinv : NoOwnerInvitation id s)
    (hrun : Lts.Run (Lts.Guarded (Step cfg drf) fun s e => Below id s e ∧ Respects drf id s e)
      s es t) :
    ∀ pk, Owns t id pk ↔ Owns s id pk := by
  have hkept := hrun.relates (I := NoOwnerInvitation id) (R := SameOwners id)
    (fun _ _ => Iff.rfl) (fun _ _ _ hst htu pk => (htu pk).trans (hst pk))
    (fun _ _ _ hI hstep => step_keeps hI hstep.1 hstep.2.2) hinv
  exact hkept.2

/-! ## The demo admin -/

/-- The admin of Tenant One gives itself the role named. -/
def assignSelf (role : String) : Event where
  call := DemoSeed.callAt 0 1
  request := ⟨some 1, none, some DemoSeed.tenant1⟩
  endpoint := .roleAssign DemoSeed.tenant1.id
    (.obj [("user_id", .num 1), ("role", .str role)])

theorem assignSelf_below (role : String) :
    Below DemoSeed.tenant1.id DemoSeed.site (assignSelf role) := by
  intro u hu
  obtain rfl : DemoSeed.admin = u := Option.some.inj (Except.ok.inj hu)
  exact ⟨rfl, by decide⟩

theorem demo_noOwnerInvitation : NoOwnerInvitation DemoSeed.tenant1.id DemoSeed.site :=
  fun i hi => absurd hi (Table.not_mem_empty i)

/-- The site after that request. -/
def assigned (role : String) : Site :=
  (dispatch DemoSeed.settings DemoSeed.drf (assignSelf role).call DemoSeed.site
    (assignSelf role).request (assignSelf role).endpoint).2

/-- Stepping down to member respects the owners and makes none. -/
theorem no_owner_after_member : ¬ Owns (assigned "member") DemoSeed.tenant1.id 1 := by
  have hresp : Respects DemoSeed.drf DemoSeed.tenant1.id DemoSeed.site
      (assignSelf "member") := by
    intro u _ _ target role hval
    have hval' : roleAssignSerializer DemoSeed.drf DemoSeed.site
        (.obj [("user_id", .num 1), ("role", .str "member")])
        = .ok (DemoSeed.admin, "member") := by rfl
    obtain ⟨rfl, rfl⟩ := Prod.mk.inj (Except.ok.inj (hval'.symm.trans hval))
    unfold Owns
    decide
  have hrun := owners_run DemoSeed.settings DemoSeed.drf DemoSeed.tenant1.id DemoSeed.site
    (assigned "member") [assignSelf "member"] demo_noOwnerInvitation
    (.cons ⟨rfl, assignSelf_below _, hresp⟩ (.nil _))
  rw [hrun 1]
  unfold Owns
  decide

/-- The admin makes itself an owner. -/
theorem admin_becomes_owner :
    ¬ ∀ (cfg : Settings) (drf : Drf) (id : UUID) (s t : Site) (es : List Event),
      NoOwnerInvitation id s →
      Lts.Run (Lts.Guarded (Step cfg drf) (Below id)) s es t →
      ∀ pk, Owns t id pk ↔ Owns s id pk := by
  intro hall
  have h := hall DemoSeed.settings DemoSeed.drf DemoSeed.tenant1.id DemoSeed.site
    (assigned "owner") [assignSelf "owner"] demo_noOwnerInvitation
    (.cons ⟨rfl, assignSelf_below _⟩ (.nil _)) 1
  revert h
  unfold Owns
  decide

end RoleHierarchy

end SaasKit
