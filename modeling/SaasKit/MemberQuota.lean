import Mathlib.Data.List.Induction
import SaasKit.DemoSeed

/-!
# The member quota over runs

`check_member_limit` is asked to be called before a member is added, but
only sending an invitation calls it; members are added by accepting one
and by assigning a role. `Joins` says when an operation adds a member to a
tenant, `count_apply` that nothing else raises the count, and
`quota_kept_iff` that a run keeps the quota exactly when every joining
step is taken where the check would pass.
-/

namespace SaasKit

namespace MemberQuota

open PlanLimitService

/-- The operations of a run: the three service calls on memberships, the
sending of invitations and the assignment view. -/
inductive Op where
  | send (cfg : Settings) (call : Call) (tenant : Tenant) (email role : String)
      (invitedBy : User)
  | accept (now : Time) (token : String) (user : User)
  | assign (user : User) (tenant : Tenant) (role : String) (assignedBy : Option User)
  | assignView (drf : Drf) (user : User) (tenantId : UUID) (data : Json)
  | revoke (user : User) (tenant : Tenant)

def Op.apply (s : Site) : Op → Site
  | .send cfg call tenant email role invitedBy =>
      (InvitationService.sendInvitation cfg call s tenant email role invitedBy).2
  | .accept now token user => (InvitationService.acceptInvitation s now token user).2
  | .assign user tenant role assignedBy =>
      (RBACService.assignRole s user tenant role assignedBy).2
  | .assignView drf user tenantId data => (Views.roleAssignPost drf s user tenantId data).2
  | .revoke user tenant => (RBACService.revokeRole s user tenant).2

def run (s : Site) (ops : List Op) : Site := ops.foldl Op.apply s

/-- The assignment goes through and its user is not in tenant `id` yet. -/
def Assigns (s : Site) (user : User) (tenant : Tenant) (role : String)
    (assignedBy : Option User) (id : UUID) : Prop :=
  tenant.id = id ∧ RBACService.isMember s user.pk id = false
    ∧ ∃ r, role = RoleChoices.value r
      ∧ RBACService.roleFk s ⟨user.pk, tenant.id, r, assignedBy.map (·.pk)⟩ = true

/-- The operation adds a member to tenant `id`. -/
def Joins (s : Site) (id : UUID) : Op → Prop
  | .accept now token user =>
      ∃ inv, InvitationService.grants? s now token user = some inv ∧ inv.tenant = id
  | .assign user tenant role assignedBy => Assigns s user tenant role assignedBy id
  | .assignView drf user tenantId data => ∃ tenant target role,
      s.getTenant tenantId = some tenant
        ∧ Views.roleAssignSerializer drf s data = .ok (target, role)
        ∧ Assigns s target tenant role (some user) id
  | .send .. | .revoke .. => False

section

variable {s : Site} {T : Tenant}

theorem count_eq {s s' : Site} (h : s'.userTenantRoles = s.userTenantRoles) :
    getMemberCount s' T = getMemberCount s T := by
  simp only [getMemberCount, h]

/-- A put adds a member when its user is new to the tenant. -/
theorem count_put {s' : Site} {row : UserTenantRole}
    (h : s'.userTenantRoles = s.userTenantRoles.put row) :
    (row.tenant = T.id ∧ RBACService.isMember s row.user T.id = false →
        getMemberCount s' T = getMemberCount s T + 1)
      ∧ (¬ (row.tenant = T.id ∧ RBACService.isMember s row.user T.id = false) →
        getMemberCount s' T = getMemberCount s T) := by
  unfold getMemberCount
  rw [h]
  by_cases hmember : RBACService.isMember s row.user row.tenant = true
  · -- the put replaces the row of its user
    obtain ⟨y, hy, huser, htenant⟩ := RBACService.isMember_iff.mp hmember
    have hsame : (s.userTenantRoles.put row).count (·.tenant == T.id)
        = s.userTenantRoles.count (·.tenant == T.id) := by
      refine Table.count_put_old _ (fun x hx => ?_) hy
        (by simp [UserTenantRole.key, huser, htenant])
      simp only [UserTenantRole.key, Prod.mk.injEq] at hx
      simp [hx.2]
    refine ⟨?_, fun _ => hsame⟩
    rintro ⟨ht, hnot⟩
    rw [ht, hnot] at hmember
    cases hmember
  · have hfree : ∀ x ∈ s.userTenantRoles, x.key ≠ row.key := by
      intro x hx hkey
      simp only [UserTenantRole.key, Prod.mk.injEq] at hkey
      exact hmember (RBACService.isMember_iff.mpr ⟨x, hx, hkey⟩)
    rw [Table.count_put_new _ hfree]
    constructor
    · rintro ⟨ht, -⟩
      simp [ht]
    · intro hnot
      have ht : row.tenant ≠ T.id := by
        intro ht
        refine hnot ⟨ht, ?_⟩
        rw [← ht]
        exact Bool.not_eq_true _ ▸ hmember
      simp [ht]

theorem count_assignRole {user : User} {tenant : Tenant} {role : String}
    {assignedBy : Option User} :
    (Assigns s user tenant role assignedBy T.id →
        getMemberCount (RBACService.assignRole s user tenant role assignedBy).2 T
          = getMemberCount s T + 1)
      ∧ (¬ Assigns s user tenant role assignedBy T.id →
        getMemberCount (RBACService.assignRole s user tenant role assignedBy).2 T
          = getMemberCount s T) := by
  cases hres : RBACService.assignRole s user tenant role assignedBy with
  | mk res s' =>
      cases res with
      | error e =>
          refine ⟨?_, fun _ => by rw [RBACService.assignRole_error hres]⟩
          rintro ⟨-, -, r, rfl, hfk⟩
          have hok := RBACService.assignRole_of_valid hfk
          rw [hres] at hok
          cases hok
      | ok row =>
          obtain ⟨hnew, hold⟩ := @count_put s T _ _ (RBACService.assignRole_roles hres)
          obtain ⟨r, rfl, rfl, hfk, -⟩ := RBACService.assignRole_ok hres
          refine ⟨fun h => hnew ⟨h.1, h.2.1⟩, fun h => hold ?_⟩
          rintro ⟨ht, hmember⟩
          exact h ⟨ht, hmember, r, rfl, hfk⟩

theorem count_accept {now : Time} {token : String} {user : User} :
    (Joins s T.id (.accept now token user) →
        getMemberCount (InvitationService.acceptInvitation s now token user).2 T
          = getMemberCount s T + 1)
      ∧ (¬ Joins s T.id (.accept now token user) →
        getMemberCount (InvitationService.acceptInvitation s now token user).2 T
          = getMemberCount s T) := by
  cases hg : InvitationService.grants? s now token user with
  | none =>
      refine ⟨?_, fun _ => count_eq (InvitationService.acceptInvitation_roles hg)⟩
      rintro ⟨inv, hinv, -⟩
      rw [hg] at hinv
      cases hinv
  | some inv =>
      obtain ⟨-, hroles, -, -⟩ := InvitationService.acceptInvitation_of_grants hg
      obtain ⟨-, -, -, hmember, -, -⟩ := InvitationService.grants?_some hg
      obtain ⟨hnew, hold⟩ := @count_put s T _ _ hroles
      constructor
      · rintro ⟨inv', hinv, ht⟩
        obtain rfl : inv = inv' := Option.some.inj (hg.symm.trans hinv)
        exact hnew ⟨ht, ht ▸ hmember⟩
      · exact fun h => hold fun hjoin => h ⟨inv, hg, hjoin.1⟩

theorem count_assignView {drf : Drf} {user : User} {tenantId : UUID} {data : Json} :
    (Joins s T.id (.assignView drf user tenantId data) →
        getMemberCount (Views.roleAssignPost drf s user tenantId data).2 T
          = getMemberCount s T + 1)
      ∧ (¬ Joins s T.id (.assignView drf user tenantId data) →
        getMemberCount (Views.roleAssignPost drf s user tenantId data).2 T
          = getMemberCount s T) := by
  unfold Views.roleAssignPost
  constructor
  · rintro ⟨tenant, target, role, htenant, hval, hassign⟩
    simp only [htenant, hval]
    exact count_assignRole.1 hassign
  · intro hnot
    split
    · rfl
    · rename_i tenant htenant
      split
      · rfl
      · rename_i target role hval
        exact count_assignRole.2 fun hassign => hnot ⟨tenant, target, role, htenant, hval, hassign⟩

/-- What one operation does to the count of a tenant. -/
theorem count_apply (op : Op) :
    (Joins s T.id op → getMemberCount (op.apply s) T = getMemberCount s T + 1)
      ∧ (¬ Joins s T.id op → getMemberCount (op.apply s) T ≤ getMemberCount s T) := by
  cases op with
  | send cfg call tenant email role invitedBy =>
      exact ⟨fun h => h.elim, fun _ =>
        Nat.le_of_eq (count_eq (InvitationService.sendInvitation_frame ..).1)⟩
  | accept now token user =>
      exact ⟨count_accept.1, fun h => Nat.le_of_eq (count_accept.2 h)⟩
  | assign user tenant role assignedBy =>
      exact ⟨count_assignRole.1, fun h => Nat.le_of_eq (count_assignRole.2 h)⟩
  | assignView drf user tenantId data =>
      exact ⟨count_assignView.1, fun h => Nat.le_of_eq (count_assignView.2 h)⟩
  | revoke user tenant =>
      refine ⟨fun h => h.elim, fun _ => ?_⟩
      simp only [Op.apply, getMemberCount, RBACService.revokeRole_roles]
      exact Table.count_delete_le _ _ _

/-- No operation touches plans or subscriptions. -/
theorem quota_apply (op : Op) : quota (op.apply s) T = quota s T := by
  cases op with
  | send cfg call tenant email role invitedBy =>
      have hframe := (InvitationService.sendInvitation_frame cfg call s tenant email role
        invitedBy).2
      exact quota_congr hframe.plans hframe.subscriptions
  | accept now token user =>
      have hframe := InvitationService.acceptInvitation_frame s now token user
      exact quota_congr hframe.plans hframe.subscriptions
  | assign user tenant role assignedBy =>
      have hframe := @RBACService.assignRole_frame s user tenant role assignedBy
      exact quota_congr hframe.plans hframe.subscriptions
  | assignView drf user tenantId data =>
      simp only [Op.apply, Views.roleAssignPost]
      split
      · rfl
      · split
        · rfl
        · exact quota_congr RBACService.assignRole_frame.plans
            RBACService.assignRole_frame.subscriptions
  | revoke user tenant =>
      have hframe := @RBACService.revokeRole_frame s user tenant
      exact quota_congr hframe.plans hframe.subscriptions

theorem quota_run (ops : List Op) : quota (run s ops) T = quota s T := by
  induction ops generalizing s with
  | nil => rfl
  | cons op ops ih => exact ih.trans (quota_apply op)

theorem run_snoc (ops : List Op) (op : Op) : run s (ops ++ [op]) = op.apply (run s ops) := by
  simp [run, List.foldl_append]

end

/-- The quota holds all along a run exactly when every step that adds a
member is taken in a state where `check_member_limit` passes. -/
theorem quota_kept_iff (s : Site) (T : Tenant) (n : Nat) (ops : List Op)
    (hquota : quota s T = some n) (hstart : getMemberCount s T ≤ n) :
    (∀ pre, pre <+: ops → getMemberCount (run s pre) T ≤ n)
      ↔ ∀ pre op, pre ++ [op] <+: ops → Joins (run s pre) T.id op →
          checkMemberLimit (run s pre) T = .ok () := by
  have hcheck := fun pre : List Op => checkMemberLimit_ok ((quota_run (s := s) pre).trans hquota)
  constructor
  · intro hkept pre op hpre hjoins
    have hafter := hkept _ hpre
    rw [run_snoc, (count_apply op).1 hjoins] at hafter
    exact (hcheck pre).mpr (by omega)
  · intro hok pre
    -- induction on the length of the prefix, its last step split off
    induction pre using List.reverseRecOn with
    | nil => exact fun _ => hstart
    | append_singleton pre op ih =>
        intro hpre
        have hbefore := ih ((List.prefix_append pre [op]).trans hpre)
        rw [run_snoc]
        by_cases hjoins : Joins (run s pre) T.id op
        · have hroom := (hcheck pre).mp (hok pre op hpre hjoins)
          rw [(count_apply op).1 hjoins]
          omega
        · exact Nat.le_trans ((count_apply op).2 hjoins) hbefore

/-! ## Two users and a plan -/

/-- The demo data with a second user, and a plan of `max` members for Tenant
One, where the admin is the only member. -/
def planned (max : Nat) : Site :=
  { DemoSeed.site with
    users := ⟨[DemoSeed.admin, DemoSeed.guest], DemoSeed.admin_guest_distinct⟩
    plans := ⟨[⟨1, "starter", max⟩], List.pairwise_singleton ..⟩
    subscriptions := ⟨[⟨1, DemoSeed.tenant1.id, some 1, "cus_1", none, "", Subscription.active,
      none, none, none, false, none⟩], by decide⟩ }

/-- The admin assigns the guest a role. -/
def assignGuest : Op := .assign DemoSeed.guest DemoSeed.tenant1 "member" (some DemoSeed.admin)

theorem quota_kept_with_room :
    getMemberCount (run (planned 2) [assignGuest]) DemoSeed.tenant1 ≤ 2 := by
  refine (quota_kept_iff (planned 2) DemoSeed.tenant1 2 [assignGuest] (by decide)
    (by decide)).mpr ?_ _ List.prefix_rfl
  intro pre op hpre _
  have hlen := hpre.length_le
  cases pre with
  | nil => decide
  | cons first rest => simp at hlen

/-- A plan for one member, its one member, and a role assigned to a second:
two members. -/
theorem quota_exceeded :
    ¬ ∀ (s : Site) (T : Tenant) (n : Nat) (ops : List Op), quota s T = some n →
      getMemberCount s T ≤ n → ∀ pre, pre <+: ops → getMemberCount (run s pre) T ≤ n := by
  intro hall
  have h := hall (planned 1) DemoSeed.tenant1 1 [assignGuest] (by decide) (by decide)
    [assignGuest] List.prefix_rfl
  revert h
  decide

end MemberQuota

end SaasKit
