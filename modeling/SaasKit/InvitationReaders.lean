import SaasKit.InvitationConflict

/-!
# Who says that an invitation can be used

`is_usable`, `list_pending`, the public view of an invitation and the checks
of `accept_invitation` each put it in their own words. The view shows every
pending invitation, and tells the visitor of one that has expired
(`lapsed_shown`); with that, all of them say the same at every time but for
the instant of `expires_at`, which the list alone excludes (`readers_agree`).
-/

namespace SaasKit

/-- `InvitationSerializer`. The address of an inviter who is gone is left
out. -/
structure InvitationData where
  id : UUID
  tenantName : String
  email : String
  role : RoleChoices
  status : InvitationStatus
  invitedByEmail : Option String
  expiresAt : Time
  isExpired : Bool
  deriving DecidableEq, Repr

namespace InvitationReaders

open InvitationService

def invitationSerializer (s : Site) (now : Time) (inv : TenantInvitation) (tenant : Tenant) :
    InvitationData where
  id := inv.id
  tenantName := tenant.name
  email := inv.email
  role := inv.role
  status := inv.status
  invitedByEmail := (inv.invitedBy.bind s.getUser).map (·.email)
  expiresAt := inv.expiresAt
  isExpired := inv.isExpired now

/-- `InvitationDetailView.get`: the data, or the detail of the 404. -/
def invitationDetailGet (s : Site) (now : Time) (token : String) :
    Except String InvitationData :=
  match s.invitations.find? fun inv => inv.token == token && decide (inv.status = .pending) with
  | none => .error "Invitation not found."
  | some inv =>
      match s.getTenant inv.tenant with
      -- an inner join
      | none => .error "Invitation not found."
      | some tenant => .ok (invitationSerializer s now inv tenant)

section

variable {s : Site} {now : Time} {inv : TenantInvitation} {tenant : Tenant} {user : User}

theorem isUsable_iff : inv.isUsable now = true ↔ inv.status = .pending ∧ now ≤ inv.expiresAt := by
  simp only [TenantInvitation.isUsable, TenantInvitation.isExpired, Bool.and_eq_true,
    Bool.not_eq_true', decide_eq_true_eq, decide_eq_false_iff_not, Int.not_lt]

/-- A user who is not a member succeeds with a usable invitation, and with no
other. -/
theorem accept_ok_iff (hinv : inv ∈ s.invitations) (htenant : tenant ∈ s.tenants)
    (hid : tenant.id = inv.tenant) (huser : (s.getUser user.pk).isSome = true)
    (hnot : RBACService.isMember s user.pk inv.tenant = false) :
    (∃ row, (acceptInvitation s now inv.token user).1 = .ok row)
      ↔ inv.isUsable now = true := by
  have hget : getByToken s inv.token = some (inv, tenant) :=
    getByToken_some.mpr ⟨hinv, rfl, htenant, hid⟩
  have hgrants : grants? s now inv.token user
      = if inv.isUsable now = true then some inv else none := by
    simp only [grants?, hget, hid, hnot, huser, Bool.not_false, Bool.and_true]
  constructor
  · rintro ⟨row, hrow⟩
    by_contra hunusable
    rw [if_neg hunusable] at hgrants
    obtain ⟨e, herror⟩ := (acceptInvitation_of_not hgrants).1
    rw [herror] at hrow
    cases hrow
  · intro husable
    rw [if_pos husable] at hgrants
    exact ⟨_, (acceptInvitation_of_grants hgrants).1⟩

/-- The view finds the invitation as long as it is pending. -/
theorem detail_of_pending (hinv : inv ∈ s.invitations) (htenant : tenant ∈ s.tenants)
    (hid : tenant.id = inv.tenant) (hpending : inv.status = .pending) :
    invitationDetailGet s now inv.token = .ok (invitationSerializer s now inv tenant) := by
  have hfind : (s.invitations.find? fun i =>
      i.token == inv.token && decide (i.status = .pending)) = some inv := by
    refine Table.find?_eq_of_mem invitation_clash_symm hinv (by simp [hpending]) fun x hx => ?_
    rw [Bool.and_eq_true] at hx
    simp only [TenantInvitation.clash, Bool.or_eq_true]
    exact Or.inr hx.1
  have hjoin : s.getTenant inv.tenant = some tenant := hid ▸ Site.getTenant_of_mem htenant
  simp only [invitationDetailGet, hfind, hjoin]

theorem detail_ok (hinv : inv ∈ s.invitations) {data : InvitationData}
    (h : invitationDetailGet s now inv.token = .ok data) :
    inv.status = .pending ∧ data.id = inv.id ∧ data.isExpired = inv.isExpired now := by
  unfold invitationDetailGet at h
  split at h
  · cases h
  · rename_i found hfound
    obtain ⟨hmem, hkey⟩ := Table.find?_some hfound
    rw [Bool.and_eq_true, beq_iff_eq, decide_eq_true_eq] at hkey
    -- the token is the invitation's alone
    obtain rfl : found = inv := Table.eq_of_clash invitation_clash_symm hmem hinv (by
      simp [TenantInvitation.clash, hkey.1])
    split at h
    · cases h
    · obtain rfl := Except.ok.inj h
      exact ⟨hkey.2, rfl, rfl⟩

theorem mem_listPending (hinv : inv ∈ s.invitations) (hid : tenant.id = inv.tenant) :
    inv ∈ listPending s now tenant ↔ inv.status = .pending ∧ now < inv.expiresAt := by
  rw [listPending, List.mem_reverse, Table.mem_filter]
  simp only [hinv, hid, beq_self_eq_true, Bool.true_and, true_and, Bool.and_eq_true,
    decide_eq_true_eq]

end

/-- For an invitation of a tenant and a user who is no member of it: the
invitation can be accepted, and the view shows it as not expired, exactly
when it is usable; the view shows it while it is pending; and at any other
time than `expires_at` it is listed exactly when it is usable. -/
theorem readers_agree {s : Site} {now : Time} {inv : TenantInvitation} {tenant : Tenant}
    {user : User} (hinv : inv ∈ s.invitations) (htenant : tenant ∈ s.tenants)
    (hid : tenant.id = inv.tenant) (huser : (s.getUser user.pk).isSome = true)
    (hnot : RBACService.isMember s user.pk inv.tenant = false) :
    (inv.isUsable now = true
        ↔ ∃ row, (acceptInvitation s now inv.token user).1 = .ok row)
      ∧ (inv.isUsable now = true
        ↔ ∃ data, invitationDetailGet s now inv.token = .ok data ∧ data.id = inv.id
          ∧ data.isExpired = false)
      ∧ (inv.status = .pending
        ↔ ∃ data, invitationDetailGet s now inv.token = .ok data ∧ data.id = inv.id)
      ∧ (now ≠ inv.expiresAt → (inv.isUsable now = true ↔ inv ∈ listPending s now tenant)) := by
  refine ⟨(accept_ok_iff hinv htenant hid huser hnot).symm, ⟨fun husable => ?_, ?_⟩,
    ⟨fun hpending => ?_, ?_⟩, fun hinstant => ?_⟩
  · simp only [TenantInvitation.isUsable, Bool.and_eq_true, decide_eq_true_eq,
      Bool.not_eq_true'] at husable
    exact ⟨_, detail_of_pending hinv htenant hid husable.1, rfl, husable.2⟩
  · rintro ⟨data, hdata, -, hfresh⟩
    obtain ⟨hpending, -, hexpired⟩ := detail_ok hinv hdata
    simp only [TenantInvitation.isUsable, hpending, ← hexpired, hfresh, decide_true, Bool.not_false,
      Bool.and_self]
  · exact ⟨_, detail_of_pending hinv htenant hid hpending, rfl⟩
  · rintro ⟨data, hdata, -⟩
    exact (detail_ok hinv hdata).1
  · rw [isUsable_iff, mem_listPending hinv hid]
    exact and_congr_right fun _ => ⟨fun hle =>
      Int.lt_iff_le_and_ne.mpr ⟨hle, hinstant⟩, Int.le_of_lt⟩

/-- The guest of the demo data accepts the invitation as soon as it is sent. -/
theorem readers_agree_fresh :
    ∃ row, (acceptInvitation InvitationConflict.site 0 InvitationConflict.lapsed.token
      DemoSeed.guest).1 = .ok row :=
  (readers_agree (by decide)
    (by decide) rfl rfl rfl).1.mp rfl

/-- An invitation that has expired cannot be used, and the view returns it. -/
theorem lapsed_shown :
    ¬ ∀ (s : Site) (now : Time) (inv : TenantInvitation) (tenant : Tenant) (user : User),
      inv ∈ s.invitations → tenant ∈ s.tenants → tenant.isActive = true → tenant.id = inv.tenant →
      (s.getUser user.pk).isSome = true → RBACService.isMember s user.pk inv.tenant = false →
      (inv.isUsable now = true ↔ inv ∈ listPending s now tenant)
        ∧ (inv.isUsable now = true
          ↔ ∃ data, invitationDetailGet s now inv.token = .ok data ∧ data.id = inv.id)
        ∧ (inv.isUsable now = true
          ↔ ∃ row, (acceptInvitation s now inv.token user).1 = .ok row) := by
  intro hall
  obtain ⟨-, hview, -⟩ := hall InvitationConflict.site InvitationConflict.later.now
    InvitationConflict.lapsed DemoSeed.tenant1 DemoSeed.guest (by decide) (by decide) rfl rfl rfl
    rfl
  have husable : InvitationConflict.lapsed.isUsable InvitationConflict.later.now = true :=
    hview.mpr ⟨_, detail_of_pending (by decide) (by decide) rfl rfl, rfl⟩
  revert husable
  decide

end InvitationReaders

end SaasKit
