import SaasKit.DemoSeed

/-!
# When an invitation is refused as a duplicate

`send_invitation` looks for an invitation with status `PENDING`, and an
invitation keeps that status when it expires, until somebody presents its
token. `list_pending` does not show it any more then. And of several users
with the address it looks at the first. Apart from these two the call
conflicts when it should (`conflicts_iff`).
-/

namespace SaasKit

namespace InvitationConflict

open InvitationService

/-- `email.strip().lower()`. -/
def normalised (cfg : Settings) (email : String) : String := cfg.lower (strip email)

/-- A user with the address is a member of the tenant. -/
def Member (s : Site) (tenant : Tenant) (email : String) : Prop :=
  ∃ user ∈ s.users, user.email = email ∧ RBACService.isMember s user.pk tenant.id = true

/-- There is a usable invitation for the address. -/
def Invited (s : Site) (now : Time) (tenant : Tenant) (email : String) : Prop :=
  ∃ inv ∈ s.invitations, inv.tenant = tenant.id ∧ inv.email = email ∧ inv.isUsable now = true

/-- There is an invitation for the address that nobody has accepted, revoked
or found expired. -/
def Pending (s : Site) (tenant : Tenant) (email : String) : Prop :=
  ∃ inv ∈ s.invitations, inv.tenant = tenant.id ∧ inv.email = email ∧ inv.status = .pending

/-- The first user with the address is a member. -/
def FirstMember (s : Site) (tenant : Tenant) (email : String) : Prop :=
  ∃ user, firstByPk (s.users.filter (·.email == email)) = some user
    ∧ RBACService.isMember s user.pk tenant.id = true

/-- The call conflicts if and only if there is a member or a usable
invitation, and creates one pending invitation otherwise. -/
structure Conflicts (cfg : Settings) (call : Call) (s : Site) (tenant : Tenant)
    (email role : String) (invitedBy : User) : Prop where
  conflict : (∃ message, (sendInvitation cfg call s tenant email role invitedBy).1
      = .error (.conflictServiceError message))
    ↔ Member s tenant (normalised cfg email)
      ∨ Invited s call.now tenant (normalised cfg email)
  creates : ¬ (Member s tenant (normalised cfg email)
      ∨ Invited s call.now tenant (normalised cfg email)) →
    ∃ inv, inv.tenant = tenant.id ∧ inv.email = normalised cfg email ∧ inv.status = .pending
      ∧ (sendInvitation cfg call s tenant email role invitedBy).1 = .ok inv
      ∧ (sendInvitation cfg call s tenant email role invitedBy).2.invitations.rows
        = s.invitations.rows ++ [inv]

/-- No expired invitation for the address is left pending, unless there is
reason to conflict besides; and a member with the address is the first user
with it, unless an invitation is pending. -/
structure Settled (s : Site) (now : Time) (tenant : Tenant) (email : String) : Prop where
  pending : Pending s tenant email → Member s tenant email ∨ Invited s now tenant email
  member : Member s tenant email → FirstMember s tenant email ∨ Pending s tenant email

section

variable {cfg : Settings} {call : Call} {s : Site} {tenant : Tenant} {email role : String}
variable {r : RoleChoices} {invitedBy : User} {now : Time}

theorem Invited.pending (h : Invited s now tenant email) : Pending s tenant email := by
  obtain ⟨inv, hinv, htenant, hemail, husable⟩ := h
  simp only [TenantInvitation.isUsable, Bool.and_eq_true, decide_eq_true_eq] at husable
  exact ⟨inv, hinv, htenant, hemail, husable.1⟩

theorem FirstMember.member (h : FirstMember s tenant email) : Member s tenant email := by
  obtain ⟨user, hfirst, hmember⟩ := h
  obtain ⟨huser, hemail⟩ := Table.mem_filter.mp (firstByPk_mem hfirst)
  exact ⟨user, huser, eq_of_beq hemail, hmember⟩

theorem firstMember_iff : FirstMember s tenant email ↔
    ((firstByPk (s.users.filter (·.email == email))).any fun user =>
      RBACService.isMember s user.pk tenant.id) = true := by
  unfold FirstMember
  cases firstByPk (s.users.filter (·.email == email)) with
  | none => simp
  | some user => simp

theorem pending_iff : Pending s tenant email ↔
    (s.invitations.any fun inv => inv.tenant == tenant.id && inv.email == email
      && decide (inv.status = .pending)) = true := by
  simp only [Pending, Table.any_iff, Bool.and_eq_true, beq_iff_eq, decide_eq_true_eq, and_assoc]

/-- What the call goes by. -/
theorem sendInvitation_conflict (hrole : RoleChoices.ofValue? role = some r)
    (h : FirstMember s tenant (normalised cfg email) ∨ Pending s tenant (normalised cfg email)) :
    ∃ message, (sendInvitation cfg call s tenant email role invitedBy).1
      = .error (.conflictServiceError message) := by
  unfold sendInvitation
  simp only [hrole]
  split
  · exact ⟨_, rfl⟩
  · rename_i hnot
    split
    · exact ⟨_, rfl⟩
    · rename_i hfree
      rcases h with hfirst | hpending
      · exact absurd (firstMember_iff.mp hfirst) hnot
      · exact absurd (pending_iff.mp hpending) hfree

/-- Without a conflict, and with nothing else in the way, the invitation is
created. -/
theorem sendInvitation_creates (hrole : RoleChoices.ofValue? role = some r)
    (hquota : PlanLimitService.checkMemberLimit s tenant = .ok ())
    (hcreate : ∃ s', createInvitation s
      (newInvitation call tenant (normalised cfg email) r invitedBy) = .ok s')
    (hbroker : call.brokerUp = true)
    (hnot : ¬ FirstMember s tenant (normalised cfg email))
    (hfree : ¬ Pending s tenant (normalised cfg email)) :
    ∃ inv, inv.tenant = tenant.id ∧ inv.email = normalised cfg email ∧ inv.status = .pending
      ∧ (sendInvitation cfg call s tenant email role invitedBy).1 = .ok inv
      ∧ (sendInvitation cfg call s tenant email role invitedBy).2.invitations.rows
        = s.invitations.rows ++ [inv] := by
  obtain ⟨s', hcreate⟩ := hcreate
  obtain ⟨invitations, hinsert, rfl⟩ := createInvitation_ok hcreate
  rw [firstMember_iff] at hnot
  rw [pending_iff] at hfree
  unfold normalised at hnot hfree hcreate hinsert ⊢
  refine ⟨newInvitation call tenant (cfg.lower (strip email)) r invitedBy, rfl, rfl, rfl, ?_, ?_⟩
  · unfold sendInvitation
    simp only [hrole, if_neg hnot, if_neg hfree, hquota, hcreate, dispatchEmail, hbroker, if_true]
  · unfold sendInvitation
    simp only [hrole, if_neg hnot, if_neg hfree, hquota, hcreate, dispatchEmail, hbroker, if_true]
    exact Table.insert?_rows hinsert

/-- With a valid role, room in the plan and no failure of database or broker,
the call conflicts exactly when it should if and only if the address is
settled. -/
theorem conflicts_iff (hrole : RoleChoices.ofValue? role = some r)
    (hquota : PlanLimitService.checkMemberLimit s tenant = .ok ())
    (hcreate : ∃ s', createInvitation s
      (newInvitation call tenant (normalised cfg email) r invitedBy) = .ok s')
    (hbroker : call.brokerUp = true) :
    Conflicts cfg call s tenant email role invitedBy
      ↔ Settled s call.now tenant (normalised cfg email) := by
  constructor
  · intro h
    refine ⟨fun hpending => ?_, fun hmember => ?_⟩
    · exact h.conflict.mp (sendInvitation_conflict hrole (Or.inr hpending))
    · by_contra hnone
      rw [not_or] at hnone
      obtain ⟨message, hraised⟩ := h.conflict.mpr (Or.inl hmember)
      obtain ⟨inv, -, -, -, hcreated, -⟩ :=
        sendInvitation_creates hrole hquota hcreate hbroker hnone.1 hnone.2
      rw [hraised] at hcreated
      cases hcreated
  · intro h
    have hreason : Member s tenant (normalised cfg email)
        ∨ Invited s call.now tenant (normalised cfg email) →
        FirstMember s tenant (normalised cfg email) ∨ Pending s tenant (normalised cfg email) := by
      rintro (hmember | hinvited)
      · exact h.member hmember
      · exact Or.inr hinvited.pending
    have hcreates : ¬ (Member s tenant (normalised cfg email)
        ∨ Invited s call.now tenant (normalised cfg email)) → _ := fun hnone =>
      sendInvitation_creates hrole hquota hcreate hbroker
        (fun hfirst => hnone (Or.inl hfirst.member)) fun hpending => hnone (h.pending hpending)
    refine ⟨⟨fun hraised => ?_, fun hreal => sendInvitation_conflict hrole (hreason hreal)⟩,
      hcreates⟩
    by_contra hnone
    obtain ⟨message, hraised⟩ := hraised
    obtain ⟨inv, -, -, -, hcreated, -⟩ := hcreates hnone
    rw [hraised] at hcreated
    cases hcreated

end

/-! ## An invitation that has run out -/

def lapsed : TenantInvitation :=
  newInvitation (DemoSeed.callAt 0 7) DemoSeed.tenant1 DemoSeed.guest.email .member DemoSeed.admin

/-- The demo data with a second user, invited at time zero. -/
def site : Site :=
  { DemoSeed.site with
    users := ⟨[DemoSeed.admin, DemoSeed.guest], DemoSeed.admin_guest_distinct⟩
    invitations := ⟨[lapsed], List.pairwise_singleton ..⟩ }

/-- A call just after the invitation has run out. -/
def later : Call := DemoSeed.callAt (hours TenantInvitation.expiryHours + 1) 8

/-- The admin is a member, and an invitation of the admin conflicts. -/
theorem conflicts_for_member :
    Conflicts DemoSeed.settings later site DemoSeed.tenant1 DemoSeed.admin.email "member"
      DemoSeed.admin := by
  refine (conflicts_iff (r := .member) rfl rfl ⟨_, rfl⟩ rfl).mpr ⟨fun _ => Or.inl ?_, fun _ =>
    Or.inl ?_⟩
  · exact ⟨DemoSeed.admin, by decide, by decide, by decide⟩
  · exact ⟨DemoSeed.admin, by decide, by decide⟩

/-- An invitation nobody can use any more stands in the way of the next. -/
theorem lapsed_blocks :
    ¬ ∀ (cfg : Settings) (call : Call) (s : Site) (tenant : Tenant) (email role : String)
      (r : RoleChoices) (invitedBy : User), RoleChoices.ofValue? role = some r →
      PlanLimitService.checkMemberLimit s tenant = .ok () →
      (∃ s', createInvitation s
        (newInvitation call tenant (normalised cfg email) r invitedBy) = .ok s') →
      call.brokerUp = true → Conflicts cfg call s tenant email role invitedBy := by
  intro hall
  have h := hall DemoSeed.settings later site DemoSeed.tenant1 DemoSeed.guest.email "member"
    .member DemoSeed.admin rfl rfl ⟨_, rfl⟩ rfl
  rcases h.conflict.mp ⟨_, rfl⟩ with hmember | hinvited
  · revert hmember
    unfold Member
    decide
  · revert hinvited
    unfold Invited
    decide

end InvitationConflict

end SaasKit
