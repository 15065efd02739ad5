import SaasKit.InvitationConflict

/-!
# An invitation that could not be mailed

`send_invitation` with every statement that can raise: its queries, the
insert, and the hand-over of the mail to the broker. There is no transaction
around them. Whatever raises up to the insert, the invitations are as they
were; the broker is asked when the row is committed, and a call that fails
there leaves it behind (`unchanged_iff`). The next call for the address then
conflicts with it (`retry_conflicts`).
-/

namespace SaasKit

namespace InvitationRetry

open InvitationService InvitationConflict

/-- The statements of a call. -/
inductive Stage where
  | existingUser
  | membership
  | pending
  | plan
  | memberCount
  | insert
  | delay
  deriving DecidableEq

/-- How a call goes, outside the program: which statements raise, and what. -/
abbrev Faults := Stage → Option Exc

/-- A statement, unless it raises. -/
def run {α : Type} (faults : Faults) (stage : Stage) (result : α) : Except Exc α :=
  match faults stage with
  | some e => .error e
  | none => .ok result

/-- `PlanLimitService.get_plan`, which takes an error for "no plan". -/
def getPlan (faults : Faults) (s : Site) (tenant : Tenant) : Option Plan :=
  match run faults .plan (PlanLimitService.getPlan s tenant) with
  | .ok plan => plan
  | .error _ => none

def checkMemberLimit (faults : Faults) (s : Site) (tenant : Tenant) : Except Exc Unit :=
  match getPlan faults s tenant with
  | none => .ok ()
  | some plan =>
      if plan.isUnlimitedMembers then .ok ()
      else do
        let current ← run faults .memberCount (PlanLimitService.getMemberCount s tenant)
        if plan.maxMembers ≤ current then
          .error (.planLimitExceededError
            ("Your plan allows up to " ++ toString plan.maxMembers ++ " member(s). "
              ++ "Upgrade your plan to add more members."))
        else .ok ()

/-- `existing_user and UserTenantRole.objects.filter(...).exists()`. -/
def existingMember (faults : Faults) (s : Site) (tenant : Tenant) (email : String) :
    Except Exc Bool := do
  match ← run faults .existingUser (firstByPk (s.users.filter (·.email == email))) with
  | none => .ok false
  | some user => run faults .membership (RBACService.isMember s user.pk tenant.id)

/-- What is checked before the row is written: the role it will have. -/
def checks (cfg : Settings) (faults : Faults) (s : Site) (tenant : Tenant)
    (email role : String) : Except Exc RoleChoices := do
  let email := cfg.lower (strip email)
  match RoleChoices.ofValue? role with
  | none =>
      .error (.validationServiceError ("Invalid role '" ++ role ++ "'. Must be one of: "
        ++ ", ".intercalate roleValues))
  | some r =>
      if ← existingMember faults s tenant email then
        .error (.conflictServiceError (email ++ " is already a member of this tenant."))
      else if ← run faults .pending (s.invitations.any fun i =>
          i.tenant == tenant.id && i.email == email && decide (i.status = .pending)) then
        .error (.conflictServiceError ("A pending invitation already exists for " ++ email
          ++ ". Revoke it first."))
      else do
        checkMemberLimit faults s tenant
        return r

/-- `TenantInvitation.objects.create`. -/
def create (faults : Faults) (s : Site) (inv : TenantInvitation) : Except Exc Site := do
  run faults .insert ()
  createInvitation s inv

/-- `_dispatch_email`. -/
def dispatchEmail (cfg : Settings) (faults : Faults) (call : Call) (s : Site) (tenant : Tenant)
    (inv : TenantInvitation) (invitedBy : User) : Except Exc Unit × Site :=
  match faults .delay with
  | some e => (.error e, s)
  | none =>
      InvitationService.dispatchEmail cfg { call with brokerUp := true } s tenant inv invitedBy

def sendInvitation (cfg : Settings) (faults : Faults) (call : Call) (s : Site) (tenant : Tenant)
    (email role : String) (invitedBy : User) : Except Exc TenantInvitation × Site :=
  match checks cfg faults s tenant email role with
  | .error e => (.error e, s)
  | .ok r =>
      let inv := newInvitation call tenant (cfg.lower (strip email)) r invitedBy
      match create faults s inv with
      | .error e => (.error e, s)
      | .ok s =>
          match dispatchEmail cfg faults call s tenant inv invitedBy with
          | (.error e, s) => (.error e, s)
          | (.ok (), s) => (.ok inv, s)

/-- Nothing stands in the way of the call until the broker is asked: the role
is valid, no query fails, there is no member, no pending invitation and room
in the plan, and the row can be written. -/
structure Dispatches (cfg : Settings) (faults : Faults) (call : Call) (s : Site) (tenant : Tenant)
    (email role : String) (invitedBy : User) : Prop where
  role : ∃ r, RoleChoices.ofValue? role = some r ∧ ∃ s', createInvitation s
    (newInvitation call tenant (normalised cfg email) r invitedBy) = .ok s'
  existingUser : faults .existingUser = none
  member : ∀ user, firstByPk (s.users.filter (·.email == normalised cfg email)) = some user →
    faults .membership = none ∧ RBACService.isMember s user.pk tenant.id = false
  pending : faults .pending = none
  free : ¬ Pending s tenant (normalised cfg email)
  limit : checkMemberLimit faults s tenant = .ok ()
  insert : faults .insert = none

section

variable {cfg : Settings} {faults : Faults} {call : Call} {s : Site} {tenant : Tenant}
variable {email role : String} {invitedBy : User}

theorem run_ok {α : Type} {stage : Stage} {a b : α} (h : run faults stage a = .ok b) :
    faults stage = none ∧ b = a := by
  unfold run at h
  split at h
  · cases h
  · rename_i hquiet
    exact ⟨hquiet, (Except.ok.inj h).symm⟩

theorem run_of_quiet {α : Type} {stage : Stage} (h : faults stage = none) (a : α) :
    run faults stage a = .ok a := by
  simp only [run, h]

/-- There is no member: the first user with the address has been looked at,
or there is none. -/
theorem existingMember_false : existingMember faults s tenant email = .ok false ↔
    faults .existingUser = none
      ∧ ∀ user, firstByPk (s.users.filter (·.email == email)) = some user →
        faults .membership = none ∧ RBACService.isMember s user.pk tenant.id = false := by
  unfold existingMember
  rw [except_bind_ok]
  constructor
  · rintro ⟨found, hfound, hmember⟩
    obtain ⟨hquiet, rfl⟩ := run_ok hfound
    refine ⟨hquiet, fun user huser => ?_⟩
    rw [huser] at hmember
    obtain ⟨hquiet', hnot⟩ := run_ok hmember
    exact ⟨hquiet', hnot.symm⟩
  · rintro ⟨hquiet, hnone⟩
    refine ⟨_, run_of_quiet hquiet _, ?_⟩
    cases hfirst : firstByPk (s.users.filter (·.email == email)) with
    | none => rfl
    | some user =>
        obtain ⟨hquiet', hnot⟩ := hnone user hfirst
        simp only [run_of_quiet hquiet', hnot]

theorem checks_ok {r : RoleChoices} : checks cfg faults s tenant email role = .ok r ↔
    RoleChoices.ofValue? role = some r
      ∧ existingMember faults s tenant (normalised cfg email) = .ok false
      ∧ faults .pending = none ∧ ¬ Pending s tenant (normalised cfg email)
      ∧ checkMemberLimit faults s tenant = .ok () := by
  rw [pending_iff]
  unfold checks normalised
  cases hrole : RoleChoices.ofValue? role with
  | none => simp
  | some found =>
      simp only [except_bind_ok, Option.some.injEq]
      constructor
      · rintro ⟨member, hmember, hrest⟩
        split at hrest
        · cases hrest
        · rename_i hnot
          obtain ⟨pending, hpending, hrest⟩ := except_bind_ok.mp hrest
          obtain ⟨hquiet, rfl⟩ := run_ok hpending
          split at hrest
          · cases hrest
          · rename_i hfree
            obtain ⟨⟨⟩, hlimit, hreturn⟩ := except_bind_ok.mp hrest
            obtain rfl : member = false := Bool.eq_false_iff.mpr hnot
            exact ⟨Except.ok.inj hreturn, hmember, hquiet, hfree, hlimit⟩
      · rintro ⟨rfl, hmember, hquiet, hfree, hlimit⟩
        refine ⟨false, hmember, ?_⟩
        rw [if_neg Bool.false_ne_true, run_of_quiet hquiet]
        refine except_bind_ok.mpr ⟨_, rfl, ?_⟩
        rw [if_neg hfree, hlimit]
        rfl

theorem create_ok {s' : Site} {inv : TenantInvitation} :
    create faults s inv = .ok s' ↔ faults .insert = none ∧ createInvitation s inv = .ok s' := by
  unfold create
  rw [except_bind_ok]
  constructor
  · rintro ⟨⟨⟩, hran, hcreate⟩
    exact ⟨(run_ok hran).1, hcreate⟩
  · rintro ⟨hquiet, hcreate⟩
    exact ⟨(), run_of_quiet hquiet (), hcreate⟩

/-! ### Without failures of the database -/

theorem existingMember_quiet (hquiet : ∀ stage, stage ≠ .delay → faults stage = none) :
    existingMember faults s tenant email
      = .ok ((firstByPk (s.users.filter (·.email == email))).any fun user =>
        RBACService.isMember s user.pk tenant.id) := by
  unfold existingMember
  rw [run_of_quiet (hquiet .existingUser (by decide))]
  cases firstByPk (s.users.filter (·.email == email)) with
  | none => rfl
  | some user => exact run_of_quiet (hquiet .membership (by decide)) _

theorem checkMemberLimit_quiet (hquiet : ∀ stage, stage ≠ .delay → faults stage = none) :
    checkMemberLimit faults s tenant = PlanLimitService.checkMemberLimit s tenant := by
  unfold checkMemberLimit getPlan PlanLimitService.checkMemberLimit
  rw [run_of_quiet (hquiet .plan (by decide))]
  simp only [run_of_quiet (hquiet .memberCount (by decide))]
  rfl

theorem create_quiet (hquiet : ∀ stage, stage ≠ .delay → faults stage = none)
    (inv : TenantInvitation) : create faults s inv = createInvitation s inv := by
  unfold create
  rw [run_of_quiet (hquiet .insert (by decide))]
  rfl

/-- With a database that does not fail it is the call of the service. -/
theorem sendInvitation_quiet (hquiet : ∀ stage, stage ≠ .delay → faults stage = none)
    (hdelay : faults .delay = if call.brokerUp then none else some .operationalError) :
    sendInvitation cfg faults call s tenant email role invitedBy
      = InvitationService.sendInvitation cfg call s tenant email role invitedBy := by
  have hdispatch : ∀ s inv, dispatchEmail cfg faults call s tenant inv invitedBy
      = InvitationService.dispatchEmail cfg call s tenant inv invitedBy := by
    intro s inv
    unfold dispatchEmail InvitationService.dispatchEmail
    rw [hdelay]
    cases call.brokerUp <;> rfl
  unfold sendInvitation InvitationService.sendInvitation checks
  simp only [existingMember_quiet hquiet, run_of_quiet (hquiet .pending (by decide)),
    checkMemberLimit_quiet hquiet, create_quiet hquiet, hdispatch]
  cases RoleChoices.ofValue? role with
  | none => rfl
  | some r =>
      simp only [bind, Except.bind]
      cases (firstByPk (s.users.filter (·.email == cfg.lower (strip email)))).any fun user =>
          RBACService.isMember s user.pk tenant.id with
      | true => rfl
      | false =>
          cases s.invitations.any fun i => i.tenant == tenant.id
              && i.email == cfg.lower (strip email) && decide (i.status = .pending) with
          | true => rfl
          | false => cases PlanLimitService.checkMemberLimit s tenant <;> rfl

/-! ### Up to the broker -/

/-- The broker is asked exactly when nothing stands in the way. -/
theorem dispatches_iff : Dispatches cfg faults call s tenant email role invitedBy ↔
    ∃ r s', checks cfg faults s tenant email role = .ok r
      ∧ create faults s (newInvitation call tenant (normalised cfg email) r invitedBy)
        = .ok s' := by
  constructor
  · intro h
    obtain ⟨r, hrole, s', hcreate⟩ := h.role
    exact ⟨r, s', checks_ok.mpr ⟨hrole, existingMember_false.mpr ⟨h.existingUser, h.member⟩,
      h.pending, h.free, h.limit⟩, create_ok.mpr ⟨h.insert, hcreate⟩⟩
  · rintro ⟨r, s', hchecks, hcreate⟩
    obtain ⟨hrole, hmember, hpending, hfree, hlimit⟩ := checks_ok.mp hchecks
    obtain ⟨huser, hmember⟩ := existingMember_false.mp hmember
    obtain ⟨hinsert, hcreate⟩ := create_ok.mp hcreate
    exact ⟨⟨r, hrole, s', hcreate⟩, huser, hmember, hpending, hfree, hlimit, hinsert⟩

/-- A call that is stopped before that raises, and has written nothing. -/
theorem sendInvitation_stopped (h : ¬ Dispatches cfg faults call s tenant email role invitedBy) :
    ∃ e, sendInvitation cfg faults call s tenant email role invitedBy = (.error e, s) := by
  rw [dispatches_iff] at h
  unfold sendInvitation
  cases hchecks : checks cfg faults s tenant email role with
  | error e => exact ⟨e, rfl⟩
  | ok r =>
      cases hcreate : create faults s
        (newInvitation call tenant (cfg.lower (strip email)) r invitedBy) with
      | error e => exact ⟨e, by simp only [hcreate]⟩
      | ok s' => exact absurd ⟨r, s', hchecks, hcreate⟩ h

/-- A call that comes to the broker has written its row, and returns if the
broker takes the mail. -/
theorem sendInvitation_dispatched
    (h : Dispatches cfg faults call s tenant email role invitedBy) :
    ∃ inv invitations queue res, inv.tenant = tenant.id ∧ inv.email = normalised cfg email
      ∧ inv.status = .pending ∧ s.invitations.insert? inv = some invitations
      ∧ sendInvitation cfg faults call s tenant email role invitedBy
        = (res, { s with invitations, queue })
      ∧ res = match faults .delay with
        | some e => .error e
        | none => .ok inv := by
  obtain ⟨r, s', hchecks, hcreate⟩ := dispatches_iff.mp h
  obtain ⟨invitations, hinsert, rfl⟩ := createInvitation_ok (create_ok.mp hcreate).2
  unfold normalised at hcreate hinsert
  unfold sendInvitation
  simp only [hchecks, hcreate, dispatchEmail, InvitationService.dispatchEmail, if_true]
  cases hdelay : faults .delay with
  | some e => exact ⟨_, invitations, s.queue, _, rfl, rfl, rfl, hinsert, rfl, rfl⟩
  | none => exact ⟨_, invitations, _, _, rfl, rfl, rfl, hinsert, rfl, rfl⟩

/-- A call that came to the broker is followed by conflicts, also when the
broker failed it: its row is in the way of every other for the address. -/
theorem retry_conflicts (h : Dispatches cfg faults call s tenant email role invitedBy)
    (call' : Call) (invitedBy' : User) :
    ∃ message, (InvitationService.sendInvitation cfg call'
        (sendInvitation cfg faults call s tenant email role invitedBy).2 tenant email role
        invitedBy').1 = .error (.conflictServiceError message) := by
  obtain ⟨r, hrole, -⟩ := h.role
  obtain ⟨inv, invitations, queue, res, htenant, hemail, hpending, hinsert, hsent, -⟩ :=
    sendInvitation_dispatched h
  rw [hsent]
  exact sendInvitation_conflict hrole
    (Or.inr ⟨inv, (Table.mem_insert? hinsert).mpr (Or.inr rfl), htenant, hemail, hpending⟩)

end

/-- The invitations are as before after every exception, if and only if the
broker takes the mail or is not asked. -/
theorem unchanged_iff (cfg : Settings) (faults : Faults) (call : Call) (s : Site) (tenant : Tenant)
    (email role : String) (invitedBy : User) :
    (∀ e s', sendInvitation cfg faults call s tenant email role invitedBy = (.error e, s') →
        s'.invitations = s.invitations)
      ↔ faults .delay = none ∨ ¬ Dispatches cfg faults call s tenant email role invitedBy := by
  constructor
  · intro hunchanged
    by_contra hstuck
    rw [not_or, not_not] at hstuck
    obtain ⟨hdelay, hdispatches⟩ := hstuck
    obtain ⟨e, hdelay⟩ := Option.ne_none_iff_exists'.mp hdelay
    obtain ⟨inv, invitations, queue, res, -, -, -, hinsert, hsent, hres⟩ :=
      sendInvitation_dispatched hdispatches
    rw [hres, hdelay] at hsent
    have hsame : invitations = s.invitations := hunchanged e _ hsent
    have hrows := Table.insert?_rows hinsert
    rw [hsame] at hrows
    exact absurd (congrArg List.length hrows) (by simp)
  · rintro hfine e s' hraised
    by_cases hdispatches : Dispatches cfg faults call s tenant email role invitedBy
    · obtain ⟨inv, invitations, queue, res, -, -, -, -, hsent, hres⟩ :=
        sendInvitation_dispatched hdispatches
      rw [hres, hfine.resolve_right (not_not.mpr hdispatches)] at hsent
      rw [hsent] at hraised
      cases hraised
    · obtain ⟨e', hstopped⟩ := sendInvitation_stopped hdispatches
      rw [hstopped] at hraised
      rw [← (Prod.mk.inj hraised).2]

/-- The broker is down. -/
def unreachable : Faults
  | .delay => some .operationalError
  | _ => none

/-- The guest is invited while the broker is down: the call raises, the row
is there, and inviting the guest again conflicts with it. -/
theorem unreachable_leaves_row :
    ∃ s', sendInvitation DemoSeed.settings unreachable (DemoSeed.callAt 0 7) DemoSeed.site
        DemoSeed.tenant1 DemoSeed.guest.email "member" DemoSeed.admin
          = (.error .operationalError, s')
      ∧ s'.invitations ≠ DemoSeed.site.invitations
      ∧ ∃ message, (InvitationService.sendInvitation DemoSeed.settings (DemoSeed.callAt 1 8) s'
          DemoSeed.tenant1 DemoSeed.guest.email "member" DemoSeed.admin).1
        = .error (.conflictServiceError message) := by
  refine ⟨_, rfl, ?_, _, rfl⟩
  decide

end InvitationRetry

end SaasKit
