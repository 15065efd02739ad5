import SaasKit.AuditTrail
import SaasKit.RoleMap
import SaasKit.Views

/-!
# The log as a journal of the roles

Six operations write no entry, but every write of a role does: assignments
and revocations name the tenant, the user and the role, and accepting an
invitation goes through `assign_role`. So the list an administrator is shown,
read from the oldest entry on, is a journal of the roles of the tenant, and
`roles_read_back` is that reading it gives what `get_role` answers. Erasing an
account takes roles away without an entry: of an erased user the list can show
a role that is gone, but never does a user have a role the list does not show.
-/

namespace SaasKit

namespace RoleJournal

open BillingService InvitationService RBACService Views
open AuditTrail (Op Backends perform)
open RoleMap (roleAt roleAt_congr roleAt_delete roleAt_eq_some roleAt_put)

/-! ## Reading an entry -/

/-- The role an entry names in its metadata. -/
def roleNamed (entry : AuditLog) : Option RoleChoices :=
  match entry.metadata.lookup "role" with
  | some (.str role) => RoleChoices.ofValue? role
  | _ => none

/-- What an entry says of the role of a user in a tenant. -/
def tells (entry : AuditLog) (key : UserId × UUID) : Option (Option RoleChoices) :=
  if entry.tenant = some key.2 ∧ entry.resourceId = toString key.1 then
    match entry.action with
    | .roleAssigned => (roleNamed entry).map some
    | .roleRevoked => some none
    | _ => none
  else none

/-- What the rows of `AuditLogListView` for the tenant, the oldest first, say
of the role of the user. -/
def shown (drf : Drf) (s : Site) (user : User) (tenant : Tenant) : Option RoleChoices :=
  LastWrite.replay tells (fun _ => none)
    (auditLogQueryset drf s none none (some tenant)).reverse (user.pk, tenant.id)

section

variable {s s' : Site} {key : UserId × UUID} {entry : AuditLog} {user : User} {tenant : Tenant}

theorem names_key (h : entry.tenant = some tenant.id) (hid : entry.resourceId = toString user.pk) :
    (entry.tenant = some key.2 ∧ entry.resourceId = toString key.1)
      ↔ key = (user.pk, tenant.id) := by
  rw [h, hid]
  constructor
  · rintro ⟨htenants, hids⟩
    exact Prod.ext (toString_nat_inj hids).symm (Option.some.inj htenants).symm
  · rintro rfl
    exact ⟨rfl, rfl⟩

theorem tells_assigned {r : RoleChoices} (haction : entry.action = .roleAssigned)
    (htenant : entry.tenant = some tenant.id) (hid : entry.resourceId = toString user.pk)
    (hrole : entry.metadata.lookup "role" = some (.str r.value)) :
    tells entry key = if key = (user.pk, tenant.id) then some (some r) else none := by
  have hnamed : roleNamed entry = some r := by
    unfold roleNamed
    rw [hrole]
    exact RoleChoices.ofValue?_value r
  unfold tells
  rw [haction, hnamed]
  exact if_congr (names_key htenant hid) rfl rfl

theorem tells_revoked (haction : entry.action = .roleRevoked)
    (htenant : entry.tenant = some tenant.id) (hid : entry.resourceId = toString user.pk) :
    tells entry key = if key = (user.pk, tenant.id) then some none else none := by
  unfold tells
  rw [haction]
  exact if_congr (names_key htenant hid) rfl rfl

theorem tells_other (hassigned : entry.action ≠ .roleAssigned)
    (hrevoked : entry.action ≠ .roleRevoked) : tells entry key = none := by
  unfold tells
  split
  · split
    · rename_i haction
      exact absurd haction hassigned
    · rename_i haction
      exact absurd haction hrevoked
    · rfl
  · rfl

/-- The view keeps every entry that says something of a role in the tenant. -/
theorem shown_eq (drf : Drf) (s : Site) (user : User) (tenant : Tenant) :
    shown drf s user tenant
      = LastWrite.replay tells (fun _ => none) s.auditLogs (user.pk, tenant.id) := by
  simp only [shown, auditLogQueryset, List.reverse_reverse, Option.all_none, Bool.and_true]
  refine LastWrite.replay_filter fun entry _ hout => if_neg fun hkey => ?_
  rw [hkey.1, beq_self_eq_true] at hout
  cases hout

/-! ## What a call adds -/

/-- The entries a call has added say what it did to the roles. -/
def Tracks (s s' : Site) : Prop :=
  ∃ entries, s'.auditLogs = s.auditLogs ++ entries
    ∧ ∀ key, roleAt s' key = LastWrite.replay tells (roleAt s) entries key

/-- Neither the roles nor what the log says of them has changed. -/
def Quiet (s s' : Site) : Prop :=
  s'.userTenantRoles = s.userTenantRoles
    ∧ ∃ entries, s'.auditLogs = s.auditLogs ++ entries
      ∧ ∀ entry ∈ entries, entry.action ≠ .roleAssigned ∧ entry.action ≠ .roleRevoked

theorem Quiet.of_eq (hroles : s'.userTenantRoles = s.userTenantRoles)
    (hlogs : s'.auditLogs = s.auditLogs) : Quiet s s' :=
  ⟨hroles, [], by rw [hlogs, List.append_nil], fun _ h => absurd h List.not_mem_nil⟩

theorem Quiet.log {action : AuditAction} {t : Option Tenant} {actor : Option User}
    {resourceType resourceId : String} {metadata : List (String × Json)}
    (hroles : s'.userTenantRoles = s.userTenantRoles) (hlogs : s'.auditLogs = s.auditLogs)
    (haction : action ≠ .roleAssigned ∧ action ≠ .roleRevoked) :
    Quiet s (AuditService.log s' action t actor resourceType resourceId metadata) := by
  refine ⟨hroles, [_], congrArg (· ++ _) hlogs, fun entry h => ?_⟩
  obtain rfl := List.mem_singleton.mp h
  exact haction

theorem Quiet.tracks (h : Quiet s s') : Tracks s s' := by
  obtain ⟨hroles, entries, hlogs, hquiet⟩ := h
  refine ⟨entries, hlogs, fun key => ?_⟩
  rw [roleAt_congr hroles, LastWrite.replay_quiet fun entry h =>
    tells_other (hquiet entry h).1 (hquiet entry h).2]

theorem Tracks.quiet {s₁ : Site} (h : Tracks s s₁) (h' : Quiet s₁ s') : Tracks s s' := by
  obtain ⟨entries, hlogs, hroles⟩ := h
  obtain ⟨hkept, entries', hlogs', hquiet⟩ := h'
  refine ⟨entries ++ entries', by rw [hlogs', hlogs, List.append_assoc], fun key => ?_⟩
  rw [roleAt_congr hkept, hroles, LastWrite.replay_append,
    LastWrite.replay_quiet fun entry h => tells_other (hquiet entry h).1 (hquiet entry h).2]

theorem Tracks.assigned {row : UserTenantRole}
    (hroles : s'.userTenantRoles = s.userTenantRoles.put row)
    (hlogs : s'.auditLogs = s.auditLogs ++ [entry]) (hkey : row.key = (user.pk, tenant.id))
    (haction : entry.action = .roleAssigned) (htenant : entry.tenant = some tenant.id)
    (hid : entry.resourceId = toString user.pk)
    (hrole : entry.metadata.lookup "role" = some (.str row.role.value)) : Tracks s s' := by
  refine ⟨[entry], hlogs, fun key => ?_⟩
  rw [roleAt_put hkey hroles, LastWrite.replay_singleton,
    tells_assigned haction htenant hid hrole]
  split <;> rfl

theorem Tracks.revoked
    (hroles : s'.userTenantRoles
      = s.userTenantRoles.delete fun r => r.user == user.pk && r.tenant == tenant.id)
    (hlogs : s'.auditLogs = s.auditLogs ++ [entry]) (haction : entry.action = .roleRevoked)
    (htenant : entry.tenant = some tenant.id) (hid : entry.resourceId = toString user.pk) :
    Tracks s s' := by
  refine ⟨[entry], hlogs, fun key => ?_⟩
  rw [roleAt_delete hroles, LastWrite.replay_singleton, tells_revoked haction htenant hid]
  split <;> rfl

theorem assignRole_tracks (s : Site) (user : User) (tenant : Tenant) (role : String)
    (assignedBy : Option User) : Tracks s (assignRole s user tenant role assignedBy).2 := by
  cases hcall : assignRole s user tenant role assignedBy with
  | mk res s₁ =>
      cases res with
      | error e =>
          rw [assignRole_error hcall]
          exact (Quiet.of_eq rfl rfl).tracks
      | ok row =>
          obtain ⟨r, rfl, rfl, -, rfl⟩ := assignRole_ok hcall
          exact .assigned rfl rfl rfl rfl rfl rfl rfl

theorem revokeRole_tracks (s : Site) (user : User) (tenant : Tenant) :
    Tracks s (revokeRole s user tenant).2 := by
  unfold revokeRole
  simp only
  split
  · exact .revoked rfl rfl rfl rfl rfl
  · exact (Quiet.of_eq rfl rfl).tracks

theorem acceptInvitation_tracks (s : Site) (now : Time) (token : String) (user : User) :
    Tracks s (acceptInvitation s now token user).2 := by
  cases hgrants : grants? s now token user with
  | none =>
      rcases (acceptInvitation_of_not hgrants).2 with hsame | ⟨inv, tenant, -, -, -, hexpired⟩
      · rw [hsame]
        exact (Quiet.of_eq rfl rfl).tracks
      · rw [hexpired]
        exact (Quiet.of_eq rfl rfl).tracks
  | some inv =>
      obtain ⟨tenant, s₁, -, hassign, haccepted⟩ := acceptInvitation_eq hgrants
      have htracks := assignRole_tracks s user tenant inv.role.value (inv.invitedBy.bind s.getUser)
      rw [hassign] at htracks
      rw [haccepted]
      exact htracks.quiet (.log rfl rfl ⟨nofun, nofun⟩)

theorem revokeInvitation_quiet (s : Site) (invitationId : UUID) (tenant : Tenant)
    (revokedBy : User) : Quiet s (revokeInvitation s invitationId tenant revokedBy).2 := by
  unfold revokeInvitation
  split
  · exact .of_eq rfl rfl
  · split
    · exact .of_eq rfl rfl
    · exact .log rfl rfl ⟨nofun, nofun⟩

/-! ### Events -/

/-- A transaction that saves a subscription, and what follows it. -/
theorem atomic_quiet {txn : Except Exc (Option (Subscription × Site))}
    {after : Subscription → Site → Except Exc Unit × Site}
    (htxn : ∀ sub s₁, txn = .ok (some (sub, s₁)) →
      s₁.userTenantRoles = s.userTenantRoles ∧ s₁.auditLogs = s.auditLogs)
    (hafter : ∀ sub s₁, s₁.userTenantRoles = s.userTenantRoles → s₁.auditLogs = s.auditLogs →
      Quiet s (after sub s₁).2) : Quiet s (atomic s txn after).2 := by
  unfold atomic
  split
  · exact .of_eq rfl rfl
  · exact .of_eq rfl rfl
  · rename_i sub s₁
    obtain ⟨hroles, hlogs⟩ := htxn sub s₁ rfl
    exact hafter sub s₁ hroles hlogs

theorem saveStanding_quiet {stripeSubId : Option String} {status : String} {grace : Option Time}
    {sub : Subscription} (h : saveStanding s stripeSubId status grace = .ok (some (sub, s'))) :
    s'.userTenantRoles = s.userTenantRoles ∧ s'.auditLogs = s.auditLogs := by
  unfold saveStanding at h
  split at h
  · cases h
  · cases h
  · obtain ⟨-, rfl⟩ := Prod.mk.inj (Option.some.inj (Except.ok.inj h))
    exact ⟨rfl, rfl⟩

theorem processEvent_quiet (str : Json → String) (s : Site) (e : StripeEvent) :
    Quiet s (processEvent str s e).2 := by
  unfold processEvent
  split
  · rcases onSubscriptionCreated_cases str s e.eventData with
      ⟨err, hraised⟩ | ⟨hdone, -⟩ | ⟨_, sub, saved, s₁, _, _, _, _, _, hcreates⟩
    · rw [hraised]
      exact .of_eq rfl rfl
    · rw [hdone]
      exact .of_eq rfl rfl
    · rw [onSubscriptionCreated_of hcreates]
      obtain ⟨-, -, -, _, _, _, -, -, -, -, _, -, rfl⟩ := save_ok_iff.mp hcreates.save_eq
      exact .log rfl rfl ⟨nofun, nofun⟩
  · rcases onSubscriptionUpdated_cases str s e.eventData with
      ⟨err, hraised⟩ | ⟨hdone, -⟩ | ⟨_, sub, saved, s₁, _, _, _, _, _, hupdates⟩
    · rw [hraised]
      exact .of_eq rfl rfl
    · rw [hdone]
      exact .of_eq rfl rfl
    · rw [onSubscriptionUpdated_of hupdates]
      obtain ⟨-, -, -, _, _, _, -, -, -, -, _, -, rfl⟩ := save_ok_iff.mp hupdates.save_eq
      exact .of_eq rfl rfl
  · unfold onSubscriptionCanceled
    simp only
    split
    · exact .of_eq rfl rfl
    · exact atomic_quiet (fun _ _ => saveStanding_quiet) fun _ _ hroles hlogs =>
        .log hroles hlogs ⟨nofun, nofun⟩
  · unfold onPaymentSucceeded
    simp only
    split
    · exact .of_eq rfl rfl
    · split
      · exact atomic_quiet (fun _ _ => saveStanding_quiet) fun _ _ => .of_eq
      · exact .of_eq rfl rfl
  · unfold onPaymentFailed
    simp only
    split
    · exact .of_eq rfl rfl
    · split
      · refine atomic_quiet (fun _ _ => saveStanding_quiet) fun _ _ hroles hlogs => ?_
        split
        · exact .of_eq hroles hlogs
        · exact .of_eq hroles hlogs
      · exact .of_eq rfl rfl
  · unfold onTrialEnding
    simp only
    split
    · exact .of_eq rfl rfl
    · exact .of_eq rfl rfl
  · exact .of_eq rfl rfl

/-! ### Erasures -/

/-- The user has no role any more, and the log says what it said. -/
structure Erases (user : User) (s s' : Site) : Prop where
  roles : ∀ key r, roleAt s' key = some r ↔ key.1 ≠ user.pk ∧ roleAt s key = some r
  logs : LastWrite.replay tells (fun _ => none) s'.auditLogs
    = LastWrite.replay tells (fun _ => none) s.auditLogs

theorem tells_actor {actor : Option UserId} : tells { entry with actor } = tells entry := rfl

end

section

variable {s s' : AccountSite} {user : User}

theorem anonymize_erases {draw : Placeholder} {r : ErasureResult}
    (h : GDPRService.anonymize s user draw = (.ok r, s')) : Erases user s.toSite s'.toSite where
  roles key r := by
    have hroles := (GDPRService.anonymize_ok h).userTenantRoles
    rw [roleAt_eq_some, roleAt_eq_some, hroles]
    constructor
    · rintro ⟨row, hrow, rfl, rfl⟩
      obtain ⟨hmem, hother⟩ := Table.mem_delete.mp hrow
      exact ⟨beq_eq_false_iff_ne.mp hother, row, hmem, rfl, rfl⟩
    · rintro ⟨hother, row, hrow, rfl, rfl⟩
      exact ⟨row, Table.mem_delete.mpr ⟨hrow, beq_eq_false_iff_ne.mpr hother⟩, rfl, rfl⟩
  logs := by
    unfold GDPRService.anonymize at h
    simp only at h
    split at h
    · cases h
    · rename_i hsave
      obtain ⟨users, hkeep, -, rfl⟩ := GDPRService.saveUser_ok hsave
      obtain ⟨-, rfl⟩ := Prod.mk.inj h
      rfl

theorem hardDelete_erases (s : AccountSite) (user : User) :
    Erases user s.toSite (GDPRService.hardDelete s user).2.toSite where
  roles key r := by
    have hroles : (GDPRService.hardDelete s user).2.userTenantRoles
        = ((s.userTenantRoles.delete (·.user == user.pk)).delete (·.user == user.pk)).modify
            (·.assignedBy == some user.pk) AccountSite.clearAssignedBy := rfl
    rw [roleAt_eq_some, roleAt_eq_some, hroles, Table.delete_delete]
    constructor
    · rintro ⟨row, hrow, rfl, rfl⟩
      obtain ⟨old, hold, rfl⟩ := Table.mem_modify.mp hrow
      obtain ⟨hmem, hother⟩ := Table.mem_delete.mp hold
      refine ⟨?_, old, hmem, ?_⟩
      · split <;> exact beq_eq_false_iff_ne.mp hother
      · split <;> exact ⟨rfl, rfl⟩
    · rintro ⟨hother, row, hrow, rfl, rfl⟩
      refine ⟨_, Table.mem_modify.mpr ⟨row, Table.mem_delete.mpr
        ⟨hrow, beq_eq_false_iff_ne.mpr hother⟩, rfl⟩, ?_⟩
      split <;> exact ⟨rfl, rfl⟩
  logs := by
    refine LastWrite.replay_map fun entry => ?_
    split
    · exact tells_actor
    · rfl

end

/-! ## Any run -/

/-- Every call, whatever comes of it. -/
def Step (cfg : Backends) (s : AccountSite) (op : Op) (s' : AccountSite) : Prop :=
  perform cfg s op = s'

/-- The call is an erasure of the user's account. -/
def erases : Op → UserId → Prop
  | .anonymize user _, pk | .hardDelete user, pk => user.pk = pk
  | _, _ => False

section

variable {cfg : Backends} {s s' s₀ : AccountSite} {op : Op} {ops : List Op}

theorem step_cases (h : Step cfg s op s') : Tracks s.toSite s'.toSite
    ∨ ∃ user, (∀ pk, erases op pk ↔ user.pk = pk) ∧ Erases user s.toSite s'.toSite := by
  obtain rfl := h
  cases op with
  | sendInvitation call tenant email role invitedBy =>
      exact Or.inl (Quiet.of_eq (sendInvitation_frame ..).1
        (AuditTrail.sendInvitation_logs ..)).tracks
  | acceptInvitation now token user => exact Or.inl (acceptInvitation_tracks ..)
  | revokeInvitation invitationId tenant revokedBy =>
      exact Or.inl (revokeInvitation_quiet ..).tracks
  | assignRole user tenant role assignedBy => exact Or.inl (assignRole_tracks ..)
  | revokeRole user tenant => exact Or.inl (revokeRole_tracks ..)
  | anonymize user draw =>
      cases hcall : GDPRService.anonymize s user draw with
      | mk res s₁ =>
          have hnext : perform cfg s (.anonymize user draw) = s₁ := congrArg Prod.snd hcall
          rw [hnext]
          cases res with
          | error e =>
              rw [GDPRService.anonymize_error hcall]
              exact Or.inl (Quiet.of_eq rfl rfl).tracks
          | ok result => exact Or.inr ⟨user, fun _ => Iff.rfl, anonymize_erases hcall⟩
  | hardDelete user => exact Or.inr ⟨user, fun _ => Iff.rfl, hardDelete_erases s user⟩
  | confirmReset now data =>
      refine Or.inl (Quiet.tracks ?_)
      show Quiet s.toSite (PasswordResetConfirmView.post cfg.reset s now data).2.toSite
      rcases PasswordResetConfirmView.post_cases cfg.reset s now data with
        ⟨-, hsame⟩ | ⟨_, _, hdone⟩
      · rw [hsame]
        exact .of_eq rfl rfl
      · rw [hdone]
        exact .of_eq rfl rfl
  | processEvent e => exact Or.inl (processEvent_quiet ..).tracks

/-- A role the table shows is one the log tells of. -/
def Covered (key : UserId × UUID) (s : AccountSite) : Prop :=
  ∀ r, roleAt s.toSite key = some r →
    LastWrite.replay tells (fun _ => none) s.auditLogs key = some r

/-- The log tells of the role the table shows. -/
def Exact (key : UserId × UUID) (s : AccountSite) : Prop :=
  roleAt s.toSite key = LastWrite.replay tells (fun _ => none) s.auditLogs key

theorem covered_step {key : UserId × UUID} (hs : Covered key s) (h : Step cfg s op s') :
    Covered key s' := by
  intro r hr
  rcases step_cases h with ⟨entries, hlogs, hroles⟩ | ⟨user, -, herases⟩
  · rw [hlogs, LastWrite.replay_append]
    rw [hroles, LastWrite.replay_eq_some] at hr
    rw [LastWrite.replay_eq_some]
    rcases hr with hlast | ⟨hheld, hquiet⟩
    · exact Or.inl hlast
    · exact Or.inr ⟨hs r hheld, hquiet⟩
  · rw [herases.logs]
    exact hs r ((herases.roles key r).mp hr).2

theorem exact_step {key : UserId × UUID} (hs : Exact key s) (h : Step cfg s op s')
    (hop : ¬ erases op key.1) : Exact key s' := by
  unfold Exact
  rcases step_cases h with ⟨entries, hlogs, hroles⟩ | ⟨user, huser, herases⟩
  · rw [hlogs, LastWrite.replay_append, hroles]
    exact LastWrite.replay_congr hs
  · have hother : key.1 ≠ user.pk := fun heq => hop ((huser key.1).mpr heq.symm)
    rw [herases.logs, ← hs]
    exact Option.ext fun r => (herases.roles key r).trans (and_iff_right hother)

end

/-! ## A promotion -/

def promotion : List Op :=
  [.assignRole DemoSeed.admin DemoSeed.tenant2 "member" none,
    .assignRole DemoSeed.admin DemoSeed.tenant2 "owner" (some DemoSeed.admin)]

def promoted : AccountSite := promotion.foldl (perform AuditTrail.backends) DemoSeed.accounts

theorem promotion_run :
    Lts.Run (Step AuditTrail.backends) DemoSeed.accounts promotion promoted :=
  .cons rfl (.cons rfl (.nil _))

end RoleJournal

end SaasKit
