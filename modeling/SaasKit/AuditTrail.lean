import SaasKit.BillingCalls
import SaasKit.PasswordReset
import SaasKit.SubscriptionLifecycle
import SaasKit.Lib.Run

/-!
# What the audit log tells

`AuditLog.Action` names twelve operations on members, roles, accounts and
subscriptions. Of the twelve, six write their entry: accepting and revoking
an invitation, assigning and revoking a role, and the events that create and
delete a subscription. The others, sending an invitation among them, leave no
trace. The log only grows, so an entry that was written stays, and a run is
told completely exactly if it makes no call of the others
(`audit_complete_iff`).
-/

namespace SaasKit

/-- The site after a call that leaves the users alone. -/
def AccountSite.withSite (s : AccountSite) (site : Site) (h : site.users = s.users) :
    AccountSite :=
  { s with
    toSite := site
    totp_fk := fun row hrow => h ▸ s.totp_fk row hrow
    profile_fk := fun row hrow => h ▸ s.profile_fk row hrow
    notification_fk := fun row hrow => h ▸ s.notification_fk row hrow
    outstanding_fk := fun row hrow => h ▸ s.outstanding_fk row hrow }

namespace AuditTrail

open AuditService BillingService InvitationService RBACService

inductive Op where
  | sendInvitation (call : Call) (tenant : Tenant) (email role : String) (invitedBy : User)
  | acceptInvitation (now : Time) (token : String) (user : User)
  | revokeInvitation (invitationId : UUID) (tenant : Tenant) (revokedBy : User)
  | assignRole (user : User) (tenant : Tenant) (role : String) (assignedBy : Option User)
  | revokeRole (user : User) (tenant : Tenant)
  | anonymize (user : User) (draw : Placeholder)
  | hardDelete (user : User)
  | confirmReset (now : Time) (data : Json)
  | processEvent (e : StripeEvent)

/-- What the calls take from outside the database. -/
structure Backends where
  str : Json → String
  settings : Settings
  reset : ResetConfig

/-! ## Successful calls -/

/-- The call returns what it is for: `revoke_role` says that there was a role,
the view of the reset answers 200, and an event has found its row. -/
def Succeeds (cfg : Backends) (s : AccountSite) : Op → Prop
  | .sendInvitation call tenant email role invitedBy =>
      ∃ inv, (InvitationService.sendInvitation cfg.settings call s.toSite tenant email role
        invitedBy).1 = .ok inv
  | .acceptInvitation now token user =>
      ∃ inv, (InvitationService.acceptInvitation s.toSite now token user).1 = .ok inv
  | .revokeInvitation invitationId tenant revokedBy =>
      ∃ inv, (InvitationService.revokeInvitation s.toSite invitationId tenant revokedBy).1 = .ok inv
  | .assignRole user tenant role assignedBy =>
      ∃ row, (RBACService.assignRole s.toSite user tenant role assignedBy).1 = .ok row
  | .revokeRole user tenant => (RBACService.revokeRole s.toSite user tenant).1 = true
  | .anonymize user draw => ∃ result, (GDPRService.anonymize s user draw).1 = .ok result
  | .hardDelete _ => True
  | .confirmReset now data => (PasswordResetConfirmView.post cfg.reset s now data).1.status = 200
  | .processEvent e =>
      (BillingService.processEvent cfg.str s.toSite e).1 = .ok ()
        ∧ ∃ row ∈ s.subscriptions, Finds cfg.str row e

def perform (cfg : Backends) (s : AccountSite) : Op → AccountSite
  | .sendInvitation call tenant email role invitedBy =>
      s.withSite
        (InvitationService.sendInvitation cfg.settings call s.toSite tenant email role invitedBy).2
        (sendInvitation_frame ..).2.users
  | .acceptInvitation now token user =>
      s.withSite (InvitationService.acceptInvitation s.toSite now token user).2
        (acceptInvitation_frame ..).users
  | .revokeInvitation invitationId tenant revokedBy =>
      s.withSite (InvitationService.revokeInvitation s.toSite invitationId tenant revokedBy).2
        (revokeInvitation_frame ..).users
  | .assignRole user tenant role assignedBy =>
      s.withSite (RBACService.assignRole s.toSite user tenant role assignedBy).2
        assignRole_frame.users
  | .revokeRole user tenant =>
      s.withSite (RBACService.revokeRole s.toSite user tenant).2 revokeRole_frame.users
  | .anonymize user draw => (GDPRService.anonymize s user draw).2
  | .hardDelete user => (GDPRService.hardDelete s user).2
  | .confirmReset now data => (PasswordResetConfirmView.post cfg.reset s now data).2
  | .processEvent e =>
      s.withSite (BillingService.processEvent cfg.str s.toSite e).2 (processEvent_frame ..).users

def Step (cfg : Backends) (s : AccountSite) (op : Op) (s' : AccountSite) : Prop :=
  Succeeds cfg s op ∧ perform cfg s op = s'

/-! ## What should be told -/

/-- The member of `AuditLog.Action` for an event. -/
def billingAction : EventType → Option AuditAction
  | .subscriptionCreated => some .subscriptionCreated
  | .subscriptionUpdated => some .subscriptionUpdated
  | .subscriptionDeleted => some .subscriptionCanceled
  | .paymentSucceeded => some .paymentSucceeded
  | .paymentFailed => some .paymentFailed
  | .trialWillEnd => none

/-- The member of `AuditLog.Action` for an operation. -/
def action : Op → Option AuditAction
  | .sendInvitation .. => some .memberInvited
  | .acceptInvitation .. => some .invitationAccepted
  | .revokeInvitation .. => some .invitationRevoked
  | .assignRole .. => some .roleAssigned
  | .revokeRole .. => some .roleRevoked
  | .anonymize .. | .hardDelete _ => some .userDeleted
  | .confirmReset .. => some .passwordResetConfirmed
  | .processEvent e => e.kind.bind billingAction

/-- The operation is one on this tenant. -/
def Concerns (cfg : Backends) (s : AccountSite) : Op → UUID → Prop
  | .sendInvitation _ tenant _ _ _, id | .revokeInvitation _ tenant _, id
  | .assignRole _ tenant _ _, id | .revokeRole _ tenant, id => tenant.id = id
  | .acceptInvitation _ token _, id => ∃ inv ∈ s.invitations, inv.token = token ∧ inv.tenant = id
  | .processEvent e, id => ∃ row ∈ s.subscriptions, Finds cfg.str row e ∧ row.tenant = id
  | .anonymize .., _ | .hardDelete _, _ | .confirmReset .., _ => False

/-- An entry that tells of the call: its action, and its tenant if it has
one. -/
def Tells (cfg : Backends) (s : AccountSite) (op : Op) (entry : AuditAction × Option UUID) : Prop :=
  action op = some entry.1 ∧ ∀ id, Concerns cfg s op id → entry.2 = some id

/-- Of the call from `s₁` to `s₂`, the log of `s` has an entry that the call
has written. -/
def Audited (cfg : Backends) (s₁ : AccountSite) (op : Op) (s₂ s : AccountSite) : Prop :=
  ∃ k entry, (trail s₁.toSite).length ≤ k ∧ k < (trail s₂.toSite).length
    ∧ (trail s.toSite)[k]? = some entry ∧ Tells cfg s₁ op entry

/-- The operations that call `AuditService.log`. -/
def Logs : Op → Prop
  | .acceptInvitation .. | .revokeInvitation .. | .assignRole .. | .revokeRole .. => True
  | .processEvent e => e.kind = some .subscriptionCreated ∨ e.kind = some .subscriptionDeleted
  | .sendInvitation .. | .anonymize .. | .hardDelete _ | .confirmReset .. => False

/-- `Subscription.tenant` is a foreign key. -/
def Housed (s : Site) : Prop :=
  ∀ row ∈ s.subscriptions, ∃ tenant ∈ s.tenants, tenant.id = row.tenant

/-- Each call of a run has an entry in the log at its end. -/
def Complete (cfg : Backends) (s₀ : AccountSite) (ops : List Op) (s : AccountSite) : Prop :=
  ∀ pre op post, ops = pre ++ op :: post → ∃ s₁ s₂, Lts.Run (Step cfg) s₀ pre s₁
    ∧ Step cfg s₁ op s₂ ∧ Lts.Run (Step cfg) s₂ post s ∧ Audited cfg s₁ op s₂ s

/-! ## What the services write -/

section

variable {s : Site} {user : User} {tenant : Tenant}

theorem sendInvitation_logs (settings : Settings) (call : Call) (s : Site) (tenant : Tenant)
    (email role : String) (invitedBy : User) :
    (sendInvitation settings call s tenant email role invitedBy).2.auditLogs = s.auditLogs := by
  rcases sendInvitation_outcome settings call s tenant email role invitedBy with
    ⟨e, hraised⟩ | ⟨_, _, _, _, _, _, _, hcreated, _⟩
  · rw [hraised]
  · rw [hcreated]

theorem assignRole_trail {role : String} {assignedBy : Option User} {row : UserTenantRole}
    (h : (assignRole s user tenant role assignedBy).1 = .ok row) :
    trail (assignRole s user tenant role assignedBy).2
      = trail s ++ [(.roleAssigned, some tenant.id)] := by
  obtain ⟨r, -, -, -, hsite⟩ := assignRole_ok (Prod.ext h rfl :
    assignRole s user tenant role assignedBy
      = (.ok row, (assignRole s user tenant role assignedBy).2))
  rw [hsite]
  exact trail_log ..

theorem revokeRole_trail (h : (revokeRole s user tenant).1 = true) :
    trail (revokeRole s user tenant).2 = trail s ++ [(.roleRevoked, some tenant.id)] := by
  unfold revokeRole at h ⊢
  simp only at h ⊢
  split at h
  · rename_i hany
    rw [if_pos hany]
    exact trail_log ..
  · cases h

/-- Accepting tells of the role as well. -/
theorem acceptInvitation_trail {now : Time} {token : String} {inv : TenantInvitation}
    (h : (acceptInvitation s now token user).1 = .ok inv) :
    ∃ found ∈ s.invitations, found.token = token
      ∧ trail (acceptInvitation s now token user).2 = trail s
          ++ [(.roleAssigned, some found.tenant), (.invitationAccepted, some found.tenant)] := by
  cases hgrants : grants? s now token user with
  | none =>
      obtain ⟨⟨e, hraised⟩, -⟩ := acceptInvitation_of_not hgrants
      rw [hraised] at h
      cases h
  | some found =>
      obtain ⟨hfound, htoken, -⟩ := grants?_some hgrants
      obtain ⟨tenant, s₁, hid, hassign, haccepted⟩ := acceptInvitation_eq hgrants
      have htrail := assignRole_trail (congrArg Prod.fst hassign)
      rw [hassign] at htrail
      refine ⟨found, hfound, htoken, ?_⟩
      rw [haccepted, trail_log, ← hid]
      show trail s₁ ++ _ = _
      rw [htrail, List.append_assoc]
      rfl

theorem revokeInvitation_trail {invitationId : UUID} {revokedBy : User} {inv : TenantInvitation}
    (h : (revokeInvitation s invitationId tenant revokedBy).1 = .ok inv) :
    trail (revokeInvitation s invitationId tenant revokedBy).2
      = trail s ++ [(.invitationRevoked, some tenant.id)] := by
  unfold revokeInvitation at h ⊢
  split at h
  · cases h
  · split at h
    · cases h
    · rename_i hpending
      rw [if_neg hpending]
      exact trail_log ..

end

section

variable {cfg : Backends} {s s' s₀ s₁ s₂ : AccountSite} {op : Op} {ops post : List Op}

theorem anonymize_trail (s : AccountSite) (user : User) (draw : Placeholder) :
    trail (GDPRService.anonymize s user draw).2.toSite = trail s.toSite := by
  unfold GDPRService.anonymize
  simp only
  split
  · rfl
  · rename_i hsave
    obtain ⟨users, hkeep, -, rfl⟩ := GDPRService.saveUser_ok hsave
    rfl

/-- An entry keeps its action and its tenant when its actor is gone. -/
theorem hardDelete_trail (s : AccountSite) (user : User) :
    trail (GDPRService.hardDelete s user).2.toSite = trail s.toSite := by
  show ((s.auditLogs.map fun entry => if entry.actor == some user.pk then
    { entry with actor := none } else entry).map fun entry => (entry.action, entry.tenant)) = _
  rw [List.map_map]
  refine List.map_congr_left fun entry _ => ?_
  simp only [Function.comp_apply]
  split <;> rfl

theorem post_trail (reset : ResetConfig) (s : AccountSite) (now : Time) (data : Json) :
    trail (PasswordResetConfirmView.post reset s now data).2.toSite = trail s.toSite := by
  rcases PasswordResetConfirmView.post_cases reset s now data with ⟨-, hsame⟩ | ⟨_, _, hdone⟩
  · rw [hsame]
  · rw [hdone]
    rfl

/-! ## One call -/

/-- A call that writes nothing is not told of. -/
theorem silent (htrail : trail s'.toSite = trail s.toSite) (hlogs : ¬ Logs op) :
    ∃ entries, trail s'.toSite = trail s.toSite ++ entries
      ∧ ((∃ entry ∈ entries, Tells cfg s op entry) ↔ Logs op) := by
  refine ⟨[], by rw [htrail, List.append_nil], ?_⟩
  constructor
  · rintro ⟨entry, hentry, -⟩
    cases hentry
  · intro h
    exact absurd h hlogs

/-- A call that writes its entry last is told of. -/
theorem told (entries : List (AuditAction × Option UUID)) (entry : AuditAction × Option UUID)
    (htrail : trail s'.toSite = trail s.toSite ++ (entries ++ [entry]))
    (htells : Tells cfg s op entry) (hlogs : Logs op) :
    ∃ entries, trail s'.toSite = trail s.toSite ++ entries
      ∧ ((∃ entry ∈ entries, Tells cfg s op entry) ↔ Logs op) :=
  ⟨_, htrail, fun _ => hlogs, fun _ =>
    ⟨entry, List.mem_append_right _ (List.mem_singleton_self entry), htells⟩⟩

theorem processEvent_told {e : StripeEvent} (hhoused : Housed s.toSite)
    (hok : (BillingService.processEvent cfg.str s.toSite e).1 = .ok ()) {row : Subscription}
    (hrow : row ∈ s.subscriptions) (hfinds : Finds cfg.str row e)
    (htrail : trail s'.toSite = trail (BillingService.processEvent cfg.str s.toSite e).2) :
    ∃ entries, trail s'.toSite = trail s.toSite ++ entries
      ∧ ((∃ entry ∈ entries, Tells cfg s (.processEvent e) entry) ↔ Logs (.processEvent e)) := by
  have houtcome := processEvent_outcome cfg.str s.toSite e
  generalize BillingService.processEvent cfg.str s.toSite e = called at houtcome hok htrail
  cases houtcome with
  | raised err => cases hok
  | unmatched hnone => exact absurd hfinds (hnone row hrow)
  | wrote res site' found saved hrewrites =>
      obtain rfl := hrewrites.only row hrow hfinds
      obtain ⟨tenant, htenant, hid⟩ := hhoused row hrow
      have hname : (s.getTenant row.tenant).map (·.id) = some row.tenant := by
        rw [← hid, Site.getTenant_of_mem htenant]
        rfl
      have hconcerns : ∀ id, Concerns cfg s (.processEvent e) id → some row.tenant = some id := by
        rintro id ⟨other, hother, hotherFinds, rfl⟩
        rw [hrewrites.only other hother hotherFinds]
      have hwritten := htrail.trans hrewrites.trail
      rw [hname] at hwritten
      cases hkind : e.kind with
      | none => simp only [Finds, hkind] at hfinds
      | some kind =>
          have haction : action (.processEvent e) = billingAction kind := by
            simp only [action, hkind, Option.bind_some]
          rw [hkind] at hwritten
          cases kind with
          | subscriptionCreated =>
              exact told [] (.subscriptionCreated, some row.tenant) hwritten ⟨haction, hconcerns⟩
                (Or.inl hkind)
          | subscriptionDeleted =>
              exact told [] (.subscriptionCanceled, some row.tenant) hwritten ⟨haction, hconcerns⟩
                (Or.inr hkind)
          | trialWillEnd => simp only [Finds, hkind] at hfinds
          | _ =>
              refine silent (hwritten.trans (List.append_nil _)) ?_
              rintro (hcreated | hdeleted)
              · cases hkind.symm.trans hcreated
              · cases hkind.symm.trans hdeleted

/-- What a successful call adds to the log tells of it exactly if the call is
one that logs. -/
theorem step_trail (hhoused : Housed s.toSite) (h : Step cfg s op s') :
    ∃ entries, trail s'.toSite = trail s.toSite ++ entries
      ∧ ((∃ entry ∈ entries, Tells cfg s op entry) ↔ Logs op) := by
  obtain ⟨hsucceeds, rfl⟩ := h
  cases op with
  | sendInvitation call tenant email role invitedBy =>
      refine silent ?_ id
      exact congrArg (List.map _)
        (sendInvitation_logs cfg.settings call s.toSite tenant email role invitedBy)
  | acceptInvitation now token user =>
      obtain ⟨inv, hok⟩ := hsucceeds
      obtain ⟨found, hfound, htoken, htrail⟩ := acceptInvitation_trail hok
      refine told [(.roleAssigned, some found.tenant)] _ htrail ⟨rfl, ?_⟩ trivial
      rintro id ⟨other, hother, hotherToken, rfl⟩
      have hclash : TenantInvitation.clash found other = true := by
        simp [TenantInvitation.clash, htoken, hotherToken]
      rw [Table.eq_of_clash invitation_clash_symm hfound hother hclash]
  | revokeInvitation invitationId tenant revokedBy =>
      obtain ⟨inv, hok⟩ := hsucceeds
      exact told [] _ (revokeInvitation_trail hok) ⟨rfl, fun _ hid => congrArg some hid⟩ trivial
  | assignRole user tenant role assignedBy =>
      obtain ⟨row, hok⟩ := hsucceeds
      exact told [] _ (assignRole_trail hok) ⟨rfl, fun _ hid => congrArg some hid⟩ trivial
  | revokeRole user tenant =>
      exact told [] _ (revokeRole_trail hsucceeds) ⟨rfl, fun _ hid => congrArg some hid⟩ trivial
  | anonymize user draw => exact silent (anonymize_trail s user draw) id
  | hardDelete user => exact silent (hardDelete_trail s user) id
  | confirmReset now data => exact silent (post_trail cfg.reset s now data) id
  | processEvent e =>
      obtain ⟨hok, row, hrow, hfinds⟩ := hsucceeds
      exact processEvent_told hhoused hok hrow hfinds rfl

theorem Housed.of_eq {s s' : Site} (h : Housed s) (htenants : s'.tenants = s.tenants)
    (hsubs : s'.subscriptions = s.subscriptions) : Housed s' := by
  intro row hrow
  rw [hsubs] at hrow
  rw [htenants]
  exact h row hrow

/-- No call moves a subscription to another tenant, or deletes one. -/
theorem step_housed (hhoused : Housed s.toSite) (h : Step cfg s op s') : Housed s'.toSite := by
  obtain ⟨-, rfl⟩ := h
  cases op with
  | sendInvitation call tenant email role invitedBy =>
      have hframe := (sendInvitation_frame cfg.settings call s.toSite tenant email role invitedBy).2
      exact hhoused.of_eq hframe.tenants hframe.subscriptions
  | acceptInvitation now token user =>
      have hframe := acceptInvitation_frame s.toSite now token user
      exact hhoused.of_eq hframe.tenants hframe.subscriptions
  | revokeInvitation invitationId tenant revokedBy =>
      have hframe := revokeInvitation_frame s.toSite invitationId tenant revokedBy
      exact hhoused.of_eq hframe.tenants hframe.subscriptions
  | assignRole user tenant role assignedBy =>
      exact hhoused.of_eq assignRole_frame.tenants assignRole_frame.subscriptions
  | revokeRole user tenant =>
      exact hhoused.of_eq revokeRole_frame.tenants revokeRole_frame.subscriptions
  | anonymize user draw =>
      simp only [perform, GDPRService.anonymize]
      split
      · exact hhoused.of_eq rfl rfl
      · rename_i hsave
        obtain ⟨users, hkeep, -, rfl⟩ := GDPRService.saveUser_ok hsave
        exact hhoused.of_eq rfl rfl
  | hardDelete user => exact hhoused.of_eq rfl rfl
  | confirmReset now data =>
      rcases PasswordResetConfirmView.post_cases cfg.reset s now data with
        ⟨-, hsame⟩ | ⟨_, _, hdone⟩
      · rw [perform, hsame]
        exact hhoused
      · rw [perform, hdone]
        exact hhoused.of_eq rfl rfl
  | processEvent e =>
      intro row hrow
      show ∃ tenant ∈ (BillingService.processEvent cfg.str s.toSite e).2.tenants, _
      rw [(processEvent_frame cfg.str s.toSite e).tenants]
      rcases processEvent_rewrites cfg.str s.toSite e with hsame | ⟨found, saved, hrewrites⟩
      · exact hhoused row (hsame ▸ hrow)
      · have hmem : row ∈ s.subscriptions.rows.map fun x => if x.id == found.id then saved else x :=
          hrewrites.rows ▸ hrow
        obtain ⟨x, hx, hrowx⟩ := List.mem_map.mp hmem
        split at hrowx
        · rw [← hrowx, hrewrites.tenant]
          exact hhoused found hrewrites.stored
        · rw [← hrowx]
          exact hhoused x hx

/-! ## Runs -/

/-- The log only grows. -/
theorem run_trail (h : Lts.Run (Step cfg) s ops s') (hhoused : Housed s.toSite) :
    Housed s'.toSite ∧ trail s.toSite <+: trail s'.toSite := by
  have hstep : ∀ s op s', Housed s.toSite → Step cfg s op s' →
      Housed s'.toSite ∧ trail s.toSite <+: trail s'.toSite := by
    intro s op s' hhoused hstep
    obtain ⟨entries, htrail, -⟩ := step_trail hhoused hstep
    exact ⟨step_housed hhoused hstep, entries, htrail.symm⟩
  exact h.relates (I := fun s => Housed s.toSite)
    (R := fun s s' => trail s.toSite <+: trail s'.toSite) (fun s => List.prefix_rfl)
    (fun _ _ _ => List.IsPrefix.trans) hstep hhoused

/-- What was written at one point of a list that only grows is there at its
end, in the same place. -/
theorem written_iff {α : Type} {before written after : List α} {entry : α}
    (hgrown : before ++ written <+: after) :
    (∃ k, before.length ≤ k ∧ k < (before ++ written).length ∧ after[k]? = some entry)
      ↔ entry ∈ written := by
  obtain ⟨rest, rfl⟩ := hgrown
  rw [List.mem_iff_getElem?]
  constructor
  · rintro ⟨k, hfrom, hto, hk⟩
    rw [List.getElem?_append_left hto, List.getElem?_append_right hfrom] at hk
    exact ⟨k - before.length, hk⟩
  · rintro ⟨k, hk⟩
    obtain ⟨hlt, -⟩ := List.getElem?_eq_some_iff.mp hk
    have hto : before.length + k < (before ++ written).length := by
      rw [List.length_append]
      omega
    refine ⟨before.length + k, Nat.le_add_right .., hto, ?_⟩
    rw [List.getElem?_append_left hto, List.getElem?_append_right (Nat.le_add_right ..),
      Nat.add_sub_cancel_left]
    exact hk

theorem audited_iff (hhoused : Housed s₁.toSite) (hstep : Step cfg s₁ op s₂)
    (hpost : Lts.Run (Step cfg) s₂ post s) : Audited cfg s₁ op s₂ s ↔ Logs op := by
  obtain ⟨entries, htrail, htells⟩ := step_trail hhoused hstep
  have hgrown := (run_trail hpost (step_housed hhoused hstep)).2
  rw [htrail] at hgrown
  rw [← htells, Audited, htrail]
  constructor
  · rintro ⟨k, entry, hfrom, hto, hk, hentry⟩
    exact ⟨entry, (written_iff hgrown).mp ⟨k, hfrom, hto, hk⟩, hentry⟩
  · rintro ⟨entry, hmem, hentry⟩
    obtain ⟨k, hfrom, hto, hk⟩ := (written_iff hgrown).mpr hmem
    exact ⟨k, entry, hfrom, hto, hk, hentry⟩

/-- A run of successful calls is told completely exactly if each of its calls
is one that logs. -/
theorem audit_complete_iff (hhoused : Housed s₀.toSite) (h : Lts.Run (Step cfg) s₀ ops s) :
    Complete cfg s₀ ops s ↔ ∀ op ∈ ops, Logs op := by
  constructor
  · intro hcomplete op hop
    obtain ⟨pre, post, rfl⟩ := List.append_of_mem hop
    obtain ⟨s₁, s₂, hpre, hstep, hpost, haudited⟩ := hcomplete pre op post rfl
    exact (audited_iff (run_trail hpre hhoused).1 hstep hpost).mp haudited
  · rintro hlogs pre op post rfl
    obtain ⟨s₁, s₂, hpre, hstep, hpost⟩ := h.split
    refine ⟨s₁, s₂, hpre, hstep, hpost, ?_⟩
    exact (audited_iff (run_trail hpre hhoused).1 hstep hpost).mpr (hlogs op (by simp))

end

/-! ## A role, a cancellation and an invitation -/

def backends : Backends where
  str := SubscriptionLifecycle.str
  settings := DemoSeed.settings
  reset :=
    { charField := fun minLength value? =>
        match value? with
        | some (.str text) =>
            if text.length < minLength.getD 0 then .error ["Ensure this field is longer."]
            else .ok text
        | _ => .error ["This field is required."]
      notADict := fun _ => "Invalid data."
      decodeUid := fun uid => if uid == "MQ" then some 1 else none
      checkToken := fun _ _ _ => true
      validatePassword := fun _ _ => .ok ()
      makePassword := fun password => "pbkdf2_sha256$" ++ password }

/-- The demo data with a running subscription of Tenant One. -/
def subscribed : AccountSite :=
  DemoSeed.accounts.withSite SubscriptionLifecycle.subscribed rfl

/-- A role is given, then the subscription is canceled. -/
def assignedThenCanceled : List Op :=
  [.assignRole DemoSeed.admin DemoSeed.tenant2 "owner" none,
    .processEvent (SubscriptionLifecycle.notice 0 .subscriptionDeleted [])]

theorem assignedThenCanceled_run :
    Lts.Run (Step backends) subscribed assignedThenCanceled
      (assignedThenCanceled.foldl (perform backends) subscribed) := by
  refine .cons ⟨⟨_, rfl⟩, rfl⟩ (.cons ⟨⟨rfl, _, List.mem_cons_self, ?_⟩, rfl⟩ (.nil _))
  show (SubscriptionLifecycle.notice 0 .subscriptionDeleted []).column backends.str "id" ""
    = some "sub_1"
  decide

theorem audit_complete_iff_assigned :
    Complete backends subscribed assignedThenCanceled
        (assignedThenCanceled.foldl (perform backends) subscribed)
      ↔ ∀ op ∈ assignedThenCanceled, Logs op := by
  have hhoused : Housed subscribed.toSite := by
    intro row hrow
    obtain rfl := List.mem_singleton.mp hrow
    exact ⟨DemoSeed.tenant1, List.mem_cons_self, rfl⟩
  exact audit_complete_iff hhoused assignedThenCanceled_run

/-- An invitation to the tenant its sender administers. -/
def invite : Op :=
  .sendInvitation (DemoSeed.callAt 0 7) DemoSeed.tenant1 "guest@example.com" "member"
    DemoSeed.admin

theorem invited_untold :
    Lts.Run (Step backends) DemoSeed.accounts [invite] (perform backends DemoSeed.accounts invite)
      ∧ ¬ Complete backends DemoSeed.accounts [invite]
        (perform backends DemoSeed.accounts invite) := by
  refine ⟨.cons ⟨⟨_, rfl⟩, rfl⟩ (.nil _), fun hcomplete => ?_⟩
  obtain ⟨s₁, s₂, -, ⟨-, rfl⟩, -, k, -, hfrom, hto, -⟩ := hcomplete [] invite [] rfl
  have hsame : trail (perform backends s₁ invite).toSite = trail s₁.toSite :=
    congrArg (List.map _) (sendInvitation_logs ..)
  rw [hsame] at hto
  omega

end AuditTrail

end SaasKit
