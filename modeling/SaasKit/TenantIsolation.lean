import SaasKit.BillingCalls
import SaasKit.FeatureFlags
import SaasKit.SubscriptionLifecycle

/-!
# Tenants do not interfere

Every tenant's rows are in the same tables, so what keeps tenants apart is
the filter in each query. The calls find their rows by four different keys:
a tenant, the token of an invitation, and the customer and the subscription
id of an event. Runs of calls that address one tenant, whatever they come
to, leave the rows of every other tenant as they are, and what is read of
them (`tenants_isolated`).
-/

namespace SaasKit

namespace TenantIsolation

open BillingService FeatureService InvitationService RBACService

/-! ## Calls and whom they address -/

inductive Op where
  | assignRole (user : User) (tenant : Tenant) (role : String) (assignedBy : Option User)
  | revokeRole (user : User) (tenant : Tenant)
  | sendInvitation (call : Call) (tenant : Tenant) (email role : String) (invitedBy : User)
  | acceptInvitation (now : Time) (token : String) (user : User)
  | revokeInvitation (invitationId : UUID) (tenant : Tenant) (revokedBy : User)
  | setForTenant (tenant : Tenant) (flagName : String) (isEnabled : Bool) (source note : String)
  | syncPlanFlags (tenant : Tenant)
  | processEvent (e : StripeEvent)

section

variable (str : Json → String) (settings : Settings) (cfg : FeatureSettings)

/-- The site after a call, whether it returned or raised. -/
def next (s : FeatureSite) : Op → FeatureSite
  | .assignRole user tenant role assignedBy =>
      { s with toSite := (RBACService.assignRole s.toSite user tenant role assignedBy).2 }
  | .revokeRole user tenant => { s with toSite := (RBACService.revokeRole s.toSite user tenant).2 }
  | .sendInvitation call tenant email role invitedBy =>
      { s with
        toSite :=
          (InvitationService.sendInvitation settings call s.toSite tenant email role invitedBy).2 }
  | .acceptInvitation now token user =>
      { s with toSite := (InvitationService.acceptInvitation s.toSite now token user).2 }
  | .revokeInvitation invitationId tenant revokedBy =>
      { s with
        toSite := (InvitationService.revokeInvitation s.toSite invitationId tenant revokedBy).2 }
  | .setForTenant tenant flagName isEnabled source note =>
      (FeatureService.setForTenant s tenant flagName isEnabled source note).2
  | .syncPlanFlags tenant => (FeatureService.syncPlanFlags cfg s tenant).2
  | .processEvent e => { s with toSite := (BillingService.processEvent str s.toSite e).2 }

/-- The call is about this tenant: by its argument, by the token of one of
the tenant's invitations, or by the key of the tenant's subscription. -/
def Addresses (id : UUID) (s : FeatureSite) : Op → Prop
  | .assignRole _ tenant _ _ | .revokeRole _ tenant | .sendInvitation _ tenant _ _ _
  | .revokeInvitation _ tenant _ | .setForTenant tenant _ _ _ _ | .syncPlanFlags tenant =>
      tenant.id = id
  | .acceptInvitation _ token _ => ∃ inv ∈ s.invitations, inv.token = token ∧ inv.tenant = id
  | .processEvent e => ∃ row ∈ s.subscriptions, row.tenant = id ∧ Finds str row e

def Step (s : FeatureSite) (op : Op) (s' : FeatureSite) : Prop := next str settings cfg s op = s'

end

/-! ## The rows of a tenant -/

/-- The tenant has the rows it had, in every table that has a tenant. -/
structure SameRows (id : UUID) (s s' : FeatureSite) : Prop where
  userTenantRoles :
    s'.userTenantRoles.filter (·.tenant == id) = s.userTenantRoles.filter (·.tenant == id)
  invitations : s'.invitations.filter (·.tenant == id) = s.invitations.filter (·.tenant == id)
  tenantFeatureFlags :
    s'.tenantFeatureFlags.filter (·.tenant == id) = s.tenantFeatureFlags.filter (·.tenant == id)
  subscriptions : s'.subscriptions.filter (·.tenant == id) = s.subscriptions.filter (·.tenant == id)

theorem SameRows.refl (id : UUID) (s : FeatureSite) : SameRows id s s := ⟨rfl, rfl, rfl, rfl⟩

theorem SameRows.trans {id : UUID} {s₁ s₂ s₃ : FeatureSite} (h : SameRows id s₁ s₂)
    (h' : SameRows id s₂ s₃) : SameRows id s₁ s₃ :=
  ⟨h'.userTenantRoles.trans h.userTenantRoles, h'.invitations.trans h.invitations,
    h'.tenantFeatureFlags.trans h.tenantFeatureFlags, h'.subscriptions.trans h.subscriptions⟩

section

variable {id other : UUID} {s : FeatureSite} {site' : Site} {tenant : Tenant}

theorem beq_other {a : UUID} (ha : a = id) (hne : id ≠ other) : (a == other) = false := by
  rw [ha]
  exact beq_false_of_ne hne

/-! ### One lemma a service -/

theorem assignRole_other {user : User} {role : String} {assignedBy : Option User}
    (hne : tenant.id ≠ other) :
    SameRows other s
      { s with toSite := (RBACService.assignRole s.toSite user tenant role assignedBy).2 } := by
  cases hcall : RBACService.assignRole s.toSite user tenant role assignedBy with
  | mk res site' =>
      cases res with
      | error e =>
          rw [assignRole_error hcall]
          exact .refl other s
      | ok row =>
          obtain ⟨r, -, rfl, -, rfl⟩ := assignRole_ok hcall
          refine ⟨Table.filter_put fun x hkey => ?_, rfl, rfl, rfl⟩
          exact beq_other (congrArg Prod.snd hkey) hne

theorem revokeRole_other {user : User} (hne : tenant.id ≠ other) :
    SameRows other s { s with toSite := (RBACService.revokeRole s.toSite user tenant).2 } := by
  have hframe := @revokeRole_frame s.toSite user tenant
  refine ⟨?_, by rw [hframe.invitations], rfl, by rw [hframe.subscriptions]⟩
  rw [revokeRole_roles]
  refine Table.filter_delete fun x _ hmine => ?_
  rw [Bool.and_eq_true] at hmine
  exact beq_other (eq_of_beq hmine.2) hne

theorem sendInvitation_other {settings : Settings} {call : Call} {email role : String}
    {invitedBy : User} (hne : tenant.id ≠ other) :
    SameRows other s { s with
      toSite := (InvitationService.sendInvitation settings call s.toSite tenant email role
        invitedBy).2 } := by
  have hcases := sendInvitation_cases settings call s.toSite tenant email role invitedBy
  generalize (InvitationService.sendInvitation settings call s.toSite tenant email role
    invitedBy).2 = site' at hcases
  cases hcases with
  | refused => exact .refl other s
  | created r _ _ _ hinsert hroles hframe =>
      refine ⟨by rw [hroles], ?_, rfl, by rw [hframe.subscriptions]⟩
      exact Table.filter_insert? hinsert (beq_other rfl hne)

/-- Marking one invitation is not seen in another tenant. -/
theorem saveInvitation_other {inv : TenantInvitation} (hinv : inv ∈ s.invitations)
    (hne : inv.tenant ≠ other) {f : Table.Rewrite TenantInvitation.clash}
    (hf : ∀ x, (f.apply x).tenant = x.tenant) :
    (saveInvitation s.toSite inv.id f).invitations.filter (·.tenant == other)
      = s.invitations.filter (·.tenant == other) := by
  refine Table.filter_modify fun x hx hpk => ?_
  obtain rfl := invitation_eq_of_id hx hinv (eq_of_beq hpk)
  exact ⟨beq_other rfl hne, beq_other (hf x) hne⟩

theorem acceptInvitation_other {now : Time} {token : String} {user : User}
    {inv : TenantInvitation} (hinv : inv ∈ s.invitations) (htoken : inv.token = token)
    (hne : inv.tenant ≠ other) :
    SameRows other s
      { s with toSite := (InvitationService.acceptInvitation s.toSite now token user).2 } := by
  have hsame : ∀ x ∈ s.invitations, x.token = token → x = inv := fun x hx hx' =>
    Table.eq_of_clash invitation_clash_symm hx hinv
      (by simp [TenantInvitation.clash, hx', htoken])
  cases hgrants : grants? s.toSite now token user with
  | some found =>
      obtain ⟨hfound, hfoundToken, -⟩ := grants?_some hgrants
      obtain rfl := hsame found hfound hfoundToken
      obtain ⟨-, hroles, hinvitations, hframe⟩ := acceptInvitation_of_grants hgrants
      refine ⟨?_, ?_, rfl, by rw [hframe.subscriptions]⟩
      · rw [hroles]
        exact Table.filter_put fun x hkey => beq_other (congrArg Prod.snd hkey) hne
      · rw [hinvitations]
        exact saveInvitation_other hinv hne fun _ => rfl
  | none =>
      rcases (acceptInvitation_of_not hgrants).2 with hsite | ⟨found, _, hget, -, -, hsite⟩
      · rw [hsite]
        exact .refl other s
      · obtain ⟨hfound, hfoundToken, -⟩ := getByToken_some.mp hget
        obtain rfl := hsame found hfound hfoundToken
        rw [hsite]
        exact ⟨rfl, saveInvitation_other hinv hne fun _ => rfl, rfl, rfl⟩

theorem revokeInvitation_other {invitationId : UUID} {revokedBy : User}
    (hne : tenant.id ≠ other) :
    SameRows other s { s with
      toSite :=
        (InvitationService.revokeInvitation s.toSite invitationId tenant revokedBy).2 } := by
  rcases revokeInvitation_cases s.toSite invitationId tenant revokedBy with
    ⟨hsite, -⟩ | ⟨inv, hinv, -, htenant, -, -, hinvitations, hroles, hframe⟩
  · rw [hsite]
    exact .refl other s
  · refine ⟨by rw [hroles], ?_, rfl, by rw [hframe.subscriptions]⟩
    rw [hinvitations]
    exact saveInvitation_other hinv (by rw [htenant]; exact hne) fun _ => rfl

theorem setForTenant_other {flagName source note : String} {isEnabled : Bool}
    (hne : tenant.id ≠ other) :
    SameRows other s (FeatureService.setForTenant s tenant flagName isEnabled source note).2 := by
  rcases setForTenant_cases s tenant flagName isEnabled source note with ⟨e, hset⟩ | ⟨-, hset⟩
  · rw [hset]
    exact .refl other s
  · rw [hset]
    exact ⟨rfl, rfl, Table.filter_put fun x hkey => beq_other (congrArg Prod.fst hkey) hne, rfl⟩

/-- The loop of a sync writes one row after the other. -/
theorem setAll_other {note : String} (hne : tenant.id ≠ other) (entries : List (String × Bool)) :
    ∀ {s : FeatureSite}, SameRows other s (setAll s tenant note entries).2 := by
  induction entries with
  | nil => exact .refl other _
  | cons e rest ih =>
      intro s
      have hhead := @setForTenant_other other s tenant e.1 "plan" note e.2 hne
      unfold setAll
      cases hset : FeatureService.setForTenant s tenant e.1 e.2 "plan" note with
      | mk res s' =>
          rw [hset] at hhead
          cases res with
          | error err => exact hhead
          | ok _ => exact hhead.trans ih

theorem syncPlanFlags_other {cfg : FeatureSettings} (hne : tenant.id ≠ other) :
    SameRows other s (FeatureService.syncPlanFlags cfg s tenant).2 := by
  unfold FeatureService.syncPlanFlags
  split
  · exact .refl other s
  · split
    · exact .refl other s
    · simp only
      split
      · exact .refl other s
      · exact setAll_other hne _

theorem processEvent_other {str : Json → String} {e : StripeEvent} {row : Subscription}
    (hrow : row ∈ s.subscriptions) (hfinds : Finds str row e) (hne : row.tenant ≠ other) :
    SameRows other s { s with toSite := (BillingService.processEvent str s.toSite e).2 } := by
  rcases processEvent_rewrites str s.toSite e with hsite | ⟨found, saved, hrewrites⟩
  · rw [hsite]
    exact .refl other s
  · obtain rfl := hrewrites.only row hrow hfinds
    refine ⟨by rw [hrewrites.frame.userTenantRoles], by rw [hrewrites.frame.invitations], rfl, ?_⟩
    unfold Table.filter
    rw [hrewrites.rows]
    refine Table.filter_map_outside fun x hx hpk => ?_
    obtain rfl := subscription_eq_of_id hx hrow (eq_of_beq hpk)
    exact ⟨beq_other rfl hne, beq_other hrewrites.tenant hne⟩

/-! ### Any call, any run -/

variable {str : Json → String} {settings : Settings} {cfg : FeatureSettings}
  {s s' : FeatureSite} {op : Op} {ops : List Op}

theorem step_other (hne : id ≠ other)
    (h : Lts.Guarded (Step str settings cfg) (Addresses str id) s op s') :
    SameRows other s s' := by
  obtain ⟨rfl, haddr⟩ := h
  cases op with
  | assignRole user tenant role assignedBy => exact assignRole_other (haddr ▸ hne)
  | revokeRole user tenant => exact revokeRole_other (haddr ▸ hne)
  | sendInvitation call tenant email role invitedBy => exact sendInvitation_other (haddr ▸ hne)
  | acceptInvitation now token user =>
      obtain ⟨inv, hinv, htoken, rfl⟩ := haddr
      exact acceptInvitation_other hinv htoken hne
  | revokeInvitation invitationId tenant revokedBy =>
      exact revokeInvitation_other (haddr ▸ hne)
  | setForTenant tenant flagName isEnabled source note => exact setForTenant_other (haddr ▸ hne)
  | syncPlanFlags tenant => exact syncPlanFlags_other (haddr ▸ hne)
  | processEvent e =>
      obtain ⟨row, hrow, rfl, hfinds⟩ := haddr
      exact processEvent_other hrow hfinds hne

theorem run_other (hne : id ≠ other)
    (hrun : Lts.Run (Lts.Guarded (Step str settings cfg) (Addresses str id)) s ops s') :
    SameRows other s s' :=
  (hrun.relates (I := fun _ => True) (R := SameRows other) (SameRows.refl other)
    (fun _ _ _ => SameRows.trans) (fun _ _ _ _ h => ⟨trivial, step_other hne h⟩) trivial).2

/-! ## What is read of a tenant -/

theorem getRole_same (h : SameRows tenant.id s s') (user : User) :
    getRole s'.toSite user tenant = getRole s.toSite user tenant := by
  unfold getRole getRow
  rw [Table.find?_congr (fun x hx => (Bool.and_eq_true _ _ ▸ hx : _ ∧ _).2) h.userTenantRoles]

theorem hasRole_same (h : SameRows tenant.id s s') (user : Option User)
    (roles : List RoleChoices) :
    hasRole s'.toSite user tenant roles = hasRole s.toSite user tenant roles := by
  cases user with
  | none => rfl
  | some u =>
      unfold hasRole
      simp only
      rw [Table.any_congr (fun x hx => ?_) h.userTenantRoles]
      simp only [Bool.and_eq_true] at hx
      exact hx.1.2

theorem listPending_same (h : SameRows tenant.id s s') (now : Time) :
    listPending s'.toSite now tenant = listPending s.toSite now tenant := by
  unfold listPending
  rw [Table.filter_congr (fun x hx => ?_) h.invitations]
  simp only [Bool.and_eq_true] at hx
  exact hx.1.1

theorem forTenant_same {R : Type} (h : SameRows tenant.id s s') (waffle : Waffle R)
    (request : Option (FlagRequest R)) :
    forTenant cfg waffle s' tenant request = forTenant cfg waffle s tenant request := by
  unfold forTenant overrides
  rw [h.tenantFeatureFlags]

/-- After every run of calls that address one tenant, every other tenant has
the rows it had, and its roles, pending invitations and flags read as before. -/
theorem tenants_isolated (hne : id ≠ tenant.id)
    (hrun : Lts.Run (Lts.Guarded (Step str settings cfg) (Addresses str id)) s ops s') :
    SameRows tenant.id s s'
      ∧ (∀ user, getRole s'.toSite user tenant = getRole s.toSite user tenant)
      ∧ (∀ user roles,
          hasRole s'.toSite user tenant roles = hasRole s.toSite user tenant roles)
      ∧ (∀ now, listPending s'.toSite now tenant = listPending s.toSite now tenant)
      ∧ ∀ (R : Type) (features : FeatureSettings) (waffle : Waffle R)
          (request : Option (FlagRequest R)),
          forTenant features waffle s' tenant request
            = forTenant features waffle s tenant request := by
  have hsame : SameRows tenant.id s s' := run_other hne hrun
  exact ⟨hsame, getRole_same hsame, hasRole_same hsame, listPending_same hsame,
    fun R features waffle request => forTenant_same hsame waffle request⟩

end

/-! ## A busy tenant -/

open SubscriptionLifecycle (notice)

/-- One tenant gives a role, changes a flag and has its subscription
canceled. -/
def busy : List Op :=
  [.assignRole DemoSeed.admin DemoSeed.tenant1 "owner" none,
    .setForTenant DemoSeed.tenant1 "sso" true "manual" "",
    .processEvent (notice 0 .subscriptionDeleted [])]

/-- The site after these calls. -/
def after (s : FeatureSite) (ops : List Op) : FeatureSite :=
  ops.foldl (next SubscriptionLifecycle.str DemoSeed.settings FeatureFlags.readme) s

/-- Tenant Two has an owner, a pending invitation and a flag. -/
def settled : FeatureSite :=
  after FeatureFlags.subscribed
    [.assignRole DemoSeed.admin DemoSeed.tenant2 "owner" none,
      .sendInvitation (DemoSeed.callAt 0 7) DemoSeed.tenant2 "guest@example.com" "member"
        DemoSeed.admin,
      .setForTenant DemoSeed.tenant2 "sso" true "manual" ""]

theorem busy_run : Lts.Run
    (Lts.Guarded (Step SubscriptionLifecycle.str DemoSeed.settings FeatureFlags.readme)
      (Addresses SubscriptionLifecycle.str DemoSeed.tenant1.id))
    settled busy (after settled busy) := by
  refine .cons ⟨rfl, rfl⟩ (.cons ⟨rfl, rfl⟩ (.cons ⟨rfl, ?_⟩ (.nil _)))
  refine ⟨_, List.mem_cons_self, rfl, ?_⟩
  show (notice 0 .subscriptionDeleted []).column SubscriptionLifecycle.str "id" "" = some "sub_1"
  decide

theorem tenants_isolated_busy :
    SameRows DemoSeed.tenant2.id settled (after settled busy)
      ∧ getRole (after settled busy).toSite DemoSeed.admin DemoSeed.tenant2 = some .owner
      ∧ (listPending (after settled busy).toSite 0 DemoSeed.tenant2).map (·.email)
        = ["guest@example.com"] := by
  have hne : DemoSeed.tenant1.id ≠ DemoSeed.tenant2.id := by decide
  obtain ⟨hsame, hrole, -, hpending, -⟩ := tenants_isolated hne busy_run
  refine ⟨hsame, ?_, ?_⟩
  · rw [hrole]
    decide
  · rw [hpending]
    decide

end TenantIsolation

end SaasKit
