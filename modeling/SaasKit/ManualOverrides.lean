import SaasKit.FeatureFlags
import SaasKit.Lib.Run

/-!
# Overrides an admin sets

Manual overrides, changes of plan and syncs in any order, of any tenants.
Admins and syncs write through one upsert, keyed by tenant and flag, and
nothing reads the source column: a sync takes over every row its plan names.
So a manual override stays until the first sync that stores its flag, and
exactly until then (`manual_kept`).
-/

namespace SaasKit

namespace ManualOverrides

open FeatureService FeatureFlags

inductive Op where
  | setManual (tenant : Tenant) (flagName : String) (isEnabled : Bool) (note : String)
  | assignPlan (tenant : Tenant) (plan : Option Plan)
  | syncPlanFlags (tenant : Tenant)

/-- The deployment, with the last value that was set manually for each flag
of the tenant in question. -/
structure Conf where
  site : FeatureSite
  manual : String → Option Bool

def next (cfg : FeatureSettings) (id : UUID) (c : Conf) : Op → Conf
  | .setManual tenant flagName isEnabled note =>
      match setForTenant c.site tenant flagName isEnabled "manual" note with
      | (.error _, site) => ⟨site, c.manual⟩
      | (.ok (), site) =>
          ⟨site, fun name =>
            if tenant.id = id ∧ name = flagName then some isEnabled else c.manual name⟩
  | .assignPlan tenant plan => ⟨FeatureFlags.assignPlan c.site tenant plan, c.manual⟩
  | .syncPlanFlags tenant => ⟨(FeatureService.syncPlanFlags cfg c.site tenant).2, c.manual⟩

def Step (cfg : FeatureSettings) (id : UUID) (c : Conf) (op : Op) (c' : Conf) : Prop :=
  next cfg id c op = c'

/-- The note a sync of the tenant leaves. -/
def syncNote (s : FeatureSite) (tenant : Tenant) : String :=
  "Auto-set by plan: " ++ match s.subscriptions.find? (·.tenant == tenant.id) with
    | none => ""
    | some sub => planSlug s.toSite sub

/-- The entries a sync of the tenant stores: those of its plan's slug, up to
the first name the column cannot hold. -/
def synced (cfg : FeatureSettings) (s : FeatureSite) (tenant : Tenant) : List (String × Bool) :=
  match s.subscriptions.find? (·.tenant == tenant.id) with
  | none => []
  | some sub => (flagsOf cfg (planSlug s.toSite sub)).takeWhile fits

/-- A sync of the tenant stores no flag that has been set manually. -/
def Spares (cfg : FeatureSettings) (id : UUID) (c : Conf) : Op → Prop
  | .syncPlanFlags tenant => tenant.id = id →
      ∀ e ∈ synced cfg c.site tenant, c.manual e.1 = none
  | _ => True

/-- Each flag that has been set manually has its manual row. -/
def Kept (id : UUID) (c : Conf) : Prop :=
  ∀ flagName isEnabled, c.manual flagName = some isEnabled →
    ∃ note, (⟨id, flagName, isEnabled, "manual", note⟩ : TenantFeatureFlag)
      ∈ c.site.tenantFeatureFlags

/-- What has been set manually belongs to a tenant that exists. -/
def Known (id : UUID) (c : Conf) : Prop :=
  ∀ flagName isEnabled, c.manual flagName = some isEnabled →
    c.site.tenants.any (·.id == id) = true

section

variable {cfg : FeatureSettings} {id : UUID} {c c' : Conf} {op : Op} {ops : List Op}
  {s : FeatureSite} {tenant : Tenant} {row : TenantFeatureFlag}

/-! ## What a sync stores -/

theorem setAll_unknown (hunknown : s.tenants.any (·.id == tenant.id) = false) (note : String)
    (entries : List (String × Bool)) : (setAll s tenant note entries).2 = s := by
  cases entries with
  | nil => rfl
  | cons e rest =>
      unfold setAll
      rcases setForTenant_cases s tenant e.1 e.2 "plan" note with ⟨err, hset⟩ | ⟨hknown, -⟩
      · rw [hset]
      · rw [hunknown] at hknown
        cases hknown

theorem sync_unsubscribed (hnone : s.subscriptions.find? (·.tenant == tenant.id) = none) :
    (FeatureService.syncPlanFlags cfg s tenant).2 = s := by
  unfold FeatureService.syncPlanFlags
  rw [hnone]
  split <;> rfl

theorem sync_unknown (hunknown : s.tenants.any (·.id == tenant.id) = false) :
    (FeatureService.syncPlanFlags cfg s tenant).2 = s := by
  cases hfind : s.subscriptions.find? (·.tenant == tenant.id) with
  | none => exact sync_unsubscribed hfind
  | some sub =>
      rw [syncPlanFlags_eq hfind]
      exact setAll_unknown hunknown _ _

/-- The rows after a sync of a tenant that exists. -/
theorem mem_sync (hknown : s.tenants.any (·.id == tenant.id) = true) :
    row ∈ (FeatureService.syncPlanFlags cfg s tenant).2.tenantFeatureFlags ↔
      (∃ e ∈ synced cfg s tenant, row = ⟨tenant.id, e.1, e.2, "plan", syncNote s tenant⟩)
        ∨ row ∈ s.tenantFeatureFlags ∧ ∀ e ∈ synced cfg s tenant, row.key ≠ (tenant.id, e.1) := by
  unfold synced syncNote
  cases hfind : s.subscriptions.find? (·.tenant == tenant.id) with
  | none => simp [sync_unsubscribed hfind]
  | some sub =>
      rw [syncPlanFlags_eq hfind]
      exact mem_setAll (flagsOf_nodup cfg _) hknown

/-! ## One operation -/

theorem known_step (hc : Known id c) (h : Step cfg id c op c') : Known id c' := by
  obtain rfl := h
  cases op with
  | setManual tenant flagName isEnabled note =>
      rcases setForTenant_cases c.site tenant flagName isEnabled "manual" note with
        ⟨e, hset⟩ | ⟨hknown, hset⟩
      · simp only [next, hset]
        exact hc
      · simp only [next, hset]
        intro name value hmanual
        simp only at hmanual
        split at hmanual
        · rename_i hsame
          rw [hsame.1] at hknown
          exact hknown
        · exact hc name value hmanual
  | assignPlan tenant plan => exact hc
  | syncPlanFlags tenant =>
      intro name value hmanual
      simp only [next, syncPlanFlags_site]
      exact hc name value hmanual

/-- An operation other than a sync of the tenant leaves the manual rows. -/
theorem kept_step (hc : Kept id c) (h : Lts.Guarded (Step cfg id) (Spares cfg id) c op c') :
    Kept id c' := by
  obtain ⟨rfl, hspares⟩ := h
  cases op with
  | setManual tenant flagName isEnabled note =>
      rcases setForTenant_cases c.site tenant flagName isEnabled "manual" note with
        ⟨e, hset⟩ | ⟨-, hset⟩
      · simp only [next, hset]
        exact hc
      · simp only [next, hset]
        intro name value hmanual
        simp only at hmanual
        split at hmanual
        · rename_i hsame
          obtain ⟨rfl, rfl⟩ := hsame
          obtain rfl := Option.some.inj hmanual
          exact ⟨note, Table.mem_put.mpr (Or.inl rfl)⟩
        · rename_i hother
          obtain ⟨note', hrow⟩ := hc name value hmanual
          refine ⟨note', Table.mem_put.mpr (Or.inr ⟨hrow, fun hkey => hother ?_⟩)⟩
          obtain ⟨hid, hname⟩ := Prod.mk.inj hkey
          exact ⟨hid.symm, hname⟩
  | assignPlan tenant plan => exact hc
  | syncPlanFlags tenant =>
      intro name value hmanual
      obtain ⟨note, hrow⟩ := hc name value hmanual
      refine ⟨note, ?_⟩
      cases hknown : c.site.tenants.any (·.id == tenant.id) with
      | false =>
          simp only [next, sync_unknown hknown]
          exact hrow
      | true =>
          refine (mem_sync hknown).mpr (Or.inr ⟨hrow, fun e he hkey => ?_⟩)
          obtain ⟨hid, rfl⟩ := Prod.mk.inj hkey
          have hnone := hspares hid.symm e he
          have hsome : c.manual e.1 = some value := hmanual
          rw [hsome] at hnone
          cases hnone

/-- A sync that stores a flag set manually takes its row over. -/
theorem spares_of_kept (hknown : Known id c) (h : Step cfg id c op c') (hc' : Kept id c') :
    Spares cfg id c op := by
  obtain rfl := h
  cases op with
  | setManual => trivial
  | assignPlan => trivial
  | syncPlanFlags tenant =>
      intro hid e he
      cases hmanual : c.manual e.1 with
      | none => rfl
      | some value =>
          have hany : c.site.tenants.any (·.id == tenant.id) = true :=
            hid ▸ hknown e.1 value hmanual
          obtain ⟨note, hrow⟩ := hc' e.1 value hmanual
          have hplan : (⟨tenant.id, e.1, e.2, "plan", syncNote c.site tenant⟩ : TenantFeatureFlag)
              ∈ (FeatureService.syncPlanFlags cfg c.site tenant).2.tenantFeatureFlags :=
            (mem_sync hany).mpr (Or.inl ⟨e, he, rfl⟩)
          have hsame := Table.eq_of_clash Table.sameKey_symm hrow hplan
            (Table.sameKey_iff.mpr (by rw [hid]; rfl))
          have hsource : "manual" = "plan" := congrArg TenantFeatureFlag.source hsame
          exact absurd hsource (by decide)

/-! ## Runs -/

/-- The row of a flag decides, whatever waffle and the settings say. -/
theorem isEnabled_of_row {R : Type} {waffle : Waffle R} {request : Option (FlagRequest R)}
    (hrow : row ∈ s.tenantFeatureFlags) (htenant : row.tenant = tenant.id) :
    isEnabled cfg waffle s true row.flagName request (some tenant) = row.isEnabled := by
  have hfind : s.tenantFeatureFlags.find? (fun x => decide (x.key = (tenant.id, row.flagName)))
      = some row := by
    refine Table.find?_eq_of_mem Table.sameKey_symm hrow (by simp [TenantFeatureFlag.key, htenant])
      fun x hx => ?_
    rw [Table.sameKey_iff, of_decide_eq_true hx]
    simp [TenantFeatureFlag.key, htenant]
  rw [isEnabled_eq]
  simp only [overrideOf, resolvedTenant, Option.bind_some, hfind]

/-- After every run whose syncs spare the flags that have been set manually,
each of these has a manual row with the last value, and is resolved to it.
The next operation keeps the rows exactly if it spares the flags too. -/
theorem manual_kept {s₀ : FeatureSite}
    (hrun : Lts.Run (Lts.Guarded (Step cfg id) (Spares cfg id)) ⟨s₀, fun _ => none⟩ ops c) :
    (∀ flagName value, c.manual flagName = some value →
      (∃ row ∈ c.site.tenantFeatureFlags, row.tenant = id ∧ row.flagName = flagName
          ∧ row.source = "manual" ∧ row.isEnabled = value)
        ∧ ∀ (R : Type) (waffle : Waffle R) (request : Option (FlagRequest R)) (tenant : Tenant),
            tenant.id = id →
            isEnabled cfg waffle c.site true flagName request (some tenant) = value)
      ∧ ∀ op c', Step cfg id c op c' → (Kept id c' ↔ Spares cfg id c op) := by
  have hkept : Kept id c :=
    hrun.invariant (I := Kept id) (fun _ _ _ hc h => kept_step hc h) fun _ _ h => by cases h
  have hknown : Known id c :=
    hrun.invariant (I := Known id) (fun _ _ _ hc h => known_step hc h.1) fun _ _ h => by cases h
  refine ⟨fun flagName value hmanual => ?_, fun op c' hstep => ⟨spares_of_kept hknown hstep,
    fun hspares => kept_step hkept ⟨hstep, hspares⟩⟩⟩
  obtain ⟨note, hrow⟩ := hkept flagName value hmanual
  exact ⟨⟨_, hrow, rfl, rfl, rfl, rfl⟩, fun R waffle request tenant htenant =>
    isEnabled_of_row hrow htenant.symm⟩

end

/-! ## One override -/

/-- The site after these operations, with what was set manually. -/
def after (ops : List Op) : Conf :=
  ops.foldl (next readme DemoSeed.tenant1.id) ⟨subscribed, fun _ => none⟩

/-- Single sign-on for a tenant on the pro plan, whose entries do not name
it. -/
def granted : List Op :=
  [.assignPlan DemoSeed.tenant1 (some pro), .setManual DemoSeed.tenant1 "sso" true "early access",
    .syncPlanFlags DemoSeed.tenant1]

theorem granted_spares : Lts.Run
    (Lts.Guarded (Step readme DemoSeed.tenant1.id) (Spares readme DemoSeed.tenant1.id))
    ⟨subscribed, fun _ => none⟩ granted (after granted) := by
  refine .cons ⟨rfl, trivial⟩ (.cons ⟨rfl, trivial⟩ (.cons ⟨rfl, fun _ => ?_⟩ (.nil _)))
  decide

theorem manual_kept_granted :
    isEnabled readme noRows (after granted).site true "sso" none (some DemoSeed.tenant1) = true :=
  ((manual_kept granted_spares).1 "sso" true (by decide)).2 Unit noRows none DemoSeed.tenant1 rfl

/-- A sync switches on what an admin has switched off. -/
theorem sync_overrides_manual :
    ¬ ∀ (cfg : FeatureSettings) (id : UUID) (s₀ : FeatureSite) (ops : List Op) (c : Conf),
      Lts.Run (Step cfg id) ⟨s₀, fun _ => none⟩ ops c → Kept id c := by
  intro hall
  have hkept := hall readme DemoSeed.tenant1.id subscribed
    [.setManual DemoSeed.tenant1 "api_access" false "abuse",
      .assignPlan DemoSeed.tenant1 (some pro), .syncPlanFlags DemoSeed.tenant1] _
    (.cons rfl (.cons rfl (.cons rfl (.nil _))))
  obtain ⟨note, hrow⟩ := hkept "api_access" false (by decide)
  have hplan : ∀ row ∈ (after [.setManual DemoSeed.tenant1 "api_access" false "abuse",
      .assignPlan DemoSeed.tenant1 (some pro),
      .syncPlanFlags DemoSeed.tenant1]).site.tenantFeatureFlags, row.source = "plan" := by decide
  have hsource : "manual" = "plan" := hplan _ hrow
  exact absurd hsource (by decide)

end ManualOverrides

end SaasKit
