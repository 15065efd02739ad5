import Mathlib.Data.List.Induction
import Mathlib.Data.List.TakeWhile
import SaasKit.DemoSeed
import SaasKit.FeatureService

/-!
# Flags and plans, flags and layers

Two statements about `FeatureService`. The rows that `sync_plan_flags`
writes should be the ones the current plan calls for, whatever the plans
before it were: a sync only writes the flags its own plan names, so what an
earlier plan named stays. `plan_rows_iff` says when that makes a difference.

The state of a flag should come from the first of four layers that has an
entry for it. Waffle answers "off" where it has no entry, which is not told
apart from an entry that is off, so the layers below the first waffle call
are never reached. `resolution_iff` says when that makes a difference.
-/

namespace SaasKit

namespace FeatureFlags

open FeatureService

/-! ## Changing the plan -/

/-- Save a subscription under another plan. -/
def setPlan (plan : Option PlanId) : Table.Rewrite Subscription.clash :=
  ⟨fun sub => { sub with plan }, fun _ _ => rfl, fun _ _ => rfl⟩

def assignPlan (s : FeatureSite) (tenant : Tenant) (plan : Option Plan) : FeatureSite :=
  { s with
    subscriptions :=
      s.subscriptions.modify (·.tenant == tenant.id) (setPlan (plan.map (·.id))) }

/-- A new plan for the tenant, and the sync that follows. -/
def changePlan (cfg : FeatureSettings) (tenant : Tenant) (s : FeatureSite) (plan : Option Plan) :
    FeatureSite :=
  (syncPlanFlags cfg (assignPlan s tenant plan) tenant).2

def run (cfg : FeatureSettings) (tenant : Tenant) (s : FeatureSite) (plans : List (Option Plan)) :
    FeatureSite :=
  plans.foldl (changePlan cfg tenant) s

/-- The entries of the mapping under a slug. -/
def flagsOf (cfg : FeatureSettings) (slug : String) : List (String × Bool) :=
  match cfg.planFeatureFlags.get? slug with
  | none => []
  | some flags => flags.rows

/-- What the mapping says of a plan; of no plan it says nothing. -/
def entries (cfg : FeatureSettings) : Option Plan → List (String × Bool)
  | none => []
  | some plan => flagsOf cfg plan.slug

def slugOf : Option Plan → String
  | none => ""
  | some plan => plan.slug

/-- What a sync under the plan writes: no plan is looked up as the empty
slug, and the first name the column cannot hold ends the loop. -/
def stored (cfg : FeatureSettings) (plan : Option Plan) : List (String × Bool) :=
  (flagsOf cfg (slugOf plan)).takeWhile fits

structure Subscribed (s : FeatureSite) (tenant : Tenant) : Prop where
  known : tenant ∈ s.tenants
  subscribed : ∃ sub ∈ s.subscriptions, sub.tenant = tenant.id

section

variable {cfg : FeatureSettings} {s : FeatureSite} {tenant : Tenant} {plan : Option Plan}
  {plans : List (Option Plan)} {row : TenantFeatureFlag}

theorem flagsOf_nodup (cfg : FeatureSettings) (slug : String) :
    ((flagsOf cfg slug).map Prod.fst).Nodup := by
  unfold flagsOf
  split
  · exact List.nodup_nil
  · rename_i flags _
    rw [List.Nodup, List.pairwise_map]
    exact flags.ok.imp fun h => by simpa [sameKey] using h

theorem plan_clash_symm (a b : Plan) : Plan.clash a b = Plan.clash b a := by
  simp only [Plan.clash, BEq.comm]

theorem Subscribed.any (h : Subscribed s tenant) : s.tenants.any (·.id == tenant.id) = true :=
  Table.any_iff.mpr ⟨tenant, h.known, beq_self_eq_true _⟩

theorem Subscribed.assign (h : Subscribed s tenant) (plan : Option Plan) :
    Subscribed (assignPlan s tenant plan) tenant where
  known := h.known
  subscribed := by
    obtain ⟨sub, hsub, htenant⟩ := h.subscribed
    refine ⟨_, Table.mem_modify.mpr ⟨sub, hsub, rfl⟩, ?_⟩
    split <;> exact htenant

/-- The subscription a sync reads after a change of plan. -/
theorem find?_assignPlan (hs : Subscribed s tenant) (plan : Option Plan) :
    ∃ sub, (assignPlan s tenant plan).subscriptions.find? (·.tenant == tenant.id) = some sub
      ∧ sub.plan = plan.map (·.id) := by
  obtain ⟨sub, hsub, htenant⟩ := (hs.assign plan).subscribed
  cases hfind : (assignPlan s tenant plan).subscriptions.find? (·.tenant == tenant.id) with
  | none =>
      have := Table.find?_none.mp hfind sub hsub
      simp [htenant] at this
  | some found =>
      obtain ⟨hmem, hid⟩ := Table.find?_some hfind
      obtain ⟨old, -, hold⟩ := Table.mem_modify.mp hmem
      refine ⟨found, rfl, ?_⟩
      split at hold
      · rw [hold]; rfl
      · rename_i hne
        exact absurd (hold ▸ hid) hne

theorem planSlug_eq {sub : Subscription} (hplan : ∀ p, plan = some p → p ∈ s.plans)
    (hsub : sub.plan = plan.map (·.id)) : planSlug s.toSite sub = slugOf plan := by
  unfold planSlug
  rw [hsub]
  cases plan with
  | none => rfl
  | some p =>
      have hfind : s.plans.find? (·.id == p.id) = some p :=
        Table.find?_eq_of_mem plan_clash_symm (hplan p rfl) (by simp) fun x hx => by
          simp only [Plan.clash, Bool.or_eq_true]; exact Or.inl hx
      simp only [Option.map_some, Option.bind_some, hfind, slugOf]

/-- A sync works through the entries of the slug that the subscription has. -/
theorem syncPlanFlags_eq {sub : Subscription}
    (hfind : s.subscriptions.find? (·.tenant == tenant.id) = some sub) :
    (syncPlanFlags cfg s tenant).2
      = (setAll s tenant ("Auto-set by plan: " ++ planSlug s.toSite sub)
          (flagsOf cfg (planSlug s.toSite sub))).2 := by
  unfold syncPlanFlags flagsOf
  simp only [hfind]
  split
  · rename_i hempty
    have hget : cfg.planFeatureFlags.get? (planSlug s.toSite sub) = none := by
      simp [Dict.get?, Table.find?, hempty]
    rw [hget]
    rfl
  · cases cfg.planFeatureFlags.get? (planSlug s.toSite sub) <;> rfl

/-- The sync after a change of plan works through the entries of the new
slug. -/
theorem changePlan_eq (hs : Subscribed s tenant)
    (hplan : ∀ p, plan = some p → p ∈ s.plans) :
    changePlan cfg tenant s plan
      = (setAll (assignPlan s tenant plan) tenant ("Auto-set by plan: " ++ slugOf plan)
          (flagsOf cfg (slugOf plan))).2 := by
  obtain ⟨sub, hfind, hassigned⟩ := find?_assignPlan hs plan
  have hslug : planSlug (assignPlan s tenant plan).toSite sub = slugOf plan :=
    planSlug_eq (s := assignPlan s tenant plan) hplan hassigned
  unfold changePlan
  rw [syncPlanFlags_eq hfind, hslug]

/-- What a change of plan leaves alone. -/
theorem changePlan_frame (cfg : FeatureSettings) (hs : Subscribed s tenant) :
    Subscribed (changePlan cfg tenant s plan) tenant
      ∧ (changePlan cfg tenant s plan).plans = s.plans := by
  have hassign := hs.assign plan
  have hsite : (changePlan cfg tenant s plan).toSite = (assignPlan s tenant plan).toSite :=
    syncPlanFlags_site
  refine ⟨⟨?_, ?_⟩, ?_⟩
  · rw [hsite]; exact hassign.known
  · rw [hsite]; exact hassign.subscribed
  · rw [hsite]; rfl

/-- The rows after a change of plan: what the sync stores, and of the rows
before it those it has no entry for. -/
theorem mem_changePlan (hs : Subscribed s tenant)
    (hplan : ∀ p, plan = some p → p ∈ s.plans) :
    row ∈ (changePlan cfg tenant s plan).tenantFeatureFlags ↔
      (∃ e ∈ stored cfg plan,
          row = ⟨tenant.id, e.1, e.2, "plan", "Auto-set by plan: " ++ slugOf plan⟩)
        ∨ row ∈ s.tenantFeatureFlags ∧ ∀ e ∈ stored cfg plan, row.key ≠ (tenant.id, e.1) := by
  rw [changePlan_eq hs hplan]
  exact mem_setAll (flagsOf_nodup cfg _) (hs.assign plan).any

/-! ## Runs of plan changes -/

/-- The tenant's rows are plan rows for stored names of the plans so far. -/
structure FromPlans (cfg : FeatureSettings) (tenant : Tenant) (plans : List (Option Plan))
    (s : FeatureSite) : Prop where
  plan : ∀ row ∈ s.tenantFeatureFlags, row.tenant = tenant.id → row.source = "plan"
  named : ∀ name, (∃ row ∈ s.tenantFeatureFlags, row.tenant = tenant.id ∧ row.flagName = name)
    ↔ ∃ plan ∈ plans, ∃ e ∈ stored cfg plan, e.1 = name

theorem FromPlans.change (hs : Subscribed s tenant) (h : FromPlans cfg tenant plans s)
    (hplan : ∀ p, plan = some p → p ∈ s.plans) :
    FromPlans cfg tenant (plans ++ [plan]) (changePlan cfg tenant s plan) where
  plan row hrow htenant := by
    rcases (mem_changePlan hs hplan).mp hrow with ⟨e, -, rfl⟩ | ⟨hold, -⟩
    · rfl
    · exact h.plan row hold htenant
  named name := by
    constructor
    · rintro ⟨row, hrow, htenant, hname⟩
      rcases (mem_changePlan hs hplan).mp hrow with ⟨e, he, rfl⟩ | ⟨hold, -⟩
      · exact ⟨plan, by simp, e, he, hname⟩
      · obtain ⟨q, hq, hstored⟩ := (h.named name).mp ⟨row, hold, htenant, hname⟩
        exact ⟨q, List.mem_append_left _ hq, hstored⟩
    · rintro ⟨q, hq, e, he, rfl⟩
      by_cases hnew : ∃ e' ∈ stored cfg plan, e'.1 = e.1
      · obtain ⟨e', he', hname⟩ := hnew
        exact ⟨_, (mem_changePlan hs hplan).mpr (Or.inl ⟨e', he', rfl⟩), rfl, hname⟩
      · rcases List.mem_append.mp hq with hq | hq
        · obtain ⟨row, hrow, htenant, hname⟩ := (h.named e.1).mpr ⟨q, hq, e, he, rfl⟩
          refine ⟨row, (mem_changePlan hs hplan).mpr (Or.inr ⟨hrow, fun e' he' hkey => ?_⟩),
            htenant, hname⟩
          have hname' : row.flagName = e'.1 := (Prod.mk.inj hkey).2
          exact hnew ⟨e', he', hname'.symm.trans hname⟩
        · obtain rfl := List.mem_singleton.mp hq
          exact absurd ⟨e, he, rfl⟩ hnew

theorem run_append (cfg : FeatureSettings) (tenant : Tenant) (s : FeatureSite)
    (plans : List (Option Plan)) (plan : Option Plan) :
    run cfg tenant s (plans ++ [plan]) = changePlan cfg tenant (run cfg tenant s plans) plan := by
  simp [run, List.foldl_append]

/-- A tenant that had no rows has, after any plans, rows for the names these
stored. -/
theorem fromPlans_run (cfg : FeatureSettings) (hs : Subscribed s tenant)
    (hnew : ∀ row ∈ s.tenantFeatureFlags, row.tenant ≠ tenant.id)
    (hplans : ∀ q ∈ plans, ∀ p, q = some p → p ∈ s.plans) :
    FromPlans cfg tenant plans (run cfg tenant s plans)
      ∧ Subscribed (run cfg tenant s plans) tenant
      ∧ (run cfg tenant s plans).plans = s.plans := by
  induction plans using List.reverseRecOn with
  | nil =>
      refine ⟨⟨fun row hrow htenant => absurd htenant (hnew row hrow), fun name => ?_⟩, hs, rfl⟩
      constructor
      · rintro ⟨row, hrow, htenant, -⟩
        exact absurd htenant (hnew row hrow)
      · rintro ⟨plan, hplan, -⟩
        cases hplan
  | append_singleton plans plan ih =>
      obtain ⟨hrows, hsub, hsame⟩ := ih fun q hq => hplans q (List.mem_append_left _ hq)
      have hplan : ∀ p, plan = some p → p ∈ (run cfg tenant s plans).plans := by
        rw [hsame]
        exact hplans plan (by simp)
      obtain ⟨hsub', hsame'⟩ := changePlan_frame cfg hsub
      rw [run_append]
      exact ⟨hrows.change hsub hplan, hsub', hsame'.trans hsame⟩

/-- The tenant's plan rows are these entries. -/
def PlanRows (s : FeatureSite) (tenant : Tenant) (entries : List (String × Bool)) : Prop :=
  ∀ name on, (∃ row ∈ s.tenantFeatureFlags, row.tenant = tenant.id ∧ row.source = "plan"
    ∧ row.flagName = name ∧ row.isEnabled = on) ↔ (name, on) ∈ entries

theorem fits_of_stored {e : String × Bool} (h : e ∈ stored cfg plan) : fits e = true :=
  List.mem_takeWhile_imp h

/-- A sync stores the entries of its plan, if the column holds their names
and nothing else is stored. -/
theorem mem_stored_iff {e : String × Bool}
    (hnames : ∀ e ∈ stored cfg plan, ∃ on, (e.1, on) ∈ entries cfg plan)
    (hfits : ∀ e ∈ entries cfg plan, fits e = true) :
    e ∈ stored cfg plan ↔ e ∈ entries cfg plan := by
  cases plan with
  | none =>
      constructor
      · intro he
        obtain ⟨on, hon⟩ := hnames e he
        cases hon
      · intro he
        cases he
  | some p =>
      have hall : stored cfg (some p) = entries cfg (some p) :=
        List.takeWhile_eq_self_iff.mpr hfits
      rw [hall]

/-- The rows of the last plan and nothing else, exactly when every name some
sync stored is one of the last plan's and the column holds all of those. -/
theorem plan_rows_iff {cfg : FeatureSettings} {s : FeatureSite} {tenant : Tenant}
    (hs : Subscribed s tenant) (hnew : ∀ row ∈ s.tenantFeatureFlags, row.tenant ≠ tenant.id)
    (plans : List (Option Plan)) (last : Option Plan)
    (hplans : ∀ q ∈ plans ++ [last], ∀ p, q = some p → p ∈ s.plans) :
    PlanRows (run cfg tenant s (plans ++ [last])) tenant (entries cfg last)
      ↔ (∀ q ∈ plans ++ [last], ∀ e ∈ stored cfg q, ∃ on, (e.1, on) ∈ entries cfg last)
        ∧ ∀ e ∈ entries cfg last, fits e = true := by
  obtain ⟨hrows, -, -⟩ := fromPlans_run cfg hs hnew hplans
  constructor
  · intro h
    have hnamed : ∀ row ∈ (run cfg tenant s (plans ++ [last])).tenantFeatureFlags,
        row.tenant = tenant.id → (row.flagName, row.isEnabled) ∈ entries cfg last :=
      fun row hrow htenant =>
        (h _ _).mp ⟨row, hrow, htenant, hrows.plan row hrow htenant, rfl, rfl⟩
    constructor
    · intro q hq e he
      obtain ⟨row, hrow, htenant, hname⟩ := (hrows.named e.1).mpr ⟨q, hq, e, he, rfl⟩
      exact ⟨row.isEnabled, hname ▸ hnamed row hrow htenant⟩
    · rintro ⟨name, on⟩ he
      obtain ⟨row, hrow, htenant, -, hname, -⟩ := (h name on).mpr he
      obtain ⟨q, -, e, he', hname'⟩ := (hrows.named name).mp ⟨row, hrow, htenant, hname⟩
      have hfits : fits (e.1, e.2) = true := fits_of_stored he'
      rw [hname'] at hfits
      exact hfits
  · rintro ⟨hnames, hfits⟩ name on
    have hlast := fun e => mem_stored_iff (e := e) (hnames last (by simp)) hfits
    have hbelow : ∀ q ∈ plans, ∀ p, q = some p → p ∈ s.plans :=
      fun q hq => hplans q (List.mem_append_left _ hq)
    obtain ⟨hbefore, hsub, hsame⟩ := fromPlans_run cfg hs hnew hbelow
    have hplan : ∀ p, last = some p → p ∈ (run cfg tenant s plans).plans := by
      rw [hsame]
      exact hplans last (by simp)
    rw [run_append]
    constructor
    · rintro ⟨row, hrow, htenant, -, rfl, rfl⟩
      rcases (mem_changePlan hsub hplan).mp hrow with ⟨e, he, rfl⟩ | ⟨hold, hkeys⟩
      · exact (hlast e).mp he
      · -- an earlier plan's name: the last plan has an entry for it too
        obtain ⟨q, hq, e, he, hname⟩ := (hbefore.named row.flagName).mp ⟨row, hold, htenant, rfl⟩
        obtain ⟨on, hon⟩ := hnames q (List.mem_append_left _ hq) e he
        have hkey : row.key = (tenant.id, e.1) := by rw [TenantFeatureFlag.key, htenant, hname]
        exact absurd hkey (hkeys (e.1, on) ((hlast _).mpr hon))
    · intro he
      exact ⟨_, (mem_changePlan hsub hplan).mpr (Or.inl ⟨(name, on), (hlast _).mpr he, rfl⟩),
        rfl, rfl, rfl, rfl⟩

end

/-! ## From enterprise to pro -/

/-- The mapping of the README. -/
def readme : FeatureSettings where
  featureFlagsDefaults := ∅
  planFeatureFlags := ⟨[
    ("free", ⟨[("api_access", false), ("advanced_analytics", false)], by decide⟩),
    ("starter", ⟨[("api_access", true), ("advanced_analytics", false)], by decide⟩),
    ("pro", ⟨[("api_access", true), ("advanced_analytics", true)], by decide⟩),
    ("enterprise", ⟨[("api_access", true), ("advanced_analytics", true), ("sso", true)],
      by decide⟩)], by decide⟩

def pro : Plan := ⟨1, "pro", 20⟩
def enterprise : Plan := ⟨2, "enterprise", 0⟩

/-- Tenant One with a subscription. -/
def subscribed : FeatureSite where
  toSite := { DemoSeed.site with
    plans := ⟨[pro, enterprise], by decide⟩
    subscriptions := ⟨[⟨1, DemoSeed.tenant1.id, none, "cus_1", some "sub_1", "", "active", none,
      none, none, false, none⟩], List.pairwise_singleton ..⟩ }
  tenantFeatureFlags := ∅

theorem subscribed_tenant1 : Subscribed subscribed DemoSeed.tenant1 where
  known := List.mem_cons_self
  subscribed := ⟨_, List.mem_singleton_self _, rfl⟩

theorem plan_rows_after_upgrade :
    PlanRows (run readme DemoSeed.tenant1 subscribed [some pro, some enterprise]) DemoSeed.tenant1
      (entries readme (some enterprise)) :=
  (plan_rows_iff subscribed_tenant1 (fun _ hrow => absurd hrow (Table.not_mem_empty _)) [some pro]
    (some enterprise) (by decide)).mpr ⟨by decide, by decide⟩

/-- A downgrade leaves single sign-on switched on. -/
theorem sso_survives_downgrade :
    ¬ ∀ (cfg : FeatureSettings) (s : FeatureSite) (tenant : Tenant), Subscribed s tenant →
      (∀ row ∈ s.tenantFeatureFlags, row.tenant ≠ tenant.id) →
      ∀ (plans : List (Option Plan)) (last : Option Plan),
        (∀ q ∈ plans ++ [last], ∀ p, q = some p → p ∈ s.plans) →
        PlanRows (run cfg tenant s (plans ++ [last])) tenant (entries cfg last) := by
  intro hall
  have hrows := hall readme subscribed DemoSeed.tenant1 subscribed_tenant1
    (fun _ hrow => absurd hrow (Table.not_mem_empty _)) [some enterprise] (some pro) (by decide)
  have hsso : ∃ row ∈ (run readme DemoSeed.tenant1 subscribed
      [some enterprise, some pro]).tenantFeatureFlags, row.tenant = DemoSeed.tenant1.id
        ∧ row.source = "plan" ∧ row.flagName = "sso" ∧ row.isEnabled = true := by decide
  have hin := (hrows "sso" true).mp hsso
  revert hin
  decide

/-! ## The four layers -/

section

variable {R : Type}

/-- What waffle answers, given the rows it has: the row's state, "off"
without one. -/
structure Reads (waffle : Waffle R) (flags : String → Option (R → Bool))
    (switches : String → Option Bool) : Prop where
  flag : ∀ raw name, waffle.flagIsActive raw name = .ok ((flags name).elim false fun f => f raw)
  switch : ∀ name, waffle.switchIsActive name = .ok ((switches name).getD false)

/-- The override of the tenant the call is about. -/
def overrideOf (s : FeatureSite) (flagName : String) (request : Option (FlagRequest R))
    (tenant : Option Tenant) : Option TenantFeatureFlag :=
  (resolvedTenant request tenant).bind fun tenant =>
    s.tenantFeatureFlags.find? fun row => decide (row.key = (tenant.id, flagName))

/-- The documented resolution: the first layer with an entry decides. -/
def reference (cfg : FeatureSettings) (flags : String → Option (R → Bool))
    (switches : String → Option Bool) (s : FeatureSite) (flagName : String)
    (request : Option (FlagRequest R)) (tenant : Option Tenant) : Bool :=
  match overrideOf s flagName request tenant with
  | some row => row.isEnabled
  | none =>
      match request.bind fun request => (flags flagName).map fun f => f request.raw with
      | some state => state
      | none => (switches flagName).getD (getDefault cfg flagName)

/-- No override and no entry in the one waffle table that is asked, and the
layers below it say "on". -/
def Unreached (cfg : FeatureSettings) (flags : String → Option (R → Bool))
    (switches : String → Option Bool) (s : FeatureSite) (flagName : String)
    (request : Option (FlagRequest R)) (tenant : Option Tenant) : Prop :=
  overrideOf s flagName request tenant = none
    ∧ match request with
      | some _ => flags flagName = none
          ∧ (switches flagName).getD (getDefault cfg flagName) = true
      | none => switches flagName = none ∧ getDefault cfg flagName = true

theorem isEnabled_eq {cfg : FeatureSettings} {waffle : Waffle R} {s : FeatureSite}
    {flagName : String} {request : Option (FlagRequest R)} {tenant : Option Tenant} :
    isEnabled cfg waffle s true flagName request tenant =
      match overrideOf s flagName request tenant with
      | some row => row.isEnabled
      | none => (getWaffleFlag waffle flagName request).getD (getDefault cfg flagName) := by
  unfold isEnabled overrideOf
  cases resolvedTenant request tenant with
  | none =>
      simp only [Option.bind_none]
      cases getWaffleFlag waffle flagName request <;> rfl
  | some t =>
      simp only [getOverride, if_true, Option.bind_some]
      cases s.tenantFeatureFlags.find? fun row => decide (row.key = (t.id, flagName)) with
      | some row => rfl
      | none => cases getWaffleFlag waffle flagName request <;> rfl

/-- Waffle always answers: no layer below it is asked. -/
theorem getWaffleFlag_eq {waffle : Waffle R} {flags : String → Option (R → Bool)}
    {switches : String → Option Bool} (hwaffle : Reads waffle flags switches)
    (flagName : String) (request : Option (FlagRequest R)) :
    getWaffleFlag waffle flagName request = some (match request with
      | some request => (flags flagName).elim false fun f => f request.raw
      | none => (switches flagName).getD false) := by
  unfold getWaffleFlag
  cases request with
  | none =>
      simp only [Option.bind_none, hwaffle.switch]
      rfl
  | some request =>
      simp only [Option.bind_some, hwaffle.flag]
      rfl

/-- The resolution is the documented one unless a layer that is not reached
says "on". -/
theorem resolution_iff {cfg : FeatureSettings} {waffle : Waffle R}
    {flags : String → Option (R → Bool)} {switches : String → Option Bool}
    (hwaffle : Reads waffle flags switches) (s : FeatureSite) (flagName : String)
    (request : Option (FlagRequest R)) (tenant : Option Tenant) :
    isEnabled cfg waffle s true flagName request tenant
        = reference cfg flags switches s flagName request tenant
      ↔ ¬ Unreached cfg flags switches s flagName request tenant := by
  rw [isEnabled_eq, getWaffleFlag_eq hwaffle]
  unfold reference Unreached
  cases hrow : overrideOf s flagName request tenant with
  | some row => simp
  | none =>
      cases request with
      | none =>
          cases hswitch : switches flagName with
          | some state => simp
          | none => cases getDefault cfg flagName <;> simp
      | some request =>
          cases hflag : flags flagName with
          | some f => simp
          | none => cases (switches flagName).getD (getDefault cfg flagName) <;> simp

end

/-- Waffle without any rows. -/
def noRows : Waffle Unit where
  flagIsActive _ _ := .ok false
  switchIsActive _ := .ok false

theorem noRows_reads : Reads noRows (fun _ => none) fun _ => none where
  flag _ _ := rfl
  switch _ := rfl

/-- A flag that is on by default. -/
def onByDefault : FeatureSettings where
  featureFlagsDefaults := ⟨[("bulk_export", true)], List.pairwise_singleton ..⟩
  planFeatureFlags := ∅

theorem unknown_flag_off :
    isEnabled onByDefault noRows subscribed true "new_dashboard" none (some DemoSeed.tenant1)
      = reference (R := Unit) onByDefault (fun _ => none) (fun _ => none) subscribed
          "new_dashboard" none (some DemoSeed.tenant1) :=
  (resolution_iff noRows_reads subscribed "new_dashboard" none (some DemoSeed.tenant1)).mpr
    fun h => Bool.false_ne_true h.2.2

/-- The default is never asked. -/
theorem default_unreached :
    ¬ ∀ (cfg : FeatureSettings) (waffle : Waffle Unit) (flags : String → Option (Unit → Bool))
      (switches : String → Option Bool), Reads waffle flags switches →
      ∀ (s : FeatureSite) (flagName : String) (request : Option (FlagRequest Unit))
        (tenant : Option Tenant),
        isEnabled cfg waffle s true flagName request tenant
          = reference cfg flags switches s flagName request tenant := by
  intro hall
  have hsame := hall onByDefault noRows (fun _ => none) (fun _ => none) noRows_reads subscribed
    "bulk_export" none (some DemoSeed.tenant1)
  revert hsame
  decide

end FeatureFlags

end SaasKit
