import SaasKit.PlanLimitService

/-!
# Feature flags: `FeatureService`

A flag is resolved from the tenant's own row, from django-waffle and from
the settings, in that order. Waffle is a parameter (`Waffle`): two functions
that answer or raise. `sync_plan_flags` writes the rows that the tenant's
plan calls for, one `set_for_tenant` a flag, each in a transaction of its
own; `mem_setAll` says which rows are there afterwards.
-/

namespace SaasKit

structure TenantFeatureFlag where
  tenant : UUID
  flagName : String
  isEnabled : Bool
  source : String
  note : String
  deriving DecidableEq, Repr

/-- `unique_together = ("tenant", "flag_name")`. -/
def TenantFeatureFlag.key (row : TenantFeatureFlag) : UUID × String := (row.tenant, row.flagName)

/-- The site with the flag overrides of its tenants. -/
structure FeatureSite extends Site where
  tenantFeatureFlags : Table TenantFeatureFlag (sameKey TenantFeatureFlag.key)

/-- `FEATURE_FLAGS_DEFAULTS` and `PLAN_FEATURE_FLAGS`. -/
structure FeatureSettings where
  featureFlagsDefaults : Dict String Bool
  planFeatureFlags : Dict String (Dict String Bool)

/-- `waffle.flag_is_active` and `waffle.switch_is_active`, on what they read
of a request. -/
structure Waffle (R : Type) where
  flagIsActive : R → String → Except Unit Bool
  switchIsActive : String → Except Unit Bool

/-- A request, with the tenant the middleware found. -/
structure FlagRequest (R : Type) where
  raw : R
  tenant : Option Tenant

namespace FeatureService

/-! ## Resolution -/

section

variable {R : Type}

/-- `TenantFeatureFlag.objects.get(tenant=..., flag_name=...)`. -/
def getOverride (s : FeatureSite) (dbUp : Bool) (tenant : Tenant) (flagName : String) :
    Except Exc (Option TenantFeatureFlag) :=
  if dbUp then .ok (s.tenantFeatureFlags.find? fun row =>
    decide (row.key = (tenant.id, flagName)))
  else .error .operationalError

/-- `_get_waffle_flag`: the flag if there is a request, else the switch. A
call that raises is passed over. -/
def getWaffleFlag (waffle : Waffle R) (flagName : String) (request : Option (FlagRequest R)) :
    Option Bool :=
  match request.bind fun request => (waffle.flagIsActive request.raw flagName).toOption with
  | some state => some state
  | none => (waffle.switchIsActive flagName).toOption

def getDefault (cfg : FeatureSettings) (flagName : String) : Bool :=
  (cfg.featureFlagsDefaults.get? flagName).getD false

def resolvedTenant (request : Option (FlagRequest R)) (tenant : Option Tenant) : Option Tenant :=
  match tenant with
  | some tenant => some tenant
  | none => request.bind (·.tenant)

def isEnabled (cfg : FeatureSettings) (waffle : Waffle R) (s : FeatureSite) (dbUp : Bool)
    (flagName : String) (request : Option (FlagRequest R)) (tenant : Option Tenant) : Bool :=
  let override : Option TenantFeatureFlag :=
    match resolvedTenant request tenant with
    | none => none
    | some tenant =>
        match getOverride s dbUp tenant flagName with
        | .ok found => found
        -- logged, and the next layer is asked
        | .error _ => none
  match override with
  | some row => row.isEnabled
  | none =>
      match getWaffleFlag waffle flagName request with
      | some state => state
      | none => getDefault cfg flagName

end

/-- The order of the rows (`ordering = ["flag_name"]`). -/
def overrides (s : FeatureSite) (tenant : Tenant) : List TenantFeatureFlag :=
  (s.tenantFeatureFlags.filter (·.tenant == tenant.id)).mergeSort fun a b =>
    decide (a.flagName ≤ b.flagName)

/-- A default under its key, with the state waffle has for it. -/
def applyWaffle {R : Type} (waffle : Waffle R) (request : Option (FlagRequest R)) :
    Table.Rewrite (sameKey (Prod.fst : String × Bool → String)) :=
  ⟨fun e => (e.1, (getWaffleFlag waffle e.1 request).getD e.2), fun _ _ => rfl, fun _ _ => rfl⟩

def forTenant {R : Type} (cfg : FeatureSettings) (waffle : Waffle R) (s : FeatureSite)
    (tenant : Tenant) (request : Option (FlagRequest R)) : Dict String Bool :=
  let result := cfg.featureFlagsDefaults.modify (fun _ => true) (applyWaffle waffle request)
  (overrides s tenant).foldl (fun result override =>
    result.put (override.flagName, override.isEnabled)) result

/-! ## Writes -/

/-- `update_or_create`. The columns are 100 and 20 characters wide. -/
def setForTenant (s : FeatureSite) (tenant : Tenant) (flagName : String) (isEnabled : Bool)
    (source note : String) : Except Exc Unit × FeatureSite :=
  if 100 < flagName.length ∨ 20 < source.length then (.error .dataError, s)
  else if s.tenants.any (·.id == tenant.id) then
    (.ok (), { s with
      tenantFeatureFlags :=
        s.tenantFeatureFlags.put ⟨tenant.id, flagName, isEnabled, source, note⟩ })
  else (.error .integrityError, s)

/-- The loop of `sync_plan_flags`: an exception ends it, what was written
stays. -/
def setAll (s : FeatureSite) (tenant : Tenant) (note : String) :
    List (String × Bool) → Except Exc Unit × FeatureSite
  | [] => (.ok (), s)
  | (flagName, isEnabled) :: rest =>
      match setForTenant s tenant flagName isEnabled "plan" note with
      | (.error e, s) => (.error e, s)
      | (.ok (), s) => setAll s tenant note rest

/-- `subscription.plan.slug if subscription.plan else ""`. -/
def planSlug (s : Site) (sub : Subscription) : String :=
  match sub.plan.bind fun id => s.plans.find? (·.id == id) with
  | some plan => plan.slug
  | none => ""

def syncPlanFlags (cfg : FeatureSettings) (s : FeatureSite) (tenant : Tenant) :
    Except Exc Unit × FeatureSite :=
  if cfg.planFeatureFlags.rows = [] then (.ok (), s)
  else match s.subscriptions.find? (·.tenant == tenant.id) with
    | none => (.ok (), s)
    | some sub =>
        let slug := planSlug s.toSite sub
        match cfg.planFeatureFlags.get? slug with
        | none => (.ok (), s)
        | some flags => setAll s tenant ("Auto-set by plan: " ++ slug) flags.rows

/-! ## What a sync writes -/

/-- The column is wide enough for the name. -/
def fits (e : String × Bool) : Bool := decide (e.1.length ≤ 100)

theorem setForTenant_plan {s : FeatureSite} {tenant : Tenant} {flagName note : String}
    {isEnabled : Bool} (hknown : s.tenants.any (·.id == tenant.id) = true) :
    setForTenant s tenant flagName isEnabled "plan" note =
      if fits (flagName, isEnabled) then
        (.ok (), { s with
          tenantFeatureFlags :=
            s.tenantFeatureFlags.put ⟨tenant.id, flagName, isEnabled, "plan", note⟩ })
      else (.error .dataError, s) := by
  have hsource : ¬ 20 < "plan".length := by decide
  unfold setForTenant fits
  by_cases hlong : 100 < flagName.length
  · rw [if_pos (Or.inl hlong), if_neg (by simpa using hlong)]
  · rw [if_neg (not_or.mpr ⟨hlong, hsource⟩), if_pos hknown, if_pos (by simpa using hlong)]

theorem setForTenant_cases (s : FeatureSite) (tenant : Tenant) (flagName : String)
    (isEnabled : Bool) (source note : String) :
    (∃ e, setForTenant s tenant flagName isEnabled source note = (.error e, s))
      ∨ s.tenants.any (·.id == tenant.id) = true
        ∧ setForTenant s tenant flagName isEnabled source note = (.ok (), { s with
            tenantFeatureFlags :=
              s.tenantFeatureFlags.put ⟨tenant.id, flagName, isEnabled, source, note⟩ }) := by
  unfold setForTenant
  split
  · exact Or.inl ⟨_, rfl⟩
  · split
    · rename_i hknown
      exact Or.inr ⟨hknown, rfl⟩
    · exact Or.inl ⟨_, rfl⟩

theorem setAll_site (tenant : Tenant) (note : String) (entries : List (String × Bool)) :
    ∀ {s : FeatureSite}, (setAll s tenant note entries).2.toSite = s.toSite := by
  induction entries with
  | nil => exact rfl
  | cons e rest ih =>
      intro s
      unfold setAll
      rcases setForTenant_cases s tenant e.1 e.2 "plan" note with ⟨err, hset⟩ | ⟨-, hset⟩
      · rw [hset]
      · rw [hset]
        exact ih

theorem syncPlanFlags_site {cfg : FeatureSettings} {s : FeatureSite} {tenant : Tenant} :
    (syncPlanFlags cfg s tenant).2.toSite = s.toSite := by
  unfold syncPlanFlags
  split
  · rfl
  · split
    · rfl
    · simp only
      split
      · rfl
      · exact setAll_site tenant _ _

/-- The loop stops at the first name that is too long. -/
theorem mem_setAll {tenant : Tenant} {note : String} {row : TenantFeatureFlag}
    {entries : List (String × Bool)} (hnodup : (entries.map Prod.fst).Nodup) :
    ∀ {s : FeatureSite}, s.tenants.any (·.id == tenant.id) = true →
      (row ∈ (setAll s tenant note entries).2.tenantFeatureFlags ↔
        (∃ e ∈ entries.takeWhile fits, row = ⟨tenant.id, e.1, e.2, "plan", note⟩)
          ∨ row ∈ s.tenantFeatureFlags
            ∧ ∀ e ∈ entries.takeWhile fits, row.key ≠ (tenant.id, e.1)) := by
  induction entries with
  | nil => simp [setAll]
  | cons e rest ih =>
      intro s hknown
      obtain ⟨hnew, hnodup⟩ := List.nodup_cons.mp hnodup
      unfold setAll
      rw [setForTenant_plan hknown]
      cases hfits : fits e with
      | false => simp [hfits]
      | true =>
          have hput := ih hnodup (s := { s with
            tenantFeatureFlags := s.tenantFeatureFlags.put ⟨tenant.id, e.1, e.2, "plan", note⟩ })
            hknown
          simp only [hfits, if_true, List.takeWhile_cons, List.mem_cons, hput]
          constructor
          · rintro (⟨e', he', hrow⟩ | ⟨hrow, hkeys⟩)
            · exact Or.inl ⟨e', Or.inr he', hrow⟩
            · rcases Table.mem_put.mp hrow with hrow | ⟨hrow, hkey⟩
              · exact Or.inl ⟨e, Or.inl rfl, hrow⟩
              · refine Or.inr ⟨hrow, fun e' he' => ?_⟩
                rcases he' with rfl | he'
                · exact hkey
                · exact hkeys e' he'
          · rintro (⟨e', rfl | he', hrow⟩ | ⟨hrow, hkeys⟩)
            · refine Or.inr ⟨Table.mem_put.mpr (Or.inl hrow), fun e'' he'' hkey => ?_⟩
              rw [hrow] at hkey
              have hname : e'.1 = e''.1 := (Prod.mk.inj hkey).2
              exact hnew (hname ▸ List.mem_map_of_mem (List.takeWhile_subset _ he''))
            · exact Or.inl ⟨e', he', hrow⟩
            · exact Or.inr ⟨Table.mem_put.mpr (Or.inr ⟨hrow, hkeys e (Or.inl rfl)⟩),
                fun e' he' => hkeys e' (Or.inr he')⟩

end FeatureService

end SaasKit
