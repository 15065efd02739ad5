import SaasKit.FeatureFlags
import SaasKit.Lib.LastWrite

/-!
# One flag, and all of them

`is_enabled` asks the layers from the top and stops at the first answer.
`for_tenant` starts from the defaults and writes the other layers over them,
waffle first. Both come to the same value: an override has its tenant and
name to itself, so the order in which the overrides are written is of no
account (`forTenant_agrees`).
-/

namespace SaasKit

namespace FlagResolution

open FeatureService FeatureFlags

section

variable {R : Type} {cfg : FeatureSettings} {waffle : Waffle R} {s : FeatureSite}
variable {tenant : Tenant} {request : Option (FlagRequest R)} {flagName : String}

/-- What an override writes. -/
def overrideWrite (row : TenantFeatureFlag) (flagName : String) : Option (Option Bool) :=
  if row.flagName = flagName then some (some row.isEnabled) else none

/-- The loop over the overrides, as writes to a map. -/
theorem get?_putOverrides (rows : List TenantFeatureFlag) :
    ∀ flags : Dict String Bool,
      (rows.foldl (fun result override => result.put (override.flagName, override.isEnabled))
          flags).get? flagName
        = LastWrite.replay overrideWrite flags.get? rows flagName := by
  induction rows with
  | nil => exact fun _ => rfl
  | cons row rows ih =>
      intro flags
      have hput : Dict.get? (flags.put (row.flagName, row.isEnabled))
          = fun name => (overrideWrite row name).getD (flags.get? name) := by
        funext name
        unfold overrideWrite
        by_cases hname : row.flagName = name
        · subst hname
          rw [if_pos rfl, Dict.get?_put_self, Option.getD_some]
        · rw [if_neg hname, Dict.get?_put_of_ne fun h => hname h.symm, Option.getD_none]
      rw [List.foldl_cons, ih, LastWrite.replay_cons, hput]

theorem mem_overrides {row : TenantFeatureFlag} :
    row ∈ overrides s tenant ↔ row ∈ s.tenantFeatureFlags ∧ row.tenant = tenant.id := by
  rw [overrides, List.mem_mergeSort, Table.mem_filter, beq_iff_eq]

/-- The tenant's override of this name is the row that a lookup finds. -/
theorem overrideOf_of_mem {row : TenantFeatureFlag} (hrow : row ∈ overrides s tenant)
    (hname : row.flagName = flagName) :
    overrideOf s flagName request (some tenant) = some row := by
  obtain ⟨hrow, htenant⟩ := mem_overrides.mp hrow
  have hkey : row.key = (tenant.id, flagName) := Prod.ext htenant hname
  exact Table.find?_eq_of_mem Table.sameKey_symm hrow (decide_eq_true hkey) fun x hx =>
    Table.sameKey_iff.mpr ((of_decide_eq_true hx).trans hkey.symm)

theorem mem_overrides_of_overrideOf {row : TenantFeatureFlag}
    (h : overrideOf s flagName request (some tenant) = some row) :
    row ∈ overrides s tenant ∧ row.flagName = flagName := by
  obtain ⟨hrow, hkey⟩ := Table.find?_some (t := s.tenantFeatureFlags) h
  obtain ⟨htenant, hname⟩ := Prod.mk.inj (of_decide_eq_true hkey)
  exact ⟨mem_overrides.mpr ⟨hrow, htenant⟩, hname⟩

/-- An entry of the bulk answer: the override, or else the default with
waffle's answer over it. -/
theorem forTenant_get? :
    (forTenant cfg waffle s tenant request).get? flagName =
      match overrideOf s flagName request (some tenant) with
      | some row => some row.isEnabled
      | none => (cfg.featureFlagsDefaults.get? flagName).map
          (getWaffleFlag waffle flagName request).getD := by
  unfold forTenant
  rw [get?_putOverrides]
  split
  · rename_i row hrow
    obtain ⟨hmem, hname⟩ := mem_overrides_of_overrideOf hrow
    refine LastWrite.replay_agreed (fun other hother => ?_) ⟨row, hmem, if_pos hname⟩
    by_cases hother' : other.flagName = flagName
    · rw [overrideOf_of_mem hother hother'] at hrow
      rw [Option.some.inj hrow]
      exact Or.inr (if_pos hname)
    · exact Or.inl (if_neg hother')
  · rename_i hnone
    rw [LastWrite.replay_quiet]
    · exact Dict.get?_modify
        (g := fun name default => (getWaffleFlag waffle name request).getD default) fun _ => rfl
    · intro other hother
      refine if_neg fun hname => ?_
      rw [overrideOf_of_mem hother hname] at hnone
      cases hnone

end

/-- For every name in the bulk answer the two give the same state, and the
names are those of the tenant's overrides and of the defaults. -/
theorem forTenant_agrees {R : Type} (cfg : FeatureSettings) (waffle : Waffle R) (s : FeatureSite)
    (tenant : Tenant) (request : Option (FlagRequest R)) :
    (∀ flagName state, (forTenant cfg waffle s tenant request).get? flagName = some state →
        state = isEnabled cfg waffle s true flagName request (some tenant))
      ∧ ∀ flagName, ((forTenant cfg waffle s tenant request).get? flagName).isSome = true ↔
        (∃ row ∈ s.tenantFeatureFlags, row.tenant = tenant.id ∧ row.flagName = flagName)
          ∨ (cfg.featureFlagsDefaults.get? flagName).isSome = true := by
  refine ⟨fun flagName state hstate => ?_, fun flagName => ?_⟩
  · rw [forTenant_get?] at hstate
    rw [isEnabled_eq]
    cases hrow : overrideOf s flagName request (some tenant) with
    | some row =>
        rw [hrow] at hstate
        exact (Option.some.inj hstate).symm
    | none =>
        rw [hrow] at hstate
        obtain ⟨default, hdefault, rfl⟩ := Option.map_eq_some_iff.mp hstate
        rw [getDefault, hdefault, Option.getD_some]
  · rw [forTenant_get?]
    cases hrow : overrideOf s flagName request (some tenant) with
    | some row =>
        obtain ⟨hmem, hname⟩ := mem_overrides_of_overrideOf hrow
        obtain ⟨hmem, htenant⟩ := mem_overrides.mp hmem
        exact ⟨fun _ => Or.inl ⟨row, hmem, htenant, hname⟩, fun _ => rfl⟩
    | none =>
        simp only [Option.isSome_map]
        refine ⟨Or.inr, fun hknown => hknown.resolve_left ?_⟩
        rintro ⟨row, hmem, htenant, hname⟩
        rw [overrideOf_of_mem (mem_overrides.mpr ⟨hmem, htenant⟩) hname] at hrow
        cases hrow

end FlagResolution

end SaasKit
