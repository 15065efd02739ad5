import Mathlib.Data.List.TakeWhile
import SaasKit.TenantCreation

/-!
# From a new tenant's domain back to the tenant

`create_tenant` strips a domain and puts it in lower case; the middleware cuts
the host of a request at its first colon and looks the rest up as it is. So a
new tenant answers to its domain where the two agree (`reached_iff`): a domain
in lower case and without a colon.
-/

namespace SaasKit

namespace TenantReach

open TenantMiddleware TenantService

/-- The hosts of requests for a domain: itself, with or without a port. -/
inductive HostFor (domain : String) : String → Prop
  | plain : HostFor domain domain
  | withPort (port : String) : HostFor domain (domain ++ ":" ++ port)

/-- Every request for the domain is passed on with the tenant, as far as the
cache has no entry for its host. -/
def Reached (s : Site) (tenant : Tenant) (domain : String) : Prop :=
  ∀ host, HostFor domain host → ∀ cache now path, isExempt path = false →
    cache.get now (cacheKey (stripPort host)) = none →
      (call s cache now path host).1 = .next (some tenant)

/-! ## Hosts -/

theorem stripPort_withPort (domain port : String) :
    stripPort (domain ++ ":" ++ port) = stripPort domain := by
  have hcolon : (domain ++ ":" ++ port).toList = domain.toList ++ ':' :: port.toList := by
    simp [String.toList_append]
  rw [stripPort, hcolon, takeWhile_separator]
  rfl

theorem stripPort_host {domain host : String} (h : HostFor domain host) :
    stripPort host = stripPort domain := by
  cases h with
  | plain => rfl
  | withPort port => exact stripPort_withPort domain port

theorem stripPort_eq_self {domain : String} :
    stripPort domain = domain ↔ ':' ∉ domain.toList := by
  rw [stripPort, ← String.toList_inj, String.toList_ofList, List.takeWhile_eq_self_iff]
  constructor
  · intro hall hmem
    simpa using hall ':' hmem
  · intro hfree c hc
    simpa using fun heq : c = ':' => hfree (heq ▸ hc)

/-- The cut and the lower-casing agree on what neither changes. -/
theorem stripPort_eq_lower {lower : String → String}
    (hlower : ∀ t : String, ':' ∈ t.toList → ':' ∈ (lower t).toList) {domain : String} :
    stripPort domain = lower domain ↔ lower domain = domain ∧ ':' ∉ domain.toList := by
  constructor
  · intro heq
    have hcut : ':' ∉ (stripPort domain).toList := by
      intro hmem
      rw [stripPort, String.toList_ofList] at hmem
      simpa using List.mem_takeWhile_imp hmem
    have hfree : ':' ∉ domain.toList := fun hmem => hcut (heq ▸ hlower domain hmem)
    exact ⟨by rw [← heq, stripPort_eq_self.mpr hfree], hfree⟩
  · rintro ⟨hlow, hfree⟩
    rw [stripPort_eq_self.mpr hfree, hlow]

/-! ## The new rows -/

section

variable {cfg : Settings} {c : Call} {s s' : Site} {name schemaName domain : String}
  {isPrimary : Bool} {tenant : Tenant} {row : Domain}

/-- The two rows a call that returns has added. -/
structure Created (s s' : Site) (tenant : Tenant) (row : Domain) (domain : String) : Prop where
  tenants : s.tenants.insert? tenant = some s'.tenants
  domains : s.domains.insert? row = some s'.domains
  active : tenant.isActive = true
  host : row.domain = domain
  owner : row.tenant = tenant.id

theorem createTenant_created
    (h : createTenant cfg c s name schemaName domain isPrimary = (.ok (tenant, row), s')) :
    Created s s' tenant row (cfg.lower (strip domain)) := by
  unfold createTenant at h
  split at h
  · cases h
  · simp only at h
    split at h
    · cases h
    · split at h
      · cases h
      · split at h
        · cases h
        · split at h
          · cases h
          · split at h
            · cases h
            · rename_i hinsert
              obtain ⟨hrows, rfl⟩ := Prod.mk.inj h
              obtain ⟨rfl, rfl⟩ := Prod.mk.inj (Except.ok.inj hrows)
              obtain ⟨htenants, hdomains⟩ := TenantCreation.insertTenant_some hinsert
              exact ⟨htenants, hdomains, rfl, rfl, rfl⟩

/-- No row but the new one leads to the new tenant. -/
theorem lookupDomain_created (h : Created s s' tenant row domain) {host : String} :
    lookupDomain s' host = some tenant ↔ host = domain := by
  constructor
  · intro hfound
    obtain ⟨-, d, hd, rfl, howner⟩ := lookupDomain_some hfound
    rcases (Table.mem_insert? h.domains).mp hd with hold | rfl
    · obtain ⟨t, ht, hid⟩ := s.domain_fk d hold
      have hclash := Table.not_clash_of_insert? h.tenants ht
      simp [Tenant.clash, hid, howner] at hclash
    · exact h.host
  · rintro rfl
    have hrow : s'.domains.find? (·.domain == row.domain) = some row :=
      Table.find?_eq_of_mem Table.sameKey_symm ((Table.mem_insert? h.domains).mpr (Or.inr rfl))
        (by simp) fun x hx => by simpa using hx
    have htenant := Site.getTenant_of_mem ((Table.mem_insert? h.tenants).mpr (Or.inr rfl))
    rw [← h.host, lookupDomain, hrow, Option.bind_some, h.owner]
    exact htenant

/-- One answer for all requests: what the table says of the cut domain. -/
theorem reached_created (h : Created s s' tenant row domain) {given : String} :
    Reached s' tenant given ↔ stripPort given = domain := by
  rw [← lookupDomain_created h]
  constructor
  · intro hreached
    obtain ⟨t, hfound, ht, -⟩ := (call_next (by decide)).mp
      (hreached given .plain TtlCache.empty 0 "/api/v1/" (by decide) rfl)
    obtain rfl := Option.some.inj ht
    exact hfound
  · intro hfound host hhost cache now path hpath hmiss
    refine (call_next hpath).mpr ⟨tenant, ?_, rfl, h.active⟩
    rw [resolveTenant, hmiss, stripPort_host hhost]
    exact hfound

/-- The tenant that a call has created is reached under the domain it was
given exactly if that is in lower case and without a colon. Assumed of
`str.lower`: it keeps colons. -/
theorem reached_iff (hlower : ∀ t : String, ':' ∈ t.toList → ':' ∈ (cfg.lower t).toList)
    (hcreated : createTenant cfg c s name schemaName domain isPrimary = (.ok (tenant, row), s')) :
    Reached s' tenant (strip domain) ↔
      cfg.lower (strip domain) = strip domain ∧ ':' ∉ (strip domain).toList :=
  (reached_created (createTenant_created hcreated)).trans (stripPort_eq_lower hlower)

end

/-! ## Two domains -/

theorem lower_colon (t : String) (h : ':' ∈ t.toList) :
    ':' ∈ (DemoSeed.settings.lower t).toList := by
  rw [DemoSeed.settings, String.toList_ofList]
  exact List.mem_map.mpr ⟨':', h, by decide⟩

/-- `create_tenant("Acme", "acme", domain)` on the demo data. -/
def acme (domain : String) : Except Exc (Tenant × Domain) × Site :=
  createTenant DemoSeed.settings (DemoSeed.callAt 0 10) DemoSeed.site "Acme" "acme" domain true

def acmeTenant : Tenant := ⟨10, "Acme", "acme", "acme", true⟩

theorem acme_created {domain : String}
    (h : (acme domain).1 = .ok (acmeTenant, ⟨10, "acme.localhost", true⟩)) :
    acme domain = (.ok (acmeTenant, ⟨10, "acme.localhost", true⟩), (acme domain).2) :=
  by rw [← h]

theorem reached_acme :
    Reached (acme "acme.localhost").2 acmeTenant (strip "acme.localhost") ↔
      DemoSeed.settings.lower (strip "acme.localhost") = strip "acme.localhost"
        ∧ ':' ∉ (strip "acme.localhost").toList :=
  reached_iff lower_colon (acme_created (by decide +kernel))

/-- The domain is stored in lower case and the host is not. -/
theorem capital_unreached :
    ¬ ∀ (cfg : Settings) (c : Call) (s s' : Site) (name schemaName domain : String)
      (isPrimary : Bool) (tenant : Tenant) (row : Domain),
      createTenant cfg c s name schemaName domain isPrimary = (.ok (tenant, row), s') →
      Reached s' tenant (strip domain) := by
  intro hall
  have hreached := hall _ _ _ _ _ _ "Acme.localhost" _ _ _ (acme_created (by decide +kernel))
    _ .plain TtlCache.empty 0 "/api/v1/" (by decide) rfl
  have hrefused : (call (acme "Acme.localhost").2 TtlCache.empty 0 "/api/v1/"
      (strip "Acme.localhost")).1
      = .refuse 404 ⟨"not_found", "Tenant not found.", []⟩ := by decide +kernel
  rw [hrefused] at hreached
  cases hreached

end TenantReach

end SaasKit
