import Mathlib.Data.Int.Order.Basic
import SaasKit.Lib.TtlCache
import SaasKit.InvitationService

/-!
# Tenants by hostname: `TenantMiddleware` and `TenantService`

The middleware answers from the cache when it can and from the `Domain`
table otherwise, storing what it found; an unknown host is stored too,
for a shorter time. `CacheCoherent` is the relation between the two that
makes the shortcut invisible (`resolveTenant_of_coherent`): every live
entry is what the tables would answer now.

`create_tenant` is the one writer of the two tables outside the admin.
-/

namespace SaasKit

/-- The JSON body every error is wrapped in. -/
structure Envelope where
  error : String
  message : String
  details : List (String × List String)
  deriving DecidableEq, Repr

/-- `Tenant | _TenantNotFound`. -/
inductive CacheEntry where
  | tenant (t : Tenant)
  | notFound
  deriving DecidableEq, Repr

/-- The tenant an entry stands for. -/
def CacheEntry.found : CacheEntry → Option Tenant
  | .tenant t => some t
  | .notFound => none

abbrev TenantCache := TtlCache String Time CacheEntry

namespace TenantMiddleware

def exemptPrefixes : List String :=
  ["/admin/", "/health/", "/ready/", "/api/schema/", "/api/docs/", "/api/redoc/", "/static/"]

def tenantCacheTtl : Time := seconds 300
def negativeCacheTtl : Time := seconds 60

def cacheKey (host : String) : String := "tenant:domain:" ++ host

/-- `request.get_host().split(":")[0]`. -/
def stripPort (host : String) : String := String.ofList (host.toList.takeWhile (· ≠ ':'))

def isExempt (path : String) : Bool :=
  exemptPrefixes.any fun p => p.toList.isPrefixOf path.toList

/-- `Domain.objects.select_related("tenant").get(domain=host).tenant`. -/
def lookupDomain (s : Site) (host : String) : Option Tenant :=
  (s.domains.find? (·.domain == host)).bind fun d => s.getTenant d.tenant

/-- What a lookup leaves in the cache. -/
def entryOf : Option Tenant → CacheEntry
  | some t => .tenant t
  | none => .notFound

def ttlOf : Option Tenant → Time
  | some _ => tenantCacheTtl
  | none => negativeCacheTtl

/-- `cache.set(key, …)` after a lookup at `now`. -/
def store (cache : TenantCache) (now : Time) (host : String) (found : Option Tenant) :
    TenantCache :=
  cache.set (cacheKey host) (entryOf found) (now + ttlOf found)

def resolveTenant (s : Site) (cache : TenantCache) (now : Time) (host : String) :
    Option Tenant × TenantCache :=
  match cache.get now (cacheKey host) with
  | some .notFound => (none, cache)
  | some (.tenant t) => (some t, cache)
  | none => (lookupDomain s host, store cache now host (lookupDomain s host))

def invalidateCache (cache : TenantCache) (host : String) : TenantCache :=
  cache.delete (cacheKey host)

/-- What `__call__` does with a request: answer it, or pass it on with
`request.tenant` set. -/
inductive Gate where
  | refuse (status : Nat) (body : Envelope)
  | next (tenant : Option Tenant)
  deriving DecidableEq, Repr

/-- The part of `__call__` after the tenant is known. -/
def gateOf : Option Tenant → Gate
  | none => .refuse 404 ⟨"not_found", "Tenant not found.", []⟩
  | some t =>
      if t.isActive then .next (some t)
      else .refuse 403 ⟨"tenant_inactive", "This tenant is inactive.", []⟩

def call (s : Site) (cache : TenantCache) (now : Time) (path host : String) :
    Gate × TenantCache :=
  if isExempt path then (.next none, cache)
  else
    let found := resolveTenant s cache now (stripPort host)
    (gateOf found.1, found.2)

/-! ## Cache and tables -/

/-- Every live entry is what the tables answer. -/
def CacheCoherent (s : Site) (cache : TenantCache) (now : Time) : Prop :=
  ∀ host entry, cache.get now (cacheKey host) = some entry →
    entry = entryOf (lookupDomain s host)

theorem cacheKey_inj {h h' : String} : cacheKey h = cacheKey h' ↔ h = h' := by
  constructor
  · intro heq
    have := congrArg String.toList heq
    simp only [cacheKey, String.toList_append, List.append_cancel_left_eq] at this
    exact String.toList_inj.mp this
  · rintro rfl; rfl

theorem entryOf_inj {a b : Option Tenant} : entryOf a = entryOf b ↔ a = b := by
  cases a <;> cases b <;> simp [entryOf]

theorem found_entryOf (found : Option Tenant) : (entryOf found).found = found := by
  cases found <;> rfl

/-- A coherent cache is invisible. -/
theorem resolveTenant_of_coherent {s : Site} {cache : TenantCache} {now : Time}
    (h : CacheCoherent s cache now) (host : String) :
    (resolveTenant s cache now host).1 = lookupDomain s host := by
  unfold resolveTenant
  split
  · rename_i heq
    exact (entryOf_inj.mp (h host _ heq : entryOf none = _))
  · rename_i t heq
    exact (entryOf_inj.mp (h host _ heq : entryOf (some t) = _))
  · rfl

/-- Storing what the tables answer keeps the cache coherent. -/
theorem CacheCoherent.store {s : Site} {cache : TenantCache} {now : Time}
    (h : CacheCoherent s cache now) (host : String) (at_ : Time) :
    CacheCoherent s (store cache at_ host (lookupDomain s host)) now := by
  intro host' entry hget
  rcases TtlCache.get_set_some hget with ⟨hk, rfl⟩ | ⟨-, hold⟩
  · rw [cacheKey_inj.mp hk]
  · exact h host' entry hold

theorem CacheCoherent.later {s : Site} {cache : TenantCache} {now later : Time}
    (h : CacheCoherent s cache now) (hle : now ≤ later) : CacheCoherent s cache later :=
  fun host entry hget => h host entry (TtlCache.get_of_later hget hle)

theorem lookupDomain_some {s : Site} {host : String} {t : Tenant}
    (h : lookupDomain s host = some t) :
    t ∈ s.tenants ∧ ∃ d ∈ s.domains, d.domain = host ∧ d.tenant = t.id := by
  obtain ⟨d, hd, ht⟩ := Option.bind_eq_some_iff.mp h
  obtain ⟨hmem, hhost⟩ := Table.find?_some hd
  obtain ⟨htm, hid⟩ := Site.getTenant_some ht
  exact ⟨htm, d, hmem, by simpa using hhost, hid.symm⟩

/-- The foreign key of `Domain` is never dangling: an unknown host is one
without a row. -/
theorem lookupDomain_none {s : Site} {host : String} :
    lookupDomain s host = none ↔ ∀ d ∈ s.domains, d.domain ≠ host := by
  constructor
  · intro h d hd heq
    have hfind : s.domains.find? (·.domain == host) = some d :=
      Table.find?_eq_of_mem Table.sameKey_symm hd (by simpa using heq) fun x hx => by
        simpa [heq] using hx
    obtain ⟨t, ht, hid⟩ := s.domain_fk d hd
    have hget := Site.getTenant_of_mem ht
    rw [hid] at hget
    simp [lookupDomain, hfind, hget] at h
  · intro h
    have hfind : s.domains.find? (·.domain == host) = none :=
      Table.find?_none.mpr fun d hd => by simpa using h d hd
    simp [lookupDomain, hfind]

theorem gateOf_next {found tenant : Option Tenant} :
    gateOf found = .next tenant ↔ ∃ t, found = some t ∧ tenant = some t ∧ t.isActive = true := by
  unfold gateOf
  split
  · simp
  · rename_i t
    by_cases ht : t.isActive = true
    · rw [if_pos ht]
      constructor
      · intro h; exact ⟨t, rfl, (Gate.next.inj h).symm, ht⟩
      · rintro ⟨t', h, rfl, -⟩; rw [h]
    · rw [if_neg ht]
      constructor
      · intro h; cases h
      · rintro ⟨t', h, -, ht'⟩
        obtain rfl := Option.some.inj h
        exact absurd ht' ht

/-- What it takes to get past the middleware. -/
theorem call_next {s : Site} {cache : TenantCache} {now : Time} {path host : String}
    {tenant : Option Tenant} (hpath : isExempt path = false) :
    (call s cache now path host).1 = .next tenant ↔
      ∃ t, (resolveTenant s cache now (stripPort host)).1 = some t
        ∧ tenant = some t ∧ t.isActive = true := by
  unfold call
  rw [hpath]
  exact gateOf_next

end TenantMiddleware

/-! ## TenantService -/

namespace TenantService

/-- The characters `[a-z0-9]`. -/
def isSlugChar (c : Char) : Bool := ('a' ≤ c && c ≤ 'z') || ('0' ≤ c && c ≤ '9')

/-- `^[a-z0-9]+(?:-[a-z0-9]+)*$`: hyphens separate non-empty runs. -/
def slugPattern (slug : String) : Bool :=
  (slug.toList.splitOn '-').all fun run => !run.isEmpty && run.all isSlugChar

/-- `s.replace(" ", "-")`. -/
def hyphenate (s : String) : String :=
  String.ofList (s.toList.map fun c => if c = ' ' then '-' else c)

def normalizeSlug (cfg : Settings) (slug : String) : Except Exc String :=
  let normalized := hyphenate (cfg.lower (strip slug))
  if normalized = "" then .error (.validationServiceError "Tenant slug cannot be empty.")
  else .ok normalized

def validateSlug (cfg : Settings) (slug : String) : Except Exc String := do
  let normalized ← normalizeSlug cfg slug
  if slugPattern normalized then pure normalized
  else throw (.validationServiceError
    "Slug may only contain lowercase letters, numbers, and hyphens.")

/-- The two inserts of the transaction; `none` is the integrity error of
either, which rolls both back. -/
def insertTenant (s : Site) (tenant : Tenant) (domain : String) (isPrimary : Bool) :
    Option Site :=
  match ht : s.tenants.insert? tenant with
  | none => none
  | some tenants =>
      match hd : s.domains.insert? ⟨tenant.id, domain, isPrimary⟩ with
      | none => none
      | some domains => some { s with
          tenants, domains
          domain_fk := by
            intro d hmem
            rcases (Table.mem_insert? hd).mp hmem with hmem | rfl
            · obtain ⟨t, hmem', hid⟩ := s.domain_fk d hmem
              exact ⟨t, (Table.mem_insert? ht).mpr (Or.inl hmem'), hid⟩
            · exact ⟨tenant, (Table.mem_insert? ht).mpr (Or.inr rfl), rfl⟩ }

def createTenant (cfg : Settings) (call : Call) (s : Site) (name schemaName domain : String)
    (isPrimary : Bool) : Except Exc (Tenant × Domain) × Site :=
  match validateSlug cfg schemaName with
  | .error e => (.error e, s)
  | .ok schemaName =>
      let domain := cfg.lower (strip domain)
      if domain = "" then (.error (.validationServiceError "Domain cannot be empty."), s)
      else if s.tenants.any (·.schemaName == schemaName) then
        (.error (.conflictServiceError ("schema_name '" ++ schemaName ++ "' is already taken.")),
          s)
      else if s.domains.any (·.domain == domain) then
        (.error (.conflictServiceError ("Domain '" ++ domain ++ "' is already registered.")), s)
      else
        let tenant : Tenant := ⟨call.newId, strip name, schemaName, schemaName, true⟩
        -- the columns are 255, 100 and 253 characters wide
        if 255 < tenant.name.length ∨ 100 < schemaName.length ∨ 253 < domain.length then
          (.error .dataError, s)
        else match insertTenant s tenant domain isPrimary with
          | none => (.error .integrityError, s)
          | some s => (.ok (tenant, ⟨tenant.id, domain, isPrimary⟩), s)

end TenantService

end SaasKit
