import SaasKit.Lib.Interleave
import SaasKit.DemoSeed

/-!
# Tenant resolution under concurrent writes

`TenantMiddleware.__call__` against a database that changes: any number of
requests, each a `cache.get`, on a miss a read of the `Domain` table and a
`cache.set`, and at last the answer, interleaved with committed writes of
`Tenant` and `Domain` and with the passage of time. No writer calls
`invalidate_cache`, so a cached value outlives the row it came from, and a
request holds the value it has found until it is answered, whether or not
the entry it came from has expired by then.

`Quiet` is the condition under which that does no harm: a commit changes
what a host resolves to only while nobody remembers the host, neither a
live cache entry nor a request that has found it and is not yet answered.
Under it cache and requests in flight agree with the tables in every
reachable state (`coherent_run`), and every answer is the one the tables
give at that moment (`answers_truthful`).
-/

namespace SaasKit

namespace TenantCaching

open TenantMiddleware

/-- What requests and writers share. -/
structure World where
  site : Site
  cache : TenantCache
  now : Time

/-- The tables after an admin transaction: any tables that satisfy the
constraints. -/
structure AdminEdit where
  tenants : Table Tenant Tenant.clash
  domains : Table Domain (sameKey Domain.domain)
  domain_fk : ∀ d ∈ domains, ∃ t ∈ tenants, t.id = d.tenant

inductive Commit where
  | createTenant (cfg : Settings) (call : Call) (name schemaName domain : String)
      (isPrimary : Bool)
  | admin (edit : AdminEdit)

def Commit.apply (s : Site) : Commit → Site
  | .createTenant cfg call name schemaName domain isPrimary =>
      (TenantService.createTenant cfg call s name schemaName domain isPrimary).2
  | .admin edit =>
      { s with tenants := edit.tenants, domains := edit.domains, domain_fk := edit.domain_fk }

/-- Where a request stands inside `__call__`: `resolved` is where
`_resolve_tenant` has returned. -/
inductive Position where
  | idle
  | missed (host : String)
  | looked (host : String) (found : Option Tenant)
  | resolved (host : String) (found : Option Tenant)

/-- What a request holds: the host and what it has found for it. -/
def Position.found : Position → Option (String × Option Tenant)
  | .looked host found | .resolved host found => some (host, found)
  | .idle | .missed _ => none

/-- One access to the shared state, or the answer of a request. -/
inductive Access where
  | hit (host : String)
  | miss (host : String)
  | lookup
  | store
  | answer (host : String) (gate : Gate)
  | commit (c : Commit)
  | tick (elapsed : Time)

/-- One thread's actions; thread `none` is the environment. `host` is the
host of the request without its port. -/
inductive Act : Option Nat → World → Position → Access → World → Position → Prop
  | hit {i : Nat} {w : World} {host : String} {entry : CacheEntry} :
      w.cache.get w.now (cacheKey host) = some entry →
      Act (some i) w .idle (.hit host) w (.resolved host entry.found)
  | miss {i : Nat} {w : World} {host : String} :
      w.cache.get w.now (cacheKey host) = none →
      Act (some i) w .idle (.miss host) w (.missed host)
  | lookup {i : Nat} {w : World} {host : String} :
      Act (some i) w (.missed host) .lookup w (.looked host (lookupDomain w.site host))
  | store {i : Nat} {w : World} {host : String} {found : Option Tenant} :
      Act (some i) w (.looked host found) .store
        { w with cache := store w.cache w.now host found } (.resolved host found)
  | answer {i : Nat} {w : World} {host : String} {found : Option Tenant} :
      Act (some i) w (.resolved host found) (.answer host (gateOf found)) w .idle
  | commit {w : World} (c : Commit) :
      Act none w .idle (.commit c) { w with site := c.apply w.site } .idle
  | tick {w : World} {elapsed : Time} : 0 ≤ elapsed →
      Act none w .idle (.tick elapsed) { w with now := w.now + elapsed } .idle

abbrev Conf := Threads.Conf (Option Nat) World Position

abbrev Step : Conf → Option Nat × Access → Conf → Prop := Threads.step Act

/-- What the middleware looks at: which tenant, and whether it is active. -/
def standing (found : Option Tenant) : Option (UUID × Bool) := found.map fun t => (t.id, t.isActive)

/-- Somebody remembers what `host` resolved to. -/
def Remembered (c : Conf) (host : String) : Prop :=
  (∃ entry, c.shared.cache.get c.shared.now (cacheKey host) = some entry)
    ∨ ∃ i found, (c.locals i).found = some (host, found)

/-- A commit leaves the resolution of every remembered host as it was. -/
def Quiet (c : Conf) (l : Option Nat × Access) : Prop :=
  ∀ commit, l.2 = .commit commit → ∀ host, Remembered c host →
    standing (lookupDomain (commit.apply c.shared.site) host)
      = standing (lookupDomain c.shared.site host)

/-- An answer the tables of `s` justify: a request let through has the
tenant of its host, which is active, and a 404 means there is no such
host. -/
def Truthful (s : Site) (host : String) : Gate → Prop
  | .next none => False
  | .next (some t) => ∃ t', lookupDomain s host = some t' ∧ t'.id = t.id ∧ t'.isActive = true
  | .refuse status _ => status = 404 → ∀ d ∈ s.domains, d.domain ≠ host

/-! ## The invariant -/

/-- Live entries agree with the tables, up to what the middleware looks
at. -/
def CacheAgrees (w : World) : Prop :=
  ∀ host entry, w.cache.get w.now (cacheKey host) = some entry →
    standing entry.found = standing (lookupDomain w.site host)

/-- So does what a request holds. -/
def PositionAgrees (_ : Option Nat) (w : World) (p : Position) : Prop :=
  ∀ host found, p.found = some (host, found) →
    standing found = standing (lookupDomain w.site host)

abbrev Coherent : Conf → Prop :=
  Threads.Coherent CacheAgrees PositionAgrees fun _ _ _ _ => True

theorem cacheAgrees_of_coherent {w : World} (h : CacheCoherent w.site w.cache w.now) :
    CacheAgrees w := by
  intro host entry hget
  rw [h host entry hget, found_entryOf]

theorem truthful_gateOf {s : Site} {host : String} {found : Option Tenant}
    (h : standing found = standing (lookupDomain s host)) :
    Truthful s host (gateOf found) := by
  cases found with
  | none =>
      intro _
      cases hl : lookupDomain s host with
      | none => exact lookupDomain_none.mp hl
      | some t => rw [hl] at h; cases h
  | some t =>
      cases hl : lookupDomain s host with
      | none => rw [hl] at h; cases h
      | some t' =>
          rw [hl] at h
          simp only [standing, Option.map_some, Option.some.injEq, Prod.mk.injEq] at h
          by_cases hact : t.isActive = true
          · simp only [gateOf, if_pos hact]
            exact ⟨t', hl, h.1.symm, by rw [← h.2]; exact hact⟩
          · simp only [gateOf, if_neg hact]
            intro hstatus; cases hstatus

theorem positionAgrees_of_found {i : Option Nat} {w : World} {p : Position} {host : String}
    {found : Option Tenant} (hp : p.found = some (host, found))
    (h : standing found = standing (lookupDomain w.site host)) : PositionAgrees i w p := by
  intro host' found' hfound
  rw [hp] at hfound
  obtain ⟨rfl, rfl⟩ := Prod.mk.inj (Option.some.inj hfound)
  exact h

/-- What each access does to the world. -/
theorem Act.keeps {i : Option Nat} {w w' : World} {p p' : Position} {e : Access}
    (hcache : CacheAgrees w) (hpos : PositionAgrees i w p) (h : Act i w p e w' p')
    (hquiet : ∀ c, e = .commit c → ∀ host entry,
      w.cache.get w.now (cacheKey host) = some entry →
      standing (lookupDomain (c.apply w.site) host) = standing (lookupDomain w.site host)) :
    CacheAgrees w' ∧ PositionAgrees i w' p' := by
  cases h with
  | hit hget => exact ⟨hcache, positionAgrees_of_found rfl (hcache _ _ hget)⟩
  | miss hget => exact ⟨hcache, nofun⟩
  | lookup => exact ⟨hcache, positionAgrees_of_found rfl rfl⟩
  | @store i w host found =>
      have hfound := hpos host found rfl
      refine ⟨fun host' entry hget => ?_, positionAgrees_of_found rfl hfound⟩
      rcases TtlCache.get_set_some hget with ⟨hkey, rfl⟩ | ⟨-, hold⟩
      · rw [found_entryOf, cacheKey_inj.mp hkey]; exact hfound
      · exact hcache host' entry hold
  | answer => exact ⟨hcache, nofun⟩
  | commit c =>
      refine ⟨fun host entry hget => ?_, nofun⟩
      rw [hcache host entry hget]
      exact (hquiet c rfl host entry hget).symm
  | tick helapsed =>
      refine ⟨fun host entry hget => ?_, nofun⟩
      have hle : w.now ≤ w.now + _ := Int.le_add_of_nonneg_right helapsed
      exact hcache host entry (TtlCache.get_of_later hget hle)

/-- Only a commit changes the tables. -/
theorem Act.site {i : Option Nat} {w w' : World} {p p' : Position} {e : Access}
    (h : Act i w p e w' p') :
    w'.site = w.site ∨ ∃ c, e = .commit c ∧ w'.site = c.apply w.site := by
  cases h with
  | commit c => exact Or.inr ⟨c, rfl, rfl⟩
  | _ => exact Or.inl rfl

theorem keeps : Threads.Keeps Act Quiet CacheAgrees PositionAgrees fun _ _ _ _ => True where
  shared c i e s' p' hc hok hact :=
    hact.keeps hc.shared (hc.own i) fun commit heq host entry hget =>
      hok commit heq host (Or.inl ⟨entry, hget⟩)
  other c i e s' p' j hc hok hact hji := by
    refine ⟨fun host found hfound => ?_, trivial⟩
    have hown := hc.own j host found hfound
    rcases hact.site with hsite | ⟨commit, rfl, hsite⟩
    · rw [hsite]
      exact hown
    · rw [hsite]
      exact hown.trans (hok commit rfl host (Or.inr ⟨j, found, hfound⟩)).symm

/-- Cache and requests in flight agree with the tables in every state a
quiet run reaches. -/
theorem coherent_run {c c' : Conf} {ls : List (Option Nat × Access)}
    (h : Lts.Run (Lts.Guarded Step Quiet) c ls c') (hc : Coherent c) : Coherent c' :=
  Threads.Coherent.run (fun _ _ _ _ _ => trivial) keeps h hc

/-- An answer given from a coherent state is the tables' answer. -/
theorem Act.truthful {i : Option Nat} {w w' : World} {p p' : Position} {host : String}
    {gate : Gate} (hpos : PositionAgrees i w p) (h : Act i w p (.answer host gate) w' p') :
    Truthful w'.site host gate := by
  cases h with
  | answer => exact truthful_gateOf (hpos _ _ rfl)

/-- All requests at rest and a coherent cache: where a run starts. -/
structure Start (c : Conf) : Prop where
  cache : CacheCoherent c.shared.site c.shared.cache c.shared.now
  idle : ∀ i, c.locals i = .idle

theorem Start.coherent {c : Conf} (h : Start c) : Coherent c where
  shared := cacheAgrees_of_coherent h.cache
  own i := by rw [h.idle i]; exact nofun
  pair _ _ _ := trivial

/-- In a run of quiet steps every answer is the one the tables give when it
is given. -/
theorem answers_truthful {c₀ c c' : Conf} {ls : List (Option Nat × Access)} {i : Option Nat}
    {host : String} {gate : Gate} (h₀ : Start c₀)
    (hrun : Lts.Run (Lts.Guarded Step Quiet) c₀ ls c)
    (hstep : Lts.Guarded Step Quiet c (i, .answer host gate) c') :
    Truthful c'.shared.site host gate := by
  have hc := coherent_run hrun h₀.coherent
  exact hstep.1.1.truthful (hc.own i)

/-! ## One request by itself -/

/-- A request nobody interrupts does what `__call__` does: it gives its answer
at last and leaves its cache. -/
theorem call_solo (w : World) (i : Nat) {path host : String} (hpath : isExempt path = false) :
    ∃ es, Lts.Run (Threads.solo Act (some i)) (w, .idle)
        (es ++ [.answer (stripPort host) (call w.site w.cache w.now path host).1])
        ({ w with cache := (call w.site w.cache w.now path host).2 }, .idle) := by
  unfold call resolveTenant
  rw [hpath]
  cases hget : w.cache.get w.now (cacheKey (stripPort host)) with
  | some entry =>
      have hhit : Threads.solo Act (some i) (w, .idle) (.hit (stripPort host))
          (w, .resolved (stripPort host) entry.found) := Act.hit hget
      have hanswer : Threads.solo Act (some i) (w, .resolved (stripPort host) entry.found)
          (.answer (stripPort host) (gateOf entry.found)) (w, .idle) := Act.answer
      refine ⟨[.hit (stripPort host)], ?_⟩
      cases entry <;> exact .cons hhit (.cons hanswer (.nil _))
  | none =>
      have hmiss : Threads.solo Act (some i) (w, .idle) (.miss (stripPort host))
          (w, .missed (stripPort host)) := Act.miss hget
      have hlookup : Threads.solo Act (some i) (w, .missed (stripPort host)) .lookup
          (w, .looked (stripPort host) (lookupDomain w.site (stripPort host))) := Act.lookup
      let w' : World := { w with
        cache := store w.cache w.now (stripPort host) (lookupDomain w.site (stripPort host)) }
      have hstore : Threads.solo Act (some i)
          (w, .looked (stripPort host) (lookupDomain w.site (stripPort host))) .store
          (w', .resolved (stripPort host) (lookupDomain w.site (stripPort host))) := Act.store
      have hanswer : Threads.solo Act (some i)
          (w', .resolved (stripPort host) (lookupDomain w.site (stripPort host)))
          (.answer (stripPort host) (gateOf (lookupDomain w.site (stripPort host))))
          (w', .idle) := Act.answer
      exact ⟨[.miss (stripPort host), .lookup, .store],
        .cons hmiss (.cons hlookup (.cons hstore (.cons hanswer (.nil _))))⟩

/-- Among the schedules of the process is the one that leaves the request
alone. -/
theorem call_scheduled (c : Conf) (i : Nat) {path host : String} (hidle : c.locals (some i) = .idle)
    (hpath : isExempt path = false) :
    ∃ ls, Lts.Run Step c ls
      ⟨{ c.shared with
          cache := (call c.shared.site c.shared.cache c.shared.now path host).2 },
        c.locals⟩ := by
  obtain ⟨es, hrun⟩ := call_solo c.shared i hpath
  have hsched := Threads.run_solo hrun hidle
  rw [← hidle, Function.update_eq_self] at hsched
  exact ⟨_, hsched⟩

/-! ## A stale entry -/

/-- The admin's edit that deactivates Tenant One. -/
def deactivate : AdminEdit where
  tenants := DemoSeed.deactivated.tenants
  domains := DemoSeed.deactivated.domains
  domain_fk := DemoSeed.deactivated.domain_fk

/-- A request for Tenant One's host, up to its answer. -/
def seeded : Conf := ⟨⟨DemoSeed.site, .empty, 0⟩, fun _ => .idle⟩

def seededMissed : Conf :=
  ⟨seeded.shared, Function.update seeded.locals (some 0) (.missed "tenant1.localhost")⟩

def seededLooked : Conf :=
  ⟨seeded.shared, Function.update seededMissed.locals (some 0)
    (.looked "tenant1.localhost" (some DemoSeed.tenant1))⟩

def seededStored : Conf :=
  ⟨{ seeded.shared with
      cache := store .empty 0 "tenant1.localhost" (some DemoSeed.tenant1) },
    Function.update seededLooked.locals (some 0)
      (.resolved "tenant1.localhost" (some DemoSeed.tenant1))⟩

def seededAnswered : Conf :=
  ⟨seededStored.shared, Function.update seededStored.locals (some 0) .idle⟩

theorem seeded_start : Start seeded where
  cache host entry hget := by cases hget
  idle _ := rfl

theorem seeded_missed : Step seeded (some 0, .miss "tenant1.localhost") seededMissed :=
  Threads.step_update (.miss rfl)

theorem seeded_looked : Step seededMissed (some 0, .lookup) seededLooked := by
  have hfound : lookupDomain seeded.shared.site "tenant1.localhost" = some DemoSeed.tenant1 := by
    decide
  exact Threads.step_update (hfound ▸ .lookup)

theorem seeded_stored : Step seededLooked (some 0, .store) seededStored :=
  Threads.step_update .store

theorem seeded_answered : Step seededStored
    (some 0, .answer "tenant1.localhost" (.next (some DemoSeed.tenant1))) seededAnswered :=
  Threads.step_update .answer

theorem quiet_of_request {c : Conf} {i : Option Nat} {e : Access}
    (h : ∀ commit, e ≠ .commit commit) : Quiet c (i, e) :=
  fun commit heq => absurd heq (h commit)

/-- The first answer is the tables'. -/
theorem first_answer_truthful :
    Truthful DemoSeed.site "tenant1.localhost" (.next (some DemoSeed.tenant1)) :=
  answers_truthful seeded_start
    (.cons ⟨seeded_missed, quiet_of_request fun _ => nofun⟩
      (.cons ⟨seeded_looked, quiet_of_request fun _ => nofun⟩
        (.cons ⟨seeded_stored, quiet_of_request fun _ => nofun⟩ (.nil _))))
    ⟨seeded_answered, quiet_of_request fun _ => nofun⟩

def seededDeactivated : Conf :=
  ⟨{ seededAnswered.shared with site := (Commit.admin deactivate).apply DemoSeed.site },
    Function.update seededAnswered.locals none .idle⟩

theorem seeded_deactivated :
    Step seededAnswered (none, .commit (.admin deactivate)) seededDeactivated :=
  Threads.step_update (.commit (.admin deactivate))

/-- The next request finds the entry. -/
def seededHit : Conf :=
  ⟨seededDeactivated.shared, Function.update seededDeactivated.locals (some 0)
    (.resolved "tenant1.localhost" (some DemoSeed.tenant1))⟩

theorem seeded_hit : Step seededDeactivated (some 0, .hit "tenant1.localhost") seededHit := by
  have hget : seededDeactivated.shared.cache.get seededDeactivated.shared.now
      (cacheKey "tenant1.localhost") = some (.tenant DemoSeed.tenant1) := by decide
  exact Threads.step_update (.hit hget)

/-- Five minutes have not passed and Tenant One has been deactivated: its
host is still let through. -/
theorem stale_answer :
    ¬ ∀ (c₀ c c' : Conf) (ls : List (Option Nat × Access)) (i : Option Nat) (host : String)
        (gate : Gate),
      Start c₀ → Lts.Run Step c₀ ls c → Step c (i, .answer host gate) c' →
      Truthful c'.shared.site host gate := by
  intro hall
  have hanswer : Step seededHit
      (some 0, .answer "tenant1.localhost" (.next (some DemoSeed.tenant1)))
      ⟨seededHit.shared, Function.update seededHit.locals (some 0) .idle⟩ :=
    Threads.step_update .answer
  have hrun : Lts.Run Step seeded _ seededHit :=
    .cons seeded_missed (.cons seeded_looked (.cons seeded_stored (.cons seeded_answered
      (.cons seeded_deactivated (.cons seeded_hit (.nil _))))))
  obtain ⟨t, hlookup, -, hactive⟩ := hall _ _ _ _ _ _ _ seeded_start hrun hanswer
  have hnow : lookupDomain seededHit.shared.site "tenant1.localhost"
      = some { DemoSeed.tenant1 with isActive := false } := by decide
  rw [hnow] at hlookup
  rw [← Option.some.inj hlookup] at hactive
  cases hactive

end TenantCaching

end SaasKit
