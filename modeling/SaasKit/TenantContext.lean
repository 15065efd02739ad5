import SaasKit.Lib.Run
import SaasKit.DemoSeed

/-!
# The tenant of a thread

`TenantMiddleware` puts the tenant of a request in a context variable and takes
it out when the handler has returned. What a handler raises goes past that, and
the variable outlives the request on its thread. So the variable is empty
between requests as long as no handler of a tenant raises (`disciplined_iff`);
what a handler starts with is right either way (`invoke_start`).
-/

namespace SaasKit

namespace TenantContext

open TenantMiddleware

/-! ## The context variable -/

/-- The value of `_current_tenant_id` on a thread. -/
abbrev Context := Option UUID

def setTenantId (_ : Context) (tenantId : Option UUID) : Context := tenantId

def getTenantId (c : Context) : Option UUID := c

def clearTenant (c : Context) : Context := setTenantId c none

/-! ## The middleware -/

/-- A request that comes in, and what happens outside the middleware: `host` is
`none` where `get_host` raises `DisallowedHost`, `lookupRaises` is for the cache
and the database, `handlerRaises` for `get_response`. -/
structure Invocation where
  site : Site
  cache : TenantCache
  now : Time
  path : String
  host : Option String
  lookupRaises : Bool
  handlerRaises : Bool

/-- What a handler starts with: `request.tenant` and `get_tenant_id()`. -/
structure Start where
  tenant : Option Tenant
  tenantId : Option UUID

/-- The handler's start, if it comes to that, and whether the call raises. -/
structure Trace where
  handler : Option Start
  raised : Bool

/-- `TenantMiddleware.__call__`, on the context of its thread. -/
def invoke (c : Context) (i : Invocation) : Context × Trace :=
  if isExempt i.path then
    let c := clearTenant c
    (c, ⟨some ⟨none, getTenantId c⟩, i.handlerRaises⟩)
  else
    match i.host with
    | none => (c, ⟨none, true⟩)
    | some host =>
        if i.lookupRaises then (c, ⟨none, true⟩)
        else
          match (call i.site i.cache i.now i.path host).1 with
          | .refuse _ _ => (c, ⟨none, false⟩)
          | .next tenant =>
              let c := setTenantId c (tenant.map (·.id))
              let start : Start := ⟨tenant, getTenantId c⟩
              -- there is no `finally` around the handler
              if i.handlerRaises then (c, ⟨some start, true⟩)
              else (clearTenant c, ⟨some start, false⟩)

/-- Over a thread's invocations, from an empty context: handlers start with the
id of their tenant, and after each invocation the context is empty. -/
structure Disciplined (invocations : List Invocation) : Prop where
  starts : ∀ c i trace start, (c, i, trace) ∈ Lts.steps invoke none invocations →
    trace.handler = some start →
      start.tenantId = start.tenant.map (·.id) ∧ (isExempt i.path = true → start.tenantId = none)
  ends : ∀ ended, ended <+: invocations → getTenantId (Lts.after invoke none ended) = none

/-- The request is for an active tenant, and its handler raises. -/
def Leaks (i : Invocation) : Prop :=
  i.handlerRaises = true ∧ i.lookupRaises = false ∧ isExempt i.path = false ∧
    ∃ host tenant, i.host = some host ∧
      (resolveTenant i.site i.cache i.now (stripPort host)).1 = some tenant ∧
      tenant.isActive = true

/-! ## One invocation -/

section

variable {c : Context} {i : Invocation}

/-- The ways out of the middleware. -/
inductive Outcome (c : Context) (i : Invocation) : Context → Trace → Prop
  | exempt : isExempt i.path = true → Outcome c i none ⟨some ⟨none, none⟩, i.handlerRaises⟩
  | stopped (raised : Bool) : ¬ Leaks i → Outcome c i c ⟨none, raised⟩
  | returned (tenant : Tenant) : ¬ Leaks i → isExempt i.path = false →
      Outcome c i none ⟨some ⟨some tenant, some tenant.id⟩, false⟩
  | leaked (tenant : Tenant) : Leaks i → isExempt i.path = false →
      Outcome c i (some tenant.id) ⟨some ⟨some tenant, some tenant.id⟩, true⟩

/-- A request that leaks has got past the lookup. -/
theorem Leaks.next (h : Leaks i) : i.handlerRaises = true ∧ i.lookupRaises = false ∧
    isExempt i.path = false ∧ ∃ host tenant, i.host = some host ∧
      (call i.site i.cache i.now i.path host).1 = .next tenant := by
  obtain ⟨hraises, hlookup, hpath, host, tenant, hhost, hfound, hactive⟩ := h
  exact ⟨hraises, hlookup, hpath, host, some tenant, hhost,
    (call_next hpath).mpr ⟨tenant, hfound, rfl, hactive⟩⟩

theorem invoke_outcome (c : Context) (i : Invocation) :
    Outcome c i (invoke c i).1 (invoke c i).2 := by
  unfold invoke
  cases hpath : isExempt i.path with
  | true => exact .exempt hpath
  | false =>
      rw [if_neg Bool.false_ne_true]
      cases hhost : i.host with
      | none =>
          refine .stopped true fun h => ?_
          obtain ⟨-, -, -, host, -, hsome, -⟩ := h
          rw [hhost] at hsome
          cases hsome
      | some host =>
          cases hlookup : i.lookupRaises with
          | true =>
              refine .stopped true fun h => ?_
              rw [h.2.1] at hlookup
              cases hlookup
          | false =>
              simp only [Bool.false_eq_true, if_false]
              cases hgate : (call i.site i.cache i.now i.path host).1 with
              | refuse status body =>
                  refine .stopped false fun h => ?_
                  obtain ⟨-, -, -, host', tenant, hhost', hnext⟩ := h.next
                  obtain rfl : host = host' := Option.some.inj (hhost.symm.trans hhost')
                  rw [hgate] at hnext
                  cases hnext
              | next tenant =>
                  obtain ⟨tenant, hfound, rfl, hactive⟩ := (call_next hpath).mp hgate
                  cases hraises : i.handlerRaises with
                  | true =>
                      exact .leaked tenant
                        ⟨hraises, hlookup, hpath, host, tenant, hhost, hfound, hactive⟩ hpath
                  | false =>
                      refine .returned tenant (fun h => ?_) hpath
                      rw [h.1] at hraises
                      cases hraises

/-- What a handler starts with is right whatever was left on the thread. -/
theorem invoke_start {start : Start} (h : (invoke c i).2.handler = some start) :
    start.tenantId = start.tenant.map (·.id) ∧
      (isExempt i.path = true → start.tenantId = none) := by
  have hout := invoke_outcome c i
  generalize (invoke c i).1 = c', (invoke c i).2 = trace at hout h
  cases hout with
  | exempt hpath =>
      obtain rfl := Option.some.inj h
      exact ⟨rfl, fun _ => rfl⟩
  | stopped raised hno => cases h
  | returned tenant hno hpath =>
      obtain rfl := Option.some.inj h
      exact ⟨rfl, fun hexempt => absurd (hpath.symm.trans hexempt) Bool.false_ne_true⟩
  | leaked tenant hleak hpath =>
      obtain rfl := Option.some.inj h
      exact ⟨rfl, fun hexempt => absurd (hpath.symm.trans hexempt) Bool.false_ne_true⟩

/-- The way out decides what an empty context becomes. -/
theorem invoke_empty (hc : getTenantId c = none) :
    getTenantId (invoke c i).1 = none ↔ ¬ Leaks i := by
  have hout := invoke_outcome c i
  generalize (invoke c i).1 = c', (invoke c i).2 = trace at hout
  cases hout with
  | exempt hpath =>
      refine ⟨fun _ h => ?_, fun _ => rfl⟩
      rw [h.2.2.1] at hpath
      cases hpath
  | stopped raised hno => exact ⟨fun _ => hno, fun _ => hc⟩
  | returned tenant hno hpath => exact ⟨fun _ => hno, fun _ => rfl⟩
  | leaked tenant hleak hpath =>
      refine ⟨fun h => ?_, fun hno => absurd hleak hno⟩
      cases h

end

/-! ## A thread -/

/-- The context is clean between requests exactly if no handler of a tenant
raises. -/
theorem disciplined_iff (invocations : List Invocation) :
    Disciplined invocations ↔ ∀ i ∈ invocations, ¬ Leaks i := by
  have hends : (∀ ended, ended <+: invocations →
      getTenantId (Lts.after invoke none ended) = none) ↔ ∀ i ∈ invocations, ¬ Leaks i :=
    Lts.after_prefix_iff (f := invoke) (I := fun c => getTenantId c = none)
      (P := fun i => ¬ Leaks i) (fun c i hc => invoke_empty hc) invocations none rfl
  constructor
  · intro h
    exact hends.mp h.ends
  · intro h
    refine ⟨fun c i trace start hstep hstart => ?_, hends.mpr h⟩
    rw [Lts.steps_output hstep] at hstart
    exact invoke_start hstart

/-- A request to the demo's first tenant whose handler raises. -/
def failing : Invocation :=
  ⟨DemoSeed.site, .empty, 0, "/api/v1/features/", some "tenant1.localhost", false, true⟩

/-- It leaves its tenant on the thread. -/
theorem failing_leaks : ¬ ∀ invocations, Disciplined invocations := by
  intro hall
  have hclean := (hall [failing]).ends [failing] (List.prefix_refl _)
  have hleft : getTenantId (Lts.after invoke none [failing]) = some DemoSeed.tenant1.id := by
    decide +kernel
  rw [hleft] at hclean
  cases hclean

end TenantContext

end SaasKit
