import SaasKit.FeatureService
import SaasKit.Lib.Keyed
import SaasKit.Throttling

/-!
# The rate of a plan: `TenantPlanThrottle`

The rate is looked up on every request, in the plan of the tenant; the count
is kept under the user and the tenant, in the cache that all throttles share.
`plan_throttle_isolated` says that it is kept apart: in any traffic, what a
user is answered in a tenant is what they would be answered alone.

What `SimpleRateThrottle` makes of an entry is a parameter.
-/

namespace SaasKit

namespace TenantPlanThrottle

open Throttling

/-- `η` is what `SimpleRateThrottle` keeps under a key. -/
structure ThrottleSettings (η : Type) where
  planThrottleRates : List (String × String)
  defaultThrottleRates : List (String × String)
  throttleUserRate : Option String
  parseRate : String → Except Exc (Nat × Nat)
  /-- `allow_request` on the entry under the key. -/
  allowEntry : (numRequests duration : Nat) → Time → Option η → Bool × Option η

/-- A request with the tables it meets. -/
structure Incoming where
  site : Site
  user : Option User
  tenant : Option Tenant
  now : Time

variable {η : Type}

/-- `_resolve_plan_rate`. -/
def resolvePlanRate (cfg : ThrottleSettings η) (r : Incoming) : Option String :=
  if cfg.planThrottleRates.isEmpty then none
  else
    match r.tenant with
    | none => none
    | some tenant =>
        match r.site.subscriptions.find? (·.tenant == tenant.id) with
        | none => none
        | some subscription =>
            cfg.planThrottleRates.lookup (FeatureService.planSlug r.site subscription)

def getRate (cfg : ThrottleSettings η) : String :=
  (cfg.defaultThrottleRates.lookup "user").getD (cfg.throttleUserRate.getD "100/minute")

def tenantIdent : Option UUID → String
  | some id => uuidStr id
  | none => "no_tenant"

def planKey (pk : UserId) (tenant : Option UUID) : String :=
  cacheFormat "plan" (toString pk ++ ":" ++ tenantIdent tenant)

def getCacheKey (r : Incoming) : Option String :=
  r.user.map fun user => planKey user.pk (r.tenant.map (·.id))

def allowRequest (cfg : ThrottleSettings η) (cache : String → Option η) (r : Incoming) :
    (String → Option η) × Except Exc Bool :=
  match getCacheKey r with
  | none => (cache, .ok true)
  | some key =>
      match cfg.parseRate ((resolvePlanRate cfg r).getD (getRate cfg)) with
      | .error e => (cache, .error e)
      | .ok (numRequests, duration) =>
          let (allowed, entry) := cfg.allowEntry numRequests duration r.now (cache key)
          (Function.update cache key entry, .ok allowed)

/-! ## Traffic -/

/-- The scopes of the other throttles. -/
inductive OtherScope where
  | anon
  | user
  | login
  | register
  | passwordReset

def OtherScope.value : OtherScope → String
  | anon => "anon"
  | user => "user"
  | login => "login"
  | register => "register"
  | passwordReset => "password_reset"

/-- A request that this throttle meets, or another throttle at its entry. -/
inductive Access (η : Type) where
  | plan (r : Incoming)
  | other (scope : OtherScope) (ident : String) (write : Option η → Bool × Option η)

def Access.key : Access η → Option String
  | .plan r => getCacheKey r
  | .other scope ident _ => some (cacheFormat scope.value ident)

def serve (cfg : ThrottleSettings η) (cache : String → Option η) :
    Access η → (String → Option η) × Except Exc Bool
  | .plan r => allowRequest cfg cache r
  | .other scope ident write =>
      let (allowed, entry) := write (cache (cacheFormat scope.value ident))
      (Function.update cache (cacheFormat scope.value ident) entry, .ok allowed)

/-- A request of this user in this tenant, or in none. -/
def Access.isOf (pk : UserId) (tenant : Option UUID) : Access η → Bool
  | .plan r => r.user.map (·.pk) == some pk && r.tenant.map (·.id) == tenant
  | .other .. => false

/-! ## Keys -/

theorem tenantIdent_inj {a b : Option UUID} (h : tenantIdent a = tenantIdent b) : a = b := by
  have hmark : ∀ id, uuidStr id ≠ "no_tenant" := by
    intro id hsame
    have hplain : '-' ∉ "no_tenant".toList := by decide
    refine hplain (hsame ▸ ?_)
    rw [uuidStr, String.toList_intercalate]
    simp
  unfold tenantIdent at h
  cases a with
  | none =>
      cases b with
      | none => rfl
      | some b => exact absurd h.symm (hmark b)
  | some a =>
      cases b with
      | none => exact absurd h (hmark a)
      | some b => rw [uuidStr_inj h]

theorem planKey_inj {pk pk' : UserId} {tenant tenant' : Option UUID}
    (h : planKey pk tenant = planKey pk' tenant') : pk = pk' ∧ tenant = tenant' := by
  have hdigits : ∀ pk : UserId, ':' ∉ (toString pk).toList := by
    intro pk hmem
    have hdigit := isDigit_of_mem_toString hmem
    cases hdigit
  have hlist := congrArg String.toList (cacheFormat_inj h)
  simp only [String.toList_append, List.append_assoc] at hlist
  obtain ⟨hpk, htenant⟩ := eq_of_separator (hdigits pk) (hdigits pk') hlist
  exact ⟨toString_nat_inj (String.toList_inj.mp hpk),
    tenantIdent_inj (String.toList_inj.mp htenant)⟩

/-- No other throttle writes under a key of this one. -/
theorem planKey_ne_other (pk : UserId) (tenant : Option UUID) (scope : OtherScope)
    (ident : String) : cacheFormat scope.value ident ≠ planKey pk tenant := by
  intro h
  have hlist := congrArg String.toList h
  unfold planKey cacheFormat at hlist
  simp only [String.toList_append, List.append_assoc] at hlist
  have htail := List.append_cancel_left hlist
  cases scope with
  | passwordReset =>
      obtain ⟨-, hrest⟩ := List.cons.inj htail
      cases (List.cons.inj hrest).1
  | _ => cases (List.cons.inj htail).1

theorem isOf_iff (pk : UserId) (tenant : Option UUID) (access : Access η) :
    access.isOf pk tenant = true ↔ access.key = some (planKey pk tenant) := by
  cases access with
  | other scope ident write =>
      exact iff_of_false Bool.false_ne_true fun h =>
        planKey_ne_other pk tenant scope ident (Option.some.inj h)
  | plan r =>
      unfold Access.isOf Access.key getCacheKey
      simp only [Bool.and_eq_true, beq_iff_eq]
      cases r.user with
      | none => simp
      | some user =>
          simp only [Option.map_some, Option.some.injEq]
          constructor
          · rintro ⟨rfl, rfl⟩
            rfl
          · exact planKey_inj

/-! ## Isolation -/

theorem serve_local (cfg : ThrottleSettings η) : Keyed.Local (serve cfg) Access.key where
  idle access hkey c := by
    cases access with
    | other scope ident write => cases hkey
    | plan r =>
        have hkey : getCacheKey r = none := hkey
        show (allowRequest cfg c r).1 = c
        unfold allowRequest
        rw [hkey]
  frame access k hkey c k' hne := by
    cases access with
    | other scope ident write =>
        obtain rfl := Option.some.inj hkey
        exact Function.update_of_ne hne ..
    | plan r =>
        have hkey : getCacheKey r = some k := hkey
        show (allowRequest cfg c r).1 k' = c k'
        unfold allowRequest
        simp only [hkey]
        split
        · rfl
        · exact Function.update_of_ne hne ..
  own access k hkey c c' hsame := by
    cases access with
    | other scope ident write =>
        obtain rfl := Option.some.inj hkey
        unfold serve
        simp only [hsame, Function.update_self, and_self]
    | plan r =>
        have hkey : getCacheKey r = some k := hkey
        unfold serve allowRequest
        simp only [hkey]
        split
        · exact ⟨rfl, hsame⟩
        · simp only [hsame, Function.update_self, and_self]

/-- Whatever else comes in, of other users, of the user in other tenants, and
at the other throttles: a user in a tenant is answered as they would be if
nothing else came in. -/
theorem plan_throttle_isolated (cfg : ThrottleSettings η) (cache : String → Option η)
    (traffic : List (Access η)) (pk : UserId) (tenant : Option UUID) :
    (Keyed.answers (serve cfg) cache traffic).filter (fun a => a.1.isOf pk tenant)
      = Keyed.answers (serve cfg) cache (traffic.filter fun access => access.isOf pk tenant) := by
  have hkey : ∀ access : Access η,
      access.isOf pk tenant = decide (access.key = some (planKey pk tenant)) := fun access =>
    Bool.eq_iff_iff.mpr ((isOf_iff pk tenant access).trans decide_eq_true_iff.symm)
  simp only [hkey]
  exact Keyed.answers_filter (serve_local cfg) (planKey pk tenant) traffic rfl

end TenantPlanThrottle

end SaasKit
