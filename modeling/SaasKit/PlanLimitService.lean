import SaasKit.RbacService

/-!
# Plan limits: `PlanLimitService`

The member quota of a tenant's plan. A tenant without a subscription, a
subscription without a plan and a plan with `max_members = 0` all mean "no
limit"; `quota` is that reading as one number, and `checkMemberLimit_ok`
states the check in its terms.
-/

namespace SaasKit

namespace PlanLimitService

/-- `tenant.subscription.plan`, `none` where the lookup raises or the plan
is null. -/
def getPlan (s : Site) (tenant : Tenant) : Option Plan :=
  match s.subscriptions.find? (·.tenant == tenant.id) with
  | some sub => sub.plan.bind fun id => s.plans.find? (·.id == id)
  | none => none

def getMemberCount (s : Site) (tenant : Tenant) : Nat :=
  s.userTenantRoles.count (·.tenant == tenant.id)

def checkMemberLimit (s : Site) (tenant : Tenant) : Except Exc Unit :=
  match getPlan s tenant with
  | none => .ok ()
  | some plan =>
      if plan.isUnlimitedMembers then .ok ()
      else if plan.maxMembers ≤ getMemberCount s tenant then
        .error (.planLimitExceededError
          ("Your plan allows up to " ++ toString plan.maxMembers ++ " member(s). "
            ++ "Upgrade your plan to add more members."))
      else .ok ()

/-- The limit that is enforced, if any. -/
def quota (s : Site) (tenant : Tenant) : Option Nat :=
  match getPlan s tenant with
  | none => none
  | some plan => if plan.isUnlimitedMembers then none else some plan.maxMembers

/-- The check passes exactly when one more member still fits. -/
theorem checkMemberLimit_ok {s : Site} {tenant : Tenant} {n : Nat}
    (h : quota s tenant = some n) :
    checkMemberLimit s tenant = .ok () ↔ getMemberCount s tenant < n := by
  unfold quota at h
  unfold checkMemberLimit
  split at h
  · cases h
  · rename_i plan hplan
    split at h
    · cases h
    · rename_i hlim
      obtain rfl := Option.some.inj h
      simp only [if_neg hlim]
      by_cases hfull : plan.maxMembers ≤ getMemberCount s tenant
      · rw [if_pos hfull]
        simp only [reduceCtorEq, false_iff]
        omega
      · rw [if_neg hfull]
        simp only [true_iff]
        omega

/-- The quota depends on the billing tables only. -/
theorem quota_congr {s s' : Site} {tenant : Tenant} (hp : s'.plans = s.plans)
    (hs : s'.subscriptions = s.subscriptions) : quota s' tenant = quota s tenant := by
  simp only [quota, getPlan, hp, hs]

end PlanLimitService

end SaasKit
