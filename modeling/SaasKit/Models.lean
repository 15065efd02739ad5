import SaasKit.Lib.Table
import SaasKit.Python

/-!
# The data model

The rows of the Django models and the state they live in. A `Site` is the
database together with the tasks handed to the Celery broker; every table
carries its unique constraints (`Table`), and the foreign key the
middleware joins over is a field of `Site`, so no function has to check
either.

Columns that no modelled function reads or writes (timestamps set by
`auto_now`, storage quotas, help texts) are left out. Times are integers,
in microseconds since the epoch.
-/

namespace SaasKit

abbrev UUID := Nat
abbrev UserId := Nat
abbrev PlanId := Nat
abbrev Time := Int

def seconds (n : Int) : Time := n * 1000000
def hours (n : Int) : Time := seconds (n * 3600)
def days (n : Int) : Time := seconds (n * 86400)

/-! ## Column values

What a `CharField` passes to the database, with Python's `str` for a value
that is not a string; `None` is `NULL`. -/

def charField (str : Json → String) : Json → Option String
  | .null => none
  | .str v => some v
  | v => some (str v)

def tooLong (maxLength : Nat) (value : Option String) : Bool :=
  value.any fun v => decide (maxLength < v.length)

/-! ## apps/users, apps/rbac -/

structure User where
  pk : UserId
  username : String
  email : String
  firstName : String
  lastName : String
  password : String
  isActive : Bool
  isSuperuser : Bool
  deriving DecidableEq, Repr

/-- `username` is the only unique column besides the key. -/
def User.clash (a b : User) : Bool := a.pk == b.pk || a.username == b.username

/-- `qs.first()` on an unordered queryset: the row with the least key. -/
def firstByPk (users : List User) : Option User :=
  users.foldr (fun u best =>
    match best with
    | none => some u
    | some v => if u.pk ≤ v.pk then some u else some v) none

theorem firstByPk_eq_none : ∀ {l : List User}, firstByPk l = none → l = []
  | [], _ => rfl
  | u :: l, h => by
      unfold firstByPk at h
      rw [List.foldr_cons] at h
      split at h
      · cases h
      · split at h <;> cases h

theorem firstByPk_mem : ∀ {l : List User} {user : User}, firstByPk l = some user → user ∈ l
  | [], _, h => by cases h
  | u :: l, user, h => by
      unfold firstByPk at h
      rw [List.foldr_cons] at h
      split at h
      · obtain rfl := Option.some.inj h
        exact List.mem_cons_self
      · rename_i v hrest
        split at h
        · obtain rfl := Option.some.inj h
          exact List.mem_cons_self
        · obtain rfl := Option.some.inj h
          exact List.mem_cons_of_mem _ (firstByPk_mem hrest)

inductive RoleChoices where
  | owner
  | admin
  | member
  deriving DecidableEq, Repr

namespace RoleChoices

def value : RoleChoices → String
  | owner => "owner"
  | admin => "admin"
  | member => "member"

/-- `role in RoleChoices.values`, with the member it names. -/
def ofValue? (role : String) : Option RoleChoices :=
  if role = "owner" then some owner
  else if role = "admin" then some admin
  else if role = "member" then some member
  else none

@[simp] theorem ofValue?_value (r : RoleChoices) : ofValue? r.value = some r := by
  cases r <;> decide

theorem ofValue?_eq_some {role : String} {r : RoleChoices} :
    ofValue? role = some r ↔ role = r.value := by
  constructor
  · intro h
    unfold ofValue? at h
    split at h
    · obtain rfl := Option.some.inj h; assumption
    · split at h
      · obtain rfl := Option.some.inj h; assumption
      · split at h
        · obtain rfl := Option.some.inj h; assumption
        · cases h
  · rintro rfl; exact ofValue?_value r

/-- `ROLE_HIERARCHY`. -/
def weight : RoleChoices → Nat
  | owner => 3
  | admin => 2
  | member => 1

theorem value_inj {r r' : RoleChoices} : r.value = r'.value ↔ r = r' := by
  cases r <;> cases r' <;> decide

end RoleChoices

structure UserTenantRole where
  user : UserId
  tenant : UUID
  role : RoleChoices
  assignedBy : Option UserId
  deriving DecidableEq, Repr

/-- `unique_together = ("user", "tenant")`. -/
def UserTenantRole.key (r : UserTenantRole) : UserId × UUID := (r.user, r.tenant)

/-! ## apps/tenants -/

structure Tenant where
  id : UUID
  name : String
  slug : String
  schemaName : String
  isActive : Bool
  deriving DecidableEq, Repr

def Tenant.clash (a b : Tenant) : Bool :=
  a.id == b.id || a.slug == b.slug || a.schemaName == b.schemaName

structure Domain where
  tenant : UUID
  domain : String
  isPrimary : Bool
  deriving DecidableEq, Repr

/-! ## apps/invitations -/

inductive InvitationStatus where
  | pending
  | accepted
  | revoked
  | expired
  deriving DecidableEq, Repr

def InvitationStatus.value : InvitationStatus → String
  | pending => "pending"
  | accepted => "accepted"
  | revoked => "revoked"
  | expired => "expired"

structure TenantInvitation where
  id : UUID
  tenant : UUID
  email : String
  role : RoleChoices
  token : String
  status : InvitationStatus
  invitedBy : Option UserId
  acceptedBy : Option UserId
  expiresAt : Time
  deriving DecidableEq, Repr

namespace TenantInvitation

def clash (a b : TenantInvitation) : Bool := a.id == b.id || a.token == b.token

/-- `_EXPIRY_HOURS`. -/
def expiryHours : Int := 72

def isExpired (inv : TenantInvitation) (now : Time) : Bool := decide (inv.expiresAt < now)

def isUsable (inv : TenantInvitation) (now : Time) : Bool :=
  decide (inv.status = .pending) && !inv.isExpired now

end TenantInvitation

/-! ## apps/billing -/

structure Plan where
  id : PlanId
  slug : String
  maxMembers : Nat
  deriving DecidableEq, Repr

def Plan.clash (a b : Plan) : Bool := a.id == b.id || a.slug == b.slug

def Plan.isUnlimitedMembers (p : Plan) : Bool := p.maxMembers == 0

/-- `Subscription.status` is a plain column: the handlers store whatever
string Stripe sends. -/
structure Subscription where
  id : UUID
  tenant : UUID
  plan : Option PlanId
  stripeCustomerId : String
  stripeSubscriptionId : Option String
  stripePriceId : String
  status : String
  currentPeriodStart : Option Time
  currentPeriodEnd : Option Time
  gracePeriodEnd : Option Time
  cancelAtPeriodEnd : Bool
  trialEnd : Option Time
  deriving DecidableEq, Repr

namespace Subscription

/-- `tenant`, `stripe_customer_id` and `stripe_subscription_id` are
unique; a null subscription id equals nothing. -/
def clash (a b : Subscription) : Bool :=
  a.id == b.id || a.tenant == b.tenant || a.stripeCustomerId == b.stripeCustomerId
    || (a.stripeSubscriptionId.isSome && a.stripeSubscriptionId == b.stripeSubscriptionId)

def trialing : String := "trialing"
def active : String := "active"
def pastDue : String := "past_due"
def canceled : String := "canceled"

def isAccessAllowed (sub : Subscription) (now : Time) : Bool :=
  if sub.status = active ∨ sub.status = trialing then true
  else if sub.status = pastDue then
    match sub.gracePeriodEnd with
    | some graceEnd => decide (now < graceEnd)
    | none => false
  else false

end Subscription

/-- The log that makes the webhook idempotent: one row an event id. -/
structure WebhookEvent where
  stripeEventId : String
  eventType : String
  payload : Json
  deriving Repr

/-! ## apps/audit -/

inductive AuditAction where
  | login | logout | loginFailed | passwordResetRequested | passwordResetConfirmed
  | userRegistered | userDeleted
  | roleAssigned | roleRevoked
  | memberInvited | invitationAccepted | invitationRevoked
  | subscriptionCreated | subscriptionUpdated | subscriptionCanceled
  | paymentSucceeded | paymentFailed
  deriving DecidableEq, Repr

structure AuditLog where
  tenant : Option UUID
  actor : Option UserId
  actorEmail : String
  action : AuditAction
  resourceType : String
  resourceId : String
  metadata : List (String × Json)
  ipAddress : Option String
  userAgent : String
  deriving Repr

/-! ## Celery tasks -/

inductive Task where
  | sendInvitationEmail
      (recipientEmail tenantName invitedByName role acceptUrl : String)
  | handleStripeEvent (eventId eventType : String) (eventData : Json)
  | sendDunningEmail (tenantId : UUID)
  | sendWelcomeEmail (userId : UserId)
  | sendPasswordResetEmail
      (recipientEmail userName resetLink uid token : String) (hoursValid : Nat)
  deriving Repr

/-! ## The state of a deployment -/

structure Site where
  users : Table User User.clash
  tenants : Table Tenant Tenant.clash
  domains : Table Domain (sameKey Domain.domain)
  userTenantRoles : Table UserTenantRole (sameKey UserTenantRole.key)
  invitations : Table TenantInvitation TenantInvitation.clash
  plans : Table Plan Plan.clash
  subscriptions : Table Subscription Subscription.clash
  webhookEvents : Table WebhookEvent (sameKey WebhookEvent.stripeEventId)
  auditLogs : List AuditLog
  queue : List Task
  domain_fk : ∀ d ∈ domains, ∃ t ∈ tenants, t.id = d.tenant

namespace Site

def getUser (s : Site) (pk : UserId) : Option User := s.users.find? (·.pk == pk)

def getTenant (s : Site) (id : UUID) : Option Tenant := s.tenants.find? (·.id == id)

theorem tenant_clash_symm (a b : Tenant) : Tenant.clash a b = Tenant.clash b a := by
  simp only [Tenant.clash, BEq.comm]

theorem user_clash_symm (a b : User) : User.clash a b = User.clash b a := by
  simp only [User.clash, BEq.comm]

theorem subscription_clash_symm (a b : Subscription) :
    Subscription.clash a b = Subscription.clash b a := by
  unfold Subscription.clash
  rw [BEq.comm (a := a.id), BEq.comm (a := a.tenant), BEq.comm (a := a.stripeCustomerId),
    BEq.comm (a := a.stripeSubscriptionId)]
  cases h : b.stripeSubscriptionId == a.stripeSubscriptionId with
  | false => simp
  | true => rw [eq_of_beq h]

theorem getTenant_some {s : Site} {id : UUID} {t : Tenant} (h : s.getTenant id = some t) :
    t ∈ s.tenants ∧ t.id = id := by
  obtain ⟨hmem, hid⟩ := Table.find?_some h
  exact ⟨hmem, by simpa using hid⟩

theorem getTenant_of_mem {s : Site} {t : Tenant} (h : t ∈ s.tenants) :
    s.getTenant t.id = some t :=
  Table.find?_eq_of_mem tenant_clash_symm h (by simp) fun x hx => by
    simp only [Tenant.clash, Bool.or_eq_true]; exact Or.inl (Or.inl hx)

theorem getUser_some {s : Site} {pk : UserId} {u : User} (h : s.getUser pk = some u) :
    u ∈ s.users ∧ u.pk = pk := by
  obtain ⟨hmem, hpk⟩ := Table.find?_some h
  exact ⟨hmem, by simpa using hpk⟩

end Site

end SaasKit
