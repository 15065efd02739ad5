import Mathlib.Data.List.Infix
import SaasKit.Views

/-!
# The demo data

What `seed_demo` leaves in an empty database (`examples/demo_config.py`):
two tenants with a host each and one user, admin of the first. The
concrete runs of the later modules start from it, under the settings and
field conversions below, which do on the inputs used there what the
framework's do.
-/

namespace SaasKit

namespace DemoSeed

def tenant1 : Tenant :=
  ⟨0x00000000000040008000000000000001, "Tenant One", "tenant1", "tenant1", true⟩

def tenant2 : Tenant :=
  ⟨0x00000000000040008000000000000002, "Tenant Two", "tenant2", "tenant2", true⟩

def admin : User :=
  ⟨1, "admin@tenant1.localhost", "admin@tenant1.localhost", "Demo", "Admin", "pbkdf2_sha256",
    true, false⟩

def site : Site where
  users := ⟨[admin], by decide⟩
  tenants := ⟨[tenant1, tenant2], by decide⟩
  domains := ⟨[⟨tenant1.id, "tenant1.localhost", true⟩, ⟨tenant2.id, "tenant2.localhost", true⟩],
    by decide⟩
  userTenantRoles := ⟨[⟨admin.pk, tenant1.id, .admin, none⟩], by decide⟩
  invitations := ∅
  plans := ∅
  subscriptions := ∅
  webhookEvents := ∅
  auditLogs := []
  queue := []
  domain_fk := by decide

/-- A user in no tenant, for the runs that need a second one. -/
def guest : User := ⟨2, "guest", "guest@example.com", "", "", "pbkdf2_sha256", true, false⟩

theorem admin_guest_distinct :
    [admin, guest].Pairwise fun a b => User.clash a b = false := by
  decide

/-- The demo data with Tenant One deactivated. -/
def deactivated : Site :=
  { site with
    tenants := ⟨[{ tenant1 with isActive := false }, tenant2], by decide⟩
    domain_fk := by decide }

def settings : Settings where
  lower s := String.ofList (s.toList.map Char.toLower)
  frontendUrl := "http://localhost:3000"

/-- `uuid.UUID(hex)` on the hexadecimal form with hyphens. -/
def parseUuid (s : String) : Option UUID :=
  let digits := s.toList.filter (· ≠ '-')
  let value? := fun c : Char =>
    if c.isDigit then some (c.toNat - '0'.toNat)
    else if 'a' ≤ c && c ≤ 'f' then some (c.toNat - 'a'.toNat + 10)
    else none
  if digits.length = 32 then
    digits.foldl (fun acc c => acc.bind fun n => (value? c).map (16 * n + ·)) (some 0)
  else none

def drf : Drf where
  integerField
    | some (.num n) => .ok n
    | none => .error "This field is required."
    | _ => .error "A valid integer is required."
  choiceField
    | _, some (.str v) =>
        if (RoleChoices.ofValue? v).isSome then .ok v
        else .error ("\"" ++ v ++ "\" is not a valid choice.")
    | some v, none => .ok v
    | none, none => .error "This field is required."
    | _, _ => .error "Not a valid choice."
  emailField
    | some (.str v) => .ok v
    | none => .error "This field is required."
    | _ => .error "Not a valid string."
  notADict _ := "Invalid data. Expected a dictionary."
  icontains a b := decide (b.toList <:+: a.toList)
  toPython := parseUuid

/-- A call at time `now` with fresh key and token `n`, the broker up. -/
def callAt (now : Time) (n : Nat) : Call := ⟨now, n, "token-" ++ toString n, true⟩

example : parseUuid (uuidStr tenant1.id) = some tenant1.id := by decide

end DemoSeed

end SaasKit
