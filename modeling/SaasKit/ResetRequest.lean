import SaasKit.SecondFactor
import SaasKit.UserService

/-!
# Asking for a password reset: `PasswordResetService.request_reset`

The call is to end in the same way whether an account has the address or not.
It looks for one row and catches its absence. Two rows are another exception,
and only a row that was found meets the broker: so what a caller sees depends
on how many rows there are, on zero against more with the broker down and on
one against two with the broker up (`conceals_iff`).
-/

namespace SaasKit

/-- What the call takes from Django and the settings. -/
structure ResetLinkConfig where
  text : Text
  makeUid : UserId → String
  makeToken : Time → User → String
  frontendUrl : String
  passwordResetTimeout : Nat

namespace PasswordResetService

/-- `s.rstrip("/")`. -/
def rstripSlash (s : String) : String :=
  String.ofList (s.toList.reverse.dropWhile (· == '/')).reverse

/-- `user.get_full_name() or user.username`. -/
def recipientName (user : User) : String :=
  let fullName := strip (user.firstName ++ " " ++ user.lastName)
  if fullName = "" then user.username else fullName

/-- The task for a user that was found. -/
def resetEmail (cfg : ResetLinkConfig) (now : Time) (user : User) : Task :=
  let uid := cfg.makeUid user.pk
  let token := cfg.makeToken now user
  .sendPasswordResetEmail user.email (recipientName user)
    (rstripSlash cfg.frontendUrl ++ "/reset-password/?uid=" ++ uid ++ "&token=" ++ token) uid token
    (cfg.passwordResetTimeout / 3600)

def requestReset (cfg : ResetLinkConfig) (s : Site) (now : Time) (brokerUp : Bool)
    (email : String) : Except Exc Unit × Site :=
  match userByEmail cfg.text s.users email with
  | .error e => (.error e, s)
  | .ok none => (.ok (), s)
  | .ok (some user) =>
      if brokerUp then (.ok (), { s with queue := s.queue ++ [resetEmail cfg now user] })
      else (.error .operationalError, s)

end PasswordResetService

namespace ResetRequest

open PasswordResetService

/-- A call as a caller sees it: it returns or it raises. -/
def returns (cfg : ResetLinkConfig) (s : Site) (now : Time) (brokerUp : Bool) (email : String) :
    Bool :=
  (requestReset cfg s now brokerUp email).1.isOk

/-- The rows with the normalised address. -/
def matching (text : Text) (users : Table User User.clash) (email : String) : Nat :=
  users.count (·.email == text.lower (strip email))

/-- Two tables that agree on all rows with another address. -/
def DifferAt (text : Text) (email : String) (users users' : Table User User.clash) : Prop :=
  ∀ u : User, u.email ≠ text.lower (strip email) → (u ∈ users ↔ u ∈ users')

/-- The call ends in the same way on both tables. -/
def Conceals (cfg : ResetLinkConfig) (s : Site) (now : Time) (brokerUp : Bool) (email : String)
    (users users' : Table User User.clash) : Prop :=
  returns cfg { s with users } now brokerUp email
    = returns cfg { s with users := users' } now brokerUp email

/-- The two tables have the same kind of number of matching rows: up to one or
more with a broker that answers, none or some with one that does not. -/
def Alike (text : Text) (brokerUp : Bool) (email : String) (users users' : Table User User.clash) :
    Prop :=
  if brokerUp then matching text users email ≤ 1 ↔ matching text users' email ≤ 1
  else matching text users email = 0 ↔ matching text users' email = 0

section

variable {cfg : ResetLinkConfig} {s : Site} {now : Time} {brokerUp : Bool} {email : String}

/-- How a call ends, by the number of rows it finds. -/
theorem returns_iff : returns cfg s now brokerUp email = true ↔
    matching cfg.text s.users email = 0
      ∨ matching cfg.text s.users email = 1 ∧ brokerUp = true := by
  have hcount : matching cfg.text s.users email
      = (s.users.filter (·.email == cfg.text.lower (strip email))).length :=
    List.countP_eq_length_filter
  rw [hcount, returns, requestReset, userByEmail]
  match s.users.filter (·.email == cfg.text.lower (strip email)) with
  | [] => exact iff_of_true rfl (Or.inl rfl)
  | [user] =>
      cases brokerUp with
      | true => exact iff_of_true rfl (Or.inr ⟨rfl, rfl⟩)
      | false => exact iff_of_false nofun (by simp)
  | _ :: _ :: _ => exact iff_of_false nofun (by simp)

theorem returns_up : returns cfg s now true email = true ↔
    matching cfg.text s.users email ≤ 1 := by
  rw [returns_iff, Nat.le_one_iff_eq_zero_or_eq_one]
  simp

theorem returns_down : returns cfg s now false email = true ↔
    matching cfg.text s.users email = 0 := by
  rw [returns_iff]
  simp

/-- A request ends in the same way on two tables exactly if they are alike in
the number of rows with the address. -/
theorem conceals_iff (cfg : ResetLinkConfig) (s : Site) (now : Time) (brokerUp : Bool)
    (email : String) (users users' : Table User User.clash) :
    Conceals cfg s now brokerUp email users users' ↔
      Alike cfg.text brokerUp email users users' := by
  unfold Conceals Alike
  rw [Bool.eq_iff_iff]
  cases brokerUp with
  | true => rw [if_pos rfl, returns_up, returns_up]
  | false => rw [if_neg Bool.false_ne_true, returns_down, returns_down]

end

/-! ## A request with the broker down -/

def config : ResetLinkConfig where
  text := SecondFactor.config.text
  makeUid pk := toString pk
  makeToken _ user := "token-" ++ toString user.pk
  frontendUrl := "http://localhost:3000"
  passwordResetTimeout := 3600

def withGuest : Table User User.clash :=
  ⟨[DemoSeed.admin, DemoSeed.guest], DemoSeed.admin_guest_distinct⟩

theorem differAt_guest :
    DifferAt config.text "guest@example.com" DemoSeed.site.users withGuest := by
  intro u hother
  have hguest : u ≠ DemoSeed.guest := by
    rintro rfl
    exact hother (by decide +kernel)
  constructor
  · exact fun h => List.mem_append_left [DemoSeed.guest] h
  · intro h
    rcases List.mem_cons.mp h with rfl | h
    · exact List.mem_singleton_self _
    · exact absurd (List.mem_singleton.mp h) hguest

/-- Without the guest the call returns, with the guest it raises. -/
theorem broker_reveals :
    ¬ ∀ (cfg : ResetLinkConfig) (s : Site) (now : Time) (brokerUp : Bool) (email : String)
      (users users' : Table User User.clash), DifferAt cfg.text email users users' →
      Conceals cfg s now brokerUp email users users' := by
  intro hall
  have hsame : returns config { DemoSeed.site with users := DemoSeed.site.users } 0 false
        "guest@example.com"
      = returns config { DemoSeed.site with users := withGuest } 0 false "guest@example.com" :=
    hall config DemoSeed.site 0 false "guest@example.com" _ _ differAt_guest
  revert hsame
  decide +kernel

end ResetRequest

end SaasKit
