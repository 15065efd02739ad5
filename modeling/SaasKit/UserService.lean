import SaasKit.SocialAuthService

/-!
# Accounts: `UserService.create_user` and the reset's lookup

A registration checks that the username and the email are free and then
writes the row. The database enforces the first check and not the second.
What Django contributes is a parameter: its password and field validators,
its hasher and the Unicode normal form of a username.
-/

namespace SaasKit

structure UserConfig where
  text : Text
  normalizeUsername : String → String
  validatePassword : String → (username email : String) → Except String Unit
  makePassword : String → String
  cleanFields : User → Bool

structure CreateUserInput where
  email : String
  username : String
  password : String
  firstName : String
  lastName : String
  deriving DecidableEq, Repr

namespace UserService

/-- `BaseUserManager.normalize_email`: the part after the last `@` in lower
case. -/
def normalizeEmail (text : Text) (email : String) : String :=
  let chars := (strip email).toList.reverse
  let domain := (chars.takeWhile (· ≠ '@')).reverse
  match chars.dropWhile (· ≠ '@') with
  | [] => email
  | _ :: name => String.ofList name.reverse ++ "@" ++ text.lower (String.ofList domain)

/-- The cleaned input, or the message of what is missing. -/
def validated (cfg : UserConfig) (data : CreateUserInput) : Except Exc CreateUserInput :=
  let email := cfg.text.lower (strip data.email)
  let username := strip data.username
  if email = "" ∨ '@' ∉ email.toList then
    .error (.validationServiceError "A valid email address is required.")
  else if username = "" then .error (.validationServiceError "Username is required.")
  else if data.password = "" then .error (.validationServiceError "Password is required.")
  else
    match cfg.validatePassword data.password username email with
    | .error messages => .error (.validationServiceError messages)
    | .ok () => .ok ⟨email, username, data.password, strip data.firstName, strip data.lastName⟩

/-- The instance before `full_clean`. -/
def draft (cfg : UserConfig) (pk : UserId) (data : CreateUserInput) : User :=
  ⟨pk, data.username, data.email, data.firstName, data.lastName,
    cfg.makePassword data.password, true, false⟩

/-- `clean()`. -/
def clean (cfg : UserConfig) (user : User) : User :=
  { user with
    username := cfg.normalizeUsername user.username
    email := normalizeEmail cfg.text user.email }

/-- `full_clean()`: field validators, `clean()`, and the unique check. -/
def fullClean (cfg : UserConfig) (users : Table User User.clash) (user : User) :
    Except Exc User :=
  if !cfg.cleanFields user || users.any (·.username == (clean cfg user).username) then
    .error .djangoValidationError
  else .ok (clean cfg user)

/-- `user.save()` for a new row. -/
def save (users : Table User User.clash) (user : User) :
    Except Exc (Table User User.clash) :=
  if tooLong 150 (some user.username) || tooLong 254 (some user.email) then .error .dataError
  else
    match users.insert? user with
    | none => .error (.conflictServiceError "An account with those credentials already exists.")
    | some users => .ok users

/-- `_enqueue_welcome_email`, on commit. -/
def enqueueWelcomeEmail (s : Site) (brokerUp : Bool) (user : User) : Except Exc User × Site :=
  if brokerUp then (.ok user, { s with queue := s.queue ++ [.sendWelcomeEmail user.pk] })
  else (.error .operationalError, s)

def createUser (cfg : UserConfig) (s : Site) (pk : UserId) (brokerUp : Bool)
    (data : CreateUserInput) : Except Exc User × Site :=
  match validated cfg data with
  | .error e => (.error e, s)
  | .ok data =>
      if s.users.any (·.username == data.username) then
        (.error (.conflictServiceError "An account with that username already exists."), s)
      else if s.users.any (·.email == data.email) then
        (.error (.conflictServiceError "An account with that email already exists."), s)
      else
        match fullClean cfg s.users (draft cfg pk data) with
        | .error e => (.error e, s)
        | .ok user =>
            match save s.users user with
            | .error e => (.error e, s)
            | .ok users => enqueueWelcomeEmail { s with users } brokerUp user

end UserService

namespace PasswordResetService

/-- `User.objects.get(email=email.strip().lower())`, where `request_reset`
catches the missing user only. -/
def userByEmail (text : Text) (users : Table User User.clash) (email : String) :
    Except Exc (Option User) :=
  match users.filter (·.email == text.lower (strip email)) with
  | [] => .ok none
  | [user] => .ok (some user)
  | _ => .error .multipleObjectsReturned

end PasswordResetService

end SaasKit
