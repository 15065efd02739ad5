import SaasKit.Lib.TtlCache
import SaasKit.RbacPermissions
import SaasKit.SocialAuthService

/-!
# The authentication endpoints

The views that issue tokens and the views that manage the second factor:
password and social login, and TOTP setup, enabling, disabling and the
completion of a login. The state is the site with the TOTP table and the
cache that holds the pre-auth sessions.

The JWT and TOTP libraries are parameters (`AuthConfig`): whose credentials
these are, what tokens a user gets, whether a code is valid for a secret.
`serve_pair` is the inversion the rest relies on: the three ways a response
can carry a fresh token pair.
-/

namespace SaasKit

/-- One row a user. -/
structure UserTOTP where
  user : UserId
  secret : String
  isEnabled : Bool
  backupCodes : List String
  deriving DecidableEq, Repr

/-- The site with the TOTP rows of its users and the pre-auth sessions. -/
structure AuthSite extends Site where
  userTotps : Table UserTOTP (sameKey UserTOTP.user)
  sessions : TtlCache String Time UserId
  totp_fk : ∀ row ∈ userTotps, ∃ u ∈ users, u.pk = row.user

/-- The libraries: simplejwt's serializer (a user, or the status and text of
its error) and token class, pyotp and qrcode. -/
structure AuthConfig where
  text : Text
  validate : Site → Json → Except (Nat × Envelope) User
  forUser : User → Except Envelope (String × String)
  verify : String → String → Time → Bool
  provisioningUri : String → String → String
  qrSvg : String → String

/-- What a request draws at random, should it need it. -/
structure Fresh where
  sessionKey : String
  secret : String
  backupCodes : List String
  newUser : NewUser

inductive AuthEndpoint where
  | token
  | social
  | setup
  | enable
  | disable
  | complete
  deriving DecidableEq, Repr

/-- A request with the clock, the draws and the providers' answers it meets.
`bearer` is the user id of a valid access token. `interrupted` says that the
second validation of a password login raises. -/
structure AuthRequest where
  endpoint : AuthEndpoint
  data : Json
  bearer : Option UserId
  now : Time
  fresh : Fresh
  http : Http
  interrupted : Bool

/-- A token pair is shown with the user it is for. -/
inductive AuthBody where
  | detail (text : String)
  | field (detail field : String)
  | setup (secret provisioningUri qrSvg : String)
  | enabled (detail : String) (backupCodes : List String)
  | twoFaRequired (sessionKey : String)
  | pair (user : User) (access refresh : String) (created : Option Bool)
  | envelope (e : Envelope)
  deriving Repr

structure AuthResponse where
  status : Nat
  body : AuthBody
  deriving Repr

namespace AuthSite

def getTotp (s : AuthSite) (pk : UserId) : Option UserTOTP :=
  s.userTotps.find? (·.user == pk)

/-- The user has a second factor that is switched on. -/
def Enabled (s : AuthSite) (pk : UserId) : Prop :=
  ∃ row ∈ s.userTotps, row.user = pk ∧ row.isEnabled = true

instance (s : AuthSite) (pk : UserId) : Decidable (s.Enabled pk) :=
  inferInstanceAs (Decidable (∃ row ∈ s.userTotps, row.user = pk ∧ row.isEnabled = true))

theorem getTotp_some {s : AuthSite} {pk : UserId} {row : UserTOTP} :
    s.getTotp pk = some row ↔ row ∈ s.userTotps ∧ row.user = pk := by
  constructor
  · intro h
    obtain ⟨hmem, huser⟩ := Table.find?_some h
    exact ⟨hmem, eq_of_beq huser⟩
  · rintro ⟨hmem, rfl⟩
    exact Table.find?_eq_of_mem Table.sameKey_symm hmem (by simp) fun x hx =>
      Table.sameKey_iff.mpr (eq_of_beq hx)

theorem enabled_iff {s : AuthSite} {pk : UserId} :
    s.Enabled pk ↔ (s.getTotp pk).any (·.isEnabled) = true := by
  rw [Option.any_eq_true]
  simp only [Enabled, getTotp_some, and_assoc]

/-! ## Writes of the TOTP table -/

/-- `update_or_create(user=..., defaults=...)` and its foreign key. -/
def putTotp (s : AuthSite) (row : UserTOTP) : Option AuthSite :=
  if h : ∃ u ∈ s.users, u.pk = row.user then
    some { s with
      userTotps := s.userTotps.put row
      totp_fk := fun r hr => by
        rcases Table.mem_put.mp hr with rfl | ⟨hr, -⟩
        · exact h
        · exact s.totp_fk r hr }
  else none

def setEnabled : Table.Rewrite (sameKey UserTOTP.user) :=
  ⟨fun row => { row with isEnabled := true }, fun _ _ => rfl, fun _ _ => rfl⟩

def dropBackupCode (code : String) : Table.Rewrite (sameKey UserTOTP.user) :=
  ⟨fun row => { row with backupCodes := row.backupCodes.filter (· ≠ code) },
    fun _ _ => rfl, fun _ _ => rfl⟩

/-- Save the user's row, rewritten in columns other than the user. -/
def saveTotp (s : AuthSite) (pk : UserId) (f : Table.Rewrite (sameKey UserTOTP.user)) : AuthSite :=
  { s with
    userTotps := s.userTotps.modify (·.user == pk) f
    totp_fk := fun row hrow => by
      obtain ⟨y, hy, rfl⟩ := Table.mem_modify.mp hrow
      obtain ⟨u, hu, hpk⟩ := s.totp_fk y hy
      refine ⟨u, hu, hpk.trans ?_⟩
      split
      · have hkey : sameKey UserTOTP.user (f.apply y) y = true := by
          rw [f.left]
          exact Table.sameKey_iff.mpr rfl
        exact (Table.sameKey_iff.mp hkey).symm
      · rfl }

def deleteTotp (s : AuthSite) (pk : UserId) : AuthSite :=
  { s with
    userTotps := s.userTotps.delete (·.user == pk)
    totp_fk := fun row hrow => s.totp_fk row (Table.mem_delete.mp hrow).1 }

/-- `totp_obj.use_backup_code(code)`. -/
def useBackupCode (text : Text) (s : AuthSite) (row : UserTOTP) (code : String) :
    Bool × AuthSite :=
  let code := text.upper (strip code)
  if code ∈ row.backupCodes then (true, s.saveTotp row.user (dropBackupCode code)) else (false, s)

/-- The users table after a login that may have added a row. -/
def withUsers (s : AuthSite) (users : Table User User.clash)
    (h : ∀ u ∈ s.users, u ∈ users) : AuthSite :=
  { s with
    users
    totp_fk := fun row hrow =>
      let ⟨u, hu, hpk⟩ := s.totp_fk row hrow
      ⟨u, h u hu, hpk⟩ }

end AuthSite

namespace AuthViews

open AuthSite

/-- Five minutes. -/
def cacheTtl : Time := seconds 300

def badRequest (text : String) : AuthResponse := ⟨400, .detail text⟩

def serverError : AuthResponse :=
  ⟨500, .envelope ⟨"server_error", "An unexpected error occurred.", []⟩⟩

def unauthorized (e : Envelope) : AuthResponse := ⟨401, .envelope e⟩

/-- `request.data.get(key, "").strip()`. -/
def textField (data : Json) (key : String) : Except Exc String := do
  return strip (← (← data.get key (.str "")).asStr)

/-- The code is one of the authenticator's or an unused backup code, which
is then used up. -/
def checkCode (cfg : AuthConfig) (now : Time) (s : AuthSite) (row : UserTOTP) (code : String) :
    Bool × AuthSite :=
  if cfg.verify row.secret code now then (true, s) else useBackupCode cfg.text s row code

/-! ## Password and social login -/

def tokenView (cfg : AuthConfig) (s : AuthSite) (req : AuthRequest) : AuthResponse × AuthSite :=
  match cfg.validate s.toSite req.data with
  | .error (status, e) => (⟨status, .envelope e⟩, s)
  | .ok user =>
      match cfg.forUser user with
      | .error e => (unauthorized e, s)
      | .ok (access, refresh) =>
          let response : AuthResponse := ⟨200, .pair user access refresh none⟩
          -- the serializer is validated a second time, to learn the user; an
          -- exception there returns the response of the first time
          if req.interrupted then (response, s)
          else if (s.getTotp user.pk).any (·.isEnabled) then
            (⟨200, .twoFaRequired req.fresh.sessionKey⟩,
              { s with
                sessions := s.sessions.set req.fresh.sessionKey user.pk (req.now + cacheTtl) })
          else (response, s)

theorem mem_authenticate {cfg : AuthConfig} {s : AuthSite} {req : AuthRequest}
    {provider accessToken : String} :
    ∀ u ∈ s.users, u ∈ (SocialAuthService.authenticate cfg.text req.http req.fresh.newUser s.users
      provider accessToken).2 := by
  intro u hu
  unfold SocialAuthService.authenticate
  split
  · exact hu
  · rename_i info _
    generalize hcall : SocialAuthService.getOrCreateUser cfg.text req.fresh.newUser s.users info
      = result
    obtain ⟨res, users⟩ := result
    cases res with
    | error e =>
        rw [SocialAuthService.getOrCreateUser_error hcall]
        exact hu
    | ok user =>
        rcases SocialAuthService.getOrCreateUser_ok hcall with ⟨rfl, -⟩ | hinsert
        · exact hu
        · exact (Table.mem_insert? hinsert).mpr (Or.inl hu)

def socialView (cfg : AuthConfig) (s : AuthSite) (req : AuthRequest) : AuthResponse × AuthSite :=
  let fields : Except Exc (String × String) := do
    return (← textField req.data "provider", ← textField req.data "access_token")
  match fields with
  | .error _ => (serverError, s)
  | .ok (provider, accessToken) =>
      if provider = "" then (⟨400, .field "provider is required." "provider"⟩, s)
      else if accessToken = "" then
        (⟨400, .field "access_token is required." "access_token"⟩, s)
      else
        let login := SocialAuthService.authenticate cfg.text req.http req.fresh.newUser s.users
          provider accessToken
        let s := s.withUsers login.2 mem_authenticate
        match login.1 with
        | .error (.validationServiceError message) => (⟨401, .detail message⟩, s)
        | .error (.conflictServiceError message) => (⟨409, .detail message⟩, s)
        | .error _ => (serverError, s)
        | .ok user =>
            match cfg.forUser user with
            | .error e => (unauthorized e, s)
            -- nothing sets `_pre_existing`, so `created` is always false
            | .ok (access, refresh) => (⟨200, .pair user access refresh (some false)⟩, s)

/-! ## Two-factor views -/

def setupView (cfg : AuthConfig) (s : AuthSite) (req : AuthRequest) (user : User) :
    AuthResponse × AuthSite :=
  let totp := s.getTotp user.pk
  if totp.any (·.isEnabled) then (badRequest "2FA is already enabled.", s)
  else
    let secret := req.fresh.secret
    let backupCodes := (totp.map (·.backupCodes)).getD req.fresh.backupCodes
    match s.putTotp ⟨user.pk, secret, false, backupCodes⟩ with
    | none => (serverError, s)
    | some s =>
        let uri := cfg.provisioningUri user.email secret
        (⟨200, .setup secret uri (cfg.qrSvg uri)⟩, s)

def enableView (cfg : AuthConfig) (s : AuthSite) (req : AuthRequest) (user : User) :
    AuthResponse × AuthSite :=
  match textField req.data "code" with
  | .error _ => (serverError, s)
  | .ok code =>
      if code = "" then (badRequest "code is required.", s)
      else match s.getTotp user.pk with
        | none =>
            (badRequest "2FA setup not initiated. Call GET /auth/2fa/setup/ first.", s)
        | some totp =>
            if totp.isEnabled then (badRequest "2FA is already enabled.", s)
            else if !cfg.verify totp.secret code req.now then (badRequest "Invalid TOTP code.", s)
            else (⟨200, .enabled "2FA enabled successfully." totp.backupCodes⟩,
              s.saveTotp user.pk setEnabled)

def disableView (cfg : AuthConfig) (s : AuthSite) (req : AuthRequest) (user : User) :
    AuthResponse × AuthSite :=
  match textField req.data "code" with
  | .error _ => (serverError, s)
  | .ok code =>
      if code = "" then (badRequest "code is required.", s)
      else match s.getTotp user.pk with
        | none => (badRequest "2FA is not enabled for this account.", s)
        | some totp =>
            if !totp.isEnabled then (badRequest "2FA is not enabled for this account.", s)
            else match checkCode cfg req.now s totp code with
              | (false, s) => (badRequest "Invalid code.", s)
              | (true, s) =>
                  (⟨200, .detail "2FA disabled successfully."⟩, s.deleteTotp user.pk)

def completeView (cfg : AuthConfig) (s : AuthSite) (req : AuthRequest) :
    AuthResponse × AuthSite :=
  let fields : Except Exc (String × String) := do
    return (← textField req.data "session_key", ← textField req.data "code")
  match fields with
  | .error _ => (serverError, s)
  | .ok (sessionKey, code) =>
      if sessionKey = "" ∨ code = "" then (badRequest "session_key and code are required.", s)
      else match s.sessions.get req.now sessionKey with
        | none => (badRequest "Invalid or expired session. Please log in again.", s)
        | some 0 => (badRequest "Invalid or expired session. Please log in again.", s)
        | some pk =>
            match s.getUser pk with
            | none => (badRequest "User not found.", s)
            | some user =>
                match s.getTotp user.pk with
                | none => (badRequest "2FA is not enabled for this account.",
                    { s with sessions := s.sessions.delete sessionKey })
                | some totp =>
                    if !totp.isEnabled then (badRequest "2FA is not enabled for this account.",
                      { s with sessions := s.sessions.delete sessionKey })
                    else match checkCode cfg req.now s totp code with
                      | (false, s) => (badRequest "Invalid TOTP code.", s)
                      | (true, s) =>
                          let s := { s with sessions := s.sessions.delete sessionKey }
                          match cfg.forUser user with
                          | .error e => (unauthorized e, s)
                          | .ok (access, refresh) => (⟨200, .pair user access refresh none⟩, s)

/-! ## Dispatch -/

/-- A view that requires a user. -/
def asUser (s : AuthSite) (req : AuthRequest)
    (view : AuthSite → AuthRequest → User → AuthResponse × AuthSite) : AuthResponse × AuthSite :=
  match Permissions.authenticate s.toSite req.bearer with
  | .error e => (unauthorized e, s)
  | .ok none => (unauthorized ⟨"not_authenticated",
      "Authentication credentials were not provided.", []⟩, s)
  | .ok (some user) => view s req user

/-- A view that anyone may call; a token is still looked at. -/
def asAnyone (s : AuthSite) (req : AuthRequest)
    (view : AuthSite → AuthRequest → AuthResponse × AuthSite) : AuthResponse × AuthSite :=
  match Permissions.authenticate s.toSite req.bearer with
  | .error e => (unauthorized e, s)
  | .ok _ => view s req

def serve (cfg : AuthConfig) (s : AuthSite) (req : AuthRequest) : AuthSite × AuthResponse :=
  let result := match req.endpoint with
    | .token => tokenView cfg s req
    | .social => asAnyone s req (socialView cfg)
    | .setup => asUser s req (setupView cfg)
    | .enable => asUser s req (enableView cfg)
    | .disable => asUser s req (disableView cfg)
    | .complete => asAnyone s req (completeView cfg)
  (result.2, result.1)

/-! ## Responses with a token pair -/

section

variable {cfg : AuthConfig} {s : AuthSite} {req : AuthRequest} {user u : User}
  {access refresh : String} {created : Option Bool}

/-- A live session of the user and a code that is good for the user's
second factor. -/
structure Completes (cfg : AuthConfig) (s : AuthSite) (req : AuthRequest) (user : User)
    (sessionKey : String) (expires : Time) : Prop where
  endpoint : req.endpoint = .complete
  key : textField req.data "session_key" = .ok sessionKey
  session : s.sessions.entries sessionKey = some (user.pk, expires)
  live : req.now < expires
  code : ∃ code row, textField req.data "code" = .ok code ∧ s.getTotp user.pk = some row
    ∧ row.isEnabled = true
    ∧ (cfg.verify row.secret code req.now = true ∨ cfg.text.upper (strip code) ∈ row.backupCodes)

/-- How a response can come to carry a token pair for `user`. -/
inductive Issues (cfg : AuthConfig) (s : AuthSite) (req : AuthRequest) (user : User) : Prop
  | password :
      req.endpoint = .token → cfg.validate s.toSite req.data = .ok user →
      req.interrupted = true ∨ ¬ s.Enabled user.pk → Issues cfg s req user
  | social (provider accessToken : String) :
      req.endpoint = .social → textField req.data "provider" = .ok provider →
      textField req.data "access_token" = .ok accessToken →
      (SocialAuthService.authenticate cfg.text req.http req.fresh.newUser s.users provider
        accessToken).1 = .ok user → Issues cfg s req user
  | secondFactor (sessionKey : String) (expires : Time) :
      Completes cfg s req user sessionKey expires → Issues cfg s req user

theorem tokenView_pair (hendpoint : req.endpoint = .token)
    (h : (tokenView cfg s req).1.body = .pair user access refresh created) :
    Issues cfg s req user := by
  unfold tokenView at h
  split at h
  · cases h
  · rename_i v hvalid
    split at h
    · cases h
    · simp only at h
      split at h
      · rename_i hinterrupted
        cases h
        exact .password hendpoint hvalid (Or.inl hinterrupted)
      · split at h
        · cases h
        · rename_i hany
          cases h
          exact .password hendpoint hvalid
            (Or.inr fun henabled => hany (enabled_iff.mp henabled))

theorem socialView_pair (hendpoint : req.endpoint = .social)
    (h : (socialView cfg s req).1.body = .pair user access refresh created) :
    Issues cfg s req user := by
  unfold socialView at h
  simp only at h
  split at h
  · cases h
  · rename_i provider accessToken hfields
    obtain ⟨p, hprovider, hfields⟩ := except_bind_ok.mp hfields
    obtain ⟨t, htoken, hfields⟩ := except_bind_ok.mp hfields
    cases hfields
    split at h
    · cases h
    · split at h
      · cases h
      · split at h
        · cases h
        · cases h
        · cases h
        · rename_i v hlogin
          split at h
          · cases h
          · cases h
            exact .social _ _ hendpoint hprovider htoken hlogin

theorem setupView_pair :
    (setupView cfg s req u).1.body ≠ .pair user access refresh created := by
  unfold setupView
  simp only
  split
  · exact nofun
  · split <;> exact nofun

theorem enableView_pair :
    (enableView cfg s req u).1.body ≠ .pair user access refresh created := by
  unfold enableView
  split
  · exact nofun
  · split
    · exact nofun
    · split
      · exact nofun
      · split
        · exact nofun
        · split <;> exact nofun

theorem disableView_pair :
    (disableView cfg s req u).1.body ≠ .pair user access refresh created := by
  unfold disableView
  split
  · exact nofun
  · split
    · exact nofun
    · split
      · exact nofun
      · split
        · exact nofun
        · split <;> exact nofun

theorem checkCode_true {now : Time} {row : UserTOTP} {code : String} {s' : AuthSite}
    (h : checkCode cfg now s row code = (true, s')) :
    cfg.verify row.secret code now = true ∨ cfg.text.upper (strip code) ∈ row.backupCodes := by
  unfold checkCode at h
  split at h
  · rename_i hverify
    exact Or.inl hverify
  · unfold useBackupCode at h
    simp only at h
    split at h
    · rename_i hmem
      exact Or.inr hmem
    · cases h

theorem completeView_pair (hendpoint : req.endpoint = .complete)
    (h : (completeView cfg s req).1.body = .pair user access refresh created) :
    Issues cfg s req user := by
  unfold completeView at h
  simp only at h
  split at h
  · cases h
  · rename_i sessionKey code hfields
    obtain ⟨k, hkey, hfields⟩ := except_bind_ok.mp hfields
    obtain ⟨c, hcode, hfields⟩ := except_bind_ok.mp hfields
    cases hfields
    split at h
    · cases h
    · split at h
      · cases h
      · cases h
      · rename_i pk _ hsession
        split at h
        · cases h
        · rename_i v hv
          split at h
          · cases h
          · rename_i totp htotp
            split at h
            · cases h
            · rename_i hon
              split at h
              · cases h
              · rename_i s' hcheck
                split at h
                · cases h
                · cases h
                  obtain ⟨-, rfl⟩ := Site.getUser_some hv
                  obtain ⟨expires, hentry, hlive⟩ := TtlCache.get_some.mp hsession
                  exact .secondFactor sessionKey expires ⟨hendpoint, hkey, hentry, hlive,
                    code, totp, hcode, htotp, by simpa using hon, checkCode_true hcheck⟩

/-- The three ways to a token pair. -/
theorem serve_pair (h : (serve cfg s req).2.body = .pair user access refresh created) :
    Issues cfg s req user := by
  unfold serve at h
  simp only at h
  cases hendpoint : req.endpoint with
  | token =>
      rw [hendpoint] at h
      exact tokenView_pair hendpoint h
  | social =>
      rw [hendpoint] at h
      simp only [asAnyone] at h
      split at h
      · cases h
      · exact socialView_pair hendpoint h
  | setup =>
      rw [hendpoint] at h
      simp only [asUser] at h
      split at h
      · cases h
      · cases h
      · exact absurd h setupView_pair
  | enable =>
      rw [hendpoint] at h
      simp only [asUser] at h
      split at h
      · cases h
      · cases h
      · exact absurd h enableView_pair
  | disable =>
      rw [hendpoint] at h
      simp only [asUser] at h
      split at h
      · cases h
      · cases h
      · exact absurd h disableView_pair
  | complete =>
      rw [hendpoint] at h
      simp only [asAnyone] at h
      split at h
      · cases h
      · exact completeView_pair hendpoint h

/-! ## Sessions -/

/-- A password login of a user with a second factor, which hands out a
session instead of a token pair. -/
structure Opens (cfg : AuthConfig) (s : AuthSite) (req : AuthRequest) (sessionKey : String)
    (pk : UserId) (expires : Time) : Prop where
  endpoint : req.endpoint = .token
  key : sessionKey = req.fresh.sessionKey
  credentials : ∃ user, cfg.validate s.toSite req.data = .ok user ∧ user.pk = pk
  enabled : s.Enabled pk
  expires : expires = req.now + cacheTtl

theorem checkCode_sessions (cfg : AuthConfig) (now : Time) (s : AuthSite) (row : UserTOTP)
    (code : String) : (checkCode cfg now s row code).2.sessions = s.sessions := by
  unfold checkCode useBackupCode
  simp only
  split
  · rfl
  · split <;> rfl

theorem putTotp_sessions {s s' : AuthSite} {row : UserTOTP} (h : s.putTotp row = some s') :
    s'.sessions = s.sessions := by
  unfold putTotp at h
  split at h
  · obtain rfl := Option.some.inj h; rfl
  · cases h

theorem setupView_sessions : (setupView cfg s req u).2.sessions = s.sessions := by
  unfold setupView
  simp only
  split
  · rfl
  · split
    · rfl
    · rename_i hput
      exact putTotp_sessions hput

theorem enableView_sessions : (enableView cfg s req u).2.sessions = s.sessions := by
  unfold enableView
  split
  · rfl
  · split
    · rfl
    · split
      · rfl
      · split
        · rfl
        · split <;> rfl

theorem disableView_sessions : (disableView cfg s req u).2.sessions = s.sessions := by
  unfold disableView
  split
  · rfl
  · rename_i code _
    split
    · rfl
    · split
      · rfl
      · rename_i totp _
        have hsame := checkCode_sessions cfg req.now s totp code
        split
        · rfl
        · split
          · rename_i hcheck
            rw [hcheck] at hsame
            exact hsame
          · rename_i hcheck
            rw [hcheck] at hsame
            exact hsame

theorem socialView_sessions : (socialView cfg s req).2.sessions = s.sessions := by
  unfold socialView
  simp only
  split
  · rfl
  · split
    · rfl
    · split
      · rfl
      · split
        · rfl
        · rfl
        · rfl
        · split <;> rfl

theorem completeView_sessions {sessionKey : String} {pk : UserId} {expires : Time}
    (h : (completeView cfg s req).2.sessions.entries sessionKey = some (pk, expires)) :
    s.sessions.entries sessionKey = some (pk, expires) := by
  have hdelete : ∀ (c : TtlCache String Time UserId) (k : String),
      (c.delete k).entries sessionKey = some (pk, expires) →
        c.entries sessionKey = some (pk, expires) := by
    intro c k h
    unfold TtlCache.delete at h
    simp only at h
    split at h
    · cases h
    · exact h
  unfold completeView at h
  simp only at h
  split at h
  · exact h
  · rename_i key code _
    split at h
    · exact h
    · split at h
      · exact h
      · exact h
      · split at h
        · exact h
        · split at h
          · exact hdelete _ _ h
          · rename_i totp _
            have hsame := checkCode_sessions cfg req.now s totp code
            split at h
            · exact hdelete _ _ h
            · split at h
              · rename_i hcheck
                rw [hcheck] at hsame
                exact hsame ▸ h
              · rename_i hcheck
                rw [hcheck] at hsame
                split at h
                · exact hsame ▸ hdelete _ _ h
                · exact hsame ▸ hdelete _ _ h

theorem tokenView_sessions {sessionKey : String} {pk : UserId} {expires : Time}
    (hendpoint : req.endpoint = .token)
    (h : (tokenView cfg s req).2.sessions.entries sessionKey = some (pk, expires)) :
    s.sessions.entries sessionKey = some (pk, expires)
      ∨ Opens cfg s req sessionKey pk expires := by
  unfold tokenView at h
  split at h
  · exact Or.inl h
  · rename_i user hvalid
    split at h
    · exact Or.inl h
    · simp only at h
      split at h
      · exact Or.inl h
      · split at h
        · rename_i hany
          by_cases hkey : sessionKey = req.fresh.sessionKey
          · simp only [TtlCache.set, hkey, if_true] at h
            obtain ⟨rfl, rfl⟩ := Prod.mk.inj (Option.some.inj h)
            exact Or.inr ⟨hendpoint, hkey, ⟨user, hvalid, rfl⟩, enabled_iff.mpr hany, rfl⟩
          · simp only [TtlCache.set, hkey, if_false] at h
            exact Or.inl h
        · exact Or.inl h

/-- Sessions come from password logins only. -/
theorem serve_sessions {sessionKey : String} {pk : UserId} {expires : Time}
    (h : (serve cfg s req).1.sessions.entries sessionKey = some (pk, expires)) :
    s.sessions.entries sessionKey = some (pk, expires)
      ∨ Opens cfg s req sessionKey pk expires := by
  have hasUser : ∀ {view : AuthSite → AuthRequest → User → AuthResponse × AuthSite},
      (∀ u, (view s req u).2.sessions = s.sessions) →
        (asUser s req view).2.sessions = s.sessions := by
    intro view hview
    unfold asUser
    split
    · rfl
    · rfl
    · exact hview _
  unfold serve at h
  simp only at h
  cases hendpoint : req.endpoint with
  | token =>
      rw [hendpoint] at h
      exact tokenView_sessions hendpoint h
  | social =>
      rw [hendpoint] at h
      simp only [asAnyone] at h
      split at h
      · exact Or.inl h
      · exact Or.inl (socialView_sessions ▸ h)
  | setup =>
      rw [hendpoint] at h
      exact Or.inl (hasUser (fun _ => setupView_sessions) ▸ h)
  | enable =>
      rw [hendpoint] at h
      exact Or.inl (hasUser (fun _ => enableView_sessions) ▸ h)
  | disable =>
      rw [hendpoint] at h
      exact Or.inl (hasUser (fun _ => disableView_sessions) ▸ h)
  | complete =>
      rw [hendpoint] at h
      simp only [asAnyone] at h
      split at h
      · exact Or.inl h
      · exact Or.inl (completeView_sessions h)

end

end AuthViews

end SaasKit
