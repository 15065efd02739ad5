import SaasKit.AuthViews
import SaasKit.DemoSeed
import SaasKit.Lib.Run

/-!
# The second factor over runs

Which responses may carry a fresh token pair for a user whose second factor
is switched on. `Completes` is what the completion view checks: a live
session of the user and a valid code. Two other paths reach a token pair:
social login never looks at the second factor, and a password login does
not get to look at it when the second validation raises. `Checked` rules
both out, and then every such response is a completion, for a session that
a password login of the same user has opened (`second_factor`).
-/

namespace SaasKit

namespace SecondFactor

open AuthSite AuthViews

variable {cfg : AuthConfig} {s s₀ t : AuthSite} {req : AuthRequest} {user : User}
  {ls : List (AuthRequest × AuthResponse)}

/-- A request that does not go past the check: no password login of a user
with a second factor is interrupted between its two validations, and no
social login is one of such a user. -/
def Checked (cfg : AuthConfig) (s : AuthSite) (req : AuthRequest) : Prop :=
  match req.endpoint with
  | .token => ∀ user, cfg.validate s.toSite req.data = .ok user → s.Enabled user.pk →
      req.interrupted = false
  | .social => ∀ provider accessToken info user,
      textField req.data "provider" = .ok provider →
      textField req.data "access_token" = .ok accessToken →
      SocialAuthService.fetch cfg.text req.http provider accessToken = .ok info →
      firstByPk (s.users.filter (·.email == info.email)) = some user → ¬ s.Enabled user.pk
  | _ => True

/-- A social login of a user with a second factor is one of a row that has
the provider's email: a new row has no second factor yet. -/
theorem social_existing {provider accessToken : String} (henabled : s.Enabled user.pk)
    (h : (SocialAuthService.authenticate cfg.text req.http req.fresh.newUser s.users provider
      accessToken).1 = .ok user) :
    ∃ info, SocialAuthService.fetch cfg.text req.http provider accessToken = .ok info
      ∧ firstByPk (s.users.filter (·.email == info.email)) = some user := by
  unfold SocialAuthService.authenticate at h
  split at h
  · cases h
  · rename_i info hinfo
    refine ⟨info, hinfo, ?_⟩
    have hcall : SocialAuthService.getOrCreateUser cfg.text req.fresh.newUser s.users info
        = (.ok user, (SocialAuthService.getOrCreateUser cfg.text req.fresh.newUser s.users
            info).2) := Prod.ext h rfl
    rcases SocialAuthService.getOrCreateUser_ok hcall with ⟨-, hfirst⟩ | hinsert
    · exact hfirst
    · obtain ⟨row, hrow, hpk, -⟩ := henabled
      obtain ⟨u, hu, hupk⟩ := s.totp_fk row hrow
      have hclash := Table.not_clash_of_insert? hinsert hu
      simp [User.clash, hupk.trans hpk] at hclash

/-- A checked request that gets a token pair for a user with a second
factor has completed it. -/
theorem completes_of_issues (hissues : Issues cfg s req user) (hchecked : Checked cfg s req)
    (henabled : s.Enabled user.pk) :
    ∃ sessionKey expires, Completes cfg s req user sessionKey expires := by
  cases hissues with
  | password hendpoint hvalid hskipped =>
      simp only [Checked, hendpoint] at hchecked
      rcases hskipped with hinterrupted | hoff
      · rw [hchecked user hvalid henabled] at hinterrupted
        cases hinterrupted
      · exact absurd henabled hoff
  | social provider accessToken hendpoint hprovider htoken hlogin =>
      simp only [Checked, hendpoint] at hchecked
      obtain ⟨info, hinfo, hfirst⟩ := social_existing henabled hlogin
      exact absurd henabled (hchecked _ _ _ _ hprovider htoken hinfo hfirst)
  | secondFactor sessionKey expires hcompletes => exact ⟨sessionKey, expires, hcompletes⟩

/-! ## Runs -/

abbrev Step (cfg : AuthConfig) : AuthSite → AuthRequest × AuthResponse → AuthSite → Prop :=
  Lts.ofFn (serve cfg)

/-- Some login in this run has opened the session. -/
def OpenedIn (cfg : AuthConfig) (s₀ : AuthSite) (ls : List (AuthRequest × AuthResponse))
    (sessionKey : String) (pk : UserId) (expires : Time) : Prop :=
  ∃ pre req resp post t, ls = pre ++ (req, resp) :: post ∧ Lts.Run (Step cfg) s₀ pre t
    ∧ Opens cfg t req sessionKey pk expires

/-- A session that is there after a run was there before it or has been
opened in it. -/
theorem sessions_run (h : Lts.Run (Step cfg) s₀ ls s) {sessionKey : String} {pk : UserId}
    {expires : Time} (hsession : s.sessions.entries sessionKey = some (pk, expires)) :
    s₀.sessions.entries sessionKey = some (pk, expires)
      ∨ OpenedIn cfg s₀ ls sessionKey pk expires := by
  induction h with
  | nil s => exact Or.inl hsession
  | @cons s t u l ls hstep hrun ih =>
      rcases ih hsession with hmid | ⟨pre, req, resp, post, v, rfl, hpre, hopens⟩
      · have hserve : (serve cfg s l.1).1 = t := congrArg Prod.fst hstep
        rcases serve_sessions (hserve ▸ hmid) with hbefore | hopens
        · exact Or.inl hbefore
        · exact Or.inr ⟨[], l.1, l.2, ls, s, rfl, .nil s, hopens⟩
      · exact Or.inr ⟨l :: pre, req, resp, post, v, rfl, .cons hstep hpre, hopens⟩

abbrev CheckedStep (cfg : AuthConfig) : AuthSite → AuthRequest × AuthResponse → AuthSite → Prop :=
  Lts.Guarded (Step cfg) fun s l => Checked cfg s l.1

/-- At any point of a run of checked requests, a response with a token pair
for a user whose second factor is on answers a completion, with a live
session and a valid code of that user; the session was there before the
run, or a password login of the user has opened it. -/
theorem second_factor {u : AuthSite} {resp : AuthResponse} {access refresh : String}
    {created : Option Bool} (hrun : Lts.Run (CheckedStep cfg) s₀ ls t)
    (hstep : CheckedStep cfg t (req, resp) u)
    (hpair : resp.body = .pair user access refresh created) (henabled : t.Enabled user.pk) :
    ∃ sessionKey expires, Completes cfg t req user sessionKey expires
      ∧ (s₀.sessions.entries sessionKey = some (user.pk, expires)
        ∨ OpenedIn cfg s₀ ls sessionKey user.pk expires) := by
  obtain ⟨hstep, hchecked⟩ := hstep
  have hserve : (serve cfg t req).2.body = .pair user access refresh created := by
    rw [congrArg Prod.snd hstep]
    exact hpair
  obtain ⟨sessionKey, expires, hcompletes⟩ :=
    completes_of_issues (serve_pair hserve) hchecked henabled
  have hrun : Lts.Run (Step cfg) s₀ ls t := hrun.mono fun _ _ _ h => h.1
  exact ⟨sessionKey, expires, hcompletes, sessions_run hrun hcompletes.session⟩

/-! ## One user with a second factor -/

/-- The demo data, with a second factor of the admin switched on. -/
def secured : AuthSite :=
  { DemoSeed.site with
    userTotps := ⟨[⟨DemoSeed.admin.pk, "JBSWY3DPEHPK3PXP", true, ["0A1B2C3D4E"]⟩],
      List.pairwise_singleton ..⟩
    sessions := .empty
    totp_fk := by decide }

/-- The libraries on the inputs below: the admin's password is the demo
password, and the code of the moment is 123456. -/
def config : AuthConfig where
  text := {
    lower s := String.ofList (s.toList.map Char.toLower)
    upper s := String.ofList (s.toList.map Char.toUpper)
    isWord c := c.isAlphanum || c == '_'
    str _ := ""
    repr s := "'" ++ s ++ "'" }
  validate s data :=
    match data.get "username" (.str ""), data.get "password" (.str "") with
    | .ok (.str username), .ok (.str "password123") =>
        match s.users.find? (·.username == username) with
        | some user => .ok user
        | none => .error (401, ⟨"no_active_account", "No active account found.", []⟩)
    | _, _ => .error (401, ⟨"no_active_account", "No active account found.", []⟩)
  forUser user := .ok ("access-" ++ user.username, "refresh-" ++ user.username)
  verify _ code _ := code == "123456"
  provisioningUri email secret := "otpauth://totp/" ++ email ++ "?secret=" ++ secret
  qrSvg uri := uri

/-- A request at time `now`; Google knows the token `ya29` as the admin's. -/
def request (now : Time) (endpoint : AuthEndpoint) (fields : List (String × Json)) :
    AuthRequest where
  endpoint
  data := .obj fields
  bearer := none
  now
  fresh := ⟨"session-1", "KRSXG5CTMVRXEZLU", [], ⟨2, "!unusable"⟩⟩
  http _ accessToken :=
    if accessToken = "ya29" then
      .ok (.obj [("email", .str DemoSeed.admin.email), ("email_verified", .bool true)])
    else .error ()
  interrupted := false

def login : AuthRequest :=
  request 0 .token [("username", .str DemoSeed.admin.username), ("password", .str "password123")]

def completion : AuthRequest :=
  request 1 .complete [("session_key", .str "session-1"), ("code", .str "123456")]

def socialLogin : AuthRequest :=
  request 0 .social [("provider", .str "google"), ("access_token", .str "ya29")]

/-- A password login opens a session, and its completion gets the tokens. -/
theorem second_factor_after_login :
    ∃ sessionKey expires,
      Completes config (serve config secured login).1 completion DemoSeed.admin sessionKey expires
        ∧ (secured.sessions.entries sessionKey = some (DemoSeed.admin.pk, expires)
          ∨ OpenedIn config secured [(login, (serve config secured login).2)] sessionKey
            DemoSeed.admin.pk expires) := by
  have hlogin : Checked config secured login := fun _ _ _ => rfl
  have hstep : CheckedStep config (serve config secured login).1
      (completion, (serve config (serve config secured login).1 completion).2) _ := ⟨rfl, trivial⟩
  exact second_factor (.cons ⟨rfl, hlogin⟩ (.nil _)) hstep rfl (by decide)

/-- A social login of the admin is answered with tokens: no second factor
is asked for. -/
theorem social_skips_second_factor :
    ¬ ∀ (cfg : AuthConfig) (s₀ t u : AuthSite) (ls : List (AuthRequest × AuthResponse))
      (req : AuthRequest) (resp : AuthResponse) (user : User) (access refresh : String)
      (created : Option Bool), Lts.Run (Step cfg) s₀ ls t → Step cfg t (req, resp) u →
      resp.body = .pair user access refresh created → t.Enabled user.pk →
      ∃ sessionKey expires, Completes cfg t req user sessionKey expires := by
  intro hall
  obtain ⟨_, _, hcompletes⟩ := hall config secured secured _ [] socialLogin
    (serve config secured socialLogin).2 DemoSeed.admin _ _ _ (.nil _) rfl rfl (by decide)
  cases hcompletes.endpoint

end SecondFactor

end SaasKit
