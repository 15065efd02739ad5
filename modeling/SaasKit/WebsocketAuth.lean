import SaasKit.GdprService
import SaasKit.Lib.Run

/-!
# WebSocket authentication

`apps/notifications/middleware.py` and the consumer behind it. The same
access token is read here and by the HTTP API; both load the user it names,
and the HTTP side then looks at `is_active`. The middleware does not, so
the two agree exactly when no connection presents the token of a
deactivated user (`websocket_agrees_iff`), which is what an anonymization
leaves behind.

Channels' session middleware comes after this one and keeps a user it finds
in the scope, so the scope's user is the one set here.
-/

namespace SaasKit

/-- The libraries: the claims of a valid access token, and the key that a
claim names in a lookup. -/
structure JwtConfig where
  lower : String → String
  accessToken : String → Time → Option (List (String × Json))
  toPk : Json → Except Exc (Option UserId)

/-- A connection attempt: its headers, under lower-case names, and the
fields of its query string that are not blank, both in their order. -/
structure ConnectRequest where
  headers : List (String × String)
  query : List (String × String)
  now : Time

inductive ConnectOutcome where
  | closed (code : Nat)
  | accepted (group : String)
  | raised (e : Exc)
  deriving DecidableEq, Repr

/-- The user in the scope (`none` for an `AnonymousUser`) and what the
consumer did. -/
structure Connection where
  scopeUser : Except Exc (Option User)
  outcome : ConnectOutcome

namespace WebsocketAuth

/-- `_get_user_from_token`. Only token errors and missing users are caught. -/
def getUserFromToken (cfg : JwtConfig) (s : AccountSite) (now : Time) (rawToken : String) :
    Except Exc (Option User) :=
  match cfg.accessToken rawToken now with
  | none => .ok none
  | some token =>
      match token.lookup "user_id" with
      | none => .error .keyError
      | some userId =>
          match cfg.toPk userId with
          | .error e => .error e
          | .ok pk => .ok (pk.bind s.getUser)

/-- The token of the header, or else of the query string. -/
def rawToken (cfg : JwtConfig) (req : ConnectRequest) : Option String :=
  -- of two headers with one name, `dict` keeps the last
  let authHeader := (req.headers.reverse.lookup "authorization").getD ""
  let bearer :=
    if "bearer ".toList.isPrefixOf (cfg.lower authHeader).toList then
      strip (String.ofList (authHeader.toList.drop 7))
    else ""
  if bearer ≠ "" then some bearer else req.query.lookup "token"

/-- `JWTAuthMiddleware.__call__`: the user it puts into the scope. -/
def scopeUser (cfg : JwtConfig) (s : AccountSite) (req : ConnectRequest) :
    Except Exc (Option User) :=
  match rawToken cfg req with
  | none => .ok none
  | some token => getUserFromToken cfg s req.now token

def groupName (user : User) : String := "notifications_" ++ toString user.pk

/-- `NotificationConsumer.connect`. -/
def connect : Except Exc (Option User) → ConnectOutcome
  | .error e => .raised e
  | .ok none => .closed 4001
  | .ok (some user) => .accepted (groupName user)

/-! ## Runs -/

/-- Connections, erasures, and whatever else happens to the database. -/
inductive Op where
  | connect (req : ConnectRequest)
  | anonymize (user : User) (draw : Placeholder)
  | hardDelete (user : User)
  | other (change : AccountSite → AccountSite)

def serve (cfg : JwtConfig) (s : AccountSite) : Op → AccountSite × Option Connection
  | .connect req => (s, some ⟨scopeUser cfg s req, connect (scopeUser cfg s req)⟩)
  | .anonymize user draw => ((GDPRService.anonymize s user draw).2, none)
  | .hardDelete user => ((GDPRService.hardDelete s user).2, none)
  | .other change => (change s, none)

/-- The scope's user is one the HTTP API accepts the same token of, and a
connection is accepted for an active user only. -/
structure Agrees (s : AccountSite) (conn : Connection) : Prop where
  user : ∀ user, conn.scopeUser = .ok (some user) →
    Permissions.authenticate s.toSite (some user.pk) = .ok (some user)
  accepted : ∀ group, conn.outcome = .accepted group →
    ∃ user ∈ s.users, user.isActive = true ∧ group = groupName user

/-- The attempt presents a valid token of a user who is deactivated. -/
def Deactivated (cfg : JwtConfig) (s : AccountSite) (req : ConnectRequest) : Prop :=
  ∃ raw token userId pk user, rawToken cfg req = some raw
    ∧ cfg.accessToken raw req.now = some token ∧ token.lookup "user_id" = some userId
    ∧ cfg.toPk userId = .ok (some pk) ∧ s.getUser pk = some user ∧ user.isActive = false

section

variable {cfg : JwtConfig} {s : AccountSite} {req : ConnectRequest} {user : User}

/-- How a user gets into the scope. -/
theorem scopeUser_some : scopeUser cfg s req = .ok (some user) ↔
    ∃ raw token userId pk, rawToken cfg req = some raw
      ∧ cfg.accessToken raw req.now = some token ∧ token.lookup "user_id" = some userId
      ∧ cfg.toPk userId = .ok (some pk) ∧ s.getUser pk = some user := by
  unfold scopeUser getUserFromToken
  constructor
  · intro h
    split at h
    · cases h
    · rename_i raw hraw
      split at h
      · cases h
      · rename_i token htoken
        split at h
        · cases h
        · rename_i userId huserId
          split at h
          · cases h
          · rename_i pk hpk
            obtain ⟨pk, rfl, huser⟩ := Option.bind_eq_some_iff.mp (Except.ok.inj h)
            exact ⟨raw, token, userId, pk, hraw, htoken, huserId, hpk, huser⟩
  · rintro ⟨raw, token, userId, pk, hraw, htoken, huserId, hpk, huser⟩
    simp only [hraw, htoken, huserId, hpk, Option.bind_some, huser]

theorem authenticate_active {pk : UserId} (huser : s.getUser pk = some user)
    (hactive : user.isActive = true) :
    Permissions.authenticate s.toSite (some user.pk) = .ok (some user) := by
  have hpk : s.getUser user.pk = some user := by rw [(Site.getUser_some huser).2, huser]
  simp [Permissions.authenticate, hpk, hactive]

theorem agrees_iff :
    Agrees s ⟨scopeUser cfg s req, connect (scopeUser cfg s req)⟩ ↔ ¬ Deactivated cfg s req := by
  constructor
  · rintro ⟨huser, -⟩ ⟨raw, token, userId, pk, user, hraw, htoken, huserId, hpk, hget, hinactive⟩
    have hscope : scopeUser cfg s req = .ok (some user) :=
      scopeUser_some.mpr ⟨raw, token, userId, pk, hraw, htoken, huserId, hpk, hget⟩
    obtain ⟨-, hactive, -⟩ := Permissions.authenticate_some (huser user hscope)
    rw [hinactive] at hactive
    cases hactive
  · intro hnot
    have hactive : ∀ user, scopeUser cfg s req = .ok (some user) →
        ∃ pk, s.getUser pk = some user ∧ user.isActive = true := by
      intro user hscope
      obtain ⟨raw, token, userId, pk, hraw, htoken, huserId, hpk, hget⟩ :=
        scopeUser_some.mp hscope
      refine ⟨pk, hget, ?_⟩
      by_contra hoff
      exact hnot ⟨raw, token, userId, pk, user, hraw, htoken, huserId, hpk, hget,
        Bool.not_eq_true _ ▸ hoff⟩
    refine ⟨fun user hscope => ?_, fun group hgroup => ?_⟩
    · obtain ⟨pk, hget, hon⟩ := hactive user hscope
      exact authenticate_active hget hon
    · cases hscope : scopeUser cfg s req with
      | error e => rw [hscope] at hgroup; cases hgroup
      | ok found =>
          rw [hscope] at hgroup
          cases found with
          | none => cases hgroup
          | some user =>
              obtain ⟨pk, hget, hon⟩ := hactive user hscope
              obtain rfl := ConnectOutcome.accepted.inj hgroup
              exact ⟨user, (Site.getUser_some hget).1, hon, rfl⟩

end

/-- In any run, WebSocket and HTTP authentication agree at every connection
if and only if no connection presents a token of a deactivated user. -/
theorem websocket_agrees_iff (cfg : JwtConfig) (s₀ : AccountSite) (ops : List Op) :
    (∀ s req conn, (s, Op.connect req, some conn) ∈ Lts.steps (serve cfg) s₀ ops → Agrees s conn)
      ↔ ∀ s req conn, (s, Op.connect req, conn) ∈ Lts.steps (serve cfg) s₀ ops →
          ¬ Deactivated cfg s req := by
  constructor
  · intro hagrees s req conn hmem
    obtain rfl : conn = some ⟨scopeUser cfg s req, connect (scopeUser cfg s req)⟩ :=
      Lts.steps_output hmem
    exact agrees_iff.mp (hagrees s req _ hmem)
  · intro hactive s req conn hmem
    have hconn : some conn = some ⟨scopeUser cfg s req, connect (scopeUser cfg s req)⟩ :=
      Lts.steps_output hmem
    obtain rfl := Option.some.inj hconn
    exact agrees_iff.mpr (hactive s req _ hmem)

/-! ## A token that outlives its account -/

/-- The libraries on the demo data: one valid token, of the admin. -/
def config : JwtConfig where
  lower s := String.ofList (s.toList.map Char.toLower)
  accessToken raw now :=
    if raw = "eyJhbGci" ∧ now < 900 then some [("user_id", .str "1")] else none
  toPk
    | .str "1" => .ok (some 1)
    | _ => .error .typeError

def request : ConnectRequest where
  headers := [("host", "localhost"), ("authorization", "Bearer eyJhbGci")]
  query := []
  now := 60

def erased : AccountSite :=
  (GDPRService.anonymize DemoSeed.accounts DemoSeed.admin ⟨"5f0c1d9a7b3e", "!kq2cZVx0"⟩).2

/-- An erased account connects. -/
theorem erased_account_connects :
    ¬ ∀ (cfg : JwtConfig) (s₀ : AccountSite) (ops : List Op) (s : AccountSite)
      (req : ConnectRequest) (conn : Connection),
      (s, Op.connect req, some conn) ∈ Lts.steps (serve cfg) s₀ ops → Agrees s conn := by
  intro hall
  have hagrees := hall config DemoSeed.accounts
    [.anonymize DemoSeed.admin ⟨"5f0c1d9a7b3e", "!kq2cZVx0"⟩, .connect request] erased request _
    (List.mem_cons_of_mem _ List.mem_cons_self)
  obtain ⟨user, huser, hactive, -⟩ := hagrees.accepted "notifications_1" rfl
  have hnone : ∀ u ∈ erased.users, u.isActive = false := by decide
  rw [hnone user huser] at hactive
  cases hactive

end WebsocketAuth

end SaasKit
