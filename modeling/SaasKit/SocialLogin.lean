import SaasKit.AccountRace

/-!
# The user of a social login, and what the client is told

A login finds the user with the verified email or adds one, and from then on
every login with that email finds this user (`found_again`). The view is to say
whether the account is new. It asks the user for an attribute that nothing
sets, so it says no: `resolved_iff` comes down to the account having been there
before.
-/

namespace SaasKit

namespace SocialLogin

open AccountRace AuthViews SocialAuthService

/-- The provider of the request vouches for `info`. -/
structure Verified (cfg : AuthConfig) (req : AuthRequest) (info : SocialUserInfo) : Prop where
  fetched : ∃ provider accessToken, textField req.data "provider" = .ok provider ∧ provider ≠ ""
    ∧ textField req.data "access_token" = .ok accessToken ∧ accessToken ≠ ""
    ∧ fetch cfg.text req.http provider accessToken = .ok info

/-- The login behind the view. -/
def login (cfg : AuthConfig) (s : AuthSite) (req : AuthRequest) (info : SocialUserInfo) :
    Except Exc User × Table User User.clash :=
  getOrCreateUser cfg.text req.fresh.newUser s.users info

/-- The view answers with tokens for the user and says whether it is new. -/
def Answers (cfg : AuthConfig) (s : AuthSite) (req : AuthRequest) (user : User) (created : Bool) :
    Prop :=
  ∃ access refresh, (socialView cfg s req).1 = ⟨200, .pair user access refresh (some created)⟩

/-- A table and a login, to the table afterwards and the answer. -/
def step (text : Text) (users : Table User User.clash) (call : NewUser × SocialUserInfo) :
    Table User User.clash × Except Exc User :=
  ((getOrCreateUser text call.1 users call.2).2, (getOrCreateUser text call.1 users call.2).1)

/-- What a login with a verified email is for. -/
structure Resolved (cfg : AuthConfig) (s : AuthSite) (req : AuthRequest) (info : SocialUserInfo) :
    Prop where
  existing : ∀ u ∈ s.users, u.email = info.email →
    login cfg s req info = (.ok u, s.users) ∧ Answers cfg s req u false
  new : (∀ u ∈ s.users, u.email ≠ info.email) →
    ∃ user users, login cfg s req info = (.ok user, users) ∧ users.rows = s.users.rows ++ [user]
      ∧ user.email = info.email ∧ (∀ u ∈ s.users, u.username ≠ user.username)
      ∧ user.password = req.fresh.newUser.unusablePassword ∧ Answers cfg s req user true
  again : ∀ user, (login cfg s req info).1 = .ok user →
    ∀ (calls : List (NewUser × SocialUserInfo)) (new : NewUser) (info' : SocialUserInfo),
      info'.email = info.email →
      (getOrCreateUser cfg.text new (Lts.after (step cfg.text) (login cfg s req info).2 calls)
        info').1 = .ok user

section

variable {cfg : AuthConfig} {s : AuthSite} {req : AuthRequest} {info info' : SocialUserInfo}
  {users : Table User User.clash} {text : Text} {new : NewUser} {u user : User}

/-! ## The service -/

/-- Where emails are distinct, a look-up finds the row that has the email. -/
theorem firstByPk_email (hdistinct : EmailsDistinct users) (hu : u ∈ users)
    (hemail : u.email = info.email) :
    firstByPk (users.filter (·.email == info.email)) = some u := by
  have hmem : u ∈ users.filter (·.email == info.email) :=
    Table.mem_filter.mpr ⟨hu, beq_iff_eq.mpr hemail⟩
  cases hfirst : firstByPk (users.filter (·.email == info.email)) with
  | none =>
      rw [firstByPk_eq_none hfirst] at hmem
      cases hmem
  | some v =>
      obtain ⟨hv, hvemail⟩ := Table.mem_filter.mp (firstByPk_mem hfirst)
      by_contra hne
      have hother : v ≠ u := fun heq => hne (by rw [heq])
      have hsymm : Std.Symm fun a b : User => a.email ≠ b.email := ⟨fun _ _ h => h.symm⟩
      exact hdistinct.forall hv hu hother ((beq_iff_eq.mp hvemail).trans hemail.symm)

theorem login_existing (hdistinct : EmailsDistinct users) (hu : u ∈ users)
    (hemail : u.email = info.email) :
    getOrCreateUser text new users info = (.ok u, users) := by
  unfold getOrCreateUser
  rw [firstByPk_email hdistinct hu hemail]

/-- A login keeps emails distinct and every row. -/
theorem login_keeps (hdistinct : EmailsDistinct users) :
    EmailsDistinct (getOrCreateUser text new users info).2
      ∧ ∀ u ∈ users, u ∈ (getOrCreateUser text new users info).2 := by
  have hresolves := getOrCreateUser_resolves text new users info
  generalize getOrCreateUser text new users info = result at hresolves
  cases hresolves with
  | found => exact ⟨hdistinct, fun u hu => hu⟩
  | raised => exact ⟨hdistinct, fun u hu => hu⟩
  | added user users' hfirst hinsert hemail =>
      refine ⟨hdistinct.insert hinsert (Or.inl fun u hu hsame => ?_),
        fun u hu => (Table.mem_insert? hinsert).mpr (Or.inl hu)⟩
      rw [firstByPk_email hdistinct hu (hsame.trans hemail)] at hfirst
      cases hfirst

/-- Once a user has the email, every later login with it returns that user,
whatever logins come between. -/
theorem found_again (hdistinct : EmailsDistinct users) (hu : u ∈ users)
    (hemail : u.email = info.email) (calls : List (NewUser × SocialUserInfo)) :
    (getOrCreateUser text new (Lts.after (step text) users calls) info).1 = .ok u := by
  have hkept : EmailsDistinct (Lts.after (step text) users calls)
      ∧ u ∈ Lts.after (step text) users calls :=
    (Lts.Run.of_inputs (step text) calls users).invariant_fn
      (I := fun users => EmailsDistinct users ∧ u ∈ users)
      (fun users call h => ⟨(login_keeps h.1).1, (login_keeps h.1).2 u h.2⟩) ⟨hdistinct, hu⟩
  rw [login_existing hkept.1 hkept.2 hemail]

/-! ## The view -/

theorem socialView_eq (hverified : Verified cfg req info) :
    (socialView cfg s req).1 = match (login cfg s req info).1 with
      | .error (.validationServiceError message) => ⟨401, .detail message⟩
      | .error (.conflictServiceError message) => ⟨409, .detail message⟩
      | .error _ => serverError
      | .ok user =>
          match cfg.forUser user with
          | .error e => unauthorized e
          | .ok (access, refresh) => ⟨200, .pair user access refresh (some false)⟩ := by
  obtain ⟨provider, accessToken, hprovider, hp, htoken, ht, hfetch⟩ := hverified.fetched
  have hlogin : authenticate cfg.text req.http req.fresh.newUser s.users provider accessToken
      = login cfg s req info := by
    unfold authenticate
    rw [hfetch]
    rfl
  unfold socialView
  simp only [hprovider, htoken, bind, Except.bind, pure, Except.pure, if_neg hp, if_neg ht, hlogin]
  cases (login cfg s req info).1 with
  | error e => cases e <;> rfl
  | ok user =>
      dsimp only
      cases cfg.forUser user with
      | error e => rfl
      | ok tokens => rfl

/-- Whoever logs in, the view does not call the account new. -/
theorem answers_iff (hverified : Verified cfg req info) {created : Bool} :
    Answers cfg s req user created ↔
      created = false ∧ (login cfg s req info).1 = .ok user
        ∧ ∃ tokens, cfg.forUser user = .ok tokens := by
  unfold Answers
  rw [socialView_eq hverified]
  cases hlogin : (login cfg s req info).1 with
  | error e =>
      refine iff_of_false (fun h => ?_) (fun h => ?_)
      · obtain ⟨access, refresh, h⟩ := h
        cases e <;> cases h
      · cases h.2.1
  | ok found =>
      dsimp only
      cases htokens : cfg.forUser found with
      | error e =>
          refine iff_of_false (fun h => ?_) (fun h => ?_)
          · obtain ⟨access, refresh, h⟩ := h
            cases h
          · obtain ⟨-, hfound, tokens, htokens'⟩ := h
            obtain rfl := Except.ok.inj hfound
            rw [htokens] at htokens'
            cases htokens'
      | ok tokens =>
          constructor
          · rintro ⟨access, refresh, h⟩
            cases h
            exact ⟨rfl, rfl, tokens, htokens⟩
          · rintro ⟨rfl, hfound, -⟩
            obtain rfl := Except.ok.inj hfound
            exact ⟨tokens.1, tokens.2, rfl⟩

/-- A login is resolved as it should be exactly if a user with the email is
there already and gets tokens. -/
theorem resolved_iff (hdistinct : EmailsDistinct s.users) (hverified : Verified cfg req info) :
    Resolved cfg s req info ↔
      ∃ u ∈ s.users, u.email = info.email ∧ ∃ tokens, cfg.forUser u = .ok tokens := by
  constructor
  · intro h
    by_cases hthere : ∃ u ∈ s.users, u.email = info.email
    · obtain ⟨u, hu, hemail⟩ := hthere
      obtain ⟨-, -, htokens⟩ := (answers_iff hverified).mp (h.existing u hu hemail).2
      exact ⟨u, hu, hemail, htokens⟩
    · obtain ⟨user, users, -, -, -, -, -, hanswers⟩ :=
        h.new fun u hu hemail => hthere ⟨u, hu, hemail⟩
      cases ((answers_iff hverified).mp hanswers).1
  · rintro ⟨u, hu, hemail, htokens⟩
    have hlogin : login cfg s req info = (.ok u, s.users) := login_existing hdistinct hu hemail
    refine ⟨fun v hv hvemail => ?_, fun hnone => absurd hemail (hnone u hu),
      fun user huser calls new info' hsame => ?_⟩
    · have hfound : login cfg s req info = (.ok v, s.users) := login_existing hdistinct hv hvemail
      obtain rfl := Except.ok.inj (congrArg Prod.fst (hlogin.symm.trans hfound))
      exact ⟨hlogin, (answers_iff hverified).mpr ⟨rfl, by rw [hlogin], htokens⟩⟩
    · rw [hlogin] at huser ⊢
      obtain rfl := Except.ok.inj huser
      exact found_again hdistinct hu (hemail.trans hsame.symm) calls

end

/-! ## An old and a new account -/

open SecondFactor

def adminInfo : SocialUserInfo :=
  ⟨"admin@tenant1.localhost", "admin_tenant1_localhost", .str "", .str "", "google", .str ""⟩

/-- The admin is not the only user. -/
def withGuest : AuthSite :=
  { secured with
    users := ⟨[DemoSeed.admin, DemoSeed.guest], DemoSeed.admin_guest_distinct⟩
    totp_fk := by decide }

theorem resolved_admin :
    Resolved config withGuest socialLogin adminInfo ↔
      ∃ u ∈ withGuest.users,
        u.email = adminInfo.email ∧ ∃ tokens, config.forUser u = .ok tokens := by
  have hdistinct : EmailsDistinct withGuest.users :=
    List.pairwise_pair.mpr (by decide)
  exact resolved_iff hdistinct ⟨"google", "ya29", rfl, by decide, rfl, by decide, rfl⟩

/-- Google vouches for somebody without an account. -/
def newcomerLogin : AuthRequest :=
  { socialLogin with
    http := fun _ _ =>
      .ok (.obj [("email", .str "new@example.com"), ("email_verified", .bool true)]) }

def newcomerInfo : SocialUserInfo :=
  ⟨"new@example.com", "new_example_com", .str "", .str "", "google", .str ""⟩

/-- An account is added, and the answer is that none was. -/
theorem first_login_not_new :
    ¬ Resolved config secured newcomerLogin newcomerInfo := by
  intro h
  have hverified : Verified config newcomerLogin newcomerInfo :=
    ⟨"google", "ya29", rfl, by decide, rfl, by decide, rfl⟩
  obtain ⟨user, users, -, -, -, -, -, hanswers⟩ := h.new (by decide)
  cases ((answers_iff hverified).mp hanswers).1

end SocialLogin

end SaasKit
