import Mathlib.Data.List.Nodup
import Mathlib.Data.List.Perm.Subperm
import SaasKit.Models

/-!
# Social login: `SocialAuthService`

A provider's answer is any JSON document: the two fetch functions read it
the way the source does, with the exception each wrong type raises. The
user is then the one with the provider's email, or a new one whose name is
the first free one of `base`, `base_1`, `base_2` and so on. There are more
candidates than users, so the search ends (`uniqueUsername_free`).
-/

namespace SaasKit

/-- The string operations that depend on Python's Unicode tables, and `str`
and `repr` of a value. -/
structure Text where
  lower : String → String
  upper : String → String
  isWord : Char → Bool
  str : Json → String
  repr : String → String

/-- The provider's names may be any JSON value. -/
structure SocialUserInfo where
  email : String
  username : String
  firstName : Json
  lastName : Json
  provider : String
  providerId : Json

/-- `requests.get(url, ...)` with the access token in its header, to the
parsed body; the error is a `RequestException`. -/
abbrev Http := String → String → Except Unit Json

/-- What the database and the hasher choose for a new row. -/
structure NewUser where
  pk : UserId
  unusablePassword : String

namespace SocialAuthService

def googleUserinfoUrl : String := "https://www.googleapis.com/oauth2/v3/userinfo"
def githubUserUrl : String := "https://api.github.com/user"
def githubEmailsUrl : String := "https://api.github.com/user/emails"

/-! ## User names -/

/-- `s.strip("_")`. -/
def stripUnderscores (s : List Char) : List Char :=
  ((s.dropWhile (· == '_')).reverse.dropWhile (· == '_')).reverse

def makeUsername (text : Text) (provider base : String) : String :=
  let clean := String.ofList ((stripUnderscores
    (base.toList.map fun c => if text.isWord c then c else '_')).take 30)
  if clean = "" then provider ++ "_user" else clean

/-- The names `_unique_username` tries, in order. -/
def candidate (base : String) : Nat → String
  | 0 => base
  | n + 1 => base ++ "_" ++ toString (n + 1)

/-- The loop of `_unique_username` from its `i`th name on. -/
def uniqueFrom (users : Table User User.clash) (base : String) : Nat → Nat → String
  | 0, i => candidate base i
  | fuel + 1, i =>
      if users.any (·.username == candidate base i) then uniqueFrom users base fuel (i + 1)
      else candidate base i

def uniqueUsername (users : Table User User.clash) (base : String) : String :=
  uniqueFrom users base users.rows.length 0

theorem candidate_injective (base : String) : Function.Injective (candidate base) := by
  have hrepr : ∀ m n : Nat, toString m = toString n → m = n := by
    intro m n h
    have hdigits := congrArg (fun s : String => Nat.ofDigitChars 10 s.toList 0) h
    simpa only [Nat.toString_eq_ofList_toDigits, String.toList_ofList,
      Nat.ofDigitChars_ten_toDigits] using hdigits
  have hne : ∀ n : Nat, base ≠ base ++ "_" ++ toString n := by
    intro n h
    have hlength := congrArg String.length h
    simp only [String.length_append] at hlength
    have : "_".length = 1 := rfl
    omega
  intro m n h
  cases m with
  | zero =>
      cases n with
      | zero => rfl
      | succ n => exact absurd h (hne _)
  | succ m =>
      cases n with
      | zero => exact absurd h.symm (hne _)
      | succ n =>
          have hlist := congrArg String.toList h
          simp only [candidate, String.toList_append, List.append_assoc] at hlist
          have hdigits := List.append_cancel_left (List.append_cancel_left hlist)
          exact hrepr _ _ (String.toList_inj.mp hdigits)

/-- The loop stops at the first free name, if its fuel reaches one. -/
theorem uniqueFrom_of_free {users : Table User User.clash} {base : String} :
    ∀ {fuel i : Nat}, (∃ k, k ≤ fuel ∧ users.any (·.username == candidate base (i + k)) = false) →
      ∃ k, uniqueFrom users base fuel i = candidate base (i + k)
        ∧ users.any (·.username == candidate base (i + k)) = false
        ∧ ∀ j, j < k → users.any (·.username == candidate base (i + j)) = true
  | 0, i, ⟨k, hk, hfree⟩ => by
      obtain rfl : k = 0 := Nat.le_zero.mp hk
      exact ⟨0, rfl, hfree, fun j hj => absurd hj (Nat.not_lt_zero j)⟩
  | fuel + 1, i, ⟨k, hk, hfree⟩ => by
      unfold uniqueFrom
      by_cases htaken : users.any (·.username == candidate base i) = true
      · rw [if_pos htaken]
        cases k with
        | zero => rw [Nat.add_zero, htaken] at hfree; cases hfree
        | succ k =>
            have hnext : users.any (·.username == candidate base (i + 1 + k)) = false := by
              rw [Nat.add_assoc, Nat.add_comm 1 k]
              exact hfree
            obtain ⟨m, heq, hm, hbelow⟩ := uniqueFrom_of_free
              ⟨k, Nat.le_of_succ_le_succ hk, hnext⟩
            refine ⟨m + 1, ?_, ?_, fun j hj => ?_⟩
            · rw [heq, Nat.add_assoc, Nat.add_comm 1 m]
            · rw [Nat.add_comm m 1, ← Nat.add_assoc]
              exact hm
            · cases j with
              | zero => exact htaken
              | succ j =>
                  rw [Nat.add_comm j 1, ← Nat.add_assoc]
                  exact hbelow j (Nat.lt_of_succ_lt_succ hj)
      · rw [if_neg htaken]
        exact ⟨0, rfl, Bool.not_eq_true _ ▸ htaken, fun j hj => absurd hj (Nat.not_lt_zero j)⟩

/-- `n + 1` candidates against `n` users: one is free. -/
theorem exists_free (users : Table User User.clash) (base : String) :
    ∃ k, k ≤ users.rows.length ∧ users.any (·.username == candidate base k) = false := by
  by_contra hnone
  have htaken : ∀ k, k ≤ users.rows.length → users.any (·.username == candidate base k) = true := by
    intro k hk
    by_contra hfree
    exact hnone ⟨k, hk, Bool.not_eq_true _ ▸ hfree⟩
  have hnodup : ((List.range (users.rows.length + 1)).map (candidate base)).Nodup :=
    List.Nodup.map (candidate_injective base) List.nodup_range
  have hsub : (List.range (users.rows.length + 1)).map (candidate base)
      ⊆ users.rows.map (·.username) := by
    intro name hname
    obtain ⟨k, hk, rfl⟩ := List.mem_map.mp hname
    obtain ⟨u, hu, hname⟩ := Table.any_iff.mp (htaken k (Nat.lt_succ_iff.mp (List.mem_range.mp hk)))
    exact List.mem_map.mpr ⟨u, hu, eq_of_beq hname⟩
  have hle := (List.subperm_of_subset hnodup hsub).length_le
  simp only [List.length_map, List.length_range] at hle
  omega

/-- The name is the first candidate that nobody has. -/
theorem uniqueUsername_free (users : Table User User.clash) (base : String) :
    ∃ k, uniqueUsername users base = candidate base k
      ∧ users.any (·.username == candidate base k) = false
      ∧ ∀ j, j < k → users.any (·.username == candidate base j) = true := by
  obtain ⟨k, hk, hfree⟩ := exists_free users base
  have hloop := @uniqueFrom_of_free users base users.rows.length 0
    ⟨k, hk, by rw [Nat.zero_add]; exact hfree⟩
  unfold uniqueUsername
  simpa only [Nat.zero_add] using hloop

/-! ## The providers -/

def fetchGoogle (text : Text) (http : Http) (accessToken : String) :
    Except Exc SocialUserInfo :=
  match http googleUserinfoUrl accessToken with
  | .error () => .error (.validationServiceError "Google token validation failed.")
  | .ok data => do
      let rawEmail ← (← data.get "email" (.str "")).asStr
      let email := text.lower (strip rawEmail)
      if email = "" then
        .error (.validationServiceError "Google did not return an email address.")
      else do
        let verified ← data.get "email_verified" .null
        if !verified.truthy then
          .error (.validationServiceError "Google email is not verified.")
        else
          return {
            email
            username := makeUsername text "google" email
            firstName := ← data.get "given_name" (.str "")
            lastName := ← data.get "family_name" (.str "")
            provider := "google"
            providerId := ← data.get "sub" (.str "") }

/-- The first entry that is primary and verified; `""` without one. -/
def primaryEmail (text : Text) : List Json → Except Exc String
  | [] => .ok ""
  | entry :: rest => do
      let primary ← entry.get "primary" .null
      let verified ← if primary.truthy then entry.get "verified" .null else .ok primary
      if verified.truthy then do
        let email ← (← entry.item "email").asStr
        return text.lower (strip email)
      else primaryEmail text rest

/-- The email of the user object, or else of the separate list. -/
def githubEmail (text : Text) (http : Http) (accessToken : String) (userData : Json) :
    Except Exc String := do
  let raw ← userData.get "email" .null
  let rawEmail ← if raw.truthy then raw.asStr else .ok ""
  let email := text.lower (strip rawEmail)
  if email = "" then
    match http githubEmailsUrl accessToken with
    | .error () => .error (.validationServiceError "GitHub token validation failed.")
    | .ok emails => do primaryEmail text (← emails.iter)
  else return email

/-- `name.split(" ", 1)`, as first and last name. -/
def splitName (name : String) : String × String :=
  let chars := name.toList
  (String.ofList (chars.takeWhile (· ≠ ' ')),
    String.ofList ((chars.dropWhile (· ≠ ' ')).drop 1))

def fetchGithub (text : Text) (http : Http) (accessToken : String) :
    Except Exc SocialUserInfo :=
  match http githubUserUrl accessToken with
  | .error () => .error (.validationServiceError "GitHub token validation failed.")
  | .ok userData => do
      let email ← githubEmail text http accessToken userData
      if email = "" then
        .error (.validationServiceError "GitHub did not return a verified primary email.")
      else do
        let login ← userData.get "login" (.str "")
        let rawName ← userData.get "name" .null
        let name ← if rawName.truthy then rawName.asStr else .ok ""
        -- the base of the name goes to `re.sub`, which takes strings only
        let base ← match login with
          | .str s => .ok (if s = "" then email else s)
          | v => if v.truthy then .error .typeError else .ok email
        let id ← userData.get "id" (.str "")
        return {
          email
          username := makeUsername text "github" base
          firstName := .str (splitName name).1
          lastName := .str (splitName name).2
          provider := "github"
          providerId := match id with
            | .str s => .str s
            | v => .str (text.str v) }

/-! ## User resolution -/

def getOrCreateUser (text : Text) (new : NewUser) (users : Table User User.clash)
    (info : SocialUserInfo) : Except Exc User × Table User User.clash :=
  match firstByPk (users.filter (·.email == info.email)) with
  | some existing => (.ok existing, users)
  | none =>
      let username := uniqueUsername users info.username
      let firstName := charField text.str info.firstName
      let lastName := charField text.str info.lastName
      if tooLong 150 (some username) || tooLong 254 (some info.email) || tooLong 150 firstName
          || tooLong 150 lastName then (.error .dataError, users)
      else
        let conflict := Exc.conflictServiceError "An account with those credentials already exists."
        match firstName, lastName with
        | some firstName, some lastName =>
            let user : User := ⟨new.pk, username, info.email, firstName, lastName,
              new.unusablePassword, true, false⟩
            match users.insert? user with
            | none => (.error conflict, users)
            | some users => (.ok user, users)
        | _, _ => (.error conflict, users)

/-- The provider's answer for a token. -/
def fetch (text : Text) (http : Http) (provider accessToken : String) :
    Except Exc SocialUserInfo :=
  let provider := text.lower provider
  if provider = "google" then fetchGoogle text http accessToken
  else if provider = "github" then fetchGithub text http accessToken
  else .error (.validationServiceError ("Unsupported provider: " ++ text.repr provider))

def authenticate (text : Text) (http : Http) (new : NewUser) (users : Table User User.clash)
    (provider accessToken : String) : Except Exc User × Table User User.clash :=
  match fetch text http provider accessToken with
  | .error e => (.error e, users)
  | .ok info => getOrCreateUser text new users info

/-- What a login does with a verified email: answer with the first row that
has it, or add a row under a name and a key that were free, or raise. -/
inductive Resolves (new : NewUser) (users : Table User User.clash) (info : SocialUserInfo) :
    Except Exc User × Table User User.clash → Prop
  | found (existing : User) :
      firstByPk (users.filter (·.email == info.email)) = some existing →
      Resolves new users info (.ok existing, users)
  | raised (e : Exc) :
      firstByPk (users.filter (·.email == info.email)) = none →
      Resolves new users info (.error e, users)
  | added (user : User) (users' : Table User User.clash) :
      firstByPk (users.filter (·.email == info.email)) = none →
      users.insert? user = some users' → user.email = info.email →
      Resolves new users info (.ok user, users')

theorem getOrCreateUser_resolves (text : Text) (new : NewUser) (users : Table User User.clash)
    (info : SocialUserInfo) : Resolves new users info (getOrCreateUser text new users info) := by
  unfold getOrCreateUser
  split
  · rename_i existing hfirst
    exact .found existing hfirst
  · rename_i hfirst
    simp only
    split
    · exact .raised _ hfirst
    · split
      · split
        · exact .raised _ hfirst
        · rename_i hinsert
          exact .added _ _ hfirst hinsert rfl
      · exact .raised _ hfirst

/-- A login that succeeds is one of the row with the provider's email, or
adds a row under a key that was free. -/
theorem getOrCreateUser_ok {text : Text} {new : NewUser} {users users' : Table User User.clash}
    {info : SocialUserInfo} {user : User}
    (h : getOrCreateUser text new users info = (.ok user, users')) :
    (users' = users ∧ firstByPk (users.filter (·.email == info.email)) = some user)
      ∨ users.insert? user = some users' := by
  have hresolves := getOrCreateUser_resolves text new users info
  rw [h] at hresolves
  cases hresolves with
  | found _ hfirst => exact Or.inl ⟨rfl, hfirst⟩
  | added _ _ _ hinsert => exact Or.inr hinsert

theorem getOrCreateUser_error {text : Text} {new : NewUser}
    {users users' : Table User User.clash} {info : SocialUserInfo} {e : Exc}
    (h : getOrCreateUser text new users info = (.error e, users')) : users' = users := by
  have hresolves := getOrCreateUser_resolves text new users info
  rw [h] at hresolves
  cases hresolves with
  | raised => rfl

end SocialAuthService

end SaasKit
