import SaasKit.SecondFactor

/-!
# Which emails a social login trusts

A login is answered with the user who has the email the provider's
documents hold, whoever that is. What the documents assert about the email
(`Asserted`) is compared with where the login takes it from: the profile's
email needs no assertion at all, and a flag counts when it is truthy.
`Trustworthy` says when the two agree, document by document
(`trusts_verified_iff`).
-/

namespace SaasKit

namespace SocialTrust

open SocialAuthService

/-! ## Reading a document -/

def IsObject (d : Json) : Prop := ∃ fields, d = .obj fields

/-- What `d.get(key, default)` reads from an object. -/
def field (d : Json) (key : String) (default : Json) : Json :=
  match d with
  | .obj fields => (fields.lookup key).getD default
  | _ => default

/-- The address a string holds, with `.strip().lower()`. -/
def address (text : Text) : Json → Option String
  | .str raw => some (text.lower (strip raw))
  | _ => none

/-- `value or ""`. -/
def orEmpty (v : Json) : Json := if v.truthy then v else .str ""

/-- Falsy or a string. -/
def Stringy (v : Json) : Prop := v.truthy = true → ∃ s, v = .str s

theorem get_ok_iff {d default v : Json} {key : String} :
    d.get key default = .ok v ↔ IsObject d ∧ field d key default = v := by
  constructor
  · intro h
    cases d with
    | obj fields => exact ⟨⟨fields, rfl⟩, Except.ok.inj h⟩
    | _ => cases h
  · rintro ⟨⟨fields, rfl⟩, rfl⟩
    rfl

theorem asStr_ok_iff {v : Json} {s : String} : v.asStr = .ok s ↔ v = .str s := by
  constructor
  · intro h
    cases v with
    | str t => exact congrArg Json.str (Except.ok.inj h)
    | _ => cases h
  · rintro rfl
    rfl

theorem address_eq_some {text : Text} {v : Json} {e : String} :
    address text v = some e ↔ ∃ raw, v = .str raw ∧ text.lower (strip raw) = e := by
  constructor
  · intro h
    cases v with
    | str raw => exact ⟨raw, rfl, Option.some.inj h⟩
    | _ => cases h
  · rintro ⟨raw, rfl, rfl⟩
    rfl

theorem stringy_iff {v : Json} : Stringy v ↔ ∃ s, orEmpty v = .str s := by
  unfold Stringy orEmpty
  by_cases hv : v.truthy = true
  · rw [if_pos hv]
    exact ⟨fun h => h hv, fun h _ => h⟩
  · rw [if_neg hv]
    exact ⟨fun _ => ⟨"", rfl⟩, fun _ h => absurd h hv⟩

/-! ## Google -/

/-- Google's document says that `e` is verified. -/
def GoogleAsserts (text : Text) (data : Json) (e : String) : Prop :=
  address text (field data "email" (.str "")) = some e
    ∧ field data "email_verified" .null = .bool true

/-- A flag that lets the email through is the boolean `true`. -/
def TrustworthyGoogle (text : Text) (data : Json) : Prop :=
  IsObject data → ∀ e, e ≠ "" → e.length ≤ 254 →
    address text (field data "email" (.str "")) = some e →
    (field data "email_verified" .null).truthy = true →
    field data "email_verified" .null = .bool true

variable {text : Text} {http : Http} {accessToken e : String}

theorem fetchGoogle_iff : (∃ info, fetchGoogle text http accessToken = .ok info ∧ info.email = e)
    ↔ ∃ data, http googleUserinfoUrl accessToken = .ok data ∧ IsObject data ∧ e ≠ ""
        ∧ address text (field data "email" (.str "")) = some e
        ∧ (field data "email_verified" .null).truthy = true := by
  unfold fetchGoogle
  cases hdata : http googleUserinfoUrl accessToken with
  | error u =>
      constructor
      · rintro ⟨info, h, -⟩
        cases h
      · rintro ⟨data, h, -⟩
        cases h
  | ok data =>
      constructor
      · rintro ⟨info, h, rfl⟩
        simp only at h
        obtain ⟨_, hemail, h⟩ := except_bind_ok.mp h
        obtain ⟨hobject, rfl⟩ := get_ok_iff.mp hemail
        obtain ⟨raw, hraw, h⟩ := except_bind_ok.mp h
        split at h
        · cases h
        · rename_i hblank
          obtain ⟨verified, hverified, h⟩ := except_bind_ok.mp h
          obtain ⟨-, rfl⟩ := get_ok_iff.mp hverified
          split at h
          · cases h
          · rename_i htruthy
            obtain ⟨_, -, h⟩ := except_bind_ok.mp h
            obtain ⟨_, -, h⟩ := except_bind_ok.mp h
            obtain ⟨_, -, h⟩ := except_bind_ok.mp h
            obtain rfl := Except.ok.inj h
            refine ⟨data, rfl, hobject, hblank, ?_, by simpa using htruthy⟩
            exact address_eq_some.mpr ⟨raw, asStr_ok_iff.mp hraw, rfl⟩
      · rintro ⟨data', hsame, hobject, hblank, haddress, htruthy⟩
        obtain rfl := Except.ok.inj hsame
        obtain ⟨raw, hraw, rfl⟩ := address_eq_some.mp haddress
        have hget : ∀ key default, data.get key default = .ok (field data key default) :=
          fun key default => get_ok_iff.mpr ⟨hobject, rfl⟩
        simp only [hget, hraw, Json.asStr, bind, Except.bind, if_neg hblank, htruthy]
        exact ⟨_, rfl, rfl⟩

/-! ## GitHub -/

/-- What makes the scan of the emails stop. -/
def Flagged (entry : Json) : Prop :=
  (field entry "primary" .null).truthy = true ∧ (field entry "verified" .null).truthy = true

/-- The entry at which the scan stops; one that is no object raises. -/
inductive Chosen : List Json → Json → Prop
  | here {entry : Json} {rest : List Json} : Flagged entry → Chosen (entry :: rest) entry
  | later {entry entry' : Json} {rest : List Json} :
      IsObject entry → ¬ Flagged entry → Chosen rest entry' → Chosen (entry :: rest) entry'

/-- GitHub's list of emails says that `e` is verified. -/
def GithubAsserts (text : Text) (emails : Json) (e : String) : Prop :=
  ∃ entries, emails = .arr entries ∧ ∃ entry ∈ entries,
    address text (field entry "email" .null) = some e
      ∧ field entry "primary" .null = .bool true ∧ field entry "verified" .null = .bool true

/-- The user document gets past the reading of the names. -/
def Readable (userData : Json) : Prop :=
  IsObject userData ∧ Stringy (field userData "login" (.str ""))
    ∧ Stringy (field userData "name" .null)

def profileEmail (text : Text) (userData : Json) : Option String :=
  address text (orEmpty (field userData "email" .null))

/-- The list asserts the profile's email, or without one the email of the
entry at which the scan stops. -/
structure TrustworthyGithub (text : Text) (userData : Json) (emails : Except Unit Json) :
    Prop where
  profile : Readable userData → ∀ e, e ≠ "" → e.length ≤ 254 →
    profileEmail text userData = some e → ∃ list, emails = .ok list ∧ GithubAsserts text list e
  listed : Readable userData → profileEmail text userData = some "" →
    ∀ entries, emails = .ok (.arr entries) → ∀ entry, Chosen entries entry →
    ∀ e, e ≠ "" → e.length ≤ 254 → address text (field entry "email" .null) = some e →
    GithubAsserts text (.arr entries) e

theorem isObject_of_truthy {d : Json} {key : String} (h : (field d key .null).truthy = true) :
    IsObject d := by
  cases d with
  | obj fields => exact ⟨fields, rfl⟩
  | _ => cases h

theorem item_str_iff {d : Json} {key raw : String} :
    d.item key = .ok (.str raw) ↔ field d key .null = .str raw := by
  cases d with
  | obj fields =>
      simp only [Json.item, field]
      cases fields.lookup key with
      | none =>
          constructor
          · intro h
            cases h
          · intro h
            cases h
      | some w => exact ⟨fun h => Except.ok.inj h, fun h => congrArg Except.ok h⟩
  | _ =>
      constructor
      · intro h
        cases h
      · intro h
        cases h

theorem primaryEmail_flagged {entry : Json} {rest : List Json} (h : Flagged entry) :
    primaryEmail text (entry :: rest)
      = (entry.item "email" >>= Json.asStr) >>= fun raw => .ok (text.lower (strip raw)) := by
  have hget : ∀ key default, entry.get key default = .ok (field entry key default) :=
    fun key default => get_ok_iff.mpr ⟨isObject_of_truthy h.1, rfl⟩
  unfold primaryEmail
  simp only [hget, bind, Except.bind, h.1, h.2, if_true]
  cases entry.item "email" with
  | error e => rfl
  | ok v => rfl

theorem primaryEmail_unflagged {entry : Json} {rest : List Json} (hobject : IsObject entry)
    (h : ¬ Flagged entry) : primaryEmail text (entry :: rest) = primaryEmail text rest := by
  have hget : ∀ key default, entry.get key default = .ok (field entry key default) :=
    fun key default => get_ok_iff.mpr ⟨hobject, rfl⟩
  rw [primaryEmail]
  simp only [hget, bind, Except.bind]
  by_cases hprimary : (field entry "primary" .null).truthy = true
  · have hverified : (field entry "verified" .null).truthy = false :=
      Bool.not_eq_true _ ▸ fun hverified => h ⟨hprimary, hverified⟩
    simp only [hprimary, if_true, hverified, Bool.false_eq_true, if_false]
  · have hprimary : (field entry "primary" .null).truthy = false := Bool.not_eq_true _ ▸ hprimary
    simp only [hprimary, Bool.false_eq_true, if_false]

theorem isObject_of_primaryEmail {entry : Json} {rest : List Json}
    (h : primaryEmail text (entry :: rest) = .ok e) : IsObject entry := by
  cases entry with
  | obj fields => exact ⟨fields, rfl⟩
  | _ => cases h

/-- The scan, as far as it gets. -/
theorem primaryEmail_iff (he : e ≠ "") : ∀ {entries : List Json},
    primaryEmail text entries = .ok e
      ↔ ∃ entry, Chosen entries entry ∧ address text (field entry "email" .null) = some e
  | [] => by
      constructor
      · intro h
        exact absurd (Except.ok.inj h).symm he
      · rintro ⟨_, ⟨⟩, -⟩
  | entry :: rest => by
      by_cases hflagged : Flagged entry
      · rw [primaryEmail_flagged hflagged]
        constructor
        · intro h
          obtain ⟨raw, hraw, h⟩ := except_bind_ok.mp h
          obtain ⟨v, hitem, hraw⟩ := except_bind_ok.mp hraw
          obtain rfl := asStr_ok_iff.mp hraw
          exact ⟨entry, .here hflagged,
            address_eq_some.mpr ⟨raw, item_str_iff.mp hitem, Except.ok.inj h⟩⟩
        · rintro ⟨chosen, hchosen, haddress⟩
          cases hchosen with
          | here =>
              obtain ⟨raw, hraw, rfl⟩ := address_eq_some.mp haddress
              have hitem : entry.item "email" = .ok (.str raw) := item_str_iff.mpr hraw
              rw [hitem]
              rfl
          | later _ hnot => exact absurd hflagged hnot
      · constructor
        · intro h
          have hobject := isObject_of_primaryEmail h
          rw [primaryEmail_unflagged hobject hflagged] at h
          obtain ⟨chosen, hchosen, haddress⟩ := (primaryEmail_iff he).mp h
          exact ⟨chosen, .later hobject hflagged hchosen, haddress⟩
        · rintro ⟨chosen, hchosen, haddress⟩
          cases hchosen with
          | here hnow => exact absurd hnow hflagged
          | later hobject _ hrest =>
              rw [primaryEmail_unflagged hobject hflagged]
              exact (primaryEmail_iff he).mpr ⟨chosen, hrest, haddress⟩

/-- A list with a chosen entry is a JSON array: the items of the others are
strings. -/
theorem iter_arr {emails entry : Json} {entries : List Json} (h : emails.iter = .ok entries)
    (hchosen : Chosen entries entry) : emails = .arr entries := by
  have hhead : ∀ {rest : List Json} {s : String}, entries = .str s :: rest → False := by
    intro rest s hentries
    subst hentries
    cases hchosen with
    | here hflagged => cases hflagged.1
    | later hobject => obtain ⟨_, hobject⟩ := hobject; cases hobject
  cases emails with
  | arr items => exact congrArg Json.arr (Except.ok.inj h)
  | obj fields =>
      have h : fields.map (fun f => Json.str f.1) = entries := Except.ok.inj h
      cases fields with
      | nil => subst h; cases hchosen
      | cons f fields => exact (hhead h.symm).elim
  | str s =>
      have h : s.toList.map (fun c => Json.str (String.singleton c)) = entries := Except.ok.inj h
      cases hs : s.toList with
      | nil => rw [hs] at h; subst h; cases hchosen
      | cons c cs => rw [hs] at h; exact (hhead h.symm).elim
  | _ => cases h

theorem githubEmail_eq {userData : Json} (hobject : IsObject userData) :
    githubEmail text http accessToken userData
      = (orEmpty (field userData "email" .null)).asStr >>= fun raw =>
          if text.lower (strip raw) = "" then
            match http githubEmailsUrl accessToken with
            | .error () => .error (.validationServiceError "GitHub token validation failed.")
            | .ok emails => emails.iter >>= primaryEmail text
          else .ok (text.lower (strip raw)) := by
  have hget : userData.get "email" .null = .ok (field userData "email" .null) :=
    get_ok_iff.mpr ⟨hobject, rfl⟩
  unfold githubEmail orEmpty
  simp only [hget, bind, Except.bind]
  by_cases htruthy : (field userData "email" .null).truthy = true
  · simp only [htruthy, if_true]
    rfl
  · simp only [Bool.not_eq_true _ ▸ htruthy, Bool.false_eq_true, if_false]
    rfl

/-- The email a login takes from GitHub. -/
theorem githubEmail_iff {userData : Json} (hobject : IsObject userData) (he : e ≠ "") :
    githubEmail text http accessToken userData = .ok e
      ↔ profileEmail text userData = some e
        ∨ (profileEmail text userData = some "" ∧ ∃ entries,
            http githubEmailsUrl accessToken = .ok (.arr entries) ∧ ∃ entry, Chosen entries entry
              ∧ address text (field entry "email" .null) = some e) := by
  rw [githubEmail_eq hobject, except_bind_ok]
  simp only [profileEmail, address_eq_some, asStr_ok_iff]
  constructor
  · rintro ⟨raw, hraw, h⟩
    split at h
    · rename_i hblank
      refine Or.inr ⟨⟨raw, hraw, hblank⟩, ?_⟩
      split at h
      · cases h
      · rename_i emails hemails
        obtain ⟨entries, hiter, hscan⟩ := except_bind_ok.mp h
        obtain ⟨entry, hchosen, haddress⟩ := (primaryEmail_iff he).mp hscan
        obtain rfl := iter_arr hiter hchosen
        exact ⟨entries, hemails, entry, hchosen, address_eq_some.mp haddress⟩
    · exact Or.inl ⟨raw, hraw, Except.ok.inj h⟩
  · rintro (⟨raw, hraw, rfl⟩ | ⟨⟨raw, hraw, hblank⟩, entries, hemails, entry, hchosen, haddress⟩)
    · exact ⟨raw, hraw, if_neg he⟩
    · refine ⟨raw, hraw, ?_⟩
      rw [if_pos hblank, hemails]
      exact (primaryEmail_iff he).mpr ⟨entry, hchosen, address_eq_some.mpr haddress⟩

/-- The base of a new user's name. -/
def loginBase (email : String) : Json → Except Exc String
  | .str s => .ok (if s = "" then email else s)
  | v => if v.truthy then .error .typeError else .ok email

theorem loginBase_ok_iff {login : Json} :
    (∃ base, loginBase e login = .ok base) ↔ Stringy login := by
  unfold loginBase
  split
  · rename_i s
    exact ⟨fun _ _ => ⟨s, rfl⟩, fun _ => ⟨_, rfl⟩⟩
  · rename_i hstr
    split
    · rename_i htruthy
      constructor
      · rintro ⟨_, h⟩
        cases h
      · intro h
        obtain ⟨s, hs⟩ := h htruthy
        exact absurd hs (hstr s)
    · rename_i hfalsy
      exact ⟨fun _ htruthy => absurd htruthy hfalsy, fun _ => ⟨e, rfl⟩⟩

/-- What `_fetch_github` makes of what it has read. -/
def githubInfo (text : Text) (userData : Json) (email name base : String) : SocialUserInfo where
  email
  username := makeUsername text "github" base
  firstName := .str (splitName name).1
  lastName := .str (splitName name).2
  provider := "github"
  providerId := match field userData "id" (.str "") with
    | .str s => .str s
    | v => .str (text.str v)

/-- A login with GitHub, read by read. -/
theorem fetchGithub_eq {userData : Json}
    (huser : http githubUserUrl accessToken = .ok userData) (hobject : IsObject userData) :
    fetchGithub text http accessToken
      = githubEmail text http accessToken userData >>= fun email =>
          if email = "" then
            .error (.validationServiceError "GitHub did not return a verified primary email.")
          else (orEmpty (field userData "name" .null)).asStr >>= fun name =>
            loginBase email (field userData "login" (.str "")) >>= fun base =>
              .ok (githubInfo text userData email name base) := by
  have hget : ∀ key default, userData.get key default = .ok (field userData key default) :=
    fun key default => get_ok_iff.mpr ⟨hobject, rfl⟩
  unfold fetchGithub orEmpty
  simp only [huser, hget, bind, Except.bind]
  cases githubEmail text http accessToken userData with
  | error e => rfl
  | ok email =>
      simp only
      by_cases hblank : email = ""
      · simp only [if_pos hblank]
      · simp only [if_neg hblank]
        unfold loginBase
        by_cases hname : (field userData "name" .null).truthy = true
        · simp only [if_pos hname]
          cases (field userData "name" .null).asStr with
          | error e => rfl
          | ok name =>
              cases field userData "login" (.str "") with
              | str s => rfl
              | _ => simp only; split <;> rfl
        · simp only [if_neg hname]
          cases field userData "login" (.str "") with
          | str s => rfl
          | _ => simp only; split <;> rfl

/-- The documents of a login with GitHub that gets as far as the users. -/
theorem fetchGithub_iff : (∃ info, fetchGithub text http accessToken = .ok info ∧ info.email = e)
    ↔ ∃ userData, http githubUserUrl accessToken = .ok userData ∧ Readable userData ∧ e ≠ ""
        ∧ githubEmail text http accessToken userData = .ok e := by
  cases huser : http githubUserUrl accessToken with
  | error u =>
      have hfetch : fetchGithub text http accessToken
          = .error (.validationServiceError "GitHub token validation failed.") := by
        unfold fetchGithub
        rw [huser]
      rw [hfetch]
      exact ⟨nofun, nofun⟩
  | ok userData =>
      by_cases hobject : IsObject userData
      · rw [fetchGithub_eq huser hobject]
        constructor
        · rintro ⟨info, h, rfl⟩
          obtain ⟨email, hemail, h⟩ := except_bind_ok.mp h
          split at h
          · cases h
          · rename_i hblank
            obtain ⟨name, hname, h⟩ := except_bind_ok.mp h
            obtain ⟨base, hbase, h⟩ := except_bind_ok.mp h
            obtain rfl := Except.ok.inj h
            exact ⟨userData, rfl, ⟨hobject, loginBase_ok_iff.mp ⟨base, hbase⟩,
              stringy_iff.mpr ⟨name, asStr_ok_iff.mp hname⟩⟩, hblank, hemail⟩
        · rintro ⟨userData', hsame, ⟨-, hlogin, hname⟩, hblank, hemail⟩
          obtain rfl := Except.ok.inj hsame
          obtain ⟨base, hbase⟩ := loginBase_ok_iff.mpr hlogin
          obtain ⟨name, hname⟩ := stringy_iff.mp hname
          refine ⟨githubInfo text userData e name base, except_bind_ok.mpr ⟨e, hemail, ?_⟩, rfl⟩
          rw [if_neg hblank, asStr_ok_iff.mpr hname]
          exact except_bind_ok.mpr ⟨name, rfl, except_bind_ok.mpr ⟨base, hbase, rfl⟩⟩
      · have hfetch : fetchGithub text http accessToken = .error .attributeError := by
          unfold fetchGithub
          rw [huser]
          cases userData with
          | obj fields => exact absurd ⟨fields, rfl⟩ hobject
          | _ => rfl
        rw [hfetch]
        constructor
        · exact nofun
        · rintro ⟨userData', hsame, ⟨hreadable, -⟩, -⟩
          obtain rfl := Except.ok.inj hsame
          exact absurd hreadable hobject

/-! ## The user of a login -/

/-- Emails as the column holds them. -/
def Fits (users : Table User User.clash) : Prop := ∀ u ∈ users, u.email.length ≤ 254

theorem getOrCreateUser_email {new : NewUser} {users users' : Table User User.clash}
    {info : SocialUserInfo} {user : User} (hfits : Fits users)
    (h : getOrCreateUser text new users info = (.ok user, users')) :
    user.email = info.email ∧ info.email.length ≤ 254 := by
  unfold getOrCreateUser at h
  split at h
  · rename_i existing hfirst
    obtain rfl := Except.ok.inj (Prod.mk.inj h).1
    obtain ⟨hmem, hemail⟩ := Table.mem_filter.mp (firstByPk_mem hfirst)
    have hemail : existing.email = info.email := beq_iff_eq.mp hemail
    exact ⟨hemail, hemail ▸ hfits existing hmem⟩
  · simp only at h
    split at h
    · cases h
    · rename_i hlength
      have hlength : info.email.length ≤ 254 := by
        simp only [tooLong, Option.any_some, Bool.or_eq_true, decide_eq_true_eq, not_or] at hlength
        omega
      split at h
      · split at h
        · cases h
        · obtain rfl := Except.ok.inj (Prod.mk.inj h).1
          exact ⟨rfl, hlength⟩
      · cases h

/-- A site with one account. -/
def account (email : String) : Table User User.clash :=
  ⟨[{ DemoSeed.guest with email }], List.pairwise_singleton ..⟩

theorem getOrCreateUser_account (text : Text) (new : NewUser) (info : SocialUserInfo) :
    getOrCreateUser text new (account info.email) info
      = (.ok { DemoSeed.guest with email := info.email }, account info.email) := by
  have hfirst : firstByPk ((account info.email).filter (·.email == info.email))
      = some { DemoSeed.guest with email := info.email } := by
    simp [account, Table.filter, firstByPk]
  unfold getOrCreateUser
  rw [hfirst]

/-! ## What the documents assert -/

/-- The provider's documents say that `e` is verified. -/
def Asserted (text : Text) (http : Http) (provider accessToken e : String) : Prop :=
  if text.lower provider = "google" then
    ∃ data, http googleUserinfoUrl accessToken = .ok data ∧ GoogleAsserts text data e
  else if text.lower provider = "github" then
    ∃ emails, http githubEmailsUrl accessToken = .ok emails ∧ GithubAsserts text emails e
  else False

/-- Whoever logs in has an email the provider's documents call verified. -/
def TrustsVerified (text : Text) (http : Http) (provider accessToken : String) : Prop :=
  ∀ new users user users', Fits users →
    authenticate text http new users provider accessToken = (.ok user, users') →
    Asserted text http provider accessToken user.email

/-- The documents are in order, for the provider that is asked. -/
def Trustworthy (text : Text) (http : Http) (provider accessToken : String) : Prop :=
  if text.lower provider = "google" then
    ∀ data, http googleUserinfoUrl accessToken = .ok data → TrustworthyGoogle text data
  else if text.lower provider = "github" then
    ∀ userData, http githubUserUrl accessToken = .ok userData →
      TrustworthyGithub text userData (http githubEmailsUrl accessToken)
  else True

section

variable {provider : String}

/-- A login is as good as the email that is fetched. -/
theorem trustsVerified_iff_fetch : TrustsVerified text http provider accessToken
    ↔ ∀ info, fetch text http provider accessToken = .ok info → info.email.length ≤ 254 →
        Asserted text http provider accessToken info.email := by
  constructor
  · intro h info hfetch hlength
    have hfits : Fits (account info.email) := by
      intro u hu
      obtain rfl := List.mem_singleton.mp hu
      exact hlength
    refine h ⟨1, "!"⟩ (account info.email) { DemoSeed.guest with email := info.email }
      (account info.email) hfits ?_
    unfold authenticate
    rw [hfetch]
    exact getOrCreateUser_account text _ info
  · intro h new users user users' hfits hlogin
    unfold authenticate at hlogin
    split at hlogin
    · cases hlogin
    · rename_i info hfetch
      obtain ⟨hemail, hlength⟩ := getOrCreateUser_email hfits hlogin
      exact hemail ▸ h info hfetch hlength

theorem google_iff :
    (∀ info, fetchGoogle text http accessToken = .ok info → info.email.length ≤ 254 →
        ∃ data, http googleUserinfoUrl accessToken = .ok data
          ∧ GoogleAsserts text data info.email)
      ↔ ∀ data, http googleUserinfoUrl accessToken = .ok data → TrustworthyGoogle text data := by
  constructor
  · intro h data hdata hobject e hblank hlength haddress htruthy
    obtain ⟨info, hfetch, rfl⟩ :=
      fetchGoogle_iff.mpr ⟨data, hdata, hobject, hblank, haddress, htruthy⟩
    obtain ⟨data', hdata', -, hverified⟩ := h info hfetch hlength
    obtain rfl := Except.ok.inj (hdata.symm.trans hdata')
    exact hverified
  · intro h info hfetch hlength
    obtain ⟨data, hdata, hobject, hblank, haddress, htruthy⟩ :=
      fetchGoogle_iff.mp ⟨info, hfetch, rfl⟩
    exact ⟨data, hdata, haddress,
      h data hdata hobject info.email hblank hlength haddress htruthy⟩

theorem github_iff :
    (∀ info, fetchGithub text http accessToken = .ok info → info.email.length ≤ 254 →
        ∃ emails, http githubEmailsUrl accessToken = .ok emails
          ∧ GithubAsserts text emails info.email)
      ↔ ∀ userData, http githubUserUrl accessToken = .ok userData →
          TrustworthyGithub text userData (http githubEmailsUrl accessToken) := by
  constructor
  · intro h userData huser
    have htaken : ∀ e, Readable userData → e ≠ "" → e.length ≤ 254 →
        githubEmail text http accessToken userData = .ok e →
        ∃ emails, http githubEmailsUrl accessToken = .ok emails ∧ GithubAsserts text emails e := by
      intro e hreadable hblank hlength hemail
      obtain ⟨info, hfetch, rfl⟩ := fetchGithub_iff.mpr ⟨userData, huser, hreadable, hblank, hemail⟩
      exact h info hfetch hlength
    refine ⟨fun hreadable e hblank hlength hprofile => ?_,
      fun hreadable hnone entries hemails entry hchosen e hblank hlength haddress => ?_⟩
    · exact htaken e hreadable hblank hlength
        ((githubEmail_iff hreadable.1 hblank).mpr (Or.inl hprofile))
    · obtain ⟨emails, hemails', hasserts⟩ := htaken e hreadable hblank hlength
        ((githubEmail_iff hreadable.1 hblank).mpr
          (Or.inr ⟨hnone, entries, hemails, entry, hchosen, haddress⟩))
      obtain rfl := Except.ok.inj (hemails.symm.trans hemails')
      exact hasserts
  · intro h info hfetch hlength
    obtain ⟨userData, huser, hreadable, hblank, hemail⟩ := fetchGithub_iff.mp ⟨info, hfetch, rfl⟩
    have hdocuments := h userData huser
    rcases (githubEmail_iff hreadable.1 hblank).mp hemail with
      hprofile | ⟨hnone, entries, hemails, entry, hchosen, haddress⟩
    · exact hdocuments.profile hreadable _ hblank hlength hprofile
    · exact ⟨_, hemails, hdocuments.listed hreadable hnone entries hemails entry hchosen _ hblank
        hlength haddress⟩

/-- Every login is one with a verified email exactly when the documents are
in order. -/
theorem trusts_verified_iff (text : Text) (http : Http) (provider accessToken : String) :
    TrustsVerified text http provider accessToken
      ↔ Trustworthy text http provider accessToken := by
  rw [trustsVerified_iff_fetch]
  unfold Asserted Trustworthy fetch
  simp only
  by_cases hgoogle : text.lower provider = "google"
  · simp only [if_pos hgoogle]
    exact google_iff
  · simp only [if_neg hgoogle]
    by_cases hgithub : text.lower provider = "github"
    · simp only [if_pos hgithub]
      exact github_iff
    · simp only [if_neg hgithub]
      exact ⟨fun _ => trivial, fun _ => nofun⟩

end

/-! ## A profile with somebody else's email -/

/-- The list's entry for an email that was never confirmed. -/
def unconfirmed : Json :=
  .obj [("email", .str "admin@tenant1.localhost"), ("primary", .bool true),
    ("verified", .bool false)]

/-- A GitHub user who has put the admin's email into the profile without
ever confirming it. -/
def impostor : Http := fun url _ =>
  if url = githubUserUrl then
    .ok (.obj [("login", .str "impostor"), ("id", .num 583231),
      ("email", .str "admin@tenant1.localhost")])
  else if url = githubEmailsUrl then .ok (.arr [unconfirmed])
  else .error ()

/-- The login is answered with the admin's account. -/
theorem unverified_email_logs_in :
    ¬ ∀ (text : Text) (http : Http) (provider accessToken : String),
      TrustsVerified text http provider accessToken := by
  intro hall
  have hfits : Fits DemoSeed.site.users := by
    intro u hu
    obtain rfl := List.mem_singleton.mp hu
    decide
  have hlogin : authenticate SecondFactor.config.text impostor ⟨11, "!"⟩ DemoSeed.site.users
      "github" "token" = (.ok DemoSeed.admin, DemoSeed.site.users) := by decide +kernel
  have hasserted := hall SecondFactor.config.text impostor "github" "token" _ _ _ _ hfits hlogin
  have hlower : SecondFactor.config.text.lower "github" = "github" := by decide +kernel
  have hlist : impostor githubEmailsUrl "token" = .ok (.arr [unconfirmed]) := rfl
  unfold Asserted at hasserted
  rw [hlower, if_neg (by decide), if_pos rfl] at hasserted
  obtain ⟨emails, hemails, entries, rfl, entry, hentry, -, -, hverified⟩ := hasserted
  obtain rfl := Json.arr.inj (Except.ok.inj (hlist.symm.trans hemails))
  obtain rfl := List.mem_singleton.mp hentry
  cases hverified

end SocialTrust

end SaasKit
