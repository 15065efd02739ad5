import SaasKit.Lib.Outcome
import SaasKit.SocialTrust

/-!
# What the providers may answer

A provider's answer with a successful status is any JSON document. The fetch
functions translate what goes wrong on the network, and read the documents as
if they had the documented shape: what they do with another shape is what
Python does. `handled_iff` says for which documents the outcome is a proper
`SocialUserInfo` or a `ValidationServiceError`. Of a number they ask no more
than whether it is zero, so an integer stands for any.
-/

namespace SaasKit

namespace ProviderAnswers

open Outcome SocialAuthService SocialTrust

/-- The error that the fetch functions announce. -/
def Announced (e : Exc) : Prop := ∃ message, e = .validationServiceError message

/-- The fields are the strings they are declared to be. -/
structure Proper (info : SocialUserInfo) : Prop where
  email : info.email ≠ ""
  username : info.username ≠ ""
  firstName : ∃ name, info.firstName = .str name
  lastName : ∃ name, info.lastName = .str name

theorem Proper.of_strings {email username first last provider : String} {providerId : Json}
    (hemail : email ≠ "") (husername : username ≠ "") :
    Proper ⟨email, username, .str first, .str last, provider, providerId⟩ :=
  ⟨hemail, husername, ⟨first, rfl⟩, ⟨last, rfl⟩⟩

abbrev Handled (result : Except Exc SocialUserInfo) : Prop := Ends Proper Announced result

/-! ## Shapes -/

/-- Google's document: an object with an email that is a string, if any, and
with names that are strings, if any, where they are read. -/
structure GoogleShape (text : Text) (data : Json) : Prop where
  object : IsObject data
  email : ∃ e, address text (field data "email" (.str "")) = some e
  names : ∀ e, e ≠ "" → address text (field data "email" (.str "")) = some e →
    (field data "email_verified" .null).truthy = true →
    (∃ name, field data "given_name" (.str "") = .str name)
      ∧ ∃ name, field data "family_name" (.str "") = .str name

/-- The emails up to the one the scan stops at are objects, and that one's
email is a string. -/
inductive Scannable : List Json → Prop
  | nil : Scannable []
  | stop {entry : Json} {rest : List Json} : Flagged entry →
      (∃ raw, field entry "email" .null = .str raw) → Scannable (entry :: rest)
  | next {entry : Json} {rest : List Json} : IsObject entry → ¬ Flagged entry →
      Scannable rest → Scannable (entry :: rest)

/-- The email that a login takes from GitHub's documents. -/
def Finds (text : Text) (userData : Json) (emails : Except Unit Json) (e : String) : Prop :=
  profileEmail text userData = some e
    ∨ profileEmail text userData = some "" ∧ ∃ entries, emails = .ok (.arr entries)
      ∧ ∃ entry, Chosen entries entry ∧ address text (field entry "email" .null) = some e

/-- GitHub's documents: the user an object whose email is a string, if any;
without one, the emails a list that can be scanned; login and name strings, if
any, where they are read. -/
structure GithubShape (text : Text) (userData : Json) (emails : Except Unit Json) : Prop where
  object : IsObject userData
  profile : ∃ e, profileEmail text userData = some e
  listed : profileEmail text userData = some "" → ∀ list, emails = .ok list →
    ∃ entries, list.iter = .ok entries ∧ Scannable entries
  names : ∀ e, e ≠ "" → Finds text userData emails e →
    Stringy (field userData "login" (.str "")) ∧ Stringy (field userData "name" .null)

section

variable {text : Text} {http : Http} {accessToken : String} {d data userData : Json}

/-! ## Reading -/

@[simp] theorem announced (message : String) : Announced (.validationServiceError message) :=
  ⟨message, rfl⟩

theorem ends_get {P : Json → Prop} {key : String} {default : Json} :
    Ends P Announced (d.get key default) ↔ IsObject d ∧ P (field d key default) := by
  cases d with
  | obj fields => exact ⟨fun h => ⟨⟨fields, rfl⟩, h⟩, fun h => h.2⟩
  | _ =>
      refine iff_of_false ?_ ?_
      · rintro ⟨message, h⟩
        cases h
      · rintro ⟨⟨fields, h⟩, -⟩
        cases h

theorem ends_asStr {P : String → Prop} {v : Json} :
    Ends P Announced v.asStr ↔ ∃ s, v = .str s ∧ P s := by
  cases v with
  | str s => exact ⟨fun h => ⟨s, rfl, h⟩, fun ⟨_, heq, h⟩ => Json.str.inj heq ▸ h⟩
  | _ =>
      refine iff_of_false ?_ ?_
      · rintro ⟨message, h⟩
        cases h
      · rintro ⟨s, h, -⟩
        cases h

theorem makeUsername_ne (text : Text) (provider base : String) :
    makeUsername text provider base ≠ "" := by
  unfold makeUsername
  simp only
  split
  · intro h
    exact absurd (String.append_eq_empty_iff.mp h).2 (by decide)
  · assumption

/-! ## Google -/

theorem google_handled (hdata : http googleUserinfoUrl accessToken = .ok data) :
    Handled (fetchGoogle text http accessToken) ↔ GoogleShape text data := by
  unfold fetchGoogle
  simp only [hdata, Handled, ends_bind, ends_get, ends_asStr, ends_ite, ends_error, ends_pure,
    announced]
  constructor
  · rintro ⟨hobject, raw, hraw, -, hrest⟩
    have haddress : address text (field data "email" (.str "")) = some (text.lower (strip raw)) :=
      address_eq_some.mpr ⟨raw, hraw, rfl⟩
    refine ⟨hobject, ⟨_, haddress⟩, fun e he haddress' htruthy => ?_⟩
    obtain rfl := Option.some.inj (haddress.symm.trans haddress')
    obtain ⟨-, -, hnames⟩ := hrest he
    obtain ⟨-, -, -, hproper⟩ := hnames (by simp [htruthy])
    exact ⟨hproper.firstName, hproper.lastName⟩
  · rintro ⟨hobject, ⟨e, haddress⟩, hnames⟩
    obtain ⟨raw, hraw, rfl⟩ := address_eq_some.mp haddress
    refine ⟨hobject, raw, hraw, fun _ => trivial, fun he => ⟨hobject, fun _ => trivial,
      fun htruthy => ⟨hobject, hobject, hobject, ?_⟩⟩⟩
    obtain ⟨⟨first, hfirst⟩, last, hlast⟩ := hnames _ he haddress (by simpa using htruthy)
    rw [hfirst, hlast]
    exact .of_strings he (makeUsername_ne _ _ _)

/-! ## GitHub -/

theorem item_not_announced {key : String} {e : Exc} (h : d.item key = .error e) :
    ¬ Announced e := by
  rintro ⟨message, rfl⟩
  unfold Json.item at h
  split at h
  · split at h
    · cases h
    · cases h
  · cases h

theorem iter_not_announced {e : Exc} (h : d.iter = .error e) : ¬ Announced e := by
  rintro ⟨message, rfl⟩
  cases d with
  | arr items => cases h
  | obj fields => cases h
  | str s => cases h
  | _ => cases h

/-- The scan of the emails raises at the first entry of the wrong shape. -/
theorem primaryEmail_ends : ∀ entries : List Json,
    Ends (fun _ => True) Announced (primaryEmail text entries) ↔ Scannable entries
  | [] => iff_of_true trivial .nil
  | entry :: rest => by
      by_cases hflagged : Flagged entry
      · rw [primaryEmail_flagged hflagged, ends_bind, ends_bind]
        simp only [ends_asStr, ends_ok, and_true]
        constructor
        · intro h
          cases hitem : entry.item "email" with
          | error e =>
              rw [hitem] at h
              exact absurd h (item_not_announced hitem)
          | ok v =>
              rw [hitem] at h
              obtain ⟨raw, rfl⟩ := h
              exact .stop hflagged ⟨raw, item_str_iff.mp hitem⟩
        · intro h
          cases h with
          | stop _ hraw =>
              obtain ⟨raw, hraw⟩ := hraw
              rw [item_str_iff.mpr hraw]
              exact ⟨raw, rfl⟩
          | next _ hnot => exact absurd hflagged hnot
      · by_cases hobject : IsObject entry
        · rw [primaryEmail_unflagged hobject hflagged, primaryEmail_ends rest]
          constructor
          · exact .next hobject hflagged
          · intro h
            cases h with
            | stop hnow => exact absurd hnow hflagged
            | next _ _ hrest => exact hrest
        · refine iff_of_false (fun h => ?_) (fun h => ?_)
          · rw [primaryEmail, ends_bind, ends_get] at h
            exact hobject h.1
          · cases h with
            | stop hnow => exact absurd hnow hflagged
            | next hnow => exact hobject hnow

theorem githubEmail_ends {emails : Except Unit Json} (hobject : IsObject userData)
    (hemails : http githubEmailsUrl accessToken = emails) :
    Ends (fun _ => True) Announced (githubEmail text http accessToken userData) ↔
      (∃ e, profileEmail text userData = some e)
        ∧ (profileEmail text userData = some "" → ∀ list, emails = .ok list →
          ∃ entries, list.iter = .ok entries ∧ Scannable entries) := by
  rw [githubEmail_eq hobject, ends_bind, ends_asStr, hemails]
  simp only [profileEmail, address_eq_some]
  constructor
  · rintro ⟨raw, hraw, hends⟩
    refine ⟨⟨_, raw, hraw, rfl⟩, ?_⟩
    rintro ⟨raw', hraw', hblank⟩ list rfl
    obtain rfl := Json.str.inj (hraw.symm.trans hraw')
    rw [if_pos hblank, ends_bind] at hends
    cases hiter : list.iter with
    | error e =>
        rw [hiter] at hends
        exact absurd hends (iter_not_announced hiter)
    | ok entries =>
        rw [hiter] at hends
        exact ⟨entries, rfl, (primaryEmail_ends entries).mp hends⟩
  · rintro ⟨⟨_, raw, hraw, rfl⟩, hlisted⟩
    refine ⟨raw, hraw, ?_⟩
    by_cases hblank : text.lower (strip raw) = ""
    · rw [if_pos hblank]
      cases emails with
      | error u => exact announced _
      | ok list =>
          obtain ⟨entries, hiter, hscan⟩ := hlisted ⟨raw, hraw, hblank⟩ list rfl
          simp only [hiter, ends_bind, ends_ok]
          exact (primaryEmail_ends entries).mpr hscan
    · rw [if_neg hblank]
      trivial

theorem loginBase_ends {email : String} {login : Json} :
    Ends (fun _ => True) Announced (loginBase email login) ↔ Stringy login := by
  rw [← loginBase_ok_iff (e := email)]
  unfold loginBase
  split
  · exact iff_of_true trivial ⟨_, rfl⟩
  · split
    · refine iff_of_false ?_ nofun
      rintro ⟨message, h⟩
      cases h
    · exact iff_of_true trivial ⟨_, rfl⟩

theorem github_handled (huser : http githubUserUrl accessToken = .ok userData) :
    Handled (fetchGithub text http accessToken) ↔
      GithubShape text userData (http githubEmailsUrl accessToken) := by
  by_cases hobject : IsObject userData
  · rw [fetchGithub_eq huser hobject, Handled, ends_bind, ends_iff, githubEmail_ends hobject rfl]
    have hnames : ∀ email, Ends Proper Announced
        (if email = "" then
          .error (.validationServiceError "GitHub did not return a verified primary email.")
        else (orEmpty (field userData "name" .null)).asStr >>= fun name =>
          loginBase email (field userData "login" (.str "")) >>= fun base =>
            .ok (githubInfo text userData email name base)) ↔
        (email ≠ "" → Stringy (field userData "login" (.str ""))
          ∧ Stringy (field userData "name" .null)) := by
      intro email
      simp only [ends_ite, ends_error, announced, implies_true, true_and, ends_bind, ends_asStr,
        ends_ok]
      refine imp_congr_right fun hemail => ?_
      have hproper : ∀ name base, Proper (githubInfo text userData email name base) :=
        fun _ _ => .of_strings hemail (makeUsername_ne _ _ _)
      simp only [hproper, loginBase_ends, stringy_iff (v := field userData "name" .null)]
      constructor
      · rintro ⟨s, hs, hlogin⟩
        exact ⟨hlogin, s, hs⟩
      · rintro ⟨hlogin, s, hs⟩
        exact ⟨s, hs, hlogin⟩
    simp only [hnames]
    constructor
    · rintro ⟨⟨hprofile, hlisted⟩, hrest⟩
      exact ⟨hobject, hprofile, hlisted, fun e he hfinds =>
        hrest e ((githubEmail_iff hobject he).mpr hfinds) he⟩
    · rintro ⟨-, hprofile, hlisted, hrest⟩
      exact ⟨⟨hprofile, hlisted⟩, fun e hemail he =>
        hrest e he ((githubEmail_iff hobject he).mp hemail)⟩
  · refine iff_of_false (fun h => ?_) fun h => hobject h.object
    unfold fetchGithub githubEmail at h
    simp only [huser, Handled, ends_bind, ends_get] at h
    exact hobject h.1

/-- The outcome of both fetch functions is a proper answer or the announced
error exactly if the documents have the shapes they are read with. -/
theorem handled_iff (text : Text) (http : Http) (accessToken : String) :
    (Handled (fetchGoogle text http accessToken) ∧ Handled (fetchGithub text http accessToken)) ↔
      (∀ data, http googleUserinfoUrl accessToken = .ok data → GoogleShape text data)
        ∧ ∀ userData, http githubUserUrl accessToken = .ok userData →
          GithubShape text userData (http githubEmailsUrl accessToken) := by
  refine and_congr ?_ ?_
  · cases hdata : http googleUserinfoUrl accessToken with
    | error u =>
        refine iff_of_true ?_ nofun
        simp only [fetchGoogle, hdata, Handled, ends_error, announced]
    | ok data =>
        rw [google_handled hdata]
        exact ⟨fun h _ heq => Except.ok.inj heq ▸ h, fun h => h data rfl⟩
  · cases huser : http githubUserUrl accessToken with
    | error u =>
        refine iff_of_true ?_ nofun
        simp only [fetchGithub, huser, Handled, ends_error, announced]
    | ok userData =>
        rw [github_handled huser]
        exact ⟨fun h _ heq => Except.ok.inj heq ▸ h, fun h => h userData rfl⟩

end

/-! ## An email that is null -/

/-- Google answers with an email that is `null`. -/
def nullEmail : Http := fun _ _ => .ok (.obj [("email", .null), ("email_verified", .bool true)])

theorem null_email_escapes :
    ¬ (Handled (fetchGoogle SecondFactor.config.text nullEmail "ya29")
      ∧ Handled (fetchGithub SecondFactor.config.text nullEmail "ya29")) := by
  rintro ⟨⟨message, h⟩, -⟩
  cases h

end ProviderAnswers

end SaasKit
