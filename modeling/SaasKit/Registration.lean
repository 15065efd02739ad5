import SaasKit.AccountRace

/-!
# What a registration ends in

`create_user` announces two exceptions, for an input that is not valid and
for an account that exists. Between its own checks and the commit stands
Django's `full_clean`, whose exception is neither: it rejects usernames the
checks let through, with a character of the wrong kind or with a normal form
that is taken. After the commit stands the broker. `outcome_iff` says on
which inputs the announcement is kept.
-/

namespace SaasKit

namespace Registration

open UserService

/-- What a call may end in: one more row and its welcome mail, or one of the
two announced exceptions and nothing. -/
inductive Outcome (cfg : UserConfig) (s : Site) (data : CreateUserInput) :
    Except Exc User × Site → Prop
  | created (user : User) (users : Table User User.clash) :
      s.users.insert? user = some users →
      user.username = cfg.normalizeUsername (strip data.username) →
      user.email = cfg.text.lower (strip data.email) →
      Outcome cfg s data
        (.ok user, { s with users, queue := s.queue ++ [.sendWelcomeEmail user.pk] })
  | invalid (message : String) : Outcome cfg s data (.error (.validationServiceError message), s)
  | conflict (message : String) : Outcome cfg s data (.error (.conflictServiceError message), s)

/-- What the checks of `create_user` leave to Django: the field validators,
the normal form of the username and the widths of the columns. -/
structure Storable (cfg : UserConfig) (s : Site) (pk : UserId) (data : CreateUserInput) :
    Prop where
  fields : cfg.cleanFields (draft cfg pk data) = true
  free : s.users.any (·.username == cfg.normalizeUsername data.username) = false
  username : (cfg.normalizeUsername data.username).length ≤ 150
  email : data.email.length ≤ 254

/-- An input that passes the checks can be stored, and the broker answers. -/
def Expected (cfg : UserConfig) (s : Site) (pk : UserId) (brokerUp : Bool)
    (data : CreateUserInput) : Prop :=
  ∀ cleaned, validated cfg data = .ok cleaned →
    s.users.any (·.username == cleaned.username) = false →
    s.users.any (·.email == cleaned.email) = false →
      Storable cfg s pk cleaned ∧ brokerUp = true

section

variable {cfg : UserConfig} {s : Site} {pk : UserId} {brokerUp : Bool}
  {data cleaned : CreateUserInput} {e : Exc}

/-! ## The checks -/

theorem validated_ok (h : validated cfg data = .ok cleaned) :
    cleaned.username = strip data.username ∧ cleaned.email = cfg.text.lower (strip data.email) := by
  unfold validated at h
  simp only at h
  split at h
  · cases h
  · split at h
    · cases h
    · split at h
      · cases h
      · split at h
        · cases h
        · obtain rfl := Except.ok.inj h
          exact ⟨rfl, rfl⟩

theorem validated_error (h : validated cfg data = .error e) :
    ∃ message, e = .validationServiceError message := by
  unfold validated at h
  simp only at h
  split at h
  · exact ⟨_, (Except.error.inj h).symm⟩
  · split at h
    · exact ⟨_, (Except.error.inj h).symm⟩
    · split at h
      · exact ⟨_, (Except.error.inj h).symm⟩
      · split at h
        · exact ⟨_, (Except.error.inj h).symm⟩
        · cases h

/-- No other exception is an outcome. -/
theorem Outcome.refusal {result : Except Exc User × Site} (h : Outcome cfg s data result)
    (hraised : result.1 = .error e) : e.Refusal := by
  cases h with
  | created user users => cases hraised
  | invalid message => obtain rfl := Except.error.inj hraised; trivial
  | conflict message => obtain rfl := Except.error.inj hraised; trivial

/-- Past the checks, `full_clean`, the insert and the broker are left. -/
theorem createUser_checked (hvalid : validated cfg data = .ok cleaned)
    (hname : s.users.any (·.username == cleaned.username) = false)
    (hemail : s.users.any (·.email == cleaned.email) = false) :
    createUser cfg s pk brokerUp data =
      match fullClean cfg s.users (draft cfg pk cleaned) with
      | .error e => (.error e, s)
      | .ok user =>
          match save s.users user with
          | .error e => (.error e, s)
          | .ok users => enqueueWelcomeEmail { s with users } brokerUp user := by
  simp only [createUser, hvalid, hname, hemail]
  rfl

/-! ## Django -/

theorem fullClean_eq : fullClean cfg s.users (draft cfg pk cleaned) =
    if cfg.cleanFields (draft cfg pk cleaned) = true
        ∧ s.users.any (·.username == cfg.normalizeUsername cleaned.username) = false then
      .ok (clean cfg (draft cfg pk cleaned))
    else .error .djangoValidationError := by
  unfold fullClean
  have hname : (clean cfg (draft cfg pk cleaned)).username
      = cfg.normalizeUsername cleaned.username := rfl
  rw [hname]
  cases cfg.cleanFields (draft cfg pk cleaned) with
  | false => simp
  | true =>
      cases s.users.any (·.username == cfg.normalizeUsername cleaned.username) with
      | false => simp
      | true => simp

/-- A row with a fresh key and a free name goes in. -/
theorem insert_of_free {user : User} (hfresh : ∀ u ∈ s.users, u.pk ≠ user.pk)
    (hfree : s.users.any (·.username == user.username) = false) :
    ∃ users, s.users.insert? user = some users := by
  refine Table.insert?_of_not_clash fun u hu => ?_
  have hname := Table.any_eq_false.mp hfree u hu
  rw [User.clash, beq_eq_false_iff_ne.mpr (hfresh u hu), hname]
  rfl

/-- The widths of the two columns that `clean()` writes. -/
theorem tooLong_iff {user : User} :
    (tooLong 150 (some user.username) || tooLong 254 (some user.email)) = false ↔
      user.username.length ≤ 150 ∧ user.email.length ≤ 254 := by
  simp [tooLong]

theorem save_fits {user : User} (hfits : user.username.length ≤ 150 ∧ user.email.length ≤ 254)
    {users : Table User User.clash} (hinsert : s.users.insert? user = some users) :
    save s.users user = .ok users := by
  unfold save
  rw [tooLong_iff.mpr hfits, hinsert]
  rfl

theorem save_too_long {user : User}
    (hlong : ¬ (user.username.length ≤ 150 ∧ user.email.length ≤ 254)) :
    save s.users user = .error .dataError := by
  unfold save
  rw [if_pos (Bool.eq_true_of_not_eq_false (mt tooLong_iff.mp hlong))]

/-! ## The outcome -/

/-- An input the checks refuse ends in one of the two exceptions. -/
theorem outcome_refused
    (hrefused : ∀ cleaned, validated cfg data = .ok cleaned →
      s.users.any (·.username == cleaned.username) = false →
      s.users.any (·.email == cleaned.email) = true) :
    Outcome cfg s data (createUser cfg s pk brokerUp data) := by
  unfold createUser
  cases hvalid : validated cfg data with
  | error e =>
      obtain ⟨message, rfl⟩ := validated_error hvalid
      exact .invalid message
  | ok cleaned =>
      cases hname : s.users.any (·.username == cleaned.username) with
      | true =>
          simp only [hname, if_true]
          exact .conflict _
      | false =>
          have hemail := hrefused cleaned hvalid hname
          simp only [hname, hemail, if_true]
          exact .conflict _

/-- Saving a row that is new ends well exactly if it fits and the broker
answers. -/
theorem outcome_saved {user : User} (hfresh : ∀ u ∈ s.users, u.pk ≠ user.pk)
    (hfree : s.users.any (·.username == user.username) = false)
    (hname : user.username = cfg.normalizeUsername (strip data.username))
    (hemail : user.email = cfg.text.lower (strip data.email)) :
    Outcome cfg s data
        (match save s.users user with
        | .error e => (.error e, s)
        | .ok users => enqueueWelcomeEmail { s with users } brokerUp user) ↔
      (user.username.length ≤ 150 ∧ user.email.length ≤ 254) ∧ brokerUp = true := by
  by_cases hfits : user.username.length ≤ 150 ∧ user.email.length ≤ 254
  · obtain ⟨users, hinsert⟩ := insert_of_free hfresh hfree
    rw [save_fits hfits hinsert]
    cases brokerUp with
    | true => exact iff_of_true (.created user users hinsert hname hemail) ⟨hfits, rfl⟩
    | false => exact iff_of_false (fun h => h.refusal rfl) fun h => Bool.noConfusion h.2
  · rw [save_too_long hfits]
    exact iff_of_false (fun h => h.refusal rfl) fun h => hfits h.1

/-- What the checks let through ends well exactly if Django and the broker
take it. -/
theorem outcome_checked
    (hlower : normalizeEmail cfg.text (cfg.text.lower (strip data.email))
      = cfg.text.lower (strip data.email))
    (hfresh : ∀ u ∈ s.users, u.pk ≠ pk) (hvalid : validated cfg data = .ok cleaned)
    (hname : s.users.any (·.username == cleaned.username) = false)
    (hemail : s.users.any (·.email == cleaned.email) = false) :
    Outcome cfg s data (createUser cfg s pk brokerUp data) ↔
      Storable cfg s pk cleaned ∧ brokerUp = true := by
  obtain ⟨husername, haddress⟩ := validated_ok hvalid
  obtain ⟨hpk, hnormal, hkept⟩ : (clean cfg (draft cfg pk cleaned)).pk = pk
      ∧ (clean cfg (draft cfg pk cleaned)).username = cfg.normalizeUsername cleaned.username
      ∧ (clean cfg (draft cfg pk cleaned)).email = cfg.text.lower (strip data.email) := by
    simp only [clean, draft, haddress, hlower, and_self]
  rw [createUser_checked hvalid hname hemail, fullClean_eq]
  generalize clean cfg (draft cfg pk cleaned) = user at hpk hnormal hkept
  by_cases hclean : cfg.cleanFields (draft cfg pk cleaned) = true
      ∧ s.users.any (·.username == cfg.normalizeUsername cleaned.username) = false
  · rw [if_pos hclean, outcome_saved (by rw [hpk]; exact hfresh) (by rw [hnormal]; exact hclean.2)
      (by rw [hnormal, husername]) hkept, hnormal, hkept, ← haddress]
    exact ⟨fun h => ⟨⟨hclean.1, hclean.2, h.1.1, h.1.2⟩, h.2⟩,
      fun h => ⟨⟨h.1.username, h.1.email⟩, h.2⟩⟩
  · rw [if_neg hclean]
    exact iff_of_false (fun h => h.refusal rfl) fun h => hclean ⟨h.1.fields, h.1.free⟩

/-- A registration ends as announced exactly if what passes its checks can be
stored and its mail be queued. Assumed of `str.lower`: what it returns is in
lower case and stripped; of the database: it draws a key nobody has. -/
theorem outcome_iff
    (hlower : normalizeEmail cfg.text (cfg.text.lower (strip data.email))
      = cfg.text.lower (strip data.email))
    (hfresh : ∀ u ∈ s.users, u.pk ≠ pk) :
    Outcome cfg s data (createUser cfg s pk brokerUp data) ↔
      Expected cfg s pk brokerUp data := by
  constructor
  · intro houtcome cleaned hvalid hname hemail
    exact (outcome_checked hlower hfresh hvalid hname hemail).mp houtcome
  · intro hexpected
    by_cases hchecked : ∃ cleaned, validated cfg data = .ok cleaned
        ∧ s.users.any (·.username == cleaned.username) = false
        ∧ s.users.any (·.email == cleaned.email) = false
    · obtain ⟨cleaned, hvalid, hname, hemail⟩ := hchecked
      exact (outcome_checked hlower hfresh hvalid hname hemail).mpr
        (hexpected cleaned hvalid hname hemail)
    · refine outcome_refused fun cleaned hvalid hname => ?_
      exact Bool.eq_true_of_not_eq_false fun hemail =>
        hchecked ⟨cleaned, hvalid, hname, hemail⟩

end

/-! ## Two registrations -/

open AccountRace

theorem outcome_newcomer :
    Outcome config DemoSeed.site newcomer (createUser config DemoSeed.site 10 true newcomer)
      ↔ Expected config DemoSeed.site 10 true newcomer :=
  outcome_iff (by decide +kernel) (by decide)

/-- A username with a space in it passes every check before `full_clean`. -/
theorem spaced_username_escapes :
    ¬ Outcome config DemoSeed.site { newcomer with username := "new comer" }
      (createUser config DemoSeed.site 10 true { newcomer with username := "new comer" }) := by
  intro houtcome
  have hraised : (createUser config DemoSeed.site 10 true
      { newcomer with username := "new comer" }).1 = .error .djangoValidationError := by
    decide +kernel
  exact houtcome.refusal hraised

end Registration

end SaasKit
