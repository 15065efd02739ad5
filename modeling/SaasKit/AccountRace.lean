import Mathlib.Data.Fintype.Basic
import SaasKit.Lib.Interleave
import SaasKit.SecondFactor
import SaasKit.UserService

/-!
# Two registrations of one email

`create_user` and the social login's `_get_or_create_user`, one statement
at a time, with any number of calls interleaved. Both look for the email
first and insert later, and the table has no constraint on it. `Unrivalled`
is what a constraint would enforce: no row goes in while another call has
been told that its email is free. Under it emails stay distinct, so a
password reset never finds two users (`emails_distinct`).
-/

namespace SaasKit

namespace AccountRace

open UserService SocialAuthService

/-! ## Statement by statement -/

/-- Where a call stands. -/
inductive Position where
  | createStart (pk : UserId) (data : CreateUserInput)
  | nameFree (pk : UserId) (data : CreateUserInput)
  | emailFree (pk : UserId) (data : CreateUserInput)
  | cleaned (user : User)
  | created (user : User)
  | socialStart (new : NewUser) (info : SocialUserInfo)
  | naming (new : NewUser) (info : SocialUserInfo) (i : Nat)
  | named (new : NewUser) (info : SocialUserInfo) (username : String)
  | done (result : Except Exc User)

open Position

/-- The row a social login inserts; names that are `None` violate the
columns' `NOT NULL`. -/
def socialUser (text : Text) (new : NewUser) (info : SocialUserInfo) (username : String) :
    Except Exc User :=
  let firstName := charField text.str info.firstName
  let lastName := charField text.str info.lastName
  if tooLong 150 (some username) || tooLong 254 (some info.email) || tooLong 150 firstName
      || tooLong 150 lastName then .error .dataError
  else
    match firstName, lastName with
    | some firstName, some lastName => .ok ⟨new.pk, username, info.email, firstName, lastName,
        new.unusablePassword, true, false⟩
    | _, _ => .error (.conflictServiceError "An account with those credentials already exists.")

/-- The insert of a social login. -/
def insertSocial (text : Text) (new : NewUser) (users : Table User User.clash)
    (info : SocialUserInfo) (username : String) : Except Exc User × Table User User.clash :=
  match socialUser text new info username with
  | .error e => (.error e, users)
  | .ok user =>
      match users.insert? user with
      | none => (.error (.conflictServiceError
          "An account with those credentials already exists."), users)
      | some users => (.ok user, users)

/-- One statement of a call and the decisions up to the next; `brokerUp`
matters where a task is enqueued. -/
def next (cfg : UserConfig) (brokerUp : Bool) (s : Site) : Position → Option (Site × Position)
  | createStart pk data =>
      match validated cfg data with
      | .error e => some (s, done (.error e))
      | .ok data =>
          if s.users.any (·.username == data.username) then
            some (s, done (.error (.conflictServiceError
              "An account with that username already exists.")))
          else some (s, nameFree pk data)
  | nameFree pk data =>
      if s.users.any (·.email == data.email) then
        some (s, done (.error (.conflictServiceError
          "An account with that email already exists.")))
      else some (s, emailFree pk data)
  | emailFree pk data =>
      match fullClean cfg s.users (draft cfg pk data) with
      | .error e => some (s, done (.error e))
      | .ok user => some (s, cleaned user)
  | cleaned user =>
      match save s.users user with
      | .error e => some (s, done (.error e))
      | .ok users => some ({ s with users }, created user)
  | created user =>
      let enqueued := enqueueWelcomeEmail s brokerUp user
      some (enqueued.2, done enqueued.1)
  | socialStart new info =>
      match firstByPk (s.users.filter (·.email == info.email)) with
      | some existing => some (s, done (.ok existing))
      | none => some (s, naming new info 0)
  | naming new info i =>
      if s.users.any (·.username == candidate info.username i) then
        some (s, naming new info (i + 1))
      else some (s, named new info (candidate info.username i))
  | named new info username =>
      let inserted := insertSocial cfg.text new s.users info username
      some ({ s with users := inserted.2 }, done inserted.1)
  | done _ => none

variable {ι : Type}

abbrev Conf (ι : Type) := Threads.Conf ι Site Position

abbrev Step (cfg : UserConfig) : Conf ι → ι × Bool → Conf ι → Prop :=
  Threads.step (Threads.ofNext (next cfg))

/-! ## One call by itself -/

/-- A call with nobody else running, and what it leaves. -/
abbrev Alone (cfg : UserConfig) (i : ι) (s : Site) (p : Position) (result : Except Exc User)
    (after : Site) : Prop :=
  Threads.Alone (next cfg) i s p fun s' q => (s', q) = (after, done result)

section

variable {cfg : UserConfig} {i : ι} {s : Site} {result : Except Exc User} {after : Site}

theorem create_alone (cfg : UserConfig) (i : ι) (s : Site) (pk : UserId) (brokerUp : Bool)
    (data : CreateUserInput) :
    Alone cfg i s (createStart pk data) (createUser cfg s pk brokerUp data).1
      (createUser cfg s pk brokerUp data).2 := by
  unfold createUser
  cases hvalid : validated cfg data with
  | error e => exact .cons (e := brokerUp) (by simp only [next, hvalid]) (.done rfl)
  | ok data =>
      by_cases hname : s.users.any (·.username == data.username) = true
      · simp only [hname, if_true]
        exact .cons (e := brokerUp) (by simp only [next, hvalid, hname, if_true]) (.done rfl)
      · simp only [hname, Bool.false_eq_true, if_false]
        refine .cons (e := brokerUp) (t := s) (q := nameFree pk data)
          (by simp only [next, hvalid, hname]; rfl) ?_
        by_cases hemail : s.users.any (·.email == data.email) = true
        · simp only [hemail, if_true]
          exact .cons (e := brokerUp) (by simp only [next, hemail, if_true]) (.done rfl)
        · simp only [hemail, Bool.false_eq_true, if_false]
          refine .cons (e := brokerUp) (t := s) (q := emailFree pk data)
            (by simp only [next, hemail]; rfl) ?_
          cases hclean : fullClean cfg s.users (draft cfg pk data) with
          | error e => exact .cons (e := brokerUp) (by simp only [next, hclean]) (.done rfl)
          | ok user =>
              refine .cons (e := brokerUp) (t := s) (q := cleaned user)
                (by simp only [next, hclean]) ?_
              cases hsave : save s.users user with
              | error e => exact .cons (e := brokerUp) (by simp only [next, hsave]) (.done rfl)
              | ok users =>
                  simp only [hsave]
                  exact .cons (e := brokerUp) (t := { s with users }) (q := created user)
                    (by simp only [next, hsave]) (.cons (e := brokerUp) rfl (.done rfl))

/-- The search for a name goes on to the first free one. -/
theorem naming_alone {new : NewUser} {info : SocialUserInfo} :
    ∀ {k j : Nat}, (∀ m, m < k →
        s.users.any (·.username == candidate info.username (j + m)) = true) →
      s.users.any (·.username == candidate info.username (j + k)) = false →
      Alone cfg i s (named new info (candidate info.username (j + k))) result after →
      Alone cfg i s (naming new info j) result after
  | 0, j, _, hfree, hrest => by
      rw [Nat.add_zero] at hfree hrest
      exact .cons (e := true) (by simp only [next, hfree]; rfl) hrest
  | k + 1, j, htaken, hfree, hrest => by
      have hassoc : ∀ m, j + 1 + m = j + (m + 1) := fun m => by omega
      have hhead := htaken 0 (Nat.succ_pos k)
      rw [Nat.add_zero] at hhead
      refine .cons (e := true) (t := s) (q := naming new info (j + 1))
        (by simp only [next, hhead, if_true]) ?_
      refine naming_alone (k := k) (fun m hm => ?_) ?_ ?_
      · rw [hassoc]; exact htaken (m + 1) (Nat.succ_lt_succ hm)
      · rw [hassoc]; exact hfree
      · rw [hassoc]; exact hrest

theorem insertSocial_eq (text : Text) (new : NewUser) (users : Table User User.clash)
    (info : SocialUserInfo) (h : firstByPk (users.filter (·.email == info.email)) = none) :
    getOrCreateUser text new users info
      = insertSocial text new users info (uniqueUsername users info.username) := by
  unfold getOrCreateUser insertSocial socialUser
  simp only [h]
  split
  · rfl
  · cases charField text.str info.firstName with
    | none => rfl
    | some firstName =>
        cases charField text.str info.lastName with
        | none => rfl
        | some lastName => rfl

theorem social_alone (cfg : UserConfig) (i : ι) (s : Site) (new : NewUser)
    (info : SocialUserInfo) :
    Alone cfg i s (socialStart new info) (getOrCreateUser cfg.text new s.users info).1
      { s with users := (getOrCreateUser cfg.text new s.users info).2 } := by
  cases hfirst : firstByPk (s.users.filter (·.email == info.email)) with
  | some existing =>
      have hget : getOrCreateUser cfg.text new s.users info = (.ok existing, s.users) := by
        unfold getOrCreateUser
        rw [hfirst]
      rw [hget]
      exact .cons (e := true) (by simp only [next, hfirst]) (.done rfl)
  | none =>
      obtain ⟨k, hname, hfree, htaken⟩ := uniqueUsername_free s.users info.username
      rw [insertSocial_eq _ _ _ _ hfirst, hname]
      refine .cons (e := true) (t := s) (q := naming new info 0)
        (by simp only [next, hfirst]) (naming_alone (k := k) ?_ ?_ ?_)
      · simpa only [Nat.zero_add] using htaken
      · simpa only [Nat.zero_add] using hfree
      · simpa only [Nat.zero_add] using .cons (e := true) rfl (.done rfl)

end

/-! ## What a call has been told -/

/-- The email that a call has found free and is going to insert, and the
username once it is settled. -/
def claimed (cfg : UserConfig) : Position → Option (String × Option String)
  | emailFree _ data => some (data.email, some (cfg.normalizeUsername data.username))
  | cleaned user => some (user.email, some user.username)
  | naming _ info _ => some (info.email, none)
  | named _ info username => some (info.email, some username)
  | createStart .. | nameFree .. | created _ | socialStart .. | done _ => none

/-- The row that the call's next statement adds. -/
def inserting (cfg : UserConfig) (users : Table User User.clash) : Position → Option User
  | cleaned user => (save users user).toOption.map fun _ => user
  | named new info username => (insertSocial cfg.text new users info username).1.toOption
  | _ => none

/-- A row goes in only while no other call has been told that its email is
free, one with the same username apart: the constraint stops that one. -/
def Unrivalled (cfg : UserConfig) (c : Conf ι) (l : ι × Bool) : Prop :=
  ∀ user ∈ inserting cfg c.shared.users (c.locals l.1), ∀ j, j ≠ l.1 →
    ∀ claim ∈ claimed cfg (c.locals j), claim.1 = user.email → claim.2 = some user.username

instance [Fintype ι] [DecidableEq ι] (cfg : UserConfig) (c : Conf ι) (l : ι × Bool) :
    Decidable (Unrivalled cfg c l) :=
  inferInstanceAs (Decidable (∀ user ∈ inserting cfg c.shared.users (c.locals l.1), ∀ j, j ≠ l.1 →
    ∀ claim ∈ claimed cfg (c.locals j), claim.1 = user.email → claim.2 = some user.username))

/-- The email is free, or the username is taken by now. -/
def Free (users : Table User User.clash) (email : String) (username : Option String) : Prop :=
  (∀ u ∈ users, u.email ≠ email) ∨ ∃ name ∈ username, ∃ u ∈ users, u.username = name

/-- `normalize_email` leaves the address of a registration alone. -/
def Normal (cfg : UserConfig) : Position → Prop
  | createStart _ data => normalizeEmail cfg.text (cfg.text.lower (strip data.email))
      = cfg.text.lower (strip data.email)
  | nameFree _ data | emailFree _ data => normalizeEmail cfg.text data.email = data.email
  | _ => True

/-- What a call between its look-up and its insert can rely on. -/
def Told (cfg : UserConfig) (users : Table User User.clash) (p : Position) : Prop :=
  Normal cfg p ∧ ∀ claim ∈ claimed cfg p, Free users claim.1 claim.2

section

variable {cfg : UserConfig} {b : Bool} {s s' : Site} {p p' : Position} {user : User}
  {users : Table User User.clash} {email : String} {username : Option String}

theorem any_email_eq_false (h : ¬ s.users.any (·.email == email) = true) :
    ∀ u ∈ s.users, u.email ≠ email := by
  intro u hu hemail
  exact h (Table.any_iff.mpr ⟨u, hu, beq_iff_eq.mpr hemail⟩)

theorem validated_email {data data' : CreateUserInput} (h : validated cfg data = .ok data') :
    data'.email = cfg.text.lower (strip data.email) := by
  unfold validated at h
  simp only at h
  split at h
  · cases h
  · split at h
    · cases h
    · split at h
      · cases h
      · split at h
        · cases h
        · obtain rfl := Except.ok.inj h
          rfl

theorem fullClean_ok {user' : User} (h : fullClean cfg users user = .ok user') :
    user' = clean cfg user := by
  unfold fullClean at h
  split at h
  · cases h
  · exact (Except.ok.inj h).symm

theorem save_ok {users' : Table User User.clash} (h : save users user = .ok users') :
    users.insert? user = some users' := by
  unfold save at h
  split at h
  · cases h
  · split at h
    · cases h
    · rename_i hinsert
      exact Except.ok.inj h ▸ hinsert

theorem socialUser_ok {text : Text} {new : NewUser} {info : SocialUserInfo} {name : String}
    (h : socialUser text new info name = .ok user) :
    user.email = info.email ∧ user.username = name := by
  unfold socialUser at h
  simp only at h
  split at h
  · cases h
  · split at h
    · obtain rfl := Except.ok.inj h
      exact ⟨rfl, rfl⟩
    · cases h

theorem insertSocial_ok {text : Text} {new : NewUser} {info : SocialUserInfo} {name : String}
    (h : (insertSocial text new users info name).1 = .ok user) :
    users.insert? user = some (insertSocial text new users info name).2
      ∧ user.email = info.email ∧ user.username = name := by
  unfold insertSocial at h ⊢
  cases hrow : socialUser text new info name with
  | error e => rw [hrow] at h; cases h
  | ok row =>
      simp only [hrow] at h ⊢
      cases hinsert : users.insert? row with
      | none => rw [hinsert] at h; cases h
      | some users' =>
          simp only [hinsert] at h ⊢
          obtain rfl := Except.ok.inj h
          exact ⟨hinsert, socialUser_ok hrow⟩

theorem insertSocial_error {text : Text} {new : NewUser} {info : SocialUserInfo} {name : String}
    {e : Exc} (h : (insertSocial text new users info name).1 = .error e) :
    (insertSocial text new users info name).2 = users := by
  unfold insertSocial at h ⊢
  split
  · rfl
  · split
    · rfl
    · rename_i hrow _ _ hinsert
      simp only [hrow, hinsert] at h
      cases h

theorem told_created : Told cfg users (created user) := ⟨trivial, nofun⟩

theorem told_done {result : Except Exc User} : Told cfg users (done result) := ⟨trivial, nofun⟩

section

variable {pk : UserId} {data data' : CreateUserInput} {new : NewUser} {info : SocialUserInfo}
  {i : Nat} {name : String}

theorem told_nameFree (h : Told cfg users (createStart pk data))
    (hvalid : validated cfg data = .ok data') : Told cfg users (nameFree pk data') := by
  refine ⟨?_, nofun⟩
  have hnormal := h.1
  simp only [Normal, ← validated_email hvalid] at hnormal
  exact hnormal

/-- The look-up of a registration. -/
theorem told_emailFree (h : Told cfg s.users (nameFree pk data))
    (hemail : ¬ s.users.any (·.email == data.email) = true) :
    Told cfg s.users (emailFree pk data) := by
  refine ⟨h.1, fun claim hclaim => ?_⟩
  obtain rfl := Option.some.inj hclaim
  exact Or.inl (any_email_eq_false hemail)

/-- `clean()` leaves the email that was looked up. -/
theorem told_cleaned (h : Told cfg users (emailFree pk data))
    (hclean : fullClean cfg users (draft cfg pk data) = .ok user) :
    Told cfg users (cleaned user) := by
  refine ⟨trivial, fun claim hclaim => ?_⟩
  obtain rfl := fullClean_ok hclean
  have hnormal : normalizeEmail cfg.text data.email = data.email := h.1
  have hsame : claimed cfg (cleaned (clean cfg (draft cfg pk data)))
      = claimed cfg (emailFree pk data) := by
    simp only [claimed, clean, draft, hnormal]
  exact h.2 claim (hsame ▸ hclaim)

/-- The look-up of a social login. -/
theorem told_naming (hfirst : firstByPk (users.filter (·.email == info.email)) = none) :
    Told cfg users (naming new info i) := by
  refine ⟨trivial, fun claim hclaim => ?_⟩
  obtain rfl := Option.some.inj hclaim
  refine Or.inl fun u hu hemail => ?_
  have hmem : u ∈ users.filter (·.email == info.email) :=
    Table.mem_filter.mpr ⟨hu, beq_iff_eq.mpr hemail⟩
  rw [firstByPk_eq_none hfirst] at hmem
  cases hmem

theorem told_named (h : Told cfg users (naming new info i)) :
    Told cfg users (named new info name) := by
  refine ⟨trivial, fun claim hclaim => ?_⟩
  obtain rfl := Option.some.inj hclaim
  rcases h.2 _ rfl with hfree | ⟨_, hnone, _⟩
  · exact Or.inl hfree
  · cases hnone

end

/-- A statement adds the row of a call that has been told its email is free,
or leaves the users alone; what it tells the call is true. -/
theorem next_cases (h : next cfg b s p = some (s', p')) :
    (s'.users = s.users ∧ (Told cfg s.users p → Told cfg s.users p'))
      ∨ ∃ user, inserting cfg s.users p = some user ∧ s.users.insert? user = some s'.users
          ∧ claimed cfg p = some (user.email, some user.username)
          ∧ ∀ users, Told cfg users p' := by
  cases p with
  | createStart pk data =>
      simp only [next] at h
      split at h
      · obtain ⟨rfl, rfl⟩ := Prod.mk.inj (Option.some.inj h)
        exact Or.inl ⟨rfl, fun _ => told_done⟩
      · rename_i data' hvalid
        split at h
        · obtain ⟨rfl, rfl⟩ := Prod.mk.inj (Option.some.inj h)
          exact Or.inl ⟨rfl, fun _ => told_done⟩
        · obtain ⟨rfl, rfl⟩ := Prod.mk.inj (Option.some.inj h)
          exact Or.inl ⟨rfl, fun htold => told_nameFree htold hvalid⟩
  | nameFree pk data =>
      simp only [next] at h
      split at h
      · obtain ⟨rfl, rfl⟩ := Prod.mk.inj (Option.some.inj h)
        exact Or.inl ⟨rfl, fun _ => told_done⟩
      · rename_i hemail
        obtain ⟨rfl, rfl⟩ := Prod.mk.inj (Option.some.inj h)
        exact Or.inl ⟨rfl, fun htold => told_emailFree htold hemail⟩
  | emailFree pk data =>
      simp only [next] at h
      split at h
      · obtain ⟨rfl, rfl⟩ := Prod.mk.inj (Option.some.inj h)
        exact Or.inl ⟨rfl, fun _ => told_done⟩
      · rename_i user hclean
        obtain ⟨rfl, rfl⟩ := Prod.mk.inj (Option.some.inj h)
        exact Or.inl ⟨rfl, fun htold => told_cleaned htold hclean⟩
  | cleaned user =>
      simp only [next] at h
      split at h
      · obtain ⟨rfl, rfl⟩ := Prod.mk.inj (Option.some.inj h)
        exact Or.inl ⟨rfl, fun _ => told_done⟩
      · rename_i users hsave
        obtain ⟨rfl, rfl⟩ := Prod.mk.inj (Option.some.inj h)
        refine Or.inr ⟨user, ?_, save_ok hsave, rfl, fun _ => told_created⟩
        simp only [inserting, hsave, Except.toOption, Option.map_some]
  | created user =>
      obtain ⟨rfl, rfl⟩ := Prod.mk.inj (Option.some.inj h)
      refine Or.inl ⟨?_, fun _ => told_done⟩
      unfold enqueueWelcomeEmail
      split <;> rfl
  | socialStart new info =>
      simp only [next] at h
      split at h
      · obtain ⟨rfl, rfl⟩ := Prod.mk.inj (Option.some.inj h)
        exact Or.inl ⟨rfl, fun _ => told_done⟩
      · rename_i hfirst
        obtain ⟨rfl, rfl⟩ := Prod.mk.inj (Option.some.inj h)
        exact Or.inl ⟨rfl, fun _ => told_naming hfirst⟩
  | naming new info i =>
      simp only [next] at h
      split at h
      · obtain ⟨rfl, rfl⟩ := Prod.mk.inj (Option.some.inj h)
        exact Or.inl ⟨rfl, id⟩
      · obtain ⟨rfl, rfl⟩ := Prod.mk.inj (Option.some.inj h)
        exact Or.inl ⟨rfl, told_named⟩
  | named new info username =>
      obtain ⟨rfl, rfl⟩ := Prod.mk.inj (Option.some.inj h)
      cases hinsert : (insertSocial cfg.text new s.users info username).1 with
      | error e => exact Or.inl ⟨insertSocial_error hinsert, fun _ => told_done⟩
      | ok user =>
          obtain ⟨hrow, hemail, hname⟩ := insertSocial_ok hinsert
          refine Or.inr ⟨user, ?_, hrow, ?_, fun _ => told_done⟩
          · simp only [inserting, hinsert, Except.toOption]
          · simp only [claimed, hemail, hname]
  | done result => cases h

/-- What a call was told stays true when somebody else's row goes in, unless
that is the email it is about to insert under another name. -/
theorem Told.insert {users' : Table User User.clash} (h : Told cfg users p)
    (hinsert : users.insert? user = some users')
    (hrival : ∀ claim ∈ claimed cfg p, claim.1 = user.email → claim.2 = some user.username) :
    Told cfg users' p := by
  refine ⟨h.1, fun claim hclaim => ?_⟩
  by_cases hemail : claim.1 = user.email
  · exact Or.inr ⟨user.username, hrival claim hclaim hemail, user,
      (Table.mem_insert? hinsert).mpr (Or.inr rfl), rfl⟩
  · rcases h.2 claim hclaim with hfree | ⟨name, hname, u, hu, htaken⟩
    · refine Or.inl fun u hu => ?_
      rcases (Table.mem_insert? hinsert).mp hu with hu | rfl
      · exact hfree u hu
      · exact Ne.symm hemail
    · exact Or.inr ⟨name, hname, u, (Table.mem_insert? hinsert).mpr (Or.inl hu), htaken⟩

end

/-! ## Runs -/

def EmailsDistinct (users : Table User User.clash) : Prop :=
  users.rows.Pairwise fun a b => a.email ≠ b.email

theorem EmailsDistinct.insert {users users' : Table User User.clash} {user : User}
    (h : EmailsDistinct users) (hinsert : users.insert? user = some users')
    (hfree : Free users user.email (some user.username)) : EmailsDistinct users' := by
  rcases hfree with hfree | ⟨name, hname, u, hu, htaken⟩
  · unfold EmailsDistinct
    rw [Table.insert?_rows hinsert, List.pairwise_append]
    refine ⟨h, List.pairwise_singleton .., fun u hu v hv => ?_⟩
    obtain rfl := List.mem_singleton.mp hv
    exact hfree u hu
  · obtain rfl := Option.some.inj hname
    have hclash := Table.not_clash_of_insert? hinsert hu
    simp [User.clash, htaken] at hclash

theorem EmailsDistinct.lookup {users : Table User User.clash} (h : EmailsDistinct users)
    (text : Text) (email : String) :
    PasswordResetService.userByEmail text users email ≠ .error .multipleObjectsReturned := by
  have hpairwise : (users.filter (·.email == text.lower (strip email))).Pairwise
      fun a b => a.email ≠ b.email := h.sublist List.filter_sublist
  have hall : ∀ u ∈ users.filter (·.email == text.lower (strip email)),
      u.email = text.lower (strip email) :=
    fun u hu => beq_iff_eq.mp (Table.mem_filter.mp hu).2
  unfold PasswordResetService.userByEmail
  generalize users.filter (·.email == text.lower (strip email)) = rows at hpairwise hall
  match rows with
  | [] => exact nofun
  | [_] => exact nofun
  | u :: v :: _ =>
      have hne := List.rel_of_pairwise_cons hpairwise List.mem_cons_self
      have hu := hall u List.mem_cons_self
      have hv := hall v (List.mem_cons_of_mem _ List.mem_cons_self)
      exact absurd (hu.trans hv.symm) hne

section

variable {cfg : UserConfig} {c₀ c : Conf ι} {ls : List (ι × Bool)}

theorem keeps (cfg : UserConfig) :
    Threads.Keeps (ι := ι) (Threads.ofNext (next cfg)) (Unrivalled cfg)
      (fun s => EmailsDistinct s.users) (fun _ s p => Told cfg s.users p)
      (fun _ _ _ _ => True) where
  shared c i e s' p' hc hok hact := by
    have htold := hc.own i
    rcases next_cases hact with ⟨husers, hnext⟩ | ⟨user, -, hinsert, hclaim, hnext⟩
    · rw [husers]
      exact ⟨hc.shared, hnext htold⟩
    · exact ⟨hc.shared.insert hinsert (htold.2 _ hclaim), hnext _⟩
  other c i e s' p' j hc hok hact hj := by
    refine ⟨?_, trivial⟩
    rcases next_cases hact with ⟨husers, -⟩ | ⟨user, hinserting, hinsert, -, -⟩
    · rw [husers]
      exact hc.own j
    · exact (hc.own j).insert hinsert fun claim hclaim => hok user hinserting j hj claim hclaim

/-- In every schedule of registrations and social logins in which no row
goes in while another call has been told that its email is free, no two
users have one email, and a password reset finds one user at most. -/
theorem emails_distinct (hdistinct : EmailsDistinct c₀.shared.users)
    (hbegins : ∀ i, (∃ pk data, c₀.locals i = createStart pk data)
      ∨ ∃ new info, c₀.locals i = socialStart new info)
    (hlower : ∀ i pk data, c₀.locals i = createStart pk data →
      normalizeEmail cfg.text (cfg.text.lower (strip data.email))
        = cfg.text.lower (strip data.email))
    (hrun : Lts.Run (Lts.Guarded (Step cfg) (Unrivalled cfg)) c₀ ls c) :
    EmailsDistinct c.shared.users
      ∧ ∀ email, PasswordResetService.userByEmail cfg.text c.shared.users email
          ≠ .error .multipleObjectsReturned := by
  have hstart : Threads.Coherent (fun s : Site => EmailsDistinct s.users)
      (fun _ s p => Told cfg s.users p) (fun _ _ _ _ => True) c₀ := by
    refine ⟨hdistinct, fun i => ?_, fun _ _ _ => trivial⟩
    rcases hbegins i with ⟨pk, data, hi⟩ | ⟨new, info, hi⟩
    · rw [hi]
      exact ⟨hlower i pk data hi, nofun⟩
    · rw [hi]
      exact ⟨trivial, nofun⟩
  have hend := hstart.run (fun _ _ _ _ _ => trivial) (keeps cfg) hrun
  exact ⟨hend.shared, hend.shared.lookup cfg.text⟩

end

/-! ## A registration and a social login -/

def config : UserConfig where
  text := SecondFactor.config.text
  normalizeUsername := id
  validatePassword password _ _ :=
    if password.length < 8 then
      .error "This password is too short. It must contain at least 8 characters."
    else .ok ()
  makePassword password := "pbkdf2_sha256$" ++ password
  cleanFields user :=
    user.username.toList.all fun c => c.isAlphanum || c ∈ ['@', '.', '+', '-', '_']

def newcomer : CreateUserInput := ⟨"New@example.com", "newcomer", "correct horse", "", ""⟩

def visitor : SocialUserInfo :=
  ⟨"new@example.com", "new_example_com", .str "New", .str "User", "google", .str "1"⟩

/-- One person registers while signing in with Google. -/
def registering : Conf Bool :=
  ⟨DemoSeed.site, fun i =>
    if i then createStart 10 newcomer
    else socialStart ⟨11, "!"⟩ visitor⟩

theorem registering_distinct : EmailsDistinct registering.shared.users :=
  List.pairwise_singleton ..

theorem registering_begins (i : Bool) :
    (∃ pk data, registering.locals i = createStart pk data)
      ∨ ∃ new info, registering.locals i = socialStart new info := by
  cases i with
  | true => exact Or.inl ⟨_, _, rfl⟩
  | false => exact Or.inr ⟨_, _, rfl⟩

theorem registering_lower (i : Bool) (pk : UserId) (data : CreateUserInput)
    (h : registering.locals i = createStart pk data) :
    normalizeEmail config.text (config.text.lower (strip data.email))
      = config.text.lower (strip data.email) := by
  cases i with
  | true =>
      have hstart : createStart 10 newcomer = createStart pk data := h
      obtain ⟨-, rfl⟩ := Position.createStart.inj hstart
      decide +kernel
  | false =>
      have hstart : socialStart ⟨11, "!"⟩ visitor = createStart pk data := h
      cases hstart

/-- The registration, then the login, which finds the user. -/
def inTurn : List (Bool × Bool) :=
  [(true, true), (true, true), (true, true), (true, true), (true, true), (false, true)]

theorem distinct_in_turn :
    ∃ c, Lts.Run (Lts.Guarded (Step config) (Unrivalled config)) registering inTurn c
      ∧ EmailsDistinct c.shared.users
      ∧ ∀ email, PasswordResetService.userByEmail config.text c.shared.users email
          ≠ .error .multipleObjectsReturned := by
  have hexec : Threads.exec (next config) (Unrivalled config) registering inTurn ≠ none := by
    decide +kernel
  obtain ⟨c, hc⟩ := Option.ne_none_iff_exists'.mp hexec
  exact ⟨c, Threads.run_of_exec hc, emails_distinct registering_distinct
    registering_begins registering_lower (Threads.run_of_exec hc)⟩

/-- The login runs between the registration's check of the email and its
insert. -/
def overlapping : List (Bool × Bool) :=
  [(true, true), (true, true), (false, true), (false, true), (false, true), (true, true),
    (true, true)]

/-- Two users with one email: the next password reset raises. -/
theorem email_registered_twice :
    ¬ ∀ (cfg : UserConfig) (c₀ c : Conf Bool) (ls : List (Bool × Bool)),
      EmailsDistinct c₀.shared.users →
      (∀ i, (∃ pk data, c₀.locals i = createStart pk data)
        ∨ ∃ new info, c₀.locals i = socialStart new info) →
      Lts.Run (Step cfg) c₀ ls c →
      EmailsDistinct c.shared.users
        ∧ ∀ email, PasswordResetService.userByEmail cfg.text c.shared.users email
            ≠ .error .multipleObjectsReturned := by
  intro hall
  have hexec : (Threads.exec (next config) (fun _ _ => True) registering overlapping).map
      (fun c => PasswordResetService.userByEmail config.text c.shared.users "new@example.com")
      = some (.error .multipleObjectsReturned) := by decide +kernel
  obtain ⟨c, hc, hfound⟩ := Option.map_eq_some_iff.mp hexec
  have hrun := (Threads.run_of_exec hc).mono fun _ _ _ hstep => hstep.1
  exact (hall config registering c overlapping registering_distinct registering_begins
    hrun).2 _ hfound

end AccountRace

end SaasKit
