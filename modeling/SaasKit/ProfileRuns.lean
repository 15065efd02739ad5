import SaasKit.ProfileView
import SaasKit.SecondFactor

/-!
# Profiles, whoever edits them

Requests for profiles take turns in any order. Whatever the order, what is
stored stays valid, and each row is written by requests of its own user
alone, the user's files included: they are all in a directory that no other
user's row names (`profiles_confined`).
-/

namespace SaasKit

namespace ProfileRuns

open ProfileView UserProfileSerializer

abbrev Conf (ι : Type) := Threads.Conf ι ProfileSite Position

/-- One access of one request. -/
def Step {ι : Type} (cfg : ProfileConfig) : Conf ι → ι × Access → Conf ι → Prop :=
  Threads.step (Threads.ofNext (next cfg))

/-! ## What is stored -/

/-- A file among the user's avatars. -/
def Owned (user : UserId) (name : String) : Prop := ∃ rest, name = directory user ++ rest

structure Valid (cfg : ProfileConfig) (row : UserProfile) : Prop where
  bio : row.bio.length ≤ 500
  phone : row.phone.length ≤ 32
  timezone : row.timezone.length ≤ 64
  known : row.timezone = "" ∨ row.timezone ∈ cfg.availableTimezones
  avatar : ∀ name, row.avatar = some name → Owned row.user name

/-- Changes that keep the user's row valid. -/
structure Writable (cfg : ProfileConfig) (user : UserId) (changes : Changes String) : Prop where
  bio : ∀ text, changes.bio = some text → text.length ≤ 500
  phone : ∀ text, changes.phone = some text → text.length ≤ 32
  timezone : ∀ text, changes.timezone = some text → text.length ≤ 64
  known : ∀ text, changes.timezone = some text → text = "" ∨ text ∈ cfg.availableTimezones
  avatar : ∀ name, changes.avatar = some (some name) → Owned user name

/-- Whose profile a request is about, until it is answered. -/
def concerns : Position → Option UserId
  | .start req => some req.user
  | .updating row _ | .deleting row | .ready row _ | .removed row => some row.user
  | .done _ => none

section

variable {ι : Type} {cfg : ProfileConfig} {s s' : ProfileSite} {p p' : Position} {e : Access}
  {row : UserProfile} {changes : Changes Upload} {changes' : Changes String} {user v : UserId}
  {name hex : String} {c c' c₀ : Conf ι} {l : ι × Access} {ls : List (ι × Access)}
  {data : List (String × Part)}

/-- The directories of two users have nothing in common. -/
theorem owned_unique (h : Owned user name) (h' : Owned v name) : user = v := by
  obtain ⟨rest, rfl⟩ := h
  obtain ⟨rest', heq⟩ := h'
  have hplain : ∀ n : UserId, '/' ∉ (toString n).toList := fun n hslash =>
    absurd (isDigit_of_mem_toString hslash) (by decide)
  have hchars := congrArg String.toList heq
  simp only [directory, String.toList_append, List.append_assoc] at hchars
  have hdigits := eq_of_separator (hplain user) (hplain v) (List.append_cancel_left hchars)
  exact toString_nat_inj (String.toList_inj.mp hdigits.1)

/-! ## Validated data -/

theorem textErrors_nil {maxLength : Nat} {value : String} (h : textErrors maxLength value = []) :
    value.length ≤ maxLength := by
  by_contra hlong
  rw [textErrors, if_pos (Nat.lt_of_not_le hlong)] at h
  cases h

theorem charField_ok {maxLength : Nat} {part : Part} {value : String}
    (h : UserProfileSerializer.charField maxLength part = .ok value) :
    value.length ≤ maxLength := by
  cases part with
  | file _ => cases h
  | value data =>
      unfold UserProfileSerializer.charField at h
      simp only at h
      split at h
      · cases h
      · split at h
        · rename_i hnone
          obtain rfl := Except.ok.inj h
          exact textErrors_nil hnone
        · cases h

theorem validateTimezone_ok {value value' : String} (h : validateTimezone cfg value = .ok value') :
    value' = value ∧ (value = "" ∨ value ∈ cfg.availableTimezones) := by
  unfold validateTimezone at h
  split at h
  · cases h
  · rename_i hknown
    refine ⟨(Except.ok.inj h).symm, ?_⟩
    by_contra hunknown
    exact hknown (not_or.mp hunknown)

theorem sent_ok {α : Type} {field : Part → Except (List String) α} {value : α}
    (h : sent data name field = .ok (some value)) : ∃ part, field part = .ok value := by
  unfold sent at h
  split at h
  · cases h
  · rename_i part _
    cases hfield : field part with
    | error errors => rw [hfield] at h; cases h
    | ok found =>
        rw [hfield] at h
        exact ⟨part, hfield.trans (congrArg _ (Option.some.inj (Except.ok.inj h)))⟩

theorem isValid_ok (h : isValid cfg data = .ok changes) :
    sent data "bio" (UserProfileSerializer.charField 500) = .ok changes.bio
      ∧ sent data "phone" (UserProfileSerializer.charField 32) = .ok changes.phone
      ∧ (sent data "timezone" fun part =>
            (UserProfileSerializer.charField 64 part).bind (validateTimezone cfg))
          = .ok changes.timezone := by
  unfold isValid at h
  simp only at h
  split at h
  · rename_i hbio hphone htimezone _
    obtain rfl := Except.ok.inj h
    exact ⟨hbio, hphone, htimezone⟩
  · cases h

/-- Validated data keeps a row valid, wherever its file is stored. -/
theorem writable_of_stored (hvalid : isValid cfg data = .ok changes)
    (hstore : storeAvatar cfg s user hex changes = some (s', changes')) :
    Writable cfg user changes' := by
  obtain ⟨hbio, hphone, htimezone⟩ := isValid_ok hvalid
  obtain ⟨-, hbio', hphone', htimezone', havatar⟩ := storeAvatar_some hstore
  have hzone : ∀ text, changes'.timezone = some text →
      text.length ≤ 64 ∧ (text = "" ∨ text ∈ cfg.availableTimezones) := by
    intro text htext
    rw [← htimezone', htext] at htimezone
    obtain ⟨part, hpart⟩ := sent_ok htimezone
    obtain ⟨value, hvalue, hknown⟩ := except_bind_ok.mp hpart
    obtain ⟨rfl, hknown⟩ := validateTimezone_ok hknown
    exact ⟨charField_ok hvalue, hknown⟩
  refine ⟨fun text htext => ?_, fun text htext => ?_, fun text htext => (hzone text htext).1,
    fun text htext => (hzone text htext).2, fun name hname => ?_⟩
  · rw [← hbio', htext] at hbio
    exact charField_ok (sent_ok hbio).choose_spec
  · rw [← hphone', htext] at hphone
    exact charField_ok (sent_ok hphone).choose_spec
  · rcases havatar with ⟨-, hnone⟩ | ⟨filename, content, hstored, -⟩
    · exact absurd hname (hnone name)
    · rw [hstored] at hname
      obtain rfl := Option.some.inj (Option.some.inj hname)
      exact ⟨_, rfl⟩

theorem valid_blank (hutc : "UTC" ∈ cfg.availableTimezones) : Valid cfg (blank user) where
  bio := Nat.zero_le _
  phone := Nat.zero_le _
  timezone := show "UTC".length ≤ 64 by decide
  known := Or.inr hutc
  avatar := nofun

theorem valid_update (hrow : Valid cfg row) (h : Writable cfg row.user changes') :
    Valid cfg (UserProfileSerializer.update changes' row) where
  bio := by
    cases hbio : changes'.bio with
    | none => simpa [UserProfileSerializer.update, hbio] using hrow.bio
    | some text => simpa [UserProfileSerializer.update, hbio] using h.bio text hbio
  phone := by
    cases hphone : changes'.phone with
    | none => simpa [UserProfileSerializer.update, hphone] using hrow.phone
    | some text => simpa [UserProfileSerializer.update, hphone] using h.phone text hphone
  timezone := by
    cases hzone : changes'.timezone with
    | none => simpa [UserProfileSerializer.update, hzone] using hrow.timezone
    | some text => simpa [UserProfileSerializer.update, hzone] using h.timezone text hzone
  known := by
    cases hzone : changes'.timezone with
    | none => simpa [UserProfileSerializer.update, hzone] using hrow.known
    | some text => simpa [UserProfileSerializer.update, hzone] using h.known text hzone
  avatar := fun name hname => by
    cases havatar : changes'.avatar with
    | none =>
        simp only [UserProfileSerializer.update, havatar, Option.getD_none] at hname
        exact hrow.avatar name hname
    | some avatar =>
        simp only [UserProfileSerializer.update, havatar, Option.getD_some] at hname
        exact h.avatar name (hname ▸ havatar)

/-! ## Every order of the accesses -/

/-- What a request carries fits the row it was loaded from. -/
def Sound (cfg : ProfileConfig) : Position → Prop
  | .updating row _ | .deleting row | .removed row => Valid cfg row
  | .ready row changes => Valid cfg row ∧ Writable cfg row.user changes
  | .start _ | .done _ => True

def AllValid (cfg : ProfileConfig) (s : ProfileSite) : Prop :=
  ∀ user row, getProfile s user = some row → Valid cfg row

theorem getProfile_congr (h : s'.userProfiles = s.userProfiles) :
    getProfile s' user = getProfile s user := by
  unfold getProfile
  rw [h]

theorem getProfile_erased (s : ProfileSite) (u : User) :
    getProfile { s with toAccountSite := (GDPRService.hardDelete s.toAccountSite u).2 } v
      = if v = u.pk then none else getProfile s v := by
  have hkey := Table.find?_key_delete (t := s.userProfiles) (k := v) (q := (· == u.pk))
  simp only [beq_iff_eq] at hkey
  exact hkey

theorem sound_loaded (req : ProfileRequest) (h : Valid cfg row) : Sound cfg (req.loaded row) := by
  rcases loaded_cases req row with ⟨answer, hloaded⟩ | ⟨data, hloaded⟩ | hloaded
  · rw [hloaded]
    trivial
  · rw [hloaded]
    exact h
  · rw [hloaded]
    exact h

theorem valid_step (hutc : "UTC" ∈ cfg.availableTimezones) (h : Does cfg s p e s' p')
    (hs : AllValid cfg s) (hp : Sound cfg p) : AllValid cfg s' ∧ Sound cfg p' := by
  cases h with
  | quiet => exact ⟨hs, trivial⟩
  | load req row s' hload =>
      obtain ⟨hown, -, -, hrow, hnew, hrest⟩ := getOrCreate_ok hload
      have hvalid : Valid cfg row := by
        cases hold : getProfile s req.user with
        | none =>
            rw [hnew hold]
            exact valid_blank hutc
        | some old =>
            rw [hrest req.user (Or.inr (by rw [hold]; rfl))] at hrow
            exact hs req.user row hrow
      refine ⟨fun v x hx => ?_, sound_loaded req hvalid⟩
      by_cases hv : v = req.user
      · rw [hv, hrow] at hx
        exact Option.some.inj hx ▸ hvalid
      · rw [hrest v (Or.inl hv)] at hx
        exact hs v x hx
  | store row data hex changes s' changes' hvalid hstore =>
      have hsame := (storeAvatar_some hstore).1
      refine ⟨fun v x hx => hs v x ?_, hp, writable_of_stored hvalid hstore⟩
      rw [← hx]
      exact (getProfile_congr (congrArg AccountSite.userProfiles hsame)).symm
  | save row changes s' hput =>
      obtain ⟨-, -, -, hrows⟩ := putProfile_ok hput
      refine ⟨fun v x hx => ?_, trivial⟩
      rw [hrows] at hx
      split at hx
      · exact Option.some.inj hx ▸ valid_update hp.1 hp.2
      · exact hs v x hx
  | remove row => exact ⟨hs, hp⟩
  | clear row s' hsave =>
      obtain ⟨-, -, -, hrows⟩ := saveAvatar_ok hsave
      refine ⟨fun v x hx => ?_, trivial⟩
      rw [hrows] at hx
      split at hx
      · obtain ⟨old, hold, rfl⟩ := Option.map_eq_some_iff.mp hx
        exact { hs v old hold with avatar := nofun }
      · exact hs v x hx
  | erase u =>
      refine ⟨fun v x hx => ?_, trivial⟩
      rw [getProfile_erased] at hx
      split at hx
      · cases hx
      · exact hs v x hx

/-- A request stays with its user. -/
theorem concerns_step (h : Does cfg s p e s' p') :
    concerns p' = concerns p ∨ concerns p' = none := by
  cases h with
  | load req row s' hload =>
      obtain ⟨hown, -⟩ := getOrCreate_ok hload
      have hsame : concerns (.start req) = some row.user := congrArg some hown.symm
      rw [hsame]
      rcases loaded_cases req row with ⟨answer, hloaded⟩ | ⟨data, hloaded⟩ | hloaded
      · exact Or.inr (congrArg concerns hloaded)
      · exact Or.inl (congrArg concerns hloaded)
      · exact Or.inl (congrArg concerns hloaded)
  | quiet | save | clear | erase => exact Or.inr rfl
  | store | remove => exact Or.inl rfl

/-- The profile and the files of the user are as they were. -/
def Untouched (user : UserId) (s s' : ProfileSite) : Prop :=
  getProfile s' user = getProfile s user
    ∧ ∀ name, Owned user name → s'.files.get? name = s.files.get? name

/-- An access touches the user that its request is about. -/
theorem untouched_step (h : Does cfg s p e s' p') (hp : Sound cfg p)
    (hother : concerns p ≠ some user) : Untouched user s s' := by
  cases h with
  | quiet => exact ⟨rfl, fun _ _ => rfl⟩
  | load req row s' hload =>
      obtain ⟨-, -, hfiles, -, -, hrest⟩ := getOrCreate_ok hload
      refine ⟨hrest user (Or.inl fun h => hother (congrArg some h.symm)), fun name _ => ?_⟩
      rw [hfiles]
  | store row data hex changes s' changes' hvalid hstore =>
      obtain ⟨hsame, -, -, -, hfiles⟩ := storeAvatar_some hstore
      refine ⟨getProfile_congr (congrArg AccountSite.userProfiles hsame), fun name hname => ?_⟩
      rcases hfiles with ⟨hfiles, -⟩ | ⟨filename, content, -, -, hfiles⟩
      · rw [hfiles]
      · rw [hfiles, Dict.get?_put_of_ne]
        rintro rfl
        exact hother (congrArg some (owned_unique ⟨_, rfl⟩ hname))
  | save row changes s' hput =>
      obtain ⟨-, -, hfiles, hrows⟩ := putProfile_ok hput
      refine ⟨(hrows user).trans (if_neg fun h => hother (congrArg some h)), fun name _ => ?_⟩
      rw [hfiles]
  | remove row =>
      refine ⟨rfl, fun name hname => ?_⟩
      have hdelete := Dict.get?_delete (d := s.files) (k := name)
        (q := fun name => decide (row.avatar = some name))
      rw [hdelete, if_neg]
      intro hremoved
      have hown := hp.avatar name (of_decide_eq_true hremoved)
      exact hother (congrArg some (owned_unique hown hname))
  | clear row s' hsave =>
      obtain ⟨-, -, hfiles, hrows⟩ := saveAvatar_ok hsave
      refine ⟨(hrows user).trans (if_neg fun h => hother (congrArg some h)), fun name _ => ?_⟩
      rw [hfiles]
  | erase u =>
      refine ⟨?_, fun _ _ => rfl⟩
      rw [getProfile_erased, if_neg]
      rintro rfl
      exact hother rfl

/-- What holds of a deployment at all times. -/
structure Confined (cfg : ProfileConfig) (c : Conf ι) : Prop where
  valid : AllValid cfg c.shared
  sound : ∀ i, Sound cfg (c.locals i)

theorem does_of_step (h : Step cfg c l c') :
    Does cfg c.shared (c.locals l.1) l.2 c'.shared (c'.locals l.1)
      ∧ ∀ j, j ≠ l.1 → c'.locals j = c.locals j :=
  ⟨next_does h.1, h.2⟩

theorem confined_step (hutc : "UTC" ∈ cfg.availableTimezones) (hc : Confined cfg c)
    (h : Step cfg c l c') : Confined cfg c' := by
  obtain ⟨hdoes, hrest⟩ := does_of_step h
  obtain ⟨hvalid, hsound⟩ := valid_step hutc hdoes hc.valid (hc.sound l.1)
  exact ⟨hvalid, Threads.forall_locals (P := fun _ p => Sound cfg p) hrest hsound
    fun j _ => hc.sound j⟩

/-- A user whom no request is about is left alone. -/
def LeftAlone (user : UserId) (c c' : Conf ι) : Prop :=
  (∀ i, concerns (c.locals i) ≠ some user) →
    (∀ i, concerns (c'.locals i) ≠ some user) ∧ Untouched user c.shared c'.shared

theorem leftAlone_step (user : UserId) (hc : Confined cfg c) (h : Step cfg c l c') :
    LeftAlone user c c' := by
  obtain ⟨hdoes, hrest⟩ := does_of_step h
  intro hnobody
  refine ⟨Threads.forall_locals (P := fun _ p => concerns p ≠ some user) hrest ?_
    fun j _ => hnobody j, untouched_step hdoes (hc.sound l.1) (hnobody l.1)⟩
  rcases concerns_step hdoes with hsame | hnone
  · rw [hsame]
    exact hnobody l.1
  · rw [hnone]
    exact nofun

theorem leftAlone_trans {c₁ c₂ c₃ : Conf ι} (h : LeftAlone user c₁ c₂)
    (h' : LeftAlone user c₂ c₃) : LeftAlone user c₁ c₃ := by
  intro hnobody
  obtain ⟨hnobody, hrow, hfiles⟩ := h hnobody
  obtain ⟨hnobody, hrow', hfiles'⟩ := h' hnobody
  exact ⟨hnobody, hrow'.trans hrow, fun name hname =>
    (hfiles' name hname).trans (hfiles name hname)⟩

/-- The requests of a deployment before the first access. -/
def Begins (c : Conf ι) : Prop := ∀ i, ∃ req, c.locals i = .start req

theorem confined_start (hs : AllValid cfg c.shared) (hc : Begins c) : Confined cfg c :=
  ⟨hs, fun i => by
    obtain ⟨req, hreq⟩ := hc i
    rw [hreq]
    trivial⟩

end

/-! ## Confinement -/

/-- Whatever the order of the accesses, the rows stay valid, each with its
file among its user's, and a user without a request of their own finds row and
files as they were. -/
theorem profiles_confined {ι : Type} {cfg : ProfileConfig} {c₀ c : Conf ι}
    {ls : List (ι × Access)} (hutc : "UTC" ∈ cfg.availableTimezones)
    (hvalid : AllValid cfg c₀.shared) (hstart : Begins c₀) (h : Lts.Run (Step cfg) c₀ ls c) :
    AllValid cfg c.shared
      ∧ ∀ user, (∀ i req, c₀.locals i = .start req → req.user ≠ user) →
          Untouched user c₀.shared c.shared := by
  have hconfined := h.invariant (fun c l c' hc hstep => confined_step hutc hc hstep)
    (confined_start hvalid hstart)
  refine ⟨hconfined.valid, fun user hother => ?_⟩
  have halone := h.relates (I := Confined cfg) (R := LeftAlone user)
    (fun c hnobody => ⟨hnobody, rfl, fun _ _ => rfl⟩) (fun _ _ _ => leftAlone_trans)
    (fun c l c' hc hstep => ⟨confined_step hutc hc hstep, leftAlone_step user hc hstep⟩)
    (confined_start hvalid hstart)
  refine (halone.2 fun i => ?_).2
  obtain ⟨req, hreq⟩ := hstart i
  rw [hreq]
  exact fun h => hother i req hreq (Option.some.inj h)

/-! ## Two users at their profiles -/

def config : ProfileConfig where
  text := SecondFactor.config.text
  imageField file := if file.content = [] then ["The submitted file is empty."] else []
  availableTimezones := ["Asia/Dhaka", "UTC"]

def guestProfile : UserProfile :=
  ⟨DemoSeed.guest.pk, some "avatars/2/77aa.png", "", "+880 2 000 000", "UTC"⟩

/-- The guest has a profile with a picture. -/
def site : ProfileSite where
  toAccountSite :=
    { DemoSeed.twoAccounts with
      userProfiles := ⟨[guestProfile], List.pairwise_singleton ..⟩
      profile_fk := by decide }
  files := ⟨[("avatars/2/77aa.png", [137, 80, 78, 71])], List.pairwise_singleton ..⟩

/-- The admin sends a picture and then takes it down, the guest moves. -/
def edits : Fin 3 → ProfileRequest
  | 0 => .update DemoSeed.admin.pk
      [("bio", .value (.str " Runs the demo. ")), ("avatar", .file ⟨"Me.PNG", [137, 80, 78, 71]⟩)]
  | 1 => .update DemoSeed.guest.pk [("timezone", .value (.str "Asia/Dhaka"))]
  | 2 => .delete DemoSeed.admin.pk

def start : Conf (Fin 3) := ⟨site, fun i => .start (edits i)⟩

theorem start_begins : Begins start := fun i => ⟨edits i, rfl⟩

theorem start_profile {user : UserId} {row : UserProfile}
    (h : getProfile start.shared user = some row) : row = guestProfile :=
  List.mem_singleton.mp (getProfile_some.mp h).1

theorem start_valid : AllValid config start.shared := by
  intro user row hrow
  obtain rfl := start_profile hrow
  refine ⟨by decide, by decide, by decide, Or.inr (by decide), fun name hname => ?_⟩
  obtain rfl := Option.some.inj hname
  exact ⟨"77aa.png", by decide⟩

def picture : Changes String :=
  ⟨some "Runs the demo.", none, none, some (some "avatars/1/9f3c.png")⟩

def moved : Changes String := ⟨none, none, some "Asia/Dhaka", none⟩

/-- The guest's request comes in between; the admin's follow each other. -/
def inTurn : List (Fin 3 × Access) :=
  [(0, .load), (1, .load), (0, .store "9f3c"), (1, .store "b2d4"),
    (0, .save DemoSeed.admin.pk picture), (2, .load), (2, .remove),
    (1, .save DemoSeed.guest.pk moved), (2, .clear DemoSeed.admin.pk)]

theorem profiles_confined_inTurn :
    ∃ c, Lts.Run (Step config) start inTurn c ∧ AllValid config c.shared
      ∧ ∀ user, (∀ i req, start.locals i = .start req → req.user ≠ user) →
          Untouched user start.shared c.shared := by
  have hexec : Threads.exec (next config) (fun _ _ => True) start inTurn ≠ none := by decide
  obtain ⟨c, hc⟩ := Option.ne_none_iff_exists'.mp hexec
  have hrun := (Threads.run_of_exec hc).mono fun _ _ _ hstep => hstep.1
  exact ⟨c, hrun, profiles_confined (by decide) start_valid start_begins hrun⟩

end ProfileRuns

end SaasKit
