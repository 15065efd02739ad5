import SaasKit.GdprService
import SaasKit.Lib.Interleave
import SaasKit.SocialAuthService

/-!
# The profile: `UserProfileSerializer` and `ProfileView`

A request for the profile reads the row, makes it if it is not there, and
writes it back: `PATCH` and `PUT` the whole of it, `DELETE` the avatar only.
Nothing holds the row in between, and an avatar has its file in the storage
besides, so a request is a `Position` that takes one access to the two at a
time (`next`), with hard deletions of accounts among the requests.

Outside a form a text may be any JSON value, and an avatar any value at all.
Pillow's opinion of a file is a parameter.
-/

namespace SaasKit

structure Upload where
  name : String
  content : List UInt8
  deriving DecidableEq, Repr

/-- What a request sends under a field's name; the empty avatar of a form is a
`null`. -/
inductive Part where
  | value (value : Json)
  | file (file : Upload)

/-- `imageField` is what `serializers.ImageField` has against a file. -/
structure ProfileConfig where
  text : Text
  imageField : Upload → List String
  availableTimezones : List String

/-- The accounts and the files of the default storage. -/
structure ProfileSite extends AccountSite where
  files : Dict String (List UInt8)

namespace UserProfileSerializer

/-- The fields a request writes, the avatar as `α`. -/
structure Changes (α : Type) where
  bio : Option String
  phone : Option String
  timezone : Option String
  avatar : Option (Option α)
  deriving DecidableEq, Repr

/-! ## Fields -/

/-- `str(data)` of what `CharField` takes. -/
def toText : Json → Except String String
  | .str s => .ok s
  | .num n => .ok (toString n)
  | .null => .error "This field may not be null."
  | _ => .error "Not a valid string."

/-- The validators of a `CharField(max_length=...)`. -/
def textErrors (maxLength : Nat) (value : String) : List String :=
  (if maxLength < value.length then
    ["Ensure this field has no more than " ++ toString maxLength ++ " characters."] else [])
  ++ if value.toList.contains '\x00' then ["Null characters are not allowed."] else []

/-- `CharField(max_length=..., allow_blank=True)`, which trims. -/
def charField (maxLength : Nat) : Part → Except (List String) String
  | .file _ => .error ["Not a valid string."]
  | .value data =>
      match toText data with
      | .error e => .error [e]
      | .ok text =>
          if textErrors maxLength (strip text) = [] then .ok (strip text)
          else .error (textErrors maxLength (strip text))

def validateTimezone (cfg : ProfileConfig) (value : String) : Except (List String) String :=
  if value ≠ "" ∧ value ∉ cfg.availableTimezones then
    .error ["Unknown timezone: " ++ cfg.text.repr value]
  else .ok value

/-- `ImageField(max_length=100, allow_null=True)`. -/
def avatarField (cfg : ProfileConfig) : Part → Except (List String) (Option Upload)
  | .value .null => .ok none
  | .value _ =>
      .error ["The submitted data was not a file. Check the encoding type on the form."]
  | .file file => if cfg.imageField file = [] then .ok (some file) else .error (cfg.imageField file)

/-! ## The serializer -/

/-- A field that is not sent is left alone, by `PUT` as by `PATCH`. -/
def sent {α : Type} (data : List (String × Part)) (name : String)
    (field : Part → Except (List String) α) : Except (List String) (Option α) :=
  match data.lookup name with
  | none => .ok none
  | some part => (field part).map some

def errorsOf {α : Type} (name : String) : Except (List String) α → List (String × List String)
  | .ok _ => []
  | .error errors => [(name, errors)]

/-- `is_valid`, with the validated data or the errors under their fields. -/
def isValid (cfg : ProfileConfig) (data : List (String × Part)) :
    Except (List (String × List String)) (Changes Upload) :=
  let bio := sent data "bio" (charField 500)
  let phone := sent data "phone" (charField 32)
  let timezone := sent data "timezone" fun part => (charField 64 part).bind (validateTimezone cfg)
  let avatar := sent data "avatar" (avatarField cfg)
  match bio, phone, timezone, avatar with
  | .ok bio, .ok phone, .ok timezone, .ok avatar => .ok ⟨bio, phone, timezone, avatar⟩
  | _, _, _, _ => .error (errorsOf "bio" bio ++ errorsOf "phone" phone
      ++ errorsOf "timezone" timezone ++ errorsOf "avatar" avatar)

/-- `update`: the attributes set on the instance. -/
def update (changes : Changes String) (row : UserProfile) : UserProfile where
  user := row.user
  avatar := changes.avatar.getD row.avatar
  bio := changes.bio.getD row.bio
  phone := changes.phone.getD row.phone
  timezone := changes.timezone.getD row.timezone

end UserProfileSerializer

namespace ProfileView

open UserProfileSerializer

/-! ## The storage -/

/-- `filename.rsplit(".", 1)[-1].lower()`. -/
def extension (text : Text) (filename : String) : String :=
  text.lower (String.ofList (filename.toList.reverse.takeWhile (· ≠ '.')).reverse)

/-- Where a user's avatars are. -/
def directory (user : UserId) : String := "avatars/" ++ toString user ++ "/"

/-- `_avatar_upload_path`. `hex` has the digits of the random name, with what
the storage puts behind them where that name is taken. -/
def avatarUploadPath (text : Text) (user : UserId) (filename hex : String) : String :=
  directory user ++ (hex ++ ("." ++ extension text filename))

/-! ## The row -/

/-- The columns' defaults. -/
def blank (user : UserId) : UserProfile := ⟨user, none, "", "", "UTC"⟩

def getProfile (s : ProfileSite) (user : UserId) : Option UserProfile :=
  s.userProfiles.find? fun row => decide (row.user = user)

/-- An insert or an update of a whole row; a row of nobody is refused. -/
def putProfile (s : ProfileSite) (row : UserProfile) : Except Exc ProfileSite :=
  if h : ∃ u ∈ s.users.rows, u.pk = row.user then
    .ok { s with
      userProfiles := s.userProfiles.put row
      profile_fk := fun row' hrow' => by
        rcases Table.mem_put.mp hrow' with rfl | ⟨hrow', -⟩
        · exact h
        · exact s.profile_fk row' hrow' }
  else .error .integrityError

/-- `UserProfile.objects.get_or_create(user=...)`. -/
def getOrCreate (s : ProfileSite) (user : UserId) : Except Exc (UserProfile × ProfileSite) :=
  match getProfile s user with
  | some row => .ok (row, s)
  | none => (putProfile s (blank user)).map fun s => (blank user, s)

def clearAvatar : Table.Rewrite (sameKey UserProfile.user) :=
  ⟨fun row => { row with avatar := none }, fun _ _ => rfl, fun _ _ => rfl⟩

/-- `save(update_fields=["avatar", "updated_at"])`. -/
def saveAvatar (s : ProfileSite) (user : UserId) : Except Exc ProfileSite :=
  if (getProfile s user).isSome then
    .ok { s with
      userProfiles := s.userProfiles.modify (·.user == user) clearAvatar
      profile_fk := fun row' hrow' => by
        obtain ⟨row, hrow, rfl⟩ := Table.mem_modify.mp hrow'
        split
        · exact s.profile_fk row hrow
        · exact s.profile_fk row hrow }
  else .error .databaseError

/-! ## Requests -/

/-- `erase` is a hard deletion of the account; `data` comes by `PATCH` or
`PUT`. -/
inductive ProfileRequest where
  | get (user : UserId)
  | update (user : UserId) (data : List (String × Part))
  | delete (user : UserId)
  | erase (user : User)

def ProfileRequest.user : ProfileRequest → UserId
  | .get user | .update user _ | .delete user => user
  | .erase user => user.pk

inductive Answer where
  | profile (row : UserProfile)
  | invalid (errors : List (String × List String))
  | noContent
  | raised (e : Exc)

/-- How far a request has come. -/
inductive Position where
  | start (req : ProfileRequest)
  | updating (row : UserProfile) (data : List (String × Part))
  | deleting (row : UserProfile)
  | ready (row : UserProfile) (changes : Changes String)
  | removed (row : UserProfile)
  | done (answer : Answer)

/-- The access a request takes: `store` has the random name of a file,
`save` and `clear` name what they write. -/
inductive Access where
  | load
  | refuse
  | store (hex : String)
  | save (user : UserId) (changes : Changes String)
  | remove
  | clear (user : UserId)
  | erase (user : UserId)
  | fail

/-- The row is loaded: what comes next. -/
def ProfileRequest.loaded (row : UserProfile) : ProfileRequest → Position
  | .get _ => .done (.profile row)
  | .update _ data => .updating row data
  | .delete _ => if row.avatar.isSome then .deleting row else .done .noContent
  | .erase _ => .done .noContent

/-- The upload of validated data goes into the storage under a free name. -/
def storeAvatar (cfg : ProfileConfig) (s : ProfileSite) (user : UserId) (hex : String)
    (changes : Changes Upload) : Option (ProfileSite × Changes String) :=
  match changes.avatar with
  | some (some file) =>
      let name := avatarUploadPath cfg.text user file.name hex
      if (s.files.get? name).isSome then none
      else some ({ s with files := s.files.put (name, file.content) },
        { changes with avatar := some (some name) })
  | some none => some (s, { changes with avatar := some none })
  | none => some (s, { changes with avatar := none })

/-- One access. An exception leaves the database as it is. -/
def next (cfg : ProfileConfig) : Access → ProfileSite → Position → Option (ProfileSite × Position)
  | .erase pk, s, .start (.erase user) =>
      if pk = user.pk then
        some ({ s with toAccountSite := (GDPRService.hardDelete s.toAccountSite user).2 },
          .done .noContent)
      else none
  | .load, s, .start req =>
      match req, getOrCreate s req.user with
      | .erase _, _ => none
      | _, .ok (row, s) => some (s, req.loaded row)
      | _, .error _ => none
  | .refuse, s, .updating _ data =>
      match isValid cfg data with
      | .error errors => some (s, .done (.invalid errors))
      | .ok _ => none
  | .store hex, s, .updating row data =>
      match isValid cfg data with
      | .error _ => none
      | .ok changes => (storeAvatar cfg s row.user hex changes).map fun (s, changes) =>
          (s, .ready row changes)
  | .save user changes, s, .ready row changes' =>
      if user = row.user ∧ changes = changes' then
        match putProfile s (UserProfileSerializer.update changes row) with
        | .ok s => some (s, .done (.profile (UserProfileSerializer.update changes row)))
        | .error _ => none
      else none
  | .remove, s, .deleting row =>
      some ({ s with files := s.files.delete fun e => decide (row.avatar = some e.1) },
        .removed row)
  | .clear user, s, .removed row =>
      if user = row.user then
        match saveAvatar s row.user with
        | .ok s => some (s, .done .noContent)
        | .error _ => none
      else none
  | .fail, s, .start (.get user) | .fail, s, .start (.update user _)
  | .fail, s, .start (.delete user) =>
      match getOrCreate s user with
      | .error e => some (s, .done (.raised e))
      | .ok _ => none
  | .fail, s, .ready row changes =>
      match putProfile s (UserProfileSerializer.update changes row) with
      | .error e => some (s, .done (.raised e))
      | .ok _ => none
  | .fail, s, .removed row =>
      match saveAvatar s row.user with
      | .error e => some (s, .done (.raised e))
      | .ok _ => none
  | _, _, _ => none

/-! ## What the accesses do to the rows and the files -/

section

variable {cfg : ProfileConfig} {s s' : ProfileSite} {user v : UserId} {row row' : UserProfile}
  {changes : Changes Upload} {changes' : Changes String} {hex name : String}

theorem getProfile_some : getProfile s user = some row ↔ row ∈ s.userProfiles ∧ row.user = user :=
  Table.find?_key

theorem putProfile_ok (h : putProfile s row = .ok s') :
    (∃ u ∈ s.users, u.pk = row.user) ∧ s'.users = s.users ∧ s'.files = s.files
      ∧ ∀ v, getProfile s' v = if row.user = v then some row else getProfile s v := by
  unfold putProfile at h
  split at h
  · rename_i huser
    obtain rfl := Except.ok.inj h
    exact ⟨huser, rfl, rfl, fun v => Table.find?_key_put⟩
  · cases h

theorem getOrCreate_ok (h : getOrCreate s user = .ok (row, s')) :
    row.user = user ∧ s'.users = s.users ∧ s'.files = s.files ∧ getProfile s' user = some row
      ∧ (getProfile s user = none → row = blank user)
      ∧ ∀ v, v ≠ user ∨ (getProfile s user).isSome → getProfile s' v = getProfile s v := by
  unfold getOrCreate at h
  split at h
  · rename_i found hfound
    obtain ⟨rfl, rfl⟩ := Prod.mk.inj (Except.ok.inj h)
    refine ⟨(getProfile_some.mp hfound).2, rfl, rfl, hfound, fun hnone => ?_, fun _ _ => rfl⟩
    rw [hnone] at hfound
    cases hfound
  · rename_i hnone
    cases hput : putProfile s (blank user) with
    | error e => rw [hput] at h; cases h
    | ok s₁ =>
        rw [hput] at h
        obtain ⟨rfl, rfl⟩ := Prod.mk.inj (Except.ok.inj h)
        obtain ⟨-, husers, hfiles, hrows⟩ := putProfile_ok hput
        refine ⟨rfl, husers, hfiles, (hrows user).trans (if_pos rfl), fun _ => rfl, ?_⟩
        rintro v (hv | hsome)
        · exact (hrows v).trans (if_neg fun h => hv h.symm)
        · rw [hnone] at hsome
          cases hsome

theorem saveAvatar_ok (h : saveAvatar s user = .ok s') :
    (getProfile s user).isSome = true ∧ s'.users = s.users ∧ s'.files = s.files
      ∧ ∀ v, getProfile s' v =
        if user = v then (getProfile s v).map fun row => { row with avatar := none }
        else getProfile s v := by
  unfold saveAvatar at h
  split at h
  · rename_i hsome
    obtain rfl := Except.ok.inj h
    refine ⟨hsome, rfl, rfl, fun v => Option.ext fun row => ?_⟩
    rw [getProfile_some, Table.mem_modify]
    split
    · rename_i hv
      simp only [Option.map_eq_some_iff, getProfile_some]
      constructor
      · rintro ⟨⟨x, hx, rfl⟩, hrow⟩
        by_cases hown : x.user = user
        · rw [if_pos (beq_iff_eq.mpr hown)]
          exact ⟨x, ⟨hx, hown.trans hv⟩, rfl⟩
        · rw [if_neg fun h => hown (beq_iff_eq.mp h)] at hrow
          exact absurd (hrow.trans hv.symm) hown
      · rintro ⟨x, ⟨hx, hown⟩, rfl⟩
        exact ⟨⟨x, hx, (if_pos (beq_iff_eq.mpr (hown.trans hv.symm))).symm⟩, hown⟩
    · rename_i hv
      rw [getProfile_some]
      constructor
      · rintro ⟨⟨x, hx, rfl⟩, hrow⟩
        by_cases hown : x.user = user
        · rw [if_pos (beq_iff_eq.mpr hown)] at hrow
          exact absurd (hown.symm.trans hrow) hv
        · rw [if_neg fun h => hown (beq_iff_eq.mp h)] at hrow ⊢
          exact ⟨hx, hrow⟩
      · rintro ⟨hrow, rfl⟩
        exact ⟨⟨row, hrow, (if_neg fun h => hv (beq_iff_eq.mp h).symm).symm⟩, rfl⟩
  · cases h

theorem saveAvatar_error {e : Exc} (h : saveAvatar s user = .error e) :
    getProfile s user = none := by
  unfold saveAvatar at h
  split at h
  · cases h
  · rename_i hnone
    exact Option.not_isSome_iff_eq_none.mp hnone

/-- A file goes under a name that was free. -/
theorem storeAvatar_some (h : storeAvatar cfg s user hex changes = some (s', changes')) :
    s'.toAccountSite = s.toAccountSite
      ∧ changes'.bio = changes.bio ∧ changes'.phone = changes.phone
      ∧ changes'.timezone = changes.timezone
      ∧ (s'.files = s.files ∧ (∀ name, changes'.avatar ≠ some (some name))
        ∨ ∃ filename content, let name := avatarUploadPath cfg.text user filename hex
            changes'.avatar = some (some name) ∧ s.files.get? name = none
              ∧ s'.files = s.files.put (name, content)) := by
  unfold storeAvatar at h
  split at h
  · rename_i file hfile
    simp only at h
    split at h
    · cases h
    · rename_i hfree
      obtain ⟨rfl, rfl⟩ := Prod.mk.inj (Option.some.inj h)
      exact ⟨rfl, rfl, rfl, rfl, Or.inr ⟨file.name, file.content, rfl,
        Option.not_isSome_iff_eq_none.mp hfree, rfl⟩⟩
  · obtain ⟨rfl, rfl⟩ := Prod.mk.inj (Option.some.inj h)
    exact ⟨rfl, rfl, rfl, rfl, Or.inl ⟨rfl, nofun⟩⟩
  · obtain ⟨rfl, rfl⟩ := Prod.mk.inj (Option.some.inj h)
    exact ⟨rfl, rfl, rfl, rfl, Or.inl ⟨rfl, nofun⟩⟩

end

theorem loaded_cases (req : ProfileRequest) (row : UserProfile) :
    (∃ answer, req.loaded row = .done answer) ∨ (∃ data, req.loaded row = .updating row data)
      ∨ req.loaded row = .deleting row := by
  cases req with
  | get _ => exact Or.inl ⟨_, rfl⟩
  | update _ data => exact Or.inr (Or.inl ⟨data, rfl⟩)
  | delete _ =>
      simp only [ProfileRequest.loaded]
      split
      · exact Or.inr (Or.inr rfl)
      · exact Or.inl ⟨_, rfl⟩
  | erase _ => exact Or.inl ⟨_, rfl⟩

/-- An access by what it does. -/
inductive Does (cfg : ProfileConfig) (s : ProfileSite) :
    Position → Access → ProfileSite → Position → Prop
  | quiet (p : Position) (e : Access) (answer : Answer) :
      e = .refuse ∨ e = .fail → (∀ row, p = .removed row → getProfile s row.user = none) →
      Does cfg s p e s (.done answer)
  | load (req : ProfileRequest) (row : UserProfile) (s' : ProfileSite) :
      getOrCreate s req.user = .ok (row, s') → Does cfg s (.start req) .load s' (req.loaded row)
  | store (row : UserProfile) (data : List (String × Part)) (hex : String)
      (changes : Changes Upload) (s' : ProfileSite) (changes' : Changes String) :
      isValid cfg data = .ok changes →
      storeAvatar cfg s row.user hex changes = some (s', changes') →
      Does cfg s (.updating row data) (.store hex) s' (.ready row changes')
  | save (row : UserProfile) (changes : Changes String) (s' : ProfileSite) :
      putProfile s (UserProfileSerializer.update changes row) = .ok s' →
      Does cfg s (.ready row changes) (.save row.user changes) s'
        (.done (.profile (UserProfileSerializer.update changes row)))
  | remove (row : UserProfile) :
      Does cfg s (.deleting row) .remove
        { s with files := s.files.delete fun e => decide (row.avatar = some e.1) } (.removed row)
  | clear (row : UserProfile) (s' : ProfileSite) :
      saveAvatar s row.user = .ok s' →
      Does cfg s (.removed row) (.clear row.user) s' (.done .noContent)
  | erase (user : User) :
      Does cfg s (.start (.erase user)) (.erase user.pk)
        { s with toAccountSite := (GDPRService.hardDelete s.toAccountSite user).2 }
        (.done .noContent)

theorem next_does {cfg : ProfileConfig} {e : Access} {s s' : ProfileSite} {p p' : Position}
    (h : next cfg e s p = some (s', p')) : Does cfg s p e s' p' := by
  unfold next at h
  split at h
  · split at h
    · rename_i hpk
      subst hpk
      cases h
      exact .erase _
    · cases h
  · split at h
    · cases h
    · rename_i hload
      cases h
      exact .load _ _ _ hload
    · cases h
  · split at h
    · cases h
      exact .quiet _ _ _ (Or.inl rfl) nofun
    · cases h
  · split at h
    · cases h
    · rename_i changes hvalid
      obtain ⟨⟨s₁, changes'⟩, hstore, hnext⟩ := Option.map_eq_some_iff.mp h
      cases hnext
      exact .store _ _ _ _ _ _ hvalid hstore
  · split at h
    · rename_i hsame
      obtain ⟨rfl, rfl⟩ := hsame
      split at h
      · rename_i hput
        cases h
        exact .save _ _ _ hput
      · cases h
    · cases h
  · cases h
    exact .remove _
  · split at h
    · rename_i hsame
      subst hsame
      split at h
      · rename_i hclear
        cases h
        exact .clear _ _ hclear
      · cases h
    · cases h
  · split at h
    · cases h
      exact .quiet _ _ _ (Or.inr rfl) nofun
    · cases h
  · split at h
    · cases h
      exact .quiet _ _ _ (Or.inr rfl) nofun
    · cases h
  · split at h
    · cases h
      exact .quiet _ _ _ (Or.inr rfl) nofun
    · cases h
  · split at h
    · cases h
      exact .quiet _ _ _ (Or.inr rfl) nofun
    · cases h
  · split at h
    · rename_i hraised
      cases h
      refine .quiet _ _ _ (Or.inr rfl) fun row hrow => ?_
      obtain rfl := Position.removed.inj hrow
      exact saveAvatar_error hraised
    · cases h
  · cases h

end ProfileView

end SaasKit
