import SaasKit.ProfileRuns

/-!
# Profiles, one request of a user at a time

A request writes back the row it has loaded. If the user has no other request
under way, that is the row with the fields that were sent in it, so the
profiles are those of a `Desk` at which one request is served after the other,
and an avatar has its file (`profiles_refine`). Requests of different users
may overlap. Where two of one user do, the second to save brings back the
fields the first has changed.
-/

namespace SaasKit

namespace ProfileDesk

open ProfileView ProfileRuns

/-! ## The desk -/

/-- The row a request has loaded to write it. -/
def held : Position → Option UserProfile
  | .updating row _ | .deleting row | .ready row _ | .removed row => some row
  | .start _ | .done _ => none

/-- The user whose row a request is about to load to write it. -/
def opens : Position → Option UserId
  | .start (.update user _) | .start (.delete user) => some user
  | _ => none

/-- What is shown of a user: a row that is not there is made of defaults. -/
def profileOf (s : ProfileSite) (user : UserId) : UserProfile :=
  (getProfile s user).getD (blank user)

/-- The profiles, edited one request after the other. -/
abbrev Desk := UserId → UserProfile

def Desk.apply (d : Desk) : Access → Desk
  | .save user changes => Function.update d user (UserProfileSerializer.update changes (d user))
  | .clear user => Function.update d user { d user with avatar := none }
  | .erase user => Function.update d user (blank user)
  | .load | .refuse | .store _ | .remove | .fail => d

/-- The row is stored as it was loaded, or its user is gone. -/
def Current (s : ProfileSite) (row : UserProfile) : Prop :=
  getProfile s row.user = some row ∨ ∀ u ∈ s.users, u.pk ≠ row.user

/-- The file a request is about to name is in the storage. -/
def Uploaded (s : ProfileSite) (p : Position) : Prop :=
  ∀ row changes name, p = .ready row changes → changes.avatar = some (some name) →
    (s.files.get? name).isSome = true

section

variable {ι : Type} {cfg : ProfileConfig} {s s' : ProfileSite} {p p' q : Position} {e : Access}
  {row : UserProfile} {user : UserId} {name : String} {c c' c₀ : Conf ι} {l : ι × Access}
  {ls : List (ι × Access)}

/-- No request loads a row that another is about to write. -/
def Alone (c : Conf ι) (l : ι × Access) : Prop :=
  ∀ user ∈ opens (c.locals l.1), ∀ j, j ≠ l.1 → ∀ row ∈ held (c.locals j), row.user ≠ user

/-! ## The rows -/

theorem users_step (h : Does cfg s p e s' p') {u : User} (hu : u ∈ s'.users) : u ∈ s.users := by
  cases h with
  | quiet | remove => exact hu
  | load req row s' hload => exact (getOrCreate_ok hload).2.1 ▸ hu
  | store row data hex changes s' changes' hvalid hstore =>
      have husers : s'.users = s.users :=
        congrArg (fun t : AccountSite => t.users) (storeAvatar_some hstore).1
      exact husers ▸ hu
  | save row changes s' hput => exact (putProfile_ok hput).2.1 ▸ hu
  | clear row s' hsave => exact (saveAvatar_ok hsave).2.1 ▸ hu
  | erase user => exact (Table.mem_delete.mp hu).1

/-- A row is loaded to be written by a request that opens it. -/
theorem held_loaded {req : ProfileRequest} {x : UserProfile} (hx : x ∈ held (req.loaded row)) :
    x = row ∧ opens (.start req) = some req.user := by
  cases req with
  | get _ | erase _ => cases hx
  | update _ _ => exact ⟨(Option.some.inj hx).symm, rfl⟩
  | delete _ =>
      simp only [ProfileRequest.loaded] at hx
      split at hx
      · exact ⟨(Option.some.inj hx).symm, rfl⟩
      · cases hx

theorem current_self (h : Does cfg s p e s' p') (hp : ∀ row ∈ held p, Current s row) :
    ∀ row ∈ held p', Current s' row := by
  cases h with
  | quiet | save | clear | erase => exact nofun
  | load req row s' hload =>
      intro x hx
      obtain ⟨hown, -, -, hrow, -⟩ := getOrCreate_ok hload
      rw [(held_loaded hx).1, Current, hown]
      exact Or.inl hrow
  | store row data hex changes s' changes' hvalid hstore =>
      have hsame := (storeAvatar_some hstore).1
      intro x hx
      refine (hp x hx).imp (fun hrow => ?_) fun hgone u hu => hgone u ?_
      · rw [← hrow]
        exact getProfile_congr (congrArg AccountSite.userProfiles hsame)
      · exact congrArg (fun t : AccountSite => t.users) hsame ▸ hu
  | remove row => exact hp

theorem current_other (h : Does cfg s p e s' p') (hrow : Current s row)
    (hapart : ∀ x ∈ held p, x.user ≠ row.user) : Current s' row := by
  rcases hrow with hrow | hgone
  · have hsame : getProfile s' row.user = getProfile s row.user → Current s' row := fun h =>
      Or.inl (h.trans hrow)
    cases h with
    | quiet | remove => exact Or.inl hrow
    | load req x s' hload =>
        exact hsame ((getOrCreate_ok hload).2.2.2.2.2 row.user (by
          by_cases hown : row.user = req.user
          · exact Or.inr (hown ▸ hrow ▸ rfl)
          · exact Or.inl hown))
    | store x data hex changes s' changes' hvalid hstore =>
        exact hsame (getProfile_congr (congrArg AccountSite.userProfiles
          (storeAvatar_some hstore).1))
    | save x changes s' hput =>
        exact hsame (((putProfile_ok hput).2.2.2 row.user).trans (if_neg (hapart x rfl)))
    | clear x s' hsave =>
        exact hsame (((saveAvatar_ok hsave).2.2.2 row.user).trans (if_neg (hapart x rfl)))
    | erase u =>
        by_cases hown : row.user = u.pk
        · refine Or.inr fun v hv => ?_
          rw [hown]
          exact beq_eq_false_iff_ne.mp (Table.mem_delete.mp hv).2
        · exact hsame ((getProfile_erased s u).trans (if_neg hown))
  · exact Or.inr fun u hu => hgone u (users_step h hu)

/-- An access does to the profiles what it does at the desk. -/
theorem profileOf_step (h : Does cfg s p e s' p') (hp : ∀ row ∈ held p, Current s row) :
    profileOf s' = (Desk.apply (profileOf s) e) := by
  have hcongr : (∀ v, getProfile s' v = getProfile s v) → profileOf s' = profileOf s := fun h =>
    funext fun v => by rw [profileOf, profileOf, h]
  cases h with
  | quiet p e answer hquiet =>
      rcases hquiet with rfl | rfl
      · rfl
      · rfl
  | load req row s' hload =>
      obtain ⟨-, -, -, hrow, hnew, hrest⟩ := getOrCreate_ok hload
      refine funext fun v => ?_
      by_cases hv : v ≠ req.user ∨ (getProfile s req.user).isSome = true
      · rw [Desk.apply, profileOf, profileOf, hrest v hv]
      · obtain ⟨hown, hnone⟩ := not_or.mp hv
        obtain rfl := not_not.mp hown
        have hnone := Option.not_isSome_iff_eq_none.mp hnone
        rw [Desk.apply, profileOf, profileOf, hrow, hnone, hnew hnone]
        rfl
  | store row data hex changes s' changes' hvalid hstore =>
      exact hcongr fun v => getProfile_congr (congrArg AccountSite.userProfiles
        (storeAvatar_some hstore).1)
  | save row changes s' hput =>
      obtain ⟨⟨u, hu, hpk⟩, -, -, hput⟩ := putProfile_ok hput
      have hrows : ∀ v, getProfile s' v = if row.user = v then
          some (UserProfileSerializer.update changes row) else getProfile s v := hput
      have hrow : profileOf s row.user = row := by
        rcases hp row rfl with hrow | hgone
        · rw [profileOf, hrow, Option.getD_some]
        · exact absurd hpk (hgone u hu)
      refine funext fun v => ?_
      rw [Desk.apply, profileOf, hrows, hrow, Function.update_apply]
      by_cases hv : v = row.user
      · rw [if_pos hv, if_pos hv.symm, Option.getD_some]
      · rw [if_neg hv, if_neg fun h => hv h.symm]
        rfl
  | remove row => exact hcongr fun _ => rfl
  | clear row s' hsave =>
      obtain ⟨hsome, -, -, hrows⟩ := saveAvatar_ok hsave
      obtain ⟨stored, hstored⟩ := Option.isSome_iff_exists.mp hsome
      refine funext fun v => ?_
      rw [Desk.apply, profileOf, hrows, Function.update_apply]
      by_cases hv : v = row.user
      · rw [if_pos hv, if_pos hv.symm, hv, profileOf, hstored]
        rfl
      · rw [if_neg hv, if_neg fun h => hv h.symm]
        rfl
  | erase u =>
      refine funext fun v => ?_
      rw [Desk.apply, profileOf, getProfile_erased, Function.update_apply]
      by_cases hv : v = u.pk
      · rw [if_pos hv, if_pos hv, hv]
        rfl
      · rw [if_neg hv, if_neg hv]
        rfl

/-! ## The files -/

/-- A file that is not the avatar of this request's row stays. -/
theorem file_kept (h : Does cfg s p e s' p') (hother : ∀ row, p = .deleting row →
    row.avatar ≠ some name) (hfile : (s.files.get? name).isSome = true) :
    (s'.files.get? name).isSome = true := by
  cases h with
  | quiet => exact hfile
  | load req row s' hload => rw [(getOrCreate_ok hload).2.2.1]; exact hfile
  | store row data hex changes s' changes' hvalid hstore =>
      rcases (storeAvatar_some hstore).2.2.2.2 with ⟨hfiles, -⟩ | ⟨filename, content, -, -, hfiles⟩
      · rw [hfiles]
        exact hfile
      · rw [hfiles]
        by_cases hname : name = avatarUploadPath cfg.text row.user filename hex
        · rw [hname, Dict.get?_put_self]
          rfl
        · rw [Dict.get?_put_of_ne hname]
          exact hfile
  | save row changes s' hput => rw [(putProfile_ok hput).2.2.1]; exact hfile
  | remove row =>
      have hdelete := Dict.get?_delete (d := s.files) (k := name)
        (q := fun name => decide (row.avatar = some name))
      rw [hdelete, if_neg fun h => hother row rfl (of_decide_eq_true h)]
      exact hfile
  | clear row s' hsave => rw [(saveAvatar_ok hsave).2.2.1]; exact hfile
  | erase u => exact hfile

theorem uploaded_self (h : Does cfg s p e s' p') : Uploaded s' p' := by
  intro x changes name hx hname
  cases h with
  | quiet | remove | save | clear | erase => cases hx
  | load req row s' hload =>
      rcases loaded_cases req row with ⟨answer, hloaded⟩ | ⟨data, hloaded⟩ | hloaded
      · rw [hloaded] at hx
        cases hx
      · rw [hloaded] at hx
        cases hx
      · rw [hloaded] at hx
        cases hx
  | store row data hex changes s' changes' hvalid hstore =>
      obtain ⟨rfl, rfl⟩ := Position.ready.inj hx
      obtain ⟨-, -, -, -, hfiles⟩ := storeAvatar_some hstore
      rcases hfiles with ⟨-, hnone⟩ | ⟨filename, content, hstored, -, hfiles⟩
      · exact absurd hname (hnone name)
      · rw [hstored] at hname
        obtain rfl := Option.some.inj (Option.some.inj hname)
        rw [hfiles, Dict.get?_put_self]
        rfl

/-- The files of two users are different files. -/
theorem uploaded_other (h : Does cfg s p e s' p') (hp : Sound cfg p) (hq : Sound cfg q)
    (hapart : ∀ x ∈ held p, ∀ y ∈ held q, x.user ≠ y.user) (huploaded : Uploaded s q) :
    Uploaded s' q := by
  intro row changes name hrow hname
  refine file_kept h (fun x hx havatar => ?_) (huploaded row changes name hrow hname)
  subst hx
  subst hrow
  exact hapart x rfl row rfl (owned_unique (hp.avatar name havatar) (hq.2.avatar name hname))

/-! ## The invariant -/

/-- What holds of one request. -/
def Fresh (cfg : ProfileConfig) (s : ProfileSite) (p : Position) : Prop :=
  Sound cfg p ∧ (∀ row ∈ held p, Current s row) ∧ Uploaded s p

/-- What holds of two: they write the rows of two users. -/
def Apart (p q : Position) : Prop := ∀ row ∈ held p, ∀ row' ∈ held q, row.user ≠ row'.user

abbrev Serial (cfg : ProfileConfig) (c : Conf ι) : Prop :=
  Threads.Coherent (AllValid cfg) (fun _ => Fresh cfg) (fun _ _ => Apart) c

/-- A row that is held after an access was held before it, or is the one that
has been opened. -/
theorem held_step (h : Does cfg s p e s' p') (hrow : row ∈ held p') :
    (∃ x ∈ held p, x.user = row.user) ∨ opens p = some row.user := by
  cases h with
  | quiet | save | clear | erase => cases hrow
  | load req x s' hload =>
      obtain ⟨hself, hopens⟩ := held_loaded hrow
      rw [hself, (getOrCreate_ok hload).1]
      exact Or.inr hopens
  | store | remove => exact Or.inl ⟨_, rfl, congrArg UserProfile.user (Option.some.inj hrow)⟩

theorem keeps (hutc : "UTC" ∈ cfg.availableTimezones) :
    Threads.Keeps (ι := ι) (Threads.ofNext (next cfg)) Alone (AllValid cfg) (fun _ => Fresh cfg)
      (fun _ _ => Apart) where
  shared c i e s' p' hc _ hact := by
    have hdoes := next_does hact
    obtain ⟨hsound, hcurrent, -⟩ := hc.own i
    obtain ⟨hvalid, hsound⟩ := valid_step hutc hdoes hc.shared hsound
    exact ⟨hvalid, hsound, current_self hdoes hcurrent, uploaded_self hdoes⟩
  other c i e s' p' j hc hok hact hj := by
    have hdoes := next_does hact
    have hapart : Apart (c.locals i) (c.locals j) := hc.pair i j fun h => hj h.symm
    obtain ⟨hsound, hcurrent, huploaded⟩ := hc.own j
    refine ⟨⟨hsound, fun row hrow => ?_, ?_⟩, fun row hrow row' hrow' => ?_⟩
    · exact current_other hdoes (hcurrent row hrow) fun x hx => hapart x hx row hrow
    · exact uploaded_other hdoes (hc.own i).1 hsound hapart huploaded
    · rcases held_step hdoes hrow with ⟨x, hx, hxrow⟩ | hopens
      · rw [← hxrow]
        exact hapart x hx row' hrow'
      · exact fun h => hok row.user hopens j hj row' hrow' h.symm

/-! ## Avatars and files -/

/-- An avatar has its file, but for the users `K`. -/
def FiledBut (K : UserId → Prop) (s : ProfileSite) : Prop :=
  ∀ user row name, getProfile s user = some row → row.avatar = some name →
    (s.files.get? name).isSome = true ∨ K user

/-- Only the users whose file is being deleted come to lack one. -/
theorem filedBut_step {K K' : UserId → Prop} (hs : AllValid cfg s) (hp : Fresh cfg s p)
    (h : Does cfg s p e s' p') (hK : FiledBut K s)
    (hkeep : ∀ user, K user → (∀ row, p = .removed row → row.user ≠ user) → K' user)
    (hself : ∀ row, p' = .removed row → K' row.user) : FiledBut K' s' := by
  obtain ⟨hsound, hcurrent, huploaded⟩ := hp
  -- the row was there before, and the access has left its file alone
  have hold : ∀ user row name, getProfile s user = some row → row.avatar = some name →
      (∀ row', p = .removed row' → row'.user ≠ user) →
      (∀ row', p = .deleting row' → row'.avatar ≠ some name) →
      (s'.files.get? name).isSome = true ∨ K' user := by
    intro user row name hrow hname hremoved hdeleting
    exact (hK user row name hrow hname).imp (file_kept h hdeleting)
      fun hKuser => hkeep user hKuser hremoved
  intro user row name hrow hname
  cases h with
  | quiet p e answer _ hgone =>
      refine (hK user row name hrow hname).imp_right fun hKuser =>
        hkeep user hKuser fun row' hremoved huser => ?_
      have hnone := hgone row' hremoved
      rw [huser, hrow] at hnone
      cases hnone
  | load req loaded s' hload =>
      obtain ⟨-, -, -, hloaded, hnew, hrest⟩ := getOrCreate_ok hload
      by_cases hv : user ≠ req.user ∨ (getProfile s req.user).isSome = true
      · exact hold user row name ((hrest user hv).symm.trans hrow) hname (by simp) (by simp)
      · obtain ⟨hown, hnone⟩ := not_or.mp hv
        rw [not_not.mp hown, hloaded, hnew (Option.not_isSome_iff_eq_none.mp hnone)] at hrow
        obtain rfl := Option.some.inj hrow
        cases hname
  | store loaded data hex changes s' changes' hvalid hstore =>
      refine hold user row name ?_ hname (by simp) (by simp)
      rw [← hrow]
      exact (getProfile_congr (congrArg AccountSite.userProfiles (storeAvatar_some hstore).1)).symm
  | save loaded changes s' hput =>
      obtain ⟨⟨u, hu, hpk⟩, -, hfiles, hput⟩ := putProfile_ok hput
      have hrows : ∀ v, getProfile s' v = if loaded.user = v then
          some (UserProfileSerializer.update changes loaded) else getProfile s v := hput
      rw [hrows] at hrow
      split at hrow
      · rename_i hown
        obtain rfl := Option.some.inj hrow
        cases havatar : changes.avatar with
        | some avatar =>
            simp only [UserProfileSerializer.update, havatar, Option.getD_some] at hname
            rw [hname] at havatar
            rw [hfiles]
            exact Or.inl (huploaded loaded changes name rfl havatar)
        | none =>
            simp only [UserProfileSerializer.update, havatar, Option.getD_none] at hname
            have hstored : getProfile s user = some loaded := by
              rw [← hown]
              exact (hcurrent loaded rfl).resolve_right fun hgone => hgone u hu hpk
            exact hold user loaded name hstored hname (by simp) (by simp)
      · exact hold user row name hrow hname (by simp) (by simp)
  | remove loaded =>
      by_cases hown : user = loaded.user
      · exact Or.inr (hown ▸ hself loaded rfl)
      · refine hold user row name hrow hname (by simp) fun row' hdeleting havatar => ?_
        obtain rfl := Position.deleting.inj hdeleting
        have hother := (hs user row hrow).avatar name hname
        rw [(getProfile_some.mp hrow).2] at hother
        exact hown (owned_unique hother (hsound.avatar name havatar))
  | clear loaded s' hsave =>
      obtain ⟨-, -, -, hrows⟩ := saveAvatar_ok hsave
      rw [hrows] at hrow
      split at hrow
      · obtain ⟨x, -, rfl⟩ := Option.map_eq_some_iff.mp hrow
        cases hname
      · rename_i hown
        refine hold user row name hrow hname (fun row' hremoved => ?_) (by simp)
        obtain rfl := Position.removed.inj hremoved
        exact hown
  | erase u =>
      rw [getProfile_erased] at hrow
      split at hrow
      · cases hrow
      · exact hold user row name hrow hname (by simp) (by simp)

/-- A request has deleted the user's file and is about to clear the avatar. -/
def Clearing (c : Conf ι) (user : UserId) : Prop :=
  ∃ i row, c.locals i = .removed row ∧ row.user = user

theorem filed_step (hserial : Serial cfg c) (hfiled : FiledBut (Clearing c) c.shared)
    (h : Step cfg c l c') : FiledBut (Clearing c') c'.shared := by
  obtain ⟨hdoes, hrest⟩ := does_of_step h
  refine filedBut_step hserial.shared (hserial.own l.1) hdoes hfiled ?_ fun row hrow =>
    ⟨l.1, row, hrow, rfl⟩
  rintro user ⟨i, row, hrow, huser⟩ hother
  have hi : i ≠ l.1 := fun h => hother row (h ▸ hrow) huser
  exact ⟨i, row, (hrest i hi).trans hrow, huser⟩

theorem serial_start (hs : AllValid cfg c.shared) (hc : Begins c) : Serial cfg c where
  shared := hs
  own i := by
    obtain ⟨req, hreq⟩ := hc i
    rw [hreq]
    exact ⟨trivial, nofun, fun _ _ _ hready => by cases hready⟩
  pair i j _ := by
    obtain ⟨req, hreq⟩ := hc i
    rw [hreq]
    exact nofun

end

/-- If no two requests of a user overlap, the profiles are those of the desk
after the same saves, and an avatar has its file except while it is being
deleted. -/
theorem profiles_refine {ι : Type} {cfg : ProfileConfig} {c₀ c : Conf ι}
    {ls : List (ι × Access)} (hutc : "UTC" ∈ cfg.availableTimezones)
    (hvalid : AllValid cfg c₀.shared) (hstart : Begins c₀)
    (hfiles : FiledBut (fun _ => False) c₀.shared)
    (h : Lts.Run (Lts.Guarded (Step cfg) Alone) c₀ ls c) :
    profileOf c.shared = ls.foldl (fun d l => Desk.apply d l.2) (profileOf c₀.shared)
      ∧ FiledBut (Clearing c) c.shared := by
  have hserial := serial_start hvalid hstart
  have hfiled : FiledBut (Clearing c₀) c₀.shared := fun user row name hrow hname =>
    Or.inl ((hfiles user row name hrow hname).resolve_right id)
  clear hvalid hstart hfiles
  induction h with
  | nil c => exact ⟨rfl, hfiled⟩
  | @cons c c₁ c₂ l ls hstep hrun ih =>
      obtain ⟨hdoes, -⟩ := does_of_step hstep.1
      have hnext := ih (hserial.step (fun _ _ _ _ hapart row hrow row' hrow' h =>
        hapart row' hrow' row hrow h.symm) (keeps hutc) hstep) (filed_step hserial hfiled hstep.1)
      rw [List.foldl_cons, ← profileOf_step hdoes (hserial.own l.1).2.1]
      exact hnext

/-! ## Two users at their profiles -/

instance (c : Conf (Fin 3)) (l : Fin 3 × Access) : Decidable (Alone c l) :=
  inferInstanceAs (Decidable (∀ user ∈ opens (c.locals l.1), ∀ j, j ≠ l.1 →
    ∀ row ∈ held (c.locals j), row.user ≠ user))

theorem inTurn_run : ∃ c, Lts.Run (Lts.Guarded (Step config) Alone) start inTurn c := by
  have hexec : Threads.exec (next config) Alone start inTurn ≠ none := by decide
  obtain ⟨c, hc⟩ := Option.ne_none_iff_exists'.mp hexec
  exact ⟨c, Threads.run_of_exec hc⟩

theorem start_filed : FiledBut (fun _ => False) start.shared := by
  intro user row name hrow hname
  obtain rfl := start_profile hrow
  obtain rfl := Option.some.inj hname
  exact Or.inl rfl

theorem profiles_refine_inTurn :
    ∃ c, Lts.Run (Lts.Guarded (Step config) Alone) start inTurn c
      ∧ profileOf c.shared
          = inTurn.foldl (fun d l => Desk.apply d l.2) (profileOf start.shared)
      ∧ FiledBut (Clearing c) c.shared := by
  obtain ⟨c, hrun⟩ := inTurn_run
  exact ⟨c, hrun, profiles_refine (by decide) start_valid start_begins start_filed hrun⟩

end ProfileDesk

end SaasKit
