import SaasKit.GdprService

/-!
# What an anonymization leaves

`Personal` are the texts that identified a user before the call, `Holds`
the texts in the rows that belong to the user after it. The user's own row
is overwritten and notifications and roles are gone, so what can be left is
in the two tables that `anonymize` does not touch: the profile and the
second factor (`anonymize_erases_iff`).
-/

namespace SaasKit

namespace Erasure

open GDPRService

/-! ## Texts -/

def userTexts (u : User) : List String :=
  [u.username, u.email, u.firstName, u.lastName, u.password]

def profileFields (p : UserProfile) : List String := p.avatar.toList ++ [p.bio, p.phone]

/-- A text that identifies the user: a column of the user's row, a profile
field or the TOTP secret, unless it is blank. -/
inductive Personal (s : AccountSite) (user : User) : String → Prop
  | identity {v : String} : v ≠ "" → v ∈ userTexts user → Personal s user v
  | profile {v : String} {p : UserProfile} : v ≠ "" → p ∈ s.userProfiles → p.user = user.pk →
      v ∈ profileFields p → Personal s user v
  | secret {v : String} {t : UserTOTP} : v ≠ "" → t ∈ s.userTotps → t.user = user.pk →
      v = t.secret → Personal s user v

/-- Some row that belongs to the user has this text in some column. -/
inductive Holds (s : AccountSite) (pk : UserId) (v : String) : Prop
  | user (u : User) : u ∈ s.users → u.pk = pk → v ∈ userTexts u → Holds s pk v
  | profile (p : UserProfile) : p ∈ s.userProfiles → p.user = pk →
      v ∈ profileFields p ∨ v = p.timezone → Holds s pk v
  | totp (t : UserTOTP) : t ∈ s.userTotps → t.user = pk →
      v = t.secret ∨ v ∈ t.backupCodes → Holds s pk v
  | notification (n : Notification) : n ∈ s.notifications → n.user = pk →
      v = n.title ∨ v = n.body → Holds s pk v
  | role (r : UserTenantRole) : r ∈ s.userTenantRoles → r.user = pk →
      v = r.role.value → Holds s pk v

/-- The rows of all other users are as they were. -/
structure OthersUnchanged (s s' : AccountSite) (pk : UserId) : Prop where
  users : s'.users.filter (·.pk != pk) = s.users.filter (·.pk != pk)
  userProfiles : s'.userProfiles.filter (·.user != pk) = s.userProfiles.filter (·.user != pk)
  userTotps : s'.userTotps.filter (·.user != pk) = s.userTotps.filter (·.user != pk)
  notifications : s'.notifications.filter (·.user != pk) = s.notifications.filter (·.user != pk)
  userTenantRoles :
    s'.userTenantRoles.filter (·.user != pk) = s.userTenantRoles.filter (·.user != pk)
  outstandingTokens : s'.outstandingTokens.filter (·.user != some pk)
    = s.outstandingTokens.filter (·.user != some pk)

/-- There was nothing to leave: the profile is blank, there is no secret, and
what stays or is drawn is no text that identified the user. -/
structure NothingLeft (s : AccountSite) (user : User) (draw : Placeholder) : Prop where
  profile : ∀ p ∈ s.userProfiles, p.user = user.pk →
    (∀ v ∈ profileFields p, v = "") ∧ ¬ Personal s user p.timezone
  totp : ∀ t ∈ s.userTotps, t.user = user.pk →
    t.secret = "" ∧ ∀ v ∈ t.backupCodes, ¬ Personal s user v
  drawn : ∀ v ∈ [draw.username, draw.email, draw.unusablePassword], ¬ Personal s user v

section

variable {s s' : AccountSite} {user : User} {draw : Placeholder} {r : ErasureResult} {v : String}

theorem Personal.ne_blank (h : Personal s user v) : v ≠ "" := by
  cases h <;> assumption

theorem others_unchanged (h : Anonymized s user draw s') : OthersUnchanged s s' user.pk where
  users := by
    have hmap : s'.users.rows.filter (·.pk != user.pk) = s.users.rows.filter (·.pk != user.pk) := by
      rw [h.users]
      refine Table.filter_map_outside fun u _ hpk => ?_
      have hpk : u.pk = user.pk := eq_of_beq hpk
      simp [Placeholder.apply, hpk]
    exact hmap
  userProfiles := by rw [h.userProfiles]
  userTotps := by rw [h.userTotps]
  notifications := by
    rw [h.notifications]
    exact Table.filter_delete fun n _ hn => by simpa using hn
  userTenantRoles := by
    rw [h.userTenantRoles]
    exact Table.filter_delete fun r _ hr => by simpa using hr
  outstandingTokens := by
    rw [h.outstandingTokens]
    exact Table.filter_delete fun t _ ht => by simpa [AccountSite.ownToken] using ht

/-- The rows of the user afterwards, table by table. -/
theorem holds_iff (huser : user ∈ s.users) (h : Anonymized s user draw s') :
    Holds s' user.pk v ↔ v ∈ userTexts (draw.apply user)
      ∨ (∃ p ∈ s.userProfiles, p.user = user.pk ∧ (v ∈ profileFields p ∨ v = p.timezone))
      ∨ ∃ t ∈ s.userTotps, t.user = user.pk ∧ (v = t.secret ∨ v ∈ t.backupCodes) := by
  have hplaceholder : ∀ u, userTexts (draw.apply u) = userTexts (draw.apply user) := fun _ => rfl
  constructor
  · intro hholds
    cases hholds with
    | user u hu hpk hv =>
        rw [← Table.mem_rows, h.users] at hu
        obtain ⟨x, hx, rfl⟩ := List.mem_map.mp hu
        by_cases hxpk : (x.pk == user.pk) = true
        · rw [if_pos hxpk, hplaceholder] at hv
          exact Or.inl hv
        · rw [if_neg hxpk] at hpk
          exact absurd (beq_iff_eq.mpr hpk) hxpk
    | profile p hp hpk hv => exact Or.inr (Or.inl ⟨p, h.userProfiles ▸ hp, hpk, hv⟩)
    | totp t ht hpk hv => exact Or.inr (Or.inr ⟨t, h.userTotps ▸ ht, hpk, hv⟩)
    | notification n hn hpk _ =>
        rw [h.notifications] at hn
        have hne := (Table.mem_delete.mp hn).2
        simp [hpk] at hne
    | role r hr hpk _ =>
        rw [h.userTenantRoles] at hr
        have hne := (Table.mem_delete.mp hr).2
        simp [hpk] at hne
  · rintro (hv | ⟨p, hp, hpk, hv⟩ | ⟨t, ht, hpk, hv⟩)
    · refine .user (draw.apply user) ?_ rfl hv
      rw [← Table.mem_rows, h.users]
      exact List.mem_map.mpr ⟨user, huser, by simp⟩
    · exact .profile p (h.userProfiles ▸ hp) hpk hv
    · exact .totp t (h.userTotps ▸ ht) hpk hv

/-- An anonymization erases the account unless the user has a profile or a
second factor, or draws a text that identified the user. -/
theorem anonymize_erases_iff (huser : user ∈ s.users)
    (hcall : anonymize s user draw = (.ok r, s')) :
    ((∀ v, Personal s user v → ¬ Holds s' user.pk v) ∧ OthersUnchanged s s' user.pk)
      ↔ NothingLeft s user draw := by
  have h := anonymize_ok hcall
  constructor
  · rintro ⟨herased, -⟩
    have hno : ∀ v, Holds s' user.pk v → ¬ Personal s user v :=
      fun v hholds hpersonal => herased v hpersonal hholds
    refine ⟨fun p hp hpk => ⟨fun v hv => ?_, ?_⟩, fun t ht hpk => ⟨?_, fun v hv => ?_⟩,
      fun v hv => ?_⟩
    · by_contra hblank
      have hholds := (holds_iff huser h).mpr (Or.inr (Or.inl ⟨p, hp, hpk, Or.inl hv⟩))
      exact hno v hholds (.profile hblank hp hpk hv)
    · exact hno _ ((holds_iff huser h).mpr (Or.inr (Or.inl ⟨p, hp, hpk, Or.inr rfl⟩)))
    · by_contra hblank
      have hholds := (holds_iff huser h).mpr (Or.inr (Or.inr ⟨t, ht, hpk, Or.inl rfl⟩))
      exact hno _ hholds (.secret hblank ht hpk rfl)
    · exact hno v ((holds_iff huser h).mpr (Or.inr (Or.inr ⟨t, ht, hpk, Or.inr hv⟩)))
    · refine hno v ((holds_iff huser h).mpr (Or.inl ?_))
      simp only [List.mem_cons, List.not_mem_nil, or_false] at hv
      rcases hv with rfl | rfl | rfl <;> simp [userTexts, Placeholder.apply]
  · intro hnothing
    refine ⟨fun v hpersonal hholds => ?_, others_unchanged h⟩
    rcases (holds_iff huser h).mp hholds with hv | ⟨p, hp, hpk, hv | rfl⟩ | ⟨t, ht, hpk, rfl | hv⟩
    · simp only [userTexts, Placeholder.apply, List.mem_cons, List.not_mem_nil, or_false] at hv
      rcases hv with rfl | rfl | rfl | rfl | rfl
      · exact hnothing.drawn _ (by simp) hpersonal
      · exact hnothing.drawn _ (by simp) hpersonal
      · exact hpersonal.ne_blank rfl
      · exact hpersonal.ne_blank rfl
      · exact hnothing.drawn _ (by simp) hpersonal
    · exact hpersonal.ne_blank ((hnothing.profile p hp hpk).1 v hv)
    · exact (hnothing.profile p hp hpk).2 hpersonal
    · exact hpersonal.ne_blank (hnothing.totp t ht hpk).1
    · exact (hnothing.totp t ht hpk).2 v hv hpersonal

end

/-! ## The demo account, without and with a profile -/

def draw : Placeholder := ⟨"5f0c1d9a7b3e", "!kq2cZVx0"⟩

theorem no_personal (v : String) (hv : v ∈ [draw.username, draw.email, draw.unusablePassword]) :
    ¬ Personal DemoSeed.accounts DemoSeed.admin v := by
  intro hpersonal
  cases hpersonal with
  | identity _ htext =>
      have hfresh : ∀ v ∈ [draw.username, draw.email, draw.unusablePassword],
          v ∉ userTexts DemoSeed.admin := by decide
      exact hfresh v hv htext
  | profile _ hp => exact absurd hp (Table.not_mem_empty _)
  | secret _ ht => exact absurd ht (Table.not_mem_empty _)

theorem anonymize_erases_bare_account :
    (∀ v, Personal DemoSeed.accounts DemoSeed.admin v →
        ¬ Holds (anonymize DemoSeed.accounts DemoSeed.admin draw).2 DemoSeed.admin.pk v)
      ∧ OthersUnchanged DemoSeed.accounts (anonymize DemoSeed.accounts DemoSeed.admin draw).2
          DemoSeed.admin.pk :=
  (anonymize_erases_iff (r := ⟨DemoSeed.admin.pk, .anonymize, 0, 1, 0⟩) (by decide) rfl).mpr
    ⟨fun _ hp => absurd hp (Table.not_mem_empty _),
      fun _ ht => absurd ht (Table.not_mem_empty _), no_personal⟩

/-- The demo account with a profile and a second factor. -/
def profiled : AccountSite :=
  { DemoSeed.accounts with
    userProfiles := ⟨[⟨DemoSeed.admin.pk, some "avatars/1/9f3c.png", "Runs the demo.",
      "+8801700000000", "Asia/Dhaka"⟩], List.pairwise_singleton ..⟩
    userTotps := ⟨[⟨DemoSeed.admin.pk, "GEZDGNBVGY3TQOJQ", true, ["9F8E7D6C5B"]⟩],
      List.pairwise_singleton ..⟩
    profile_fk := by decide
    totp_fk := by decide }

/-- The profile survives the erasure. -/
theorem profile_left :
    ¬ ∀ (s s' : AccountSite) (user : User) (draw : Placeholder) (r : ErasureResult),
      user ∈ s.users → anonymize s user draw = (.ok r, s') →
      (∀ v, Personal s user v → ¬ Holds s' user.pk v) ∧ OthersUnchanged s s' user.pk := by
  intro hall
  have herased := (hall profiled _ DemoSeed.admin draw ⟨DemoSeed.admin.pk, .anonymize, 0, 1, 0⟩
    (by decide) rfl).1 "+8801700000000"
  exact herased (.profile (by decide) (List.mem_singleton_self _) rfl (by decide))
    (.profile _ (List.mem_singleton_self _) rfl (Or.inl (by decide)))

end Erasure

end SaasKit
