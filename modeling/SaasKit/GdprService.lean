import SaasKit.AuthViews
import SaasKit.DemoSeed

/-!
# Erasure: `GDPRService`

The site with every row that belongs to a user: the profile, the
notifications, and simplejwt's two tables, where an outstanding token names
its user and a blacklisted token names an outstanding one. The foreign keys
are fields of `AccountSite`, so a cascade that misses a row does not
typecheck.

`anonymize` keeps the user's row under a placeholder identity and deletes
notifications, roles and outstanding tokens; `hardDelete` removes the row
as well, with what the database removes along with it.
-/

namespace SaasKit

/-! ## Rows that belong to a user -/

/-- `avatar` is the name of the stored file. -/
structure UserProfile where
  user : UserId
  avatar : Option String
  bio : String
  phone : String
  timezone : String
  deriving DecidableEq, Repr

structure Notification where
  id : UUID
  user : UserId
  title : String
  body : String
  isRead : Bool
  deriving DecidableEq, Repr

structure OutstandingToken where
  id : Nat
  user : Option UserId
  jti : String
  expiresAt : Time
  deriving DecidableEq, Repr

def OutstandingToken.clash (a b : OutstandingToken) : Bool := a.id == b.id || a.jti == b.jti

/-- One to one with an outstanding token. -/
structure BlacklistedToken where
  token : Nat
  deriving DecidableEq, Repr

structure AccountSite extends AuthSite where
  userProfiles : Table UserProfile (sameKey UserProfile.user)
  notifications : Table Notification (sameKey Notification.id)
  outstandingTokens : Table OutstandingToken OutstandingToken.clash
  blacklistedTokens : Table BlacklistedToken (sameKey BlacklistedToken.token)
  profile_fk : ∀ row ∈ userProfiles, ∃ u ∈ users, u.pk = row.user
  notification_fk : ∀ row ∈ notifications, ∃ u ∈ users, u.pk = row.user
  outstanding_fk : ∀ row ∈ outstandingTokens, ∀ pk, row.user = some pk → ∃ u ∈ users, u.pk = pk
  blacklist_fk : ∀ row ∈ blacklistedTokens, ∃ t ∈ outstandingTokens, t.id = row.token

inductive ErasureMode where
  | anonymize
  | hardDelete
  deriving DecidableEq, Repr

structure ErasureResult where
  userId : UserId
  mode : ErasureMode
  notificationsDeleted : Nat
  rolesDeleted : Nat
  tokensDeleted : Nat
  deriving DecidableEq, Repr

/-- What an erasure draws: the tag of the placeholder identity and the
password nobody can log in with. -/
structure Placeholder where
  tag : String
  unusablePassword : String

namespace Placeholder

def username (draw : Placeholder) : String := "deleted_" ++ draw.tag

def email (draw : Placeholder) : String := "deleted_" ++ draw.tag ++ "@deleted.invalid"

/-- The columns `user.save(update_fields=...)` writes. -/
def apply (draw : Placeholder) (u : User) : User :=
  { u with
    username := draw.username
    email := draw.email
    firstName := ""
    lastName := ""
    password := draw.unusablePassword
    isActive := false }

end Placeholder

namespace AccountSite

/-! ## Private helpers -/

def ownToken (user : User) (row : OutstandingToken) : Bool := row.user == some user.pk

/-- The blacklisted tokens that go with the user's outstanding ones. -/
def cascaded (s : AccountSite) (user : User) (row : BlacklistedToken) : Bool :=
  s.outstandingTokens.any fun t => ownToken user t && t.id == row.token

/-- Delete the user's outstanding tokens; the count includes the rows of the
cascade. -/
def revokeTokens (s : AccountSite) (user : User) : Nat × AccountSite :=
  (s.outstandingTokens.count (ownToken user) + s.blacklistedTokens.count (s.cascaded user),
    { s with
      outstandingTokens := s.outstandingTokens.delete (ownToken user)
      blacklistedTokens := s.blacklistedTokens.delete (s.cascaded user)
      outstanding_fk := fun row hrow => s.outstanding_fk row (Table.mem_delete.mp hrow).1
      blacklist_fk := fun row hrow => by
        obtain ⟨hmem, hkept⟩ := Table.mem_delete.mp hrow
        obtain ⟨t, ht, hid⟩ := s.blacklist_fk row hmem
        refine ⟨t, Table.mem_delete.mpr ⟨ht, ?_⟩, hid⟩
        simpa [hid] using Table.any_eq_false.mp hkept t ht })

def deleteNotifications (s : AccountSite) (user : User) : Nat × AccountSite :=
  (s.notifications.count (·.user == user.pk),
    { s with
      notifications := s.notifications.delete (·.user == user.pk)
      notification_fk := fun row hrow => s.notification_fk row (Table.mem_delete.mp hrow).1 })

def deleteRoles (s : AccountSite) (user : User) : Nat × AccountSite :=
  (s.userTenantRoles.count (·.user == user.pk),
    { s with userTenantRoles := s.userTenantRoles.delete (·.user == user.pk) })

/-! ## Writes of the user's row -/

/-- The users table with every key still there. -/
def setUsers (s : AccountSite) (users : Table User User.clash)
    (h : ∀ u ∈ s.users, ∃ v ∈ users, v.pk = u.pk) : AccountSite :=
  have hkeep : ∀ {pk}, (∃ u ∈ s.users, u.pk = pk) → ∃ u ∈ users, u.pk = pk := by
    rintro _ ⟨u, hu, rfl⟩
    exact h u hu
  { s with
    users
    totp_fk := fun row hrow => hkeep (s.totp_fk row hrow)
    profile_fk := fun row hrow => hkeep (s.profile_fk row hrow)
    notification_fk := fun row hrow => hkeep (s.notification_fk row hrow)
    outstanding_fk := fun row hrow pk hpk => hkeep (s.outstanding_fk row hrow pk hpk) }

theorem keys_kept {users users' : Table User User.clash} {user : User} {draw : Placeholder}
    (h : users.update? (·.pk == user.pk) draw.apply = some users') :
    ∀ u ∈ users, ∃ v ∈ users', v.pk = u.pk := by
  intro u hu
  refine ⟨if u.pk == user.pk then draw.apply u else u, (Table.mem_update? h).mpr ⟨u, hu, rfl⟩, ?_⟩
  split <;> rfl

/-- `user.save(update_fields=...)`. A save that finds no row raises. -/
def saveUser (s : AccountSite) (user : User) (draw : Placeholder) : Except Exc AccountSite :=
  if s.users.any (·.pk == user.pk) then
    match h : s.users.update? (·.pk == user.pk) draw.apply with
    | none => .error .integrityError
    | some users => .ok (s.setUsers users (keys_kept h))
  else .error .databaseError

def clearAssignedBy : Table.Rewrite (sameKey UserTenantRole.key) :=
  ⟨fun row => { row with assignedBy := none }, fun _ _ => rfl, fun _ _ => rfl⟩

def clearInvitedBy : Table.Rewrite TenantInvitation.clash :=
  ⟨fun row => { row with invitedBy := none }, fun _ _ => rfl, fun _ _ => rfl⟩

def clearAcceptedBy : Table.Rewrite TenantInvitation.clash :=
  ⟨fun row => { row with acceptedBy := none }, fun _ _ => rfl, fun _ _ => rfl⟩

def clearTokenUser : Table.Rewrite OutstandingToken.clash :=
  ⟨fun row => { row with user := none }, fun _ _ => rfl, fun _ _ => rfl⟩

theorem other_kept {users : Table User User.clash} {user : User} {pk : UserId}
    (h : ∃ u ∈ users, u.pk = pk) (hne : (pk == user.pk) = false) :
    ∃ u ∈ users.delete (·.pk == user.pk), u.pk = pk := by
  obtain ⟨u, hu, rfl⟩ := h
  exact ⟨u, Table.mem_delete.mpr ⟨hu, hne⟩, rfl⟩

/-- `user.delete()`: the row, the rows that cascade from it, and null for
the references that are kept. -/
def deleteUser (s : AccountSite) (user : User) : AccountSite :=
  { s with
    users := s.users.delete (·.pk == user.pk)
    userTenantRoles := (s.userTenantRoles.delete (·.user == user.pk)).modify
      (·.assignedBy == some user.pk) clearAssignedBy
    invitations := (s.invitations.modify (·.invitedBy == some user.pk) clearInvitedBy).modify
      (·.acceptedBy == some user.pk) clearAcceptedBy
    auditLogs := s.auditLogs.map fun entry =>
      if entry.actor == some user.pk then { entry with actor := none } else entry
    userTotps := s.userTotps.delete (·.user == user.pk)
    userProfiles := s.userProfiles.delete (·.user == user.pk)
    notifications := s.notifications.delete (·.user == user.pk)
    outstandingTokens := s.outstandingTokens.modify (ownToken user) clearTokenUser
    totp_fk := fun row hrow => by
      obtain ⟨hmem, hne⟩ := Table.mem_delete.mp hrow
      exact other_kept (s.totp_fk row hmem) hne
    profile_fk := fun row hrow => by
      obtain ⟨hmem, hne⟩ := Table.mem_delete.mp hrow
      exact other_kept (s.profile_fk row hmem) hne
    notification_fk := fun row hrow => by
      obtain ⟨hmem, hne⟩ := Table.mem_delete.mp hrow
      exact other_kept (s.notification_fk row hmem) hne
    outstanding_fk := fun row' hrow' pk hpk => by
      obtain ⟨row, hrow, rfl⟩ := Table.mem_modify.mp hrow'
      split at hpk
      · cases hpk
      · rename_i hne
        exact other_kept (s.outstanding_fk row hrow pk hpk) (by simpa [ownToken, hpk] using hne)
    blacklist_fk := fun row hrow => by
      obtain ⟨t, ht, hid⟩ := s.blacklist_fk row hrow
      refine ⟨if ownToken user t then clearTokenUser.apply t else t,
        Table.mem_modify.mpr ⟨t, ht, rfl⟩, ?_⟩
      split <;> exact hid }

end AccountSite

/-! ## Public API -/

namespace GDPRService

open AccountSite

/-- What both modes delete explicitly, with the counts they report. -/
def deleteOwned (s : AccountSite) (user : User) (mode : ErasureMode) :
    ErasureResult × AccountSite :=
  let (tokensDeleted, s) := s.revokeTokens user
  let (notificationsDeleted, s) := s.deleteNotifications user
  let (rolesDeleted, s) := s.deleteRoles user
  (⟨user.pk, mode, notificationsDeleted, rolesDeleted, tokensDeleted⟩, s)

def anonymize (s : AccountSite) (user : User) (draw : Placeholder) :
    Except Exc ErasureResult × AccountSite :=
  let (result, s') := deleteOwned s user .anonymize
  match s'.saveUser user draw with
  -- the transaction is rolled back
  | .error e => (.error e, s)
  | .ok s' => (.ok result, s')

def hardDelete (s : AccountSite) (user : User) : ErasureResult × AccountSite :=
  let (result, s) := deleteOwned s user .hardDelete
  (result, s.deleteUser user)

/-- What is left after an anonymization. -/
structure Anonymized (s : AccountSite) (user : User) (draw : Placeholder) (s' : AccountSite) :
    Prop where
  users : s'.users.rows =
    s.users.rows.map fun u => if u.pk == user.pk then draw.apply u else u
  userTenantRoles : s'.userTenantRoles = s.userTenantRoles.delete (·.user == user.pk)
  userProfiles : s'.userProfiles = s.userProfiles
  userTotps : s'.userTotps = s.userTotps
  notifications : s'.notifications = s.notifications.delete (·.user == user.pk)
  outstandingTokens : s'.outstandingTokens = s.outstandingTokens.delete (ownToken user)
  blacklistedTokens : s'.blacklistedTokens = s.blacklistedTokens.delete (s.cascaded user)

theorem saveUser_ok {s s' : AccountSite} {user : User} {draw : Placeholder}
    (h : s.saveUser user draw = .ok s') :
    ∃ users hkeep, s.users.update? (·.pk == user.pk) draw.apply = some users
      ∧ s' = s.setUsers users hkeep := by
  unfold saveUser at h
  split at h
  · split at h
    · cases h
    · rename_i users hupdate
      exact ⟨users, keys_kept hupdate, hupdate, (Except.ok.inj h).symm⟩
  · cases h

theorem anonymize_ok {s s' : AccountSite} {user : User} {draw : Placeholder} {r : ErasureResult}
    (h : anonymize s user draw = (.ok r, s')) : Anonymized s user draw s' := by
  unfold anonymize at h
  simp only at h
  split at h
  · cases h
  · rename_i s₁ hsave
    obtain ⟨users, hkeep, hupdate, rfl⟩ := saveUser_ok hsave
    obtain ⟨-, rfl⟩ := Prod.mk.inj h
    exact ⟨Table.update?_rows hupdate, rfl, rfl, rfl, rfl, rfl, rfl⟩

/-- A row after an anonymization is another user's, or the user's under the
placeholder. -/
theorem Anonymized.row {s s' : AccountSite} {user v : User} {draw : Placeholder}
    (h : Anonymized s user draw s') (hv : v ∈ s'.users) :
    v ∈ s.users ∧ v.pk ≠ user.pk ∨ ∃ old ∈ s.users, old.pk = user.pk ∧ v = draw.apply old := by
  have hrows : v ∈ s'.users.rows := hv
  rw [h.users] at hrows
  obtain ⟨old, hold, rfl⟩ := List.mem_map.mp hrows
  by_cases hpk : old.pk = user.pk
  · rw [if_pos (beq_iff_eq.mpr hpk)]
    exact Or.inr ⟨old, hold, hpk, rfl⟩
  · rw [if_neg (by simpa using hpk)]
    exact Or.inl ⟨hold, hpk⟩

/-- A call returns only for a user with a row, and only if nobody else has
the name it draws. -/
def Returns (s : AccountSite) (user : User) (draw : Placeholder) : Prop :=
  (∃ u ∈ s.users, u.pk = user.pk) ∧ ∀ u ∈ s.users, u.username = draw.username → u.pk = user.pk

theorem returns_of_ok {s : AccountSite} {user : User} {draw : Placeholder} {r : ErasureResult}
    (h : (anonymize s user draw).1 = .ok r) : Returns s user draw := by
  unfold anonymize at h
  simp only at h
  split at h
  · cases h
  · rename_i s₁ hsave
    unfold saveUser at hsave
    split at hsave
    · rename_i hany
      obtain ⟨v, hv, hpk⟩ := Table.any_iff.mp hany
      have hpk : v.pk = user.pk := eq_of_beq hpk
      refine ⟨⟨v, hv, hpk⟩, fun u hu hname => ?_⟩
      split at hsave
      · cases hsave
      · rename_i users hupdate
        by_contra hne
        have hu' : u ∈ users := (Table.mem_update? hupdate).mpr ⟨u, hu, by simp [hne]⟩
        have hv' : draw.apply v ∈ users :=
          (Table.mem_update? hupdate).mpr ⟨v, hv, by simp [hpk]⟩
        have hclash : User.clash u (draw.apply v) = true := by
          simp [User.clash, Placeholder.apply, hname]
        have hsame := Table.eq_of_clash Site.user_clash_symm hu' hv' hclash
        exact hne ((congrArg User.pk hsame).trans hpk)
    · cases hsave

/-- A call that raises has changed nothing. -/
theorem anonymize_error {s s' : AccountSite} {user : User} {draw : Placeholder} {e : Exc}
    (h : anonymize s user draw = (.error e, s')) : s' = s := by
  unfold anonymize at h
  simp only at h
  split at h
  · exact (Prod.mk.inj h).2.symm
  · cases h

end GDPRService

/-- The demo data: one account, with nothing but its row and its role. -/
def DemoSeed.accounts : AccountSite where
  toSite := DemoSeed.site
  userTotps := ∅
  sessions := .empty
  userProfiles := ∅
  notifications := ∅
  outstandingTokens := ∅
  blacklistedTokens := ∅
  totp_fk := by decide
  profile_fk := by decide
  notification_fk := by decide
  outstanding_fk := fun _ hrow => absurd hrow (Table.not_mem_empty _)
  blacklist_fk := by decide

/-- The demo data with the guest's account. -/
def DemoSeed.twoAccounts : AccountSite :=
  DemoSeed.accounts.setUsers ⟨[DemoSeed.admin, DemoSeed.guest], DemoSeed.admin_guest_distinct⟩
    fun _ hu => ⟨DemoSeed.admin, List.mem_cons_self, by rw [List.mem_singleton.mp hu]⟩

end SaasKit
