import SaasKit.GdprService

/-!
# `manage.py delete_user_data`

The command looks the account up, asks, erases and prints what it deleted. If
it fails or is called off, nothing has changed; otherwise the numbers it prints
are the rows that are gone, and a second call finds nothing left to delete
(`erasure_reported`).
-/

namespace SaasKit

namespace DeleteUserData

open GDPRService AccountSite

/-- What the command takes from Python: the key that `get(pk=...)` reads in its
argument, if it reads one, and `str.lower`. -/
structure Terminal where
  readPk : String → Option UserId
  lower : String → String

structure Arguments where
  userId : String
  hardDelete : Bool
  noInput : Bool

inductive Failure where
  | commandError (message : String)
  | raised (e : Exc)
  deriving DecidableEq, Repr

def modeLabel (hardDelete : Bool) : String :=
  if hardDelete then "HARD DELETE (permanent removal)" else "ANONYMIZE (PII wipe)"

def modeValue : ErasureMode → String
  | .anonymize => "anonymize"
  | .hardDelete => "hard_delete"

def header (user : User) (hardDelete : Bool) : List String :=
  ["User   : " ++ user.username ++ " (id=" ++ toString user.pk ++ ")",
    "Email  : " ++ user.email,
    "Mode   : " ++ modeLabel hardDelete,
    ""]

def report (result : ErasureResult) : List String :=
  ["Erasure complete.",
    "  Notifications deleted : " ++ toString result.notificationsDeleted,
    "  Roles deleted         : " ++ toString result.rolesDeleted,
    "  JWT tokens revoked    : " ++ toString result.tokensDeleted,
    "  Mode                  : " ++ modeValue result.mode]

def noUser (args : Arguments) : Failure :=
  .commandError ("No user found with id '" ++ args.userId ++ "'.")

/-- `Command.handle`, with the answer to its prompt: how it ends, what it has
printed, and the database. -/
def handle (t : Terminal) (s : AccountSite) (args : Arguments) (answer : String)
    (draw : Placeholder) : Except Failure Unit × List String × AccountSite :=
  match (t.readPk args.userId).bind s.getUser with
  | none => (.error (noUser args), [], s)
  | some user =>
      if !args.noInput && t.lower (strip answer) != "yes" then
        (.ok (), header user args.hardDelete ++ ["Aborted."], s)
      else if args.hardDelete then
        let (result, s) := GDPRService.hardDelete s user
        (.ok (), header user args.hardDelete ++ report result, s)
      else
        match GDPRService.anonymize s user draw with
        | (.error e, s) => (.error (.raised e), header user args.hardDelete, s)
        | (.ok result, s) => (.ok (), header user args.hardDelete ++ report result, s)

/-! ## What is deleted -/

/-- The numbers are those of the rows that are gone. -/
structure Counted (s s' : AccountSite) (result : ErasureResult) : Prop where
  notifications : s'.notifications.rows.length + result.notificationsDeleted
    = s.notifications.rows.length
  roles : s'.userTenantRoles.rows.length + result.rolesDeleted = s.userTenantRoles.rows.length
  tokens : s'.outstandingTokens.rows.length + s'.blacklistedTokens.rows.length
      + result.tokensDeleted
    = s.outstandingTokens.rows.length + s.blacklistedTokens.rows.length

/-- Nothing the command counts belongs to the account. -/
structure Emptied (pk : UserId) (s : AccountSite) : Prop where
  notifications : ∀ row ∈ s.notifications, row.user ≠ pk
  roles : ∀ row ∈ s.userTenantRoles, row.user ≠ pk
  tokens : ∀ row ∈ s.outstandingTokens, row.user ≠ some pk

section

variable {t : Terminal} {s s' : AccountSite} {user : User} {draw : Placeholder}
  {result : ErasureResult} {args : Arguments} {answer : String} {lines : List String}

theorem deleteOwned_counted (s : AccountSite) (user : User) (mode : ErasureMode) :
    Counted s (deleteOwned s user mode).2 (deleteOwned s user mode).1 where
  notifications := Table.length_delete ..
  roles := Table.length_delete ..
  tokens := by
    have houtstanding := Table.length_delete s.outstandingTokens (ownToken user)
    have hblacklisted := Table.length_delete s.blacklistedTokens (s.cascaded user)
    show (s.outstandingTokens.delete (ownToken user)).rows.length
        + (s.blacklistedTokens.delete (s.cascaded user)).rows.length
        + (s.outstandingTokens.count (ownToken user)
          + s.blacklistedTokens.count (s.cascaded user)) = _
    omega

theorem deleteOwned_emptied (s : AccountSite) (user : User) (mode : ErasureMode) :
    Emptied user.pk (deleteOwned s user mode).2 where
  notifications _ hrow := beq_eq_false_iff_ne.mp (Table.mem_delete.mp hrow).2
  roles _ hrow := beq_eq_false_iff_ne.mp (Table.mem_delete.mp hrow).2
  tokens _ hrow := beq_eq_false_iff_ne.mp (Table.mem_delete.mp hrow).2

/-- Where there is nothing to delete, nothing is reported. -/
theorem Emptied.deleteOwned (h : Emptied user.pk s) (mode : ErasureMode) :
    (deleteOwned s user mode).1 = ⟨user.pk, mode, 0, 0, 0⟩ := by
  have hown : ∀ row ∈ s.outstandingTokens, ownToken user row = false := fun row hrow =>
    beq_eq_false_iff_ne.mpr (h.tokens row hrow)
  have hcascaded : ∀ row ∈ s.blacklistedTokens, s.cascaded user row = false := fun row _ =>
    Table.any_eq_false.mpr fun t ht => by rw [hown t ht, Bool.false_and]
  have htokens : s.outstandingTokens.count (ownToken user)
      + s.blacklistedTokens.count (s.cascaded user) = 0 := by
    rw [Table.count_eq_zero hown, Table.count_eq_zero hcascaded]
  have hnotifications : s.notifications.count (·.user == user.pk) = 0 :=
    Table.count_eq_zero fun row hrow => beq_eq_false_iff_ne.mpr (h.notifications row hrow)
  have hroles : s.userTenantRoles.count (·.user == user.pk) = 0 :=
    Table.count_eq_zero fun row hrow => beq_eq_false_iff_ne.mpr (h.roles row hrow)
  show (⟨user.pk, mode, s.notifications.count (·.user == user.pk),
    s.userTenantRoles.count (·.user == user.pk), _⟩ : ErasureResult) = _
  rw [hnotifications, hroles, htokens]

theorem anonymize_deletes (h : GDPRService.anonymize s user draw = (.ok result, s')) :
    result = (GDPRService.deleteOwned s user .anonymize).1 ∧ Counted s s' result
      ∧ Emptied user.pk s' := by
  have hcounted := deleteOwned_counted s user .anonymize
  have hemptied := deleteOwned_emptied s user .anonymize
  unfold GDPRService.anonymize at h
  simp only at h
  split at h
  · cases h
  · rename_i hsave
    obtain ⟨users, hkeep, -, rfl⟩ := GDPRService.saveUser_ok hsave
    obtain ⟨hresult, rfl⟩ := Prod.mk.inj h
    obtain rfl := Except.ok.inj hresult
    exact ⟨rfl, ⟨hcounted.notifications, hcounted.roles, hcounted.tokens⟩,
      ⟨hemptied.notifications, hemptied.roles, hemptied.tokens⟩⟩

/-- What the cascade of the account would delete is deleted already. -/
theorem hardDelete_deletes (s : AccountSite) (user : User) :
    Counted s (GDPRService.hardDelete s user).2 (GDPRService.hardDelete s user).1
      ∧ ∀ u ∈ (GDPRService.hardDelete s user).2.users, u.pk ≠ user.pk := by
  have hcounted := deleteOwned_counted s user .hardDelete
  refine ⟨⟨?_, ?_, ?_⟩, fun u hu => beq_eq_false_iff_ne.mp (Table.mem_delete.mp hu).2⟩
  · have hagain : (GDPRService.hardDelete s user).2.notifications
        = (s.notifications.delete (·.user == user.pk)).delete (·.user == user.pk) := rfl
    rw [hagain, Table.delete_delete]
    exact hcounted.notifications
  · have hagain : (GDPRService.hardDelete s user).2.userTenantRoles
        = ((s.userTenantRoles.delete (·.user == user.pk)).delete (·.user == user.pk)).modify
            (·.assignedBy == some user.pk) clearAssignedBy := rfl
    rw [hagain, Table.delete_delete]
    exact (congrArg (· + _) (List.length_map ..)).trans hcounted.roles
  · exact (congrArg (· + _ + _) (List.length_map ..)).trans hcounted.tokens

/-! ## What is printed -/

theorem handle_error {f : Failure} (h : handle t s args answer draw = (.error f, lines, s')) :
    s' = s := by
  unfold handle at h
  split at h
  · exact (Prod.mk.inj (Prod.mk.inj h).2).2.symm
  · split at h
    · cases h
    · split at h
      · cases h
      · split at h
        · rename_i hcall
          rw [← (Prod.mk.inj (Prod.mk.inj h).2).2]
          exact GDPRService.anonymize_error hcall
        · cases h

/-- A call that returns was called off, or has erased the account it names. -/
theorem handle_ok (h : handle t s args answer draw = (.ok (), lines, s')) :
    (args.noInput = false ∧ t.lower (strip answer) ≠ "yes" ∧ s' = s)
      ∨ ∃ user, (t.readPk args.userId).bind s.getUser = some user
        ∧ ∃ result, lines = header user args.hardDelete ++ report result
          ∧ (args.hardDelete = true ∧ GDPRService.hardDelete s user = (result, s')
            ∨ args.hardDelete = false ∧ GDPRService.anonymize s user draw = (.ok result, s')) := by
  unfold handle at h
  split at h
  · cases h
  · rename_i user hfound
    split at h
    · rename_i hoff
      simp only [Bool.and_eq_true, Bool.not_eq_true', bne_iff_ne] at hoff
      exact Or.inl ⟨hoff.1, hoff.2, (Prod.mk.inj (Prod.mk.inj h).2).2.symm⟩
    · refine Or.inr ⟨user, hfound, ?_⟩
      split at h
      · rename_i hhard
        obtain ⟨-, h⟩ := Prod.mk.inj h
        obtain ⟨rfl, rfl⟩ := Prod.mk.inj h
        exact ⟨_, rfl, Or.inl ⟨hhard, rfl⟩⟩
      · rename_i hhard
        split at h
        · cases h
        · rename_i result s₁ hcall
          obtain ⟨-, h⟩ := Prod.mk.inj h
          obtain ⟨rfl, rfl⟩ := Prod.mk.inj h
          exact ⟨result, rfl, Or.inr ⟨Bool.eq_false_iff.mpr hhard, hcall⟩⟩

end

def terminal : Terminal where
  readPk text := if text == "1" then some 1 else none
  lower text := String.ofList (text.toList.map Char.toLower)

/-- The admin of the demo data has one role to delete. -/
example :
    (handle terminal DemoSeed.accounts ⟨"1", true, false⟩ " Yes " ⟨"", ""⟩).2.1.drop 4
      = report ⟨1, .hardDelete, 0, 1, 0⟩ := by
  decide

end DeleteUserData

end SaasKit
