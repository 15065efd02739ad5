import SaasKit.GdprService

/-!
# A hard deletion as a whole

`GDPRService.hard_delete` with every foreign key to the user: the eleven
columns of seven models, the abstract `BaseModel` among them. Any step can
raise; the transaction then rolls back. A call that returns has removed the
user's own rows and nulled the columns that keep a reference, and every
other row is as it was (`hard_delete_consistent`).
-/

namespace SaasKit

/-! ## apps/common -/

/-- The columns of the abstract base; a soft-deleted row stays in the table. -/
structure BaseModel where
  id : UUID
  createdAt : Time
  updatedAt : Time
  createdBy : Option UserId
  updatedBy : Option UserId
  isDeleted : Bool
  deletedAt : Option Time
  deletedBy : Option UserId
  deriving DecidableEq, Repr

structure Record extends BaseModel where
  title : String
  deriving DecidableEq, Repr

def Record.pk (row : Record) : UUID := row.id

/-- Everything that refers to a user. -/
structure RecordSite extends AccountSite where
  records : Table Record (sameKey Record.pk)

namespace HardDelete

open AccountSite

/-- A reference to this user becomes null. -/
def setNull (user : UserId) (ref : Option UserId) : Option UserId :=
  if ref == some user then none else ref

/-! ## The call -/

/-- `SET_NULL` on the three columns. -/
def clearRecord (user : User) : Table.Rewrite (sameKey Record.pk) :=
  ⟨fun row => { row with
      createdBy := setNull user.pk row.createdBy
      updatedBy := setNull user.pk row.updatedBy
      deletedBy := setNull user.pk row.deletedBy },
    fun _ _ => rfl, fun _ _ => rfl⟩

def revokeTokens (s : RecordSite) (user : User) : Nat × RecordSite :=
  let (count, site) := s.toAccountSite.revokeTokens user
  (count, { s with toAccountSite := site })

def deleteNotifications (s : RecordSite) (user : User) : Nat × RecordSite :=
  let (count, site) := s.toAccountSite.deleteNotifications user
  (count, { s with toAccountSite := site })

def deleteRoles (s : RecordSite) (user : User) : Nat × RecordSite :=
  let (count, site) := s.toAccountSite.deleteRoles user
  (count, { s with toAccountSite := site })

/-- `user.delete()`. The collector reads related rows through the base
manager, so soft-deleted records are among them. -/
def deleteUser (s : RecordSite) (user : User) : RecordSite :=
  { toAccountSite := s.toAccountSite.deleteUser user
    records := s.records.modify (fun _ => true) (clearRecord user) }

/-- The four statements of the transaction. -/
inductive Stage where
  | revokeTokens
  | deleteNotifications
  | deleteRoles
  | deleteUser

/-- A statement, unless the database raises there. -/
def stage {α : Type} (raises : Stage → Option Exc) (name : Stage) (result : α) : Except Exc α :=
  match raises name with
  | some e => .error e
  | none => .ok result

/-- `hard_delete`, where `raises` says which statement fails, and how. -/
def hardDelete (raises : Stage → Option Exc) (s : RecordSite) (user : User) :
    Except Exc ErasureResult × RecordSite :=
  let txn : Except Exc (ErasureResult × RecordSite) := do
    let (tokensDeleted, s) ← stage raises .revokeTokens (revokeTokens s user)
    let (notificationsDeleted, s) ← stage raises .deleteNotifications (deleteNotifications s user)
    let (rolesDeleted, s) ← stage raises .deleteRoles (deleteRoles s user)
    let s ← stage raises .deleteUser (deleteUser s user)
    return (⟨user.pk, .hardDelete, notificationsDeleted, rolesDeleted, tokensDeleted⟩, s)
  match txn with
  -- the transaction is rolled back
  | .error e => (.error e, s)
  | .ok (result, s) => (.ok result, s)

/-! ## What it leaves -/

/-- Nothing refers to the user. -/
structure Unreferenced (user : UserId) (s : RecordSite) : Prop where
  userTenantRoles : ∀ row ∈ s.userTenantRoles, row.user ≠ user ∧ row.assignedBy ≠ some user
  notifications : ∀ row ∈ s.notifications, row.user ≠ user
  userProfiles : ∀ row ∈ s.userProfiles, row.user ≠ user
  userTotps : ∀ row ∈ s.userTotps, row.user ≠ user
  invitations : ∀ row ∈ s.invitations, row.invitedBy ≠ some user ∧ row.acceptedBy ≠ some user
  auditLogs : ∀ row ∈ s.auditLogs, row.actor ≠ some user
  records : ∀ row ∈ s.records,
    row.createdBy ≠ some user ∧ row.updatedBy ≠ some user ∧ row.deletedBy ≠ some user

/-- The rows of each table afterwards: the user's own are gone, and of the
others only references to the user have changed. -/
structure Remaining (user : UserId) (s s' : RecordSite) : Prop where
  users : s'.users.rows = s.users.rows.filter fun row => row.pk != user
  userTenantRoles : s'.userTenantRoles.rows =
    (s.userTenantRoles.rows.filter fun row => row.user != user).map fun row =>
      { row with assignedBy := setNull user row.assignedBy }
  notifications : s'.notifications.rows = s.notifications.rows.filter fun row => row.user != user
  userProfiles : s'.userProfiles.rows = s.userProfiles.rows.filter fun row => row.user != user
  userTotps : s'.userTotps.rows = s.userTotps.rows.filter fun row => row.user != user
  invitations : s'.invitations.rows = s.invitations.rows.map fun row =>
    { row with invitedBy := setNull user row.invitedBy, acceptedBy := setNull user row.acceptedBy }
  auditLogs : s'.auditLogs = s.auditLogs.map fun row => { row with actor := setNull user row.actor }
  records : s'.records.rows = s.records.rows.map fun row =>
    { row with
      createdBy := setNull user row.createdBy
      updatedBy := setNull user row.updatedBy
      deletedBy := setNull user row.deletedBy }

section

variable {raises : Stage → Option Exc} {s s' : RecordSite} {user : User} {result : ErasureResult}

theorem stage_ok {α : Type} {name : Stage} {a b : α} (h : stage raises name a = .ok b) :
    raises name = none ∧ b = a := by
  unfold stage at h
  split at h
  · cases h
  · rename_i hquiet
    exact ⟨hquiet, (Except.ok.inj h).symm⟩

/-- A call that returns has gone through all four statements. -/
theorem hardDelete_ok (h : hardDelete raises s user = (.ok result, s')) :
    (∀ name, raises name = none)
      ∧ s' = deleteUser (deleteRoles (deleteNotifications (revokeTokens s user).2 user).2 user).2
          user := by
  unfold hardDelete at h
  simp only at h
  split at h
  · cases h
  · rename_i found hrun
    obtain ⟨-, rfl⟩ := Prod.mk.inj h
    obtain ⟨tokens, htokens, hrun⟩ := except_bind_ok.mp hrun
    obtain ⟨notifications, hnotifications, hrun⟩ := except_bind_ok.mp hrun
    obtain ⟨roles, hroles, hrun⟩ := except_bind_ok.mp hrun
    obtain ⟨deleted, hdeleted, hrun⟩ := except_bind_ok.mp hrun
    obtain ⟨hnoTokens, rfl⟩ := stage_ok htokens
    obtain ⟨hnoNotifications, rfl⟩ := stage_ok hnotifications
    obtain ⟨hnoRoles, rfl⟩ := stage_ok hroles
    obtain ⟨hnoUser, rfl⟩ := stage_ok hdeleted
    refine ⟨fun name => ?_, (congrArg Prod.snd (Except.ok.inj hrun)).symm⟩
    cases name with
    | revokeTokens => exact hnoTokens
    | deleteNotifications => exact hnoNotifications
    | deleteRoles => exact hnoRoles
    | deleteUser => exact hnoUser

theorem hardDelete_error {e : Exc} (h : hardDelete raises s user = (.error e, s')) : s' = s := by
  unfold hardDelete at h
  simp only at h
  split at h
  · exact (Prod.mk.inj h).2.symm
  · cases h

/-- On the rows that `GDPRService` models it is the same call. -/
theorem hardDelete_account (h : hardDelete raises s user = (.ok result, s')) :
    s'.toAccountSite = (GDPRService.hardDelete s.toAccountSite user).2 := by
  rw [(hardDelete_ok h).2]
  rfl

theorem setNull_ne (user : UserId) (ref : Option UserId) : setNull user ref ≠ some user := by
  unfold setNull
  split
  · intro h
    cases h
  · rename_i hne
    intro h
    exact hne (beq_iff_eq.mpr h)

theorem setNull_eq (user : UserId) (ref : Option UserId) :
    setNull user ref = if ref == some user then none else ref := rfl

/-! ### Row by row -/

theorem clearAssignedBy_eq (user : UserId) (row : UserTenantRole) :
    (if row.assignedBy == some user then clearAssignedBy.apply row else row)
      = { row with assignedBy := setNull user row.assignedBy } := by
  rw [setNull_eq]
  split <;> rfl

theorem clearInviters_eq (user : UserId) (row : TenantInvitation) :
    (if (if row.invitedBy == some user then clearInvitedBy.apply row else row).acceptedBy
        == some user
      then clearAcceptedBy.apply (if row.invitedBy == some user then clearInvitedBy.apply row
        else row)
      else if row.invitedBy == some user then clearInvitedBy.apply row else row)
      = { row with
          invitedBy := setNull user row.invitedBy
          acceptedBy := setNull user row.acceptedBy } := by
  have hkept : (if row.invitedBy == some user then clearInvitedBy.apply row else row).acceptedBy
      = row.acceptedBy := by split <;> rfl
  rw [hkept, setNull_eq, setNull_eq]
  split <;> split <;> rfl

theorem clearActor_eq (user : UserId) (entry : AuditLog) :
    (if entry.actor == some user then { entry with actor := none } else entry)
      = { entry with actor := setNull user entry.actor } := by
  rw [setNull_eq]
  split <;> rfl

theorem remaining_of_ok (h : hardDelete raises s user = (.ok result, s')) :
    Remaining user.pk s s' := by
  rw [(hardDelete_ok h).2]
  refine ⟨rfl, ?_, ?_, rfl, rfl, ?_, ?_, rfl⟩
  · show (((s.userTenantRoles.delete (·.user == user.pk)).delete (·.user == user.pk)).modify
      (·.assignedBy == some user.pk) clearAssignedBy).rows = _
    rw [Table.delete_delete]
    exact List.map_congr_left fun row _ => clearAssignedBy_eq user.pk row
  · show ((s.notifications.delete (·.user == user.pk)).delete (·.user == user.pk)).rows = _
    rw [Table.delete_delete]
    rfl
  · show ((s.invitations.modify (·.invitedBy == some user.pk) clearInvitedBy).modify
      (·.acceptedBy == some user.pk) clearAcceptedBy).rows = _
    simp only [Table.modify, List.map_map]
    exact List.map_congr_left fun row _ => clearInviters_eq user.pk row
  · exact List.map_congr_left fun entry _ => clearActor_eq user.pk entry

/-- What is left refers to nobody who is gone. -/
theorem Remaining.unreferenced {pk : UserId} (h : Remaining pk s s') : Unreferenced pk s' := by
  refine ⟨?_, ?_, ?_, ?_, ?_, ?_, ?_⟩
  · intro row hrow
    rw [← Table.mem_rows, h.userTenantRoles] at hrow
    obtain ⟨old, hold, rfl⟩ := List.mem_map.mp hrow
    exact ⟨bne_iff_ne.mp (List.mem_filter.mp hold).2, setNull_ne pk old.assignedBy⟩
  · intro row hrow
    rw [← Table.mem_rows, h.notifications] at hrow
    exact bne_iff_ne.mp (List.mem_filter.mp hrow).2
  · intro row hrow
    rw [← Table.mem_rows, h.userProfiles] at hrow
    exact bne_iff_ne.mp (List.mem_filter.mp hrow).2
  · intro row hrow
    rw [← Table.mem_rows, h.userTotps] at hrow
    exact bne_iff_ne.mp (List.mem_filter.mp hrow).2
  · intro row hrow
    rw [← Table.mem_rows, h.invitations] at hrow
    obtain ⟨old, -, rfl⟩ := List.mem_map.mp hrow
    exact ⟨setNull_ne pk old.invitedBy, setNull_ne pk old.acceptedBy⟩
  · intro row hrow
    rw [h.auditLogs] at hrow
    obtain ⟨old, -, rfl⟩ := List.mem_map.mp hrow
    exact setNull_ne pk old.actor
  · intro row hrow
    rw [← Table.mem_rows, h.records] at hrow
    obtain ⟨old, -, rfl⟩ := List.mem_map.mp hrow
    exact ⟨setNull_ne pk old.createdBy, setNull_ne pk old.updatedBy, setNull_ne pk old.deletedBy⟩

/-- A statement that raises ends the call, and nothing is written. -/
theorem hardDelete_of_raises {name : Stage} {e : Exc} (h : raises name = some e) :
    ∃ e', hardDelete raises s user = (.error e', s) := by
  cases hcall : hardDelete raises s user with
  | mk res s' =>
      cases res with
      | error e' => exact ⟨e', by rw [hardDelete_error hcall]⟩
      | ok result =>
          have hquiet := (hardDelete_ok hcall).1 name
          rw [h] at hquiet
          cases hquiet

/-- A hard deletion that returns leaves no reference to the user, none of the
user's rows, and every other row but for the nulled references; one in which
a statement raises leaves the database as it was. -/
theorem hard_delete_consistent (raises : Stage → Option Exc) (s : RecordSite) (user : User) :
    (∀ result s', hardDelete raises s user = (.ok result, s') →
        Unreferenced user.pk s' ∧ Remaining user.pk s s')
      ∧ ∀ name e, raises name = some e → ∃ e', hardDelete raises s user = (.error e', s) := by
  refine ⟨fun result s' hreturns => ?_, fun name e hraises => hardDelete_of_raises hraises⟩
  have hremaining : Remaining user.pk s s' := remaining_of_ok hreturns
  exact ⟨hremaining.unreferenced, hremaining⟩

end

/-! ## One deletion -/

/-- A record the admin has created and soft-deleted. -/
def archived : Record :=
  { id := 1, createdAt := 0, updatedAt := 0, createdBy := some DemoSeed.admin.pk
    updatedBy := some DemoSeed.guest.pk, isDeleted := true, deletedAt := some 0
    deletedBy := some DemoSeed.admin.pk, title := "Minutes" }

example : (hardDelete (fun _ => none) ⟨DemoSeed.accounts, ⟨[archived], List.pairwise_singleton ..⟩⟩
    DemoSeed.admin).2.records.rows = [{ archived with createdBy := none, deletedBy := none }] := by
  decide

end HardDelete

end SaasKit
