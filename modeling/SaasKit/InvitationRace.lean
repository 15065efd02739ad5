import Mathlib.Data.Fintype.Basic
import SaasKit.Lib.Interleave
import SaasKit.DemoSeed

/-!
# Concurrent answers to one invitation

`accept_invitation` and `revoke_invitation` statement by statement: every
database access is one step, in autocommit mode, and any number of calls
interleave. Each call reads the invitation first, decides on that copy and
writes last; nothing locks the row in between. `accept_solo` and
`revoke_solo` say that a call nobody interrupts does what the services do.

`Fresh` is what the missing lock would have provided: the two decisive
writes, of the role and of the revoked status, happen while the row still
is as it was read and no other call stands between its role write and its
status write. Under it at most one user gets in through the invitation,
and none once it is revoked (`one_membership`).
-/

namespace SaasKit

namespace InvitationRace

open InvitationService RBACService
open Threads (solo_step)

/-- Where a call stands, with the objects it holds. -/
inductive Position where
  | acceptStart (token : String) (user : User)
  | expiring (user : User) (inv : TenantInvitation)
  | loaded (user : User) (inv : TenantInvitation) (tenant : Tenant)
  | unjoined (user : User) (inv : TenantInvitation) (tenant : Tenant)
  | ready (user : User) (inv : TenantInvitation) (tenant : Tenant) (invitedBy : Option User)
  | granted (user : User) (inv : TenantInvitation) (tenant : Tenant) (invitedBy : Option User)
  | logged (user : User) (inv : TenantInvitation) (tenant : Tenant)
  | saved (user : User) (inv : TenantInvitation) (tenant : Tenant)
  | acceptDone (user : User) (result : Except Exc TenantInvitation)
  | revokeStart (id : UUID) (tenant : Tenant) (revokedBy : User)
  | revoking (inv : TenantInvitation) (tenant : Tenant) (revokedBy : User)
  | revoked (inv : TenantInvitation) (tenant : Tenant) (revokedBy : User)
  | revokeDone (result : Except Exc TenantInvitation)

open Position

/-- The row an accepting call writes. -/
def roleRow (user : User) (inv : TenantInvitation) (tenant : Tenant)
    (invitedBy : Option User) : UserTenantRole :=
  ⟨user.pk, tenant.id, inv.role, invitedBy.map (·.pk)⟩

/-- One database access of a call and the decisions up to the next, at the
time `now`. -/
def next (now : Time) (s : Site) : Position → Option (Site × Position)
  | acceptStart token user =>
      match getByToken s token with
      | none => some (s, acceptDone user (.error (.notFoundServiceError "Invitation not found.")))
      | some (inv, tenant) =>
          if inv.status ≠ .pending then
            some (s, acceptDone user (.error (.notFoundServiceError
              "This invitation has already been used or revoked.")))
          else if inv.isExpired now then some (s, expiring user inv)
          else some (s, loaded user inv tenant)
  | expiring user inv =>
      some (saveInvitation s inv.id (setStatus .expired),
        acceptDone user (.error (.validationServiceError "This invitation has expired.")))
  | loaded user inv tenant =>
      if isMember s user.pk tenant.id then
        some (s, acceptDone user (.error (.conflictServiceError
          "You are already a member of this tenant.")))
      else some (s, unjoined user inv tenant)
  | unjoined user inv tenant =>
      some (s, ready user inv tenant (inv.invitedBy.bind s.getUser))
  | ready user inv tenant invitedBy =>
      if roleFk s (roleRow user inv tenant invitedBy) then
        some ({ s with
            userTenantRoles := s.userTenantRoles.put (roleRow user inv tenant invitedBy) },
          granted user inv tenant invitedBy)
      else some (s, acceptDone user (.error .integrityError))
  | granted user inv tenant invitedBy =>
      some (AuditService.log s .roleAssigned (some tenant) invitedBy "User" (toString user.pk)
          [("role", .str inv.role.value), ("target_email", .str user.email)],
        logged user inv tenant)
  | logged user inv tenant =>
      some (saveInvitation s inv.id (setAccepted user.pk), saved user inv tenant)
  | saved user inv tenant =>
      some (AuditService.log s .invitationAccepted (some tenant) (some user) "TenantInvitation"
          (uuidStr inv.id) [("email", .str inv.email), ("role", .str inv.role.value)],
        acceptDone user (.ok { inv with status := .accepted, acceptedBy := some user.pk }))
  | revokeStart id tenant revokedBy =>
      match s.invitations.find? fun i => i.id == id && i.tenant == tenant.id with
      | none => some (s, revokeDone (.error (.notFoundServiceError "Invitation not found.")))
      | some inv =>
          if inv.status ≠ .pending then
            some (s, revokeDone (.error (.validationServiceError
              ("Cannot revoke an invitation with status '" ++ inv.status.value ++ "'."))))
          else some (s, revoking inv tenant revokedBy)
  | revoking inv tenant revokedBy =>
      some (saveInvitation s inv.id (setStatus .revoked), revoked inv tenant revokedBy)
  | revoked inv tenant revokedBy =>
      some (AuditService.log s .invitationRevoked (some tenant) (some revokedBy)
          "TenantInvitation" (uuidStr inv.id) [("email", .str inv.email)],
        revokeDone (.ok { inv with status := .revoked }))
  | acceptDone .. | revokeDone _ => none

variable {ι : Type}

abbrev Conf (ι : Type) := Threads.Conf ι Site Position

abbrev Step : Conf ι → ι × Time → Conf ι → Prop := Threads.step (Threads.ofNext next)

/-! ## One call by itself -/

/-- A call with nobody else running. -/
abbrev Solo (i : ι) : Site × Position → List Time → Site × Position → Prop :=
  Lts.Run (Threads.solo (Threads.ofNext next) i)

/-- From its role write on, an uninterrupted acceptance assigns the role,
saves the invitation and logs. -/
theorem ready_solo (i : ι) (s : Site) (now : Time) (user : User) (inv : TenantInvitation)
    (tenant : Tenant) (invitedBy : Option User) :
    ∃ es, Solo i (s, ready user inv tenant invitedBy) es
      (match assignRole s user tenant inv.role.value invitedBy with
        | (.error e, s) => (s, acceptDone user (.error e))
        | (.ok _, s) =>
            (AuditService.log (saveInvitation s inv.id (setAccepted user.pk)) .invitationAccepted
                (some tenant) (some user) "TenantInvitation" (uuidStr inv.id)
                [("email", .str inv.email), ("role", .str inv.role.value)],
              acceptDone user
                (.ok { inv with status := .accepted, acceptedBy := some user.pk }))) := by
  cases hfk : roleFk s (roleRow user inv tenant invitedBy) with
  | true =>
      have hgrant : next now s (ready user inv tenant invitedBy)
          = some ({ s with
              userTenantRoles := s.userTenantRoles.put (roleRow user inv tenant invitedBy) },
            granted user inv tenant invitedBy) := if_pos hfk
      rw [@assignRole_of_fk s user tenant invitedBy inv.role hfk]
      exact ⟨[now, now, now, now], .cons (solo_step hgrant) (.cons (solo_step rfl)
        (.cons (solo_step rfl) (.cons (solo_step rfl) (.nil _))))⟩
  | false =>
      have hgrant : next now s (ready user inv tenant invitedBy)
          = some (s, acceptDone user (.error .integrityError)) :=
        if_neg (by rw [hfk]; exact Bool.false_ne_true)
      rw [@assignRole_of_not_fk s user tenant invitedBy inv.role hfk]
      exact ⟨[now], .cons (solo_step hgrant) (.nil _)⟩

/-- An uninterrupted acceptance is `acceptInvitation`. -/
theorem accept_solo (i : ι) (s : Site) (now : Time) (token : String) (user : User) :
    ∃ es, Solo i (s, acceptStart token user) es
      ((acceptInvitation s now token user).2,
        acceptDone user (acceptInvitation s now token user).1) := by
  unfold acceptInvitation
  cases hget : getByToken s token with
  | none => exact ⟨[now], .cons (solo_step (by simp [next, hget])) (.nil _)⟩
  | some found =>
      obtain ⟨inv, tenant⟩ := found
      by_cases hpend : inv.status = .pending
      · by_cases hexp : inv.isExpired now = true
        · have hread : next now s (acceptStart token user) = some (s, expiring user inv) := by
            simp [next, hget, hpend, hexp]
          simp only [hpend, hexp, ne_eq, not_true_eq_false, if_false, if_true]
          exact ⟨[now, now], .cons (solo_step hread) (.cons (solo_step rfl) (.nil _))⟩
        · have hread : next now s (acceptStart token user)
              = some (s, loaded user inv tenant) := by simp [next, hget, hpend, hexp]
          simp only [hpend, hexp, ne_eq, not_true_eq_false, if_false]
          by_cases hmember : isMember s user.pk tenant.id = true
          · have hexists : next now s (loaded user inv tenant) = some (s, acceptDone user
                (.error (.conflictServiceError "You are already a member of this tenant."))) := by
              simp [next, hmember]
            simp only [hmember, if_true]
            exact ⟨[now, now], .cons (solo_step hread) (.cons (solo_step hexists) (.nil _))⟩
          · have hexists : next now s (loaded user inv tenant)
                = some (s, unjoined user inv tenant) := by simp [next, hmember]
            have hload : next now s (unjoined user inv tenant)
                = some (s, ready user inv tenant (inv.invitedBy.bind s.getUser)) := rfl
            obtain ⟨es, hrest⟩ := ready_solo i s now user inv tenant (inv.invitedBy.bind s.getUser)
            refine ⟨now :: now :: now :: es, .cons (solo_step hread) (.cons (solo_step hexists)
              (.cons (solo_step hload) ?_))⟩
            simp only [hmember]
            generalize assignRole s user tenant inv.role.value (inv.invitedBy.bind s.getUser)
              = result at hrest
            obtain ⟨res, s'⟩ := result
            cases res <;> exact hrest
      · have hread : next now s (acceptStart token user) = some (s, acceptDone user (.error
            (.notFoundServiceError "This invitation has already been used or revoked."))) := by
          simp [next, hget, hpend]
        simp only [hpend, ne_eq, not_false_eq_true, if_true]
        exact ⟨[now], .cons (solo_step hread) (.nil _)⟩

/-- An uninterrupted revocation is `revokeInvitation`. -/
theorem revoke_solo (i : ι) (s : Site) (now : Time) (id : UUID) (tenant : Tenant)
    (revokedBy : User) :
    ∃ es, Solo i (s, revokeStart id tenant revokedBy) es
      ((revokeInvitation s id tenant revokedBy).2,
        revokeDone (revokeInvitation s id tenant revokedBy).1) := by
  unfold revokeInvitation
  cases hfind : s.invitations.find? fun i => i.id == id && i.tenant == tenant.id with
  | none => exact ⟨[now], .cons (solo_step (by simp [next, hfind])) (.nil _)⟩
  | some inv =>
      by_cases hpend : inv.status = .pending
      · have hread : next now s (revokeStart id tenant revokedBy)
            = some (s, revoking inv tenant revokedBy) := by simp [next, hfind, hpend]
        simp only [hpend, ne_eq, not_true_eq_false, if_false]
        exact ⟨[now, now, now], .cons (solo_step hread)
          (.cons (solo_step rfl) (.cons (solo_step rfl) (.nil _)))⟩
      · have hread : next now s (revokeStart id tenant revokedBy)
            = some (s, revokeDone (.error (.validationServiceError
              ("Cannot revoke an invitation with status '" ++ inv.status.value ++ "'.")))) := by
          simp [next, hfind, hpend]
        simp only [hpend, ne_eq, not_false_eq_true, if_true]
        exact ⟨[now], .cons (solo_step hread) (.nil _)⟩

/-- Among the schedules is the one that leaves the acceptance alone. -/
theorem accept_scheduled [DecidableEq ι] {c : Conf ι} {i : ι} {token : String} {user : User}
    (now : Time) (hstart : c.locals i = acceptStart token user) :
    ∃ ls, Lts.Run Step c ls
      ⟨(acceptInvitation c.shared now token user).2, Function.update c.locals i
        (acceptDone user (acceptInvitation c.shared now token user).1)⟩ := by
  obtain ⟨es, hrun⟩ := accept_solo i c.shared now token user
  exact ⟨_, Threads.run_solo hrun hstart⟩

theorem revoke_scheduled [DecidableEq ι] {c : Conf ι} {i : ι} {id : UUID} {tenant : Tenant}
    {revokedBy : User} (now : Time) (hstart : c.locals i = revokeStart id tenant revokedBy) :
    ∃ ls, Lts.Run Step c ls
      ⟨(revokeInvitation c.shared id tenant revokedBy).2, Function.update c.locals i
        (revokeDone (revokeInvitation c.shared id tenant revokedBy).1)⟩ := by
  obtain ⟨es, hrun⟩ := revoke_solo i c.shared now id tenant revokedBy
  exact ⟨_, Threads.run_solo hrun hstart⟩

/-! ## The invariant -/

/-- The row of invitation `id` has this status. -/
def HasStatus (s : Site) (id : UUID) (status : InvitationStatus) : Prop :=
  ∃ row ∈ s.invitations, row.id = id ∧ row.status = status

/-- The user a call has made a member. -/
def obtained : Position → Option User
  | granted user .. | logged user .. | saved user .. | acceptDone user (.ok _) => some user
  | _ => none

/-- The call has revoked the invitation. -/
def hasRevoked : Position → Bool
  | revoked .. | revokeDone (.ok _) => true
  | _ => false

/-- The call stands between its role write and its status write. -/
def granting : Position → Bool
  | granted .. | logged .. => true
  | _ => false

/-- The next access writes the role. -/
def writesRole : Position → Bool
  | ready .. => true
  | _ => false

/-- The next access writes the status "revoked". -/
def writesRevoked : Position → Bool
  | revoking .. => true
  | _ => false

/-- The decisive writes happen on a row that is still as it was read, with
nobody between its own two writes. -/
def Fresh (id : UUID) (c : Conf ι) (l : ι × Time) : Prop :=
  (writesRole (c.locals l.1) = true → HasStatus c.shared id .pending
      ∧ ∀ j, j ≠ l.1 → granting (c.locals j) = false)
    ∧ (writesRevoked (c.locals l.1) = true →
      (HasStatus c.shared id .pending ∨ HasStatus c.shared id .revoked)
        ∧ ∀ j, j ≠ l.1 → granting (c.locals j) = false)

instance (s : Site) (id : UUID) (status : InvitationStatus) : Decidable (HasStatus s id status) :=
  inferInstanceAs (Decidable (∃ row ∈ s.invitations, row.id = id ∧ row.status = status))

instance [Fintype ι] [DecidableEq ι] (id : UUID) (c : Conf ι) (l : ι × Time) :
    Decidable (Fresh id c l) :=
  inferInstanceAs (Decidable (_ ∧ _))

/-- The token names invitation `id` only. -/
def TokenNames (id : UUID) (token : String) (s : Site) : Prop :=
  ∀ row ∈ s.invitations, row.token = token → row.id = id

/-- What a position says about the row. -/
def Own (id : UUID) (token : String) (s : Site) : Position → Prop
  | acceptStart token' _ => token' = token
  | expiring _ inv | loaded _ inv _ | unjoined _ inv _ | ready _ inv .. | granted _ inv ..
  | logged _ inv _ => inv.id = id
  | saved .. | acceptDone _ (.ok _) => ¬ HasStatus s id .pending ∧ ¬ HasStatus s id .revoked
  | revokeStart id' .. => id' = id
  | revoking inv .. => inv.id = id
  | revoked .. | revokeDone (.ok _) => ¬ HasStatus s id .pending
  | acceptDone _ (.error _) | revokeDone (.error _) => True

/-- At most one of two calls has made a member, and none if the other has
revoked. -/
structure Compatible (p q : Position) : Prop where
  grants : obtained p = none ∨ obtained q = none
  left : obtained p = none ∨ hasRevoked q = false
  right : hasRevoked p = false ∨ obtained q = none

theorem Compatible.symm {p q : Position} (h : Compatible p q) : Compatible q p :=
  ⟨h.grants.symm, h.right.symm, h.left.symm⟩

/-- A step that wins nothing new keeps the relation. -/
theorem Compatible.of_le {p p' q : Position} (h : Compatible p q)
    (hobtained : obtained p = none → obtained p' = none)
    (hrevoked : hasRevoked p = false → hasRevoked p' = false) : Compatible p' q :=
  ⟨h.grants.imp hobtained id, h.left.imp hobtained id, h.right.imp hrevoked id⟩

theorem Own.of_invitations {s s' : Site} {id : UUID} {token : String} {p : Position}
    (h : Own id token s p) (hs : s'.invitations = s.invitations) : Own id token s' p := by
  have hstatus : ∀ st, HasStatus s' id st ↔ HasStatus s id st := fun st => by
    simp only [HasStatus, hs]
  cases p with
  | acceptDone user res =>
      cases res with
      | ok inv => simpa only [Own, hstatus] using h
      | error e => trivial
  | revokeDone res =>
      cases res with
      | ok inv => simpa only [Own, hstatus] using h
      | error e => trivial
  | _ => simpa only [Own, hstatus] using h

theorem TokenNames.of_save {s : Site} {id id' : UUID} {token : String}
    {f : Table.Rewrite TenantInvitation.clash} (h : TokenNames id token s)
    (hf : ∀ i, (f.apply i).id = i.id ∧ (f.apply i).token = i.token) :
    TokenNames id token (saveInvitation s id' f) := by
  intro row hrow htoken
  obtain ⟨j, hj, rfl⟩ := Table.mem_modify.mp hrow
  split at htoken
  · rename_i hid
    rw [if_pos hid, (hf j).1]
    exact h j hj ((hf j).2.symm.trans htoken)
  · rename_i hid
    rw [if_neg hid]
    exact h j hj htoken

/-- After a write of its row, the invitation has the status written. -/
theorem hasStatus_save {s : Site} {id : UUID} {f : Table.Rewrite TenantInvitation.clash}
    {status written : InvitationStatus}
    (hwritten : ∀ i, (f.apply i).status = written)
    (h : HasStatus (saveInvitation s id f) id status) : status = written := by
  obtain ⟨row, hrow, hid, rfl⟩ := h
  obtain ⟨j, hj, rfl⟩ := Table.mem_modify.mp hrow
  split at hid
  · rename_i heq
    rw [if_pos heq]
    exact hwritten j
  · rename_i hne
    exact absurd (by simpa using hid) hne

/-- A call that has made a member is still writing or has left the row
neither pending nor revoked. -/
theorem granting_or_settled {s : Site} {id : UUID} {token : String} {p : Position}
    (h : Own id token s p) (hp : obtained p ≠ none) :
    granting p = true ∨ ¬ HasStatus s id .pending ∧ ¬ HasStatus s id .revoked := by
  cases p with
  | granted => exact Or.inl rfl
  | logged => exact Or.inl rfl
  | saved => exact Or.inr h
  | acceptDone user res =>
      cases res with
      | ok inv => exact Or.inr h
      | error e => exact absurd rfl hp
  | _ => exact absurd rfl hp

theorem not_pending_of_revoked {s : Site} {id : UUID} {token : String} {p : Position}
    (h : Own id token s p) (hp : hasRevoked p = true) : ¬ HasStatus s id .pending := by
  cases p with
  | revoked => exact h
  | revokeDone res =>
      cases res with
      | ok inv => exact h
      | error e => cases hp
  | _ => cases hp

/-- A status write keeps the assertion of a call that only the status
written could contradict. -/
theorem Own.of_written {s s' : Site} {id : UUID} {token : String} {p : Position}
    {written : InvitationStatus} (h : Own id token s p)
    (hwritten : ∀ st, HasStatus s' id st → st = written) (hpending : written ≠ .pending)
    (hrevoked : written ≠ .revoked ∨ obtained p = none) : Own id token s' p := by
  have hnotPending : ¬ HasStatus s' id .pending := fun hst => hpending (hwritten _ hst).symm
  have hsettled : obtained p ≠ none → ¬ HasStatus s' id .pending ∧ ¬ HasStatus s' id .revoked := by
    intro hsome
    rcases hrevoked with hne | hnone
    · exact ⟨hnotPending, fun hst => hne (hwritten _ hst).symm⟩
    · exact absurd hnone hsome
  cases p with
  | saved => exact hsettled nofun
  | acceptDone user res =>
      cases res with
      | ok inv => exact hsettled nofun
      | error e => trivial
  | revoked => exact hnotPending
  | revokeDone res =>
      cases res with
      | ok inv => exact hnotPending
      | error e => trivial
  | _ => exact h

/-! ## Steps and schedules -/

section

variable {id : UUID} {token : String} {now : Time} {s s' : Site} {p p' q : Position}

/-- An access keeps its own call's assertion. -/
theorem next_own (hnames : TokenNames id token s) (hown : Own id token s p)
    (h : next now s p = some (s', p')) : TokenNames id token s' ∧ Own id token s' p' := by
  cases p with
  | acceptStart token' user =>
      simp only [next] at h
      split at h
      · obtain ⟨rfl, rfl⟩ := Prod.mk.inj (Option.some.inj h)
        exact ⟨hnames, trivial⟩
      · rename_i inv tenant hget
        obtain ⟨hmem, htoken, -, -⟩ := getByToken_some.mp hget
        have hid : inv.id = id := hnames inv hmem (htoken.trans hown)
        split at h
        · obtain ⟨rfl, rfl⟩ := Prod.mk.inj (Option.some.inj h)
          exact ⟨hnames, trivial⟩
        · split at h
          · obtain ⟨rfl, rfl⟩ := Prod.mk.inj (Option.some.inj h)
            exact ⟨hnames, hid⟩
          · obtain ⟨rfl, rfl⟩ := Prod.mk.inj (Option.some.inj h)
            exact ⟨hnames, hid⟩
  | expiring user inv =>
      obtain ⟨rfl, rfl⟩ := Prod.mk.inj (Option.some.inj h)
      exact ⟨hnames.of_save fun _ => ⟨rfl, rfl⟩, trivial⟩
  | loaded user inv tenant =>
      simp only [next] at h
      split at h
      · obtain ⟨rfl, rfl⟩ := Prod.mk.inj (Option.some.inj h)
        exact ⟨hnames, trivial⟩
      · obtain ⟨rfl, rfl⟩ := Prod.mk.inj (Option.some.inj h)
        exact ⟨hnames, hown⟩
  | unjoined user inv tenant =>
      obtain ⟨rfl, rfl⟩ := Prod.mk.inj (Option.some.inj h)
      exact ⟨hnames, hown⟩
  | ready user inv tenant invitedBy =>
      simp only [next] at h
      split at h
      · obtain ⟨rfl, rfl⟩ := Prod.mk.inj (Option.some.inj h)
        exact ⟨hnames, hown⟩
      · obtain ⟨rfl, rfl⟩ := Prod.mk.inj (Option.some.inj h)
        exact ⟨hnames, trivial⟩
  | granted user inv tenant invitedBy =>
      obtain ⟨rfl, rfl⟩ := Prod.mk.inj (Option.some.inj h)
      exact ⟨hnames, hown⟩
  | logged user inv tenant =>
      obtain ⟨rfl, rfl⟩ := Prod.mk.inj (Option.some.inj h)
      obtain rfl : inv.id = id := hown
      refine ⟨hnames.of_save fun _ => ⟨rfl, rfl⟩, fun hst => ?_, fun hst => ?_⟩
      · cases hasStatus_save (fun _ => rfl) hst
      · cases hasStatus_save (fun _ => rfl) hst
  | saved user inv tenant =>
      obtain ⟨rfl, rfl⟩ := Prod.mk.inj (Option.some.inj h)
      exact ⟨hnames, hown⟩
  | revokeStart id' tenant revokedBy =>
      simp only [next] at h
      split at h
      · obtain ⟨rfl, rfl⟩ := Prod.mk.inj (Option.some.inj h)
        exact ⟨hnames, trivial⟩
      · rename_i inv hfind
        obtain ⟨-, hkey⟩ := Table.find?_some hfind
        simp only [Bool.and_eq_true, beq_iff_eq] at hkey
        split at h
        · obtain ⟨rfl, rfl⟩ := Prod.mk.inj (Option.some.inj h)
          exact ⟨hnames, trivial⟩
        · obtain ⟨rfl, rfl⟩ := Prod.mk.inj (Option.some.inj h)
          exact ⟨hnames, hkey.1.trans hown⟩
  | revoking inv tenant revokedBy =>
      obtain ⟨rfl, rfl⟩ := Prod.mk.inj (Option.some.inj h)
      obtain rfl : inv.id = id := hown
      refine ⟨hnames.of_save fun _ => ⟨rfl, rfl⟩, fun hst => ?_⟩
      cases hasStatus_save (fun _ => rfl) hst
  | revoked inv tenant revokedBy =>
      obtain ⟨rfl, rfl⟩ := Prod.mk.inj (Option.some.inj h)
      exact ⟨hnames, hown⟩
  | acceptDone user res => cases h
  | revokeDone res => cases h

/-- What one access can do: write nothing that matters here, write the role,
or write the status of the invitation its call holds. -/
inductive Access (s : Site) : Position → Site → Position → Prop
  | quiet {p p' : Position} {s' : Site} :
      s'.invitations = s.invitations → s'.userTenantRoles = s.userTenantRoles →
      obtained p' = obtained p → hasRevoked p' = hasRevoked p → Access s p s' p'
  | grant (user inv tenant invitedBy) :
      Access s (ready user inv tenant invitedBy)
        { s with userTenantRoles := s.userTenantRoles.put (roleRow user inv tenant invitedBy) }
        (granted user inv tenant invitedBy)
  | expire (user inv result) :
      Access s (expiring user inv) (saveInvitation s inv.id (setStatus .expired))
        (acceptDone user (.error result))
  | accept (user inv tenant) :
      Access s (logged user inv tenant) (saveInvitation s inv.id (setAccepted user.pk))
        (saved user inv tenant)
  | revoke (inv tenant revokedBy) :
      Access s (revoking inv tenant revokedBy) (saveInvitation s inv.id (setStatus .revoked))
        (revoked inv tenant revokedBy)

theorem next_access (h : next now s p = some (s', p')) : Access s p s' p' := by
  have hquiet : obtained p' = obtained p → hasRevoked p' = hasRevoked p →
      s' = s → Access s p s' p' := by
    rintro hobtained hrevoked rfl
    exact .quiet rfl rfl hobtained hrevoked
  cases p with
  | acceptStart token' user =>
      simp only [next] at h
      split at h
      · obtain ⟨rfl, rfl⟩ := Prod.mk.inj (Option.some.inj h)
        exact hquiet rfl rfl rfl
      · split at h
        · obtain ⟨rfl, rfl⟩ := Prod.mk.inj (Option.some.inj h)
          exact hquiet rfl rfl rfl
        · split at h <;> obtain ⟨rfl, rfl⟩ := Prod.mk.inj (Option.some.inj h) <;>
            exact hquiet rfl rfl rfl
  | expiring user inv =>
      obtain ⟨rfl, rfl⟩ := Prod.mk.inj (Option.some.inj h)
      exact .expire user inv _
  | loaded user inv tenant =>
      simp only [next] at h
      split at h <;> obtain ⟨rfl, rfl⟩ := Prod.mk.inj (Option.some.inj h) <;>
        exact hquiet rfl rfl rfl
  | unjoined user inv tenant =>
      obtain ⟨rfl, rfl⟩ := Prod.mk.inj (Option.some.inj h)
      exact hquiet rfl rfl rfl
  | ready user inv tenant invitedBy =>
      simp only [next] at h
      split at h
      · obtain ⟨rfl, rfl⟩ := Prod.mk.inj (Option.some.inj h)
        exact .grant user inv tenant invitedBy
      · obtain ⟨rfl, rfl⟩ := Prod.mk.inj (Option.some.inj h)
        exact hquiet rfl rfl rfl
  | granted user inv tenant invitedBy =>
      obtain ⟨rfl, rfl⟩ := Prod.mk.inj (Option.some.inj h)
      exact .quiet rfl rfl rfl rfl
  | logged user inv tenant =>
      obtain ⟨rfl, rfl⟩ := Prod.mk.inj (Option.some.inj h)
      exact .accept user inv tenant
  | saved user inv tenant =>
      obtain ⟨rfl, rfl⟩ := Prod.mk.inj (Option.some.inj h)
      exact .quiet rfl rfl rfl rfl
  | revokeStart id' tenant revokedBy =>
      simp only [next] at h
      split at h
      · obtain ⟨rfl, rfl⟩ := Prod.mk.inj (Option.some.inj h)
        exact hquiet rfl rfl rfl
      · split at h <;> obtain ⟨rfl, rfl⟩ := Prod.mk.inj (Option.some.inj h) <;>
          exact hquiet rfl rfl rfl
  | revoking inv tenant revokedBy =>
      obtain ⟨rfl, rfl⟩ := Prod.mk.inj (Option.some.inj h)
      exact .revoke inv tenant revokedBy
  | revoked inv tenant revokedBy =>
      obtain ⟨rfl, rfl⟩ := Prod.mk.inj (Option.some.inj h)
      exact .quiet rfl rfl rfl rfl
  | acceptDone user res => cases h
  | revokeDone res => cases h

/-- An access of one call under the condition disturbs no other call, and
leaves at most one of the two with the invitation. -/
theorem next_other {q : Position} (hp : Own id token s p) (hq : Own id token s q)
    (hpq : Compatible p q) (h : next now s p = some (s', p'))
    (hready : writesRole p = true → HasStatus s id .pending ∧ granting q = false)
    (hrevoking : writesRevoked p = true →
      (HasStatus s id .pending ∨ HasStatus s id .revoked) ∧ granting q = false) :
    Own id token s' q ∧ Compatible p' q := by
  cases next_access h with
  | quiet hinv _ hobtained hrevoked =>
      exact ⟨hq.of_invitations hinv, hpq.of_le hobtained.trans hrevoked.trans⟩
  | grant user inv tenant invitedBy =>
      obtain ⟨hpending, hfree⟩ := hready rfl
      have hnone : obtained q = none := by
        by_contra hsome
        rcases granting_or_settled hq hsome with hgranting | ⟨hno, -⟩
        · rw [hfree] at hgranting; cases hgranting
        · exact hno hpending
      have hnot : hasRevoked q = false := by
        by_contra hrev
        exact not_pending_of_revoked hq (Bool.not_eq_false _ ▸ hrev) hpending
      exact ⟨hq.of_invitations rfl, Or.inr hnone, Or.inr hnot, Or.inl rfl⟩
  | expire user inv result =>
      obtain rfl : inv.id = id := hp
      exact ⟨hq.of_written (fun _ hst => hasStatus_save (fun _ => rfl) hst) nofun
        (Or.inl nofun), hpq.of_le (fun _ => rfl) fun _ => rfl⟩
  | accept user inv tenant =>
      obtain rfl : inv.id = id := hp
      exact ⟨hq.of_written (fun _ hst => hasStatus_save (fun _ => rfl) hst) nofun
        (Or.inl nofun), hpq.of_le nofun fun _ => rfl⟩
  | revoke inv tenant revokedBy =>
      obtain rfl : inv.id = id := hp
      obtain ⟨hopen, hfree⟩ := hrevoking rfl
      have hnone : obtained q = none := by
        by_contra hsome
        rcases granting_or_settled hq hsome with hgranting | ⟨hnotPending, hnotRevoked⟩
        · rw [hfree] at hgranting; cases hgranting
        · exact hopen.elim hnotPending hnotRevoked
      exact ⟨hq.of_written (fun _ hst => hasStatus_save (fun _ => rfl) hst) nofun
        (Or.inr hnone), Or.inl rfl, Or.inl rfl, Or.inr hnone⟩

theorem keeps :
    Threads.Keeps (Threads.ofNext next) (Fresh (ι := ι) id) (TokenNames id token)
      (fun _ => Own id token) fun _ _ => Compatible where
  shared c i now s' p' hc _ h := next_own hc.shared (hc.own i) h
  other c i now s' p' j hc hfresh h hj := by
    exact next_other (hc.own i) (hc.own j) (hc.pair i j (Ne.symm hj)) h
      (fun hrole => (hfresh.1 hrole).imp_right fun hfree => hfree j hj)
      fun hrevoked => (hfresh.2 hrevoked).imp_right fun hfree => hfree j hj

/-- Every role row that `c₀` does not have belongs to a call that has made
its user a member. -/
def Attributed (c₀ c : Conf ι) : Prop :=
  ∀ row ∈ c.shared.userTenantRoles, row ∈ c₀.shared.userTenantRoles
    ∨ ∃ i user, obtained (c.locals i) = some user ∧ row.user = user.pk

theorem attributed_step {c₀ c c' : Conf ι} {l : ι × Time} (hc : Attributed c₀ c)
    (h : Step c l c') : Attributed c₀ c' := by
  obtain ⟨i, e⟩ := l
  obtain ⟨hact, hrest⟩ := h
  have haccess : Access c.shared (c.locals i) c'.shared (c'.locals i) := next_access hact
  have hkept : ∀ j user, obtained (c.locals j) = some user →
      ∃ k, obtained (c'.locals k) = some user := by
    intro j user hj
    by_cases hji : j = i
    · subst hji
      refine ⟨j, ?_⟩
      generalize c.locals j = p, c'.locals j = p', c'.shared = s' at haccess hj
      cases haccess with
      | quiet _ _ hobtained _ => rw [hobtained]; exact hj
      | accept user' inv tenant => exact hj
      | _ => cases hj
    · exact ⟨j, by rw [hrest j hji]; exact hj⟩
  have hold : ∀ row ∈ c.shared.userTenantRoles, row ∈ c₀.shared.userTenantRoles
      ∨ ∃ k user, obtained (c'.locals k) = some user ∧ row.user = user.pk := by
    intro row hrow
    rcases hc row hrow with hstart | ⟨j, user, hj, hpk⟩
    · exact Or.inl hstart
    · obtain ⟨k, hk⟩ := hkept j user hj
      exact Or.inr ⟨k, user, hk, hpk⟩
  intro row hrow
  generalize hp : c.locals i = p, hp' : c'.locals i = p', hs' : c'.shared = s' at haccess
  rw [hs'] at hrow
  cases haccess with
  | quiet _ hroles _ _ => exact hold row (hroles ▸ hrow)
  | grant user inv tenant invitedBy =>
      rcases Table.mem_put.mp hrow with rfl | ⟨hrow, -⟩
      · exact Or.inr ⟨i, user, by rw [hp']; rfl, rfl⟩
      · exact hold row hrow
  | _ => exact hold row hrow

/-! ## One invitation, one membership -/

/-- A call about invitation `inv` that has not touched the database yet. -/
inductive Begins (inv : TenantInvitation) : Position → Prop
  | accept (user : User) : Begins inv (acceptStart inv.token user)
  | revoke (tenant : Tenant) (revokedBy : User) : Begins inv (revokeStart inv.id tenant revokedBy)

theorem Begins.own {inv : TenantInvitation} {p : Position} (h : Begins inv p) (s : Site) :
    Own inv.id inv.token s p := by
  cases h with
  | accept user => exact rfl
  | revoke tenant revokedBy => exact rfl

theorem Begins.nothing_won {inv : TenantInvitation} {p : Position} (h : Begins inv p) :
    obtained p = none ∧ hasRevoked p = false := by
  cases h with
  | accept user => exact ⟨rfl, rfl⟩
  | revoke tenant revokedBy => exact ⟨rfl, rfl⟩

theorem coherent_start {inv : TenantInvitation} {c : Conf ι} (hinv : inv ∈ c.shared.invitations)
    (hbegins : ∀ i, Begins inv (c.locals i)) :
    Threads.Coherent (TokenNames inv.id inv.token) (fun _ => Own inv.id inv.token)
      (fun _ _ => Compatible) c where
  shared row hrow htoken := by
    rw [Table.eq_of_clash invitation_clash_symm hrow hinv
      (by simp [TenantInvitation.clash, htoken])]
  own i := (hbegins i).own c.shared
  pair i j _ :=
    have ⟨hnone, hnot⟩ := (hbegins i).nothing_won
    ⟨Or.inl hnone, Or.inl hnone, Or.inl hnot⟩

/-- The rows that were not there at the start belong to one user, and there
are none once a revocation has returned. -/
def OneMembership (c₀ c : Conf ι) : Prop :=
  (∀ row ∈ c.shared.userTenantRoles, ∀ row' ∈ c.shared.userTenantRoles,
      row ∉ c₀.shared.userTenantRoles → row' ∉ c₀.shared.userTenantRoles →
        row.user = row'.user)
    ∧ ((∃ i inv, c.locals i = revokeDone (.ok inv)) →
        ∀ row ∈ c.shared.userTenantRoles, row ∈ c₀.shared.userTenantRoles)

/-- In every schedule of any number of calls on one invitation whose
decisive writes meet `Fresh`, at most one user becomes a member, and nobody
does once the invitation is revoked. -/
theorem one_membership {inv : TenantInvitation} {c₀ c : Conf ι} {ls : List (ι × Time)}
    (hinv : inv ∈ c₀.shared.invitations) (hbegins : ∀ i, Begins inv (c₀.locals i))
    (hrun : Lts.Run (Lts.Guarded Step (Fresh inv.id)) c₀ ls c) : OneMembership c₀ c := by
  have hcoherent := Threads.Coherent.run (fun _ _ _ _ => Compatible.symm) keeps hrun
    (coherent_start hinv hbegins)
  have hattributed : Attributed c₀ c :=
    hrun.invariant (I := Attributed c₀) (fun _ _ _ hc hstep => attributed_step hc hstep.1)
      fun _ hrow => Or.inl hrow
  constructor
  · intro row hrow row' hrow' hnew hnew'
    obtain ⟨i, user, hi, hpk⟩ := (hattributed row hrow).resolve_left hnew
    obtain ⟨j, user', hj, hpk'⟩ := (hattributed row' hrow').resolve_left hnew'
    by_cases hij : i = j
    · subst hij
      obtain rfl := Option.some.inj (hi.symm.trans hj)
      exact hpk.trans hpk'.symm
    · rcases (hcoherent.pair i j hij).grants with hnone | hnone
      · rw [hi] at hnone; cases hnone
      · rw [hj] at hnone; cases hnone
  · rintro ⟨i, res, hi⟩ row hrow
    refine (hattributed row hrow).resolve_right fun ⟨j, user, hj, _⟩ => ?_
    by_cases hij : i = j
    · subst hij
      rw [hi] at hj; cases hj
    · rcases (hcoherent.pair i j hij).right with hnot | hnone
      · rw [hi] at hnot; cases hnot
      · rw [hj] at hnone; cases hnone

end

/-! ## Two users and one invitation -/

def stranger : User :=
  ⟨3, "stranger", "stranger@example.com", "", "", "pbkdf2_sha256", true, false⟩

def invitation : TenantInvitation :=
  newInvitation (DemoSeed.callAt 0 7) DemoSeed.tenant1 DemoSeed.guest.email .member DemoSeed.admin

/-- The demo data with two more users and one pending invitation. -/
def invited : Site :=
  { DemoSeed.site with
    users := ⟨[DemoSeed.admin, DemoSeed.guest, stranger], by decide⟩
    invitations := ⟨[invitation], List.pairwise_singleton ..⟩ }

/-- Both users accept. -/
def bothAccept : Conf Bool :=
  ⟨invited, fun i => acceptStart invitation.token (if i then DemoSeed.guest else stranger)⟩

theorem bothAccept_begins (i : Bool) : Begins invitation (bothAccept.locals i) :=
  .accept _

/-- The guest's whole acceptance, then the other call's first read. -/
def inTurn : List (Bool × Time) :=
  [(true, 1), (true, 1), (true, 1), (true, 1), (true, 1), (true, 1), (true, 1), (false, 2)]

theorem one_membership_in_turn :
    ∃ c, Lts.Run (Lts.Guarded Step (Fresh invitation.id)) bothAccept inTurn c
      ∧ OneMembership bothAccept c := by
  have hexec : Threads.exec next (Fresh invitation.id) bothAccept inTurn ≠ none := by decide
  obtain ⟨c, hc⟩ := Option.ne_none_iff_exists'.mp hexec
  exact ⟨c, Threads.run_of_exec hc, one_membership (List.mem_singleton_self _)
    bothAccept_begins (Threads.run_of_exec hc)⟩

/-- Both calls read the pending row before either writes. -/
def overlapping : List (Bool × Time) :=
  [(true, 1), (true, 1), (true, 1), (false, 2), (false, 2), (false, 2), (true, 3), (false, 3)]

/-- Two users accept one invitation at the same time: both become members. -/
theorem two_memberships :
    ¬ ∀ (c₀ c : Conf Bool) (ls : List (Bool × Time)) (inv : TenantInvitation),
      inv ∈ c₀.shared.invitations → inv.status = .pending →
      (∀ l ∈ ls, inv.isExpired l.2 = false) → (∀ i, Begins inv (c₀.locals i)) →
      (∀ i j token token' user user', c₀.locals i = acceptStart token user →
        c₀.locals j = acceptStart token' user' → i ≠ j → user.pk ≠ user'.pk) →
      Lts.Run Step c₀ ls c → OneMembership c₀ c := by
  intro hall
  have hexec : (Threads.exec next (fun _ _ => True) bothAccept overlapping).map
      (fun c => c.shared.userTenantRoles.rows)
      = some [⟨1, DemoSeed.tenant1.id, .admin, none⟩, ⟨2, DemoSeed.tenant1.id, .member, some 1⟩,
          ⟨3, DemoSeed.tenant1.id, .member, some 1⟩] := by decide
  obtain ⟨c, hc, hrows⟩ := Option.map_eq_some_iff.mp hexec
  have hdistinct : ∀ i j token token' user user',
      bothAccept.locals i = acceptStart token user →
      bothAccept.locals j = acceptStart token' user' → i ≠ j → user.pk ≠ user'.pk := by
    intro i j token token' user user' hi hj hij
    obtain ⟨-, rfl⟩ := acceptStart.inj hi
    obtain ⟨-, rfl⟩ := acceptStart.inj hj
    clear hi hj
    revert i j
    decide
  have hrun := (Threads.run_of_exec hc).mono fun _ _ _ hstep => hstep.1
  have hone := (hall bothAccept c overlapping invitation (List.mem_singleton_self _) rfl
    (by decide) bothAccept_begins hdistinct hrun).1
  have hguest : (⟨2, DemoSeed.tenant1.id, .member, some 1⟩ : UserTenantRole)
      ∈ c.shared.userTenantRoles.rows := by simp [hrows]
  have hstranger : (⟨3, DemoSeed.tenant1.id, .member, some 1⟩ : UserTenantRole)
      ∈ c.shared.userTenantRoles.rows := by simp [hrows]
  have hsame := hone _ hguest _ hstranger (by decide) (by decide)
  revert hsame
  decide

end InvitationRace

end SaasKit
