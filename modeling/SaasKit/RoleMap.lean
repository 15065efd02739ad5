import SaasKit.DemoSeed
import SaasKit.Lib.LastWrite

/-!
# Roles as a map

What the role table is for: a partial map from a user and a tenant to a
role. Runs of `assign_role`, `revoke_role` and `accept_invitation` over any
users, tenants and role strings are replayed on such a map, where an
assignment that succeeds sets an entry and a revocation clears it. The
queries read the map (`roles_as_map`).
-/

namespace SaasKit

namespace RoleMap

open RBACService InvitationService

/-! ## Runs -/

inductive Op where
  | assignRole (user : User) (tenant : Tenant) (role : String) (assignedBy : Option User)
  | revokeRole (user : User) (tenant : Tenant)
  | acceptInvitation (now : Time) (token : String) (user : User)

inductive Result where
  | assigned (res : Except Exc UserTenantRole)
  | revoked (deleted : Bool)
  | accepted (res : Except Exc TenantInvitation)

def next (s : Site) : Op → Site × Result
  | .assignRole user tenant role assignedBy =>
      let (res, s) := assignRole s user tenant role assignedBy
      (s, .assigned res)
  | .revokeRole user tenant =>
      let (deleted, s) := revokeRole s user tenant
      (s, .revoked deleted)
  | .acceptInvitation now token user =>
      let (res, s) := acceptInvitation s now token user
      (s, .accepted res)

/-! ## What a call does to the map -/

/-- The assignment a call has made: its own role, or that of the invitation
it accepted. -/
def assignment : Op × Result → Option ((UserId × UUID) × RoleChoices)
  | (.assignRole user tenant role _, .assigned (.ok _)) =>
      (RoleChoices.ofValue? role).map fun r => ((user.pk, tenant.id), r)
  | (.acceptInvitation _ _ user, .accepted (.ok inv)) => some ((user.pk, inv.tenant), inv.role)
  | _ => none

/-- What a call writes under a key: `some none` takes the role away. -/
def writes (call : Op × Result) (key : UserId × UUID) : Option (Option RoleChoices) :=
  match call.1 with
  | .revokeRole user tenant => if key = (user.pk, tenant.id) then some none else none
  | _ =>
      match assignment call with
      | some (key', r) => if key = key' then some (some r) else none
      | none => none

/-- The role of the last assignment under the key, if no revocation under it
has followed. -/
def Held (log : List (Op × Result)) (key : UserId × UUID) (r : RoleChoices) : Prop :=
  ∃ pre call post, log = pre ++ call :: post ∧ writes call key = some (some r)
    ∧ ∀ later ∈ post, writes later key = none

/-! ## The table refines the map -/

/-- What the table shows under a key. -/
def roleAt (s : Site) (key : UserId × UUID) : Option RoleChoices :=
  (getRow s key.1 key.2).map (·.role)

section

variable {s s' : Site} {user : User} {tenant : Tenant} {key : UserId × UUID}

theorem roleAt_eq_some {r : RoleChoices} :
    roleAt s key = some r ↔ ∃ row ∈ s.userTenantRoles, row.key = key ∧ row.role = r := by
  unfold roleAt
  rw [Option.map_eq_some_iff]
  constructor
  · rintro ⟨row, hget, hrole⟩
    obtain ⟨hrow, huser, htenant⟩ := getRow_some.mp hget
    exact ⟨row, hrow, Prod.ext huser htenant, hrole⟩
  · rintro ⟨row, hrow, rfl, hrole⟩
    exact ⟨row, getRow_some.mpr ⟨hrow, rfl, rfl⟩, hrole⟩

theorem roleAt_congr (h : s'.userTenantRoles = s.userTenantRoles) : roleAt s' = roleAt s := by
  funext key
  unfold roleAt getRow
  rw [h]

/-- An upsert sets its own entry. -/
theorem roleAt_put {row : UserTenantRole} {own : UserId × UUID} (hown : row.key = own)
    (h : s'.userTenantRoles = s.userTenantRoles.put row) :
    roleAt s' key = if key = own then some row.role else roleAt s key := by
  refine Option.ext fun r => ?_
  have hmem : ∀ x, x ∈ s'.userTenantRoles ↔ x = row ∨ x ∈ s.userTenantRoles ∧ x.key ≠ own := by
    intro x
    rw [h, ← hown]
    exact Table.mem_put
  split
  · rename_i hkey
    rw [roleAt_eq_some]
    constructor
    · rintro ⟨x, hx, hxkey, rfl⟩
      rcases (hmem x).mp hx with rfl | ⟨-, hne⟩
      · rfl
      · exact absurd (hxkey.trans hkey) hne
    · intro hrole
      exact ⟨row, (hmem row).mpr (Or.inl rfl), hown.trans hkey.symm, Option.some.inj hrole⟩
  · rename_i hkey
    rw [roleAt_eq_some, roleAt_eq_some]
    constructor
    · rintro ⟨x, hx, rfl, hrole⟩
      rcases (hmem x).mp hx with rfl | ⟨hx, -⟩
      · exact absurd hown hkey
      · exact ⟨x, hx, rfl, hrole⟩
    · rintro ⟨x, hx, rfl, hrole⟩
      exact ⟨x, (hmem x).mpr (Or.inr ⟨hx, hkey⟩), rfl, hrole⟩

/-- A filtered delete clears its own entry. -/
theorem roleAt_delete
    (h : s'.userTenantRoles
      = s.userTenantRoles.delete fun r => r.user == user.pk && r.tenant == tenant.id) :
    roleAt s' key = if key = (user.pk, tenant.id) then none else roleAt s key := by
  refine Option.ext fun r => ?_
  have hmem : ∀ x, x ∈ s'.userTenantRoles
      ↔ x ∈ s.userTenantRoles ∧ x.key ≠ (user.pk, tenant.id) := by
    intro x
    rw [h, Table.mem_delete]
    simp [UserTenantRole.key]
  split
  · rename_i hkey
    rw [roleAt_eq_some]
    constructor
    · rintro ⟨x, hx, hxkey, -⟩
      exact absurd (hxkey.trans hkey) ((hmem x).mp hx).2
    · intro hnone
      cases hnone
  · rename_i hkey
    rw [roleAt_eq_some, roleAt_eq_some]
    constructor
    · rintro ⟨x, hx, rfl, hrole⟩
      exact ⟨x, ((hmem x).mp hx).1, rfl, hrole⟩
    · rintro ⟨x, hx, rfl, hrole⟩
      exact ⟨x, (hmem x).mpr ⟨hx, hkey⟩, rfl, hrole⟩

/-! ### One call -/

theorem assignRole_writes {role : String} {assignedBy : Option User} :
    roleAt (assignRole s user tenant role assignedBy).2 key
      = (writes (.assignRole user tenant role assignedBy,
          .assigned (assignRole s user tenant role assignedBy).1) key).getD (roleAt s key) := by
  cases hcall : assignRole s user tenant role assignedBy with
  | mk res s₁ =>
      cases res with
      | error e =>
          rw [assignRole_error hcall]
          rfl
      | ok row =>
          obtain ⟨r, rfl, rfl, -, -⟩ := assignRole_ok hcall
          have hassigned : assignment (.assignRole user tenant r.value assignedBy,
              .assigned (.ok ⟨user.pk, tenant.id, r, assignedBy.map (·.pk)⟩))
                = some ((user.pk, tenant.id), r) := by
            simp only [assignment, RoleChoices.ofValue?_value, Option.map_some]
          have hown : (⟨user.pk, tenant.id, r, assignedBy.map (·.pk)⟩ : UserTenantRole).key
              = (user.pk, tenant.id) := rfl
          rw [roleAt_put hown (assignRole_roles hcall)]
          simp only [writes, hassigned]
          by_cases hkey : key = (user.pk, tenant.id)
          · simp only [if_pos hkey, Option.getD_some]
          · simp only [if_neg hkey, Option.getD_none]

theorem revokeRole_writes :
    roleAt (revokeRole s user tenant).2 key
      = (writes (.revokeRole user tenant, .revoked (revokeRole s user tenant).1) key).getD
          (roleAt s key) := by
  rw [roleAt_delete revokeRole_roles]
  simp only [writes]
  by_cases hkey : key = (user.pk, tenant.id)
  · simp only [if_pos hkey, Option.getD_some]
  · simp only [if_neg hkey, Option.getD_none]

theorem acceptInvitation_writes {now : Time} {token : String} :
    roleAt (acceptInvitation s now token user).2 key
      = (writes (.acceptInvitation now token user,
          .accepted (acceptInvitation s now token user).1) key).getD (roleAt s key) := by
  cases hgrants : grants? s now token user with
  | none =>
      obtain ⟨⟨e, hraised⟩, -⟩ := acceptInvitation_of_not hgrants
      rw [roleAt_congr (acceptInvitation_roles hgrants), hraised]
      rfl
  | some inv =>
      obtain ⟨hres, hroles, -, -⟩ := acceptInvitation_of_grants hgrants
      have hown : (grantedRow s inv user).key = (user.pk, inv.tenant) := rfl
      rw [roleAt_put hown hroles, hres]
      simp only [writes, assignment]
      by_cases hkey : key = (user.pk, inv.tenant)
      · simp only [if_pos hkey, Option.getD_some]
        rfl
      · simp only [if_neg hkey, Option.getD_none]

/-- A call does to each entry what its result says. -/
theorem next_writes (op : Op) :
    roleAt (next s op).1 key = (writes (op, (next s op).2) key).getD (roleAt s key) := by
  cases op with
  | assignRole user tenant role assignedBy => exact assignRole_writes
  | revokeRole user tenant => exact revokeRole_writes
  | acceptInvitation now token user => exact acceptInvitation_writes

theorem getRole_replay {s₀ : Site} {log : List (Op × Result)}
    (hrun : Lts.Run (Lts.ofFn next) s₀ log s) :
    getRole s user tenant = LastWrite.replay writes (roleAt s₀) log (user.pk, tenant.id) := by
  have hstep : ∀ s e s', Lts.ofFn next s e s' →
      ∀ key, roleAt s' key = (writes e key).getD (roleAt s key) := by
    rintro s ⟨op, res⟩ s' hcall key
    have hwrites := @next_writes s key op
    rw [show next s op = (s', res) from hcall] at hwrites
    exact hwrites
  rw [← hrun.replays hstep]
  rfl

/-! ### The queries -/

/-- The roles a list of strings names: a string that is no role is that of no
row. -/
def named (roles : List String) : List RoleChoices := roles.filterMap RoleChoices.ofValue?

theorem mem_named {roles : List String} {r : RoleChoices} : r ∈ named roles ↔ r.value ∈ roles := by
  unfold named
  rw [List.mem_filterMap]
  constructor
  · rintro ⟨role, hrole, hof⟩
    rw [← RoleChoices.ofValue?_eq_some.mp hof]
    exact hrole
  · intro hrole
    exact ⟨r.value, hrole, RoleChoices.ofValue?_value r⟩

theorem hasRole_iff_getRole {roles : List String} (hsuper : user.isSuperuser = false) :
    hasRole s (some user) tenant (named roles) = true
      ↔ ∃ r, getRole s user tenant = some r ∧ r.value ∈ roles := by
  have hget : ∀ r, getRole s user tenant = some r ↔
      ∃ row ∈ s.userTenantRoles, row.key = (user.pk, tenant.id) ∧ row.role = r :=
    fun _ => @roleAt_eq_some s (user.pk, tenant.id) _
  rw [hasRole_iff hsuper]
  constructor
  · rintro ⟨row, hrow, huser, htenant, hnamed⟩
    exact ⟨row.role, (hget _).mpr ⟨row, hrow, Prod.ext huser htenant, rfl⟩, mem_named.mp hnamed⟩
  · rintro ⟨r, hr, hmem⟩
    obtain ⟨row, hrow, hkey, rfl⟩ := (hget r).mp hr
    exact ⟨row, hrow, congrArg Prod.fst hkey, congrArg Prod.snd hkey, mem_named.mpr hmem⟩

theorem revokeRole_deleted :
    (revokeRole s user tenant).1 = true ↔ (getRole s user tenant).isSome = true := by
  unfold revokeRole getRole getRow
  rw [Option.isSome_map]
  simp only
  split
  · rename_i hany
    obtain ⟨row, hrow, hmine⟩ := Table.any_iff.mp hany
    refine ⟨fun _ => ?_, fun _ => rfl⟩
    rw [Option.isSome_iff_ne_none]
    intro hnone
    rw [Table.find?_none.mp hnone row hrow] at hmine
    cases hmine
  · rename_i hnot
    have hnone : (s.userTenantRoles.find? fun r => r.user == user.pk && r.tenant == tenant.id)
        = none := Table.find?_none.mpr (Table.any_eq_false.mp (Bool.not_eq_true _ ▸ hnot))
    rw [hnone]
    exact ⟨fun h => h, fun h => h⟩

theorem assignRole_of_unknown {role : String} {assignedBy : Option User}
    (hunknown : ∀ r : RoleChoices, role ≠ r.value) :
    ∃ e, assignRole s user tenant role assignedBy = (.error e, s) := by
  unfold assignRole
  cases hof : RoleChoices.ofValue? role with
  | none => exact ⟨_, rfl⟩
  | some r => exact absurd (RoleChoices.ofValue?_eq_some.mp hof) (hunknown r)

end

/-! ## Any run -/

/-- After every run from an empty table a user has one row at most in a
tenant, and the queries and the next call go by the last role assigned and
not taken away since. -/
theorem roles_as_map {s₀ s : Site} {log : List (Op × Result)}
    (hempty : s₀.userTenantRoles = ∅) (hrun : Lts.Run (Lts.ofFn next) s₀ log s) :
    (∀ key, s.userTenantRoles.count (fun row => decide (row.key = key)) ≤ 1)
      ∧ ∀ (user : User) (tenant : Tenant),
        (∀ r, getRole s user tenant = some r ↔ Held log (user.pk, tenant.id) r)
        ∧ (∀ roles : List String,
            hasRole s none tenant (named roles) = false
            ∧ (user.isSuperuser = true → hasRole s (some user) tenant (named roles) = true)
            ∧ (user.isSuperuser = false →
                (hasRole s (some user) tenant (named roles) = true
                  ↔ ∃ r, getRole s user tenant = some r ∧ r.value ∈ roles)))
        ∧ ((revokeRole s user tenant).1 = true ↔ (getRole s user tenant).isSome = true)
        ∧ ∀ (role : String) (assignedBy : Option User), (∀ r : RoleChoices, role ≠ r.value) →
            ∃ e, assignRole s user tenant role assignedBy = (.error e, s) := by
  refine ⟨Table.count_key_le_one, fun user tenant => ⟨fun r => ?_, fun roles => ⟨rfl, ?_, ?_⟩,
    revokeRole_deleted, fun role assignedBy hunknown => assignRole_of_unknown hunknown⟩⟩
  · have hnone : ∀ key, roleAt s₀ key ≠ some r := by
      intro key h
      obtain ⟨row, hrow, -⟩ := roleAt_eq_some.mp h
      rw [hempty] at hrow
      exact Table.not_mem_empty row hrow
    rw [getRole_replay hrun, LastWrite.replay_eq_some]
    exact ⟨fun h => h.resolve_right fun ⟨hheld, _⟩ => hnone _ hheld, Or.inl⟩
  · intro hsuper
    simp only [hasRole, hsuper, Bool.true_or]
  · exact hasRole_iff_getRole

/-! ## One run -/

/-- The demo data before anyone has a role. -/
def unassigned : Site := { DemoSeed.site with userTenantRoles := ∅ }

/-- An admin is made a member. -/
def demotion : List (Op × Result) :=
  [(.assignRole DemoSeed.admin DemoSeed.tenant1 "admin" none,
      .assigned (.ok ⟨DemoSeed.admin.pk, DemoSeed.tenant1.id, .admin, none⟩)),
    (.assignRole DemoSeed.admin DemoSeed.tenant1 "member" none,
      .assigned (.ok ⟨DemoSeed.admin.pk, DemoSeed.tenant1.id, .member, none⟩))]

/-- The site after these calls. -/
def after (log : List (Op × Result)) : Site :=
  log.foldl (fun s call => (next s call.1).1) unassigned

theorem roles_as_map_demotion :
    getRole (after demotion) DemoSeed.admin DemoSeed.tenant1 = some .member := by
  have hrun : Lts.Run (Lts.ofFn next) unassigned demotion (after demotion) :=
    .cons rfl (.cons rfl (.nil _))
  refine (((roles_as_map rfl hrun).2 DemoSeed.admin DemoSeed.tenant1).1 .member).mpr ?_
  exact ⟨[_], _, [], rfl, rfl, fun _ h => by cases h⟩

end RoleMap

end SaasKit
