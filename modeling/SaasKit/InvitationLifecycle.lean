import SaasKit.RoleMap

/-!
# The life of an invitation

Runs of `send_invitation`, `accept_invitation` and `revoke_invitation` one
after the other. An invitation starts pending and leaves that state once, for
good; it becomes accepted in the call that makes its user a member, and in no
other. A call that raises has left both tables alone, or has marked the
invitation it was given as expired (`lifecycle`).
-/

namespace SaasKit

namespace InvitationLifecycle

open InvitationService RBACService RoleMap

inductive Op where
  | sendInvitation (call : Call) (tenant : Tenant) (email role : String) (invitedBy : User)
  | acceptInvitation (now : Time) (token : String) (user : User)
  | revokeInvitation (invitationId : UUID) (tenant : Tenant) (revokedBy : User)

section

variable (settings : Settings)

def next (s : Site) : Op → Site × Except Exc TenantInvitation
  | .sendInvitation call tenant email role invitedBy =>
      (sendInvitation settings call s tenant email role invitedBy).swap
  | .acceptInvitation now token user => (acceptInvitation s now token user).swap
  | .revokeInvitation invitationId tenant revokedBy =>
      (revokeInvitation s invitationId tenant revokedBy).swap

/-- The site after these calls. -/
def after (s : Site) (ops : List Op) : Site := ops.foldl (fun s op => (next settings s op).1) s

end

/-- The broker takes the task of the call. -/
def Delivered : Op → Prop
  | .sendInvitation call _ _ _ _ => call.brokerUp = true
  | _ => True

def statusOf (s : Site) (id : UUID) : Option InvitationStatus :=
  (s.invitations.find? (·.id == id)).map (·.status)

/-- The step takes an invitation out of `PENDING`. -/
def leaves (settings : Settings) (id : UUID) (call : Site × Op × Except Exc TenantInvitation) :
    Bool :=
  decide (statusOf call.1 id = some .pending
    ∧ statusOf (next settings call.1 call.2.1).1 id ≠ some .pending)

/-- An accepting call has made its user a member with the invitation's role,
and signed the invitation. -/
structure Joins (s : Site) (token : String) (user : User) (inv : TenantInvitation) (s' : Site) :
    Prop where
  addressed : inv.token = token
  pending : statusOf s inv.id = some .pending
  before : roleAt s (user.pk, inv.tenant) = none
  joined : roleAt s' (user.pk, inv.tenant) = some inv.role
  stored : inv ∈ s'.invitations
  status : inv.status = .accepted
  acceptedBy : inv.acceptedBy = some user.pk

/-- A call has left roles and invitations alone, but for an expired one it
was asked to accept. -/
structure Spared (s : Site) (op : Op) (s' : Site) : Prop where
  roles : s'.userTenantRoles = s.userTenantRoles
  invitations : s'.invitations = s.invitations
    ∨ ∃ now token user, op = .acceptInvitation now token user ∧ ∃ inv ∈ s.invitations,
        inv.token = token ∧ inv.status = .pending ∧ inv.expiresAt < now
          ∧ s'.invitations = s.invitations.modify (·.id == inv.id) (setStatus .expired)

/-! ## What a call can have done -/

inductive Moved (s : Site) : Op → Except Exc TenantInvitation → Site → Prop
  | raised (op : Op) (e : Exc) : Moved s op (.error e) s
  | sent (call : Call) (tenant : Tenant) (email role : String) (invitedBy : User)
      (inv : TenantInvitation) (res : Except Exc TenantInvitation) (s' : Site) :
      inv.status = .pending → s.invitations.insert? inv = some s'.invitations →
      s'.userTenantRoles = s.userTenantRoles → (call.brokerUp = true → res = .ok inv) →
      Moved s (.sendInvitation call tenant email role invitedBy) res s'
  | expired (now : Time) (user : User) (inv : TenantInvitation) (e : Exc) :
      inv ∈ s.invitations → inv.status = .pending → inv.isExpired now = true →
      Moved s (.acceptInvitation now inv.token user) (.error e)
        (saveInvitation s inv.id (setStatus .expired))
  | accepted (now : Time) (user : User) (inv : TenantInvitation) (s' : Site) :
      inv ∈ s.invitations → inv.status = .pending → isMember s user.pk inv.tenant = false →
      s'.invitations = s.invitations.modify (·.id == inv.id) (setAccepted user.pk) →
      s'.userTenantRoles = s.userTenantRoles.put (grantedRow s inv user) →
      Moved s (.acceptInvitation now inv.token user)
        (.ok { inv with status := .accepted, acceptedBy := some user.pk }) s'
  | revoked (tenant : Tenant) (revokedBy : User) (inv : TenantInvitation) (s' : Site) :
      inv ∈ s.invitations → inv.status = .pending →
      s'.invitations = s.invitations.modify (·.id == inv.id) (setStatus .revoked) →
      s'.userTenantRoles = s.userTenantRoles →
      Moved s (.revokeInvitation inv.id tenant revokedBy) (.ok { inv with status := .revoked }) s'

section

variable {settings : Settings} {s s' : Site} {op : Op} {res : Except Exc TenantInvitation}
  {id : UUID} {status : InvitationStatus} {x inv : TenantInvitation}

theorem sendInvitation_moved (settings : Settings) (call : Call) (s : Site) (tenant : Tenant)
    (email role : String) (invitedBy : User) :
    Moved s (.sendInvitation call tenant email role invitedBy)
      (sendInvitation settings call s tenant email role invitedBy).1
      (sendInvitation settings call s tenant email role invitedBy).2 := by
  rcases sendInvitation_outcome settings call s tenant email role invitedBy with
    ⟨e, hraised⟩ | ⟨r, invitations, queue, res, -, -, hinsert, hcreated, hres⟩
  · rw [hraised]
    exact .raised _ e
  · rw [hcreated]
    refine .sent _ _ _ _ _ _ _ _ rfl hinsert rfl fun hup => ?_
    rcases hres with hok | ⟨hdown, -⟩
    · exact hok
    · rw [hup] at hdown
      cases hdown

theorem acceptInvitation_moved (s : Site) (now : Time) (token : String) (user : User) :
    Moved s (.acceptInvitation now token user) (acceptInvitation s now token user).1
      (acceptInvitation s now token user).2 := by
  cases hgrants : grants? s now token user with
  | some inv =>
      obtain ⟨hinv, rfl, husable, hnot, -, -⟩ := grants?_some hgrants
      obtain ⟨hres, hroles, hinvitations, -⟩ := acceptInvitation_of_grants hgrants
      simp only [TenantInvitation.isUsable, Bool.and_eq_true, decide_eq_true_eq] at husable
      rw [hres]
      exact .accepted now user inv _ hinv husable.1 hnot hinvitations hroles
  | none =>
      obtain ⟨⟨e, hres⟩, hsite⟩ := acceptInvitation_of_not hgrants
      rw [hres]
      rcases hsite with hsame | ⟨inv, tenant, hget, hpending, hexpired, hmarked⟩
      · rw [hsame]
        exact .raised _ e
      · obtain ⟨hinv, rfl, -⟩ := getByToken_some.mp hget
        rw [hmarked]
        exact .expired now user inv e hinv hpending hexpired

theorem revokeInvitation_moved (s : Site) (invitationId : UUID) (tenant : Tenant)
    (revokedBy : User) :
    Moved s (.revokeInvitation invitationId tenant revokedBy)
      (revokeInvitation s invitationId tenant revokedBy).1
      (revokeInvitation s invitationId tenant revokedBy).2 := by
  rcases revokeInvitation_cases s invitationId tenant revokedBy with
    ⟨hsame, e, hres⟩ | ⟨inv, hinv, rfl, -, hpending, hres, hinvitations, hroles, -⟩
  · rw [hsame, hres]
    exact .raised _ e
  · rw [hres]
    exact .revoked tenant revokedBy inv _ hinv hpending hinvitations hroles

theorem next_moved (settings : Settings) (s : Site) (op : Op) :
    Moved s op (next settings s op).2 (next settings s op).1 := by
  cases op with
  | sendInvitation call tenant email role invitedBy =>
      exact sendInvitation_moved settings call s tenant email role invitedBy
  | acceptInvitation now token user => exact acceptInvitation_moved s now token user
  | revokeInvitation invitationId tenant revokedBy =>
      exact revokeInvitation_moved s invitationId tenant revokedBy

/-! ## One invitation -/

theorem statusOf_eq_some :
    statusOf s id = some status ↔ ∃ x ∈ s.invitations, x.id = id ∧ x.status = status := by
  unfold statusOf
  rw [Option.map_eq_some_iff]
  constructor
  · rintro ⟨x, hfind, hstatus⟩
    obtain ⟨hx, hid⟩ := Table.find?_some hfind
    exact ⟨x, hx, eq_of_beq hid, hstatus⟩
  · rintro ⟨x, hx, rfl, hstatus⟩
    refine ⟨x, Table.find?_eq_of_mem invitation_clash_symm hx (beq_self_eq_true _) ?_, hstatus⟩
    intro y hy
    simp only [TenantInvitation.clash, hy, Bool.true_or]

/-- Marking a pending invitation leaves the others. -/
theorem marked_mem {f : Table.Rewrite TenantInvitation.clash}
    (hf : ∀ x, (f.apply x).id = x.id) (hinv : inv ∈ s.invitations)
    (hpending : inv.status = .pending)
    (hrows : s'.invitations = s.invitations.modify (·.id == inv.id) f) (hx : x ∈ s.invitations) :
    ∃ x' ∈ s'.invitations, x'.id = x.id ∧ (x.status = .pending ∨ x' = x) := by
  rw [hrows]
  refine ⟨_, Table.mem_modify.mpr ⟨x, hx, rfl⟩, ?_⟩
  by_cases hid : (x.id == inv.id) = true
  · obtain rfl := invitation_eq_of_id hx hinv (eq_of_beq hid)
    rw [if_pos hid]
    exact ⟨hf x, Or.inl hpending⟩
  · rw [if_neg hid]
    exact ⟨rfl, Or.inr rfl⟩

theorem mem_marked {f : Table.Rewrite TenantInvitation.clash} (hinv : inv ∈ s.invitations)
    (hrows : s'.invitations = s.invitations.modify (·.id == inv.id) f) (hx : x ∈ s'.invitations) :
    x = f.apply inv ∨ x ∈ s.invitations := by
  rw [hrows] at hx
  obtain ⟨y, hy, rfl⟩ := Table.mem_modify.mp hx
  split
  · rename_i hid
    rw [invitation_eq_of_id hy hinv (eq_of_beq hid)]
    exact Or.inl rfl
  · exact Or.inr hy

/-- No call removes an invitation, or touches one that is not pending. -/
theorem Moved.kept (h : Moved s op res s') (hx : x ∈ s.invitations) :
    ∃ x' ∈ s'.invitations, x'.id = x.id ∧ (x.status = .pending ∨ x' = x) := by
  cases h with
  | raised => exact ⟨x, hx, rfl, Or.inr rfl⟩
  | sent _ _ _ _ _ new _ _ _ hinsert =>
      exact ⟨x, (Table.mem_insert? hinsert).mpr (Or.inl hx), rfl, Or.inr rfl⟩
  | expired _ _ _ _ hinv hpending => exact marked_mem (fun _ => rfl) hinv hpending rfl hx
  | accepted _ _ _ _ hinv hpending _ hrows => exact marked_mem (fun _ => rfl) hinv hpending hrows hx
  | revoked _ _ _ _ hinv hpending hrows => exact marked_mem (fun _ => rfl) hinv hpending hrows hx

/-- What an invitation becomes: a sent one is pending, and each call marks
with its own status. -/
theorem Moved.made (h : Moved s op res s') (hx : x ∈ s'.invitations) :
    x ∈ s.invitations ∨ x.status ≠ .accepted
      ∨ ∃ now token user inv, op = .acceptInvitation now token user ∧ res = .ok inv
          ∧ inv.id = x.id := by
  cases h with
  | raised => exact Or.inl hx
  | sent _ _ _ _ _ new _ _ hpending hinsert =>
      rcases (Table.mem_insert? hinsert).mp hx with hx | rfl
      · exact Or.inl hx
      · refine Or.inr (Or.inl ?_)
        rw [hpending]
        decide
  | expired now user inv _ hinv =>
      have hrows : (saveInvitation s inv.id (setStatus .expired)).invitations
          = s.invitations.modify (·.id == inv.id) (setStatus .expired) := rfl
      rcases mem_marked hinv hrows hx with rfl | hx
      · exact Or.inr (Or.inl (by intro h; cases h))
      · exact Or.inl hx
  | accepted now user inv _ hinv _ _ hrows =>
      rcases mem_marked hinv hrows hx with rfl | hx
      · exact Or.inr (Or.inr ⟨now, inv.token, user, _, rfl, rfl, rfl⟩)
      · exact Or.inl hx
  | revoked _ _ inv _ hinv _ hrows =>
      rcases mem_marked hinv hrows hx with rfl | hx
      · exact Or.inr (Or.inl (by intro h; cases h))
      · exact Or.inl hx

theorem status_next (settings : Settings) (op : Op) (h : statusOf s id = some status) :
    ∃ status', statusOf (next settings s op).1 id = some status'
      ∧ (status = .pending ∨ status' = status) := by
  obtain ⟨x, hx, rfl, rfl⟩ := statusOf_eq_some.mp h
  obtain ⟨x', hx', hid, hkept⟩ := (next_moved settings s op).kept hx
  refine ⟨x'.status, statusOf_eq_some.mpr ⟨x', hx', hid, rfl⟩, hkept.imp_right fun heq => ?_⟩
  rw [heq]

/-- A status other than `PENDING` is final. -/
theorem status_final (h : statusOf s id = some status) (hstatus : status ≠ .pending)
    (ops : List Op) : statusOf (after settings s ops) id = some status := by
  unfold after
  induction ops generalizing s with
  | nil => exact h
  | cons op ops ih =>
      obtain ⟨status', hnext, hkept⟩ := status_next settings op h
      rw [hkept.resolve_left hstatus] at hnext
      exact ih hnext

/-! ## Runs -/

theorem leaves_once (settings : Settings) (s : Site) (ops : List Op) (id : UUID) :
    (Lts.steps (next settings) s ops).countP (leaves settings id) ≤ 1 := by
  let done : Site → Prop := fun s => ∃ status, statusOf s id = some status ∧ status ≠ .pending
  refine @Lts.countP_steps_le_one _ _ _ _ _ done (fun s op hleaves => ?_) (fun s op hdone => ?_)
    (fun s op res hdone => ?_) ops s
  · obtain ⟨hpending, hleft⟩ := of_decide_eq_true hleaves
    obtain ⟨status', hnext, -⟩ := status_next settings op hpending
    exact ⟨status', hnext, fun heq => hleft (hnext.trans (congrArg some heq))⟩
  · obtain ⟨status, hstatus, hne⟩ := hdone
    exact ⟨status, status_final hstatus hne [op], hne⟩
  · obtain ⟨status, hstatus, hne⟩ := hdone
    refine decide_eq_false fun hleaves => hne ?_
    exact Option.some.inj (hstatus.symm.trans hleaves.1)

theorem becomes_accepted_iff :
    (statusOf s id ≠ some .accepted ∧ statusOf (next settings s op).1 id = some .accepted)
      ↔ ∃ now token user inv, op = .acceptInvitation now token user
          ∧ (next settings s op).2 = .ok inv ∧ inv.id = id := by
  have hmoved := next_moved settings s op
  generalize next settings s op = called at hmoved ⊢
  obtain ⟨s', res⟩ := called
  simp only at hmoved ⊢
  constructor
  · rintro ⟨hnot, haccepted⟩
    obtain ⟨x, hx, rfl, hstatus⟩ := statusOf_eq_some.mp haccepted
    rcases hmoved.made hx with hx | hother | hcall
    · exact absurd (statusOf_eq_some.mpr ⟨x, hx, rfl, hstatus⟩) hnot
    · exact absurd hstatus hother
    · exact hcall
  · rintro ⟨now, token, user, inv, rfl, rfl, rfl⟩
    cases hmoved with
    | accepted _ _ old _ hinv hpending _ hrows =>
        have hbefore : statusOf s old.id = some .pending :=
          statusOf_eq_some.mpr ⟨old, hinv, rfl, hpending⟩
        refine ⟨fun h => ?_, statusOf_eq_some.mpr ⟨(setAccepted user.pk).apply old, ?_, rfl, rfl⟩⟩
        · cases hbefore.symm.trans h
        · rw [hrows]
          exact Table.mem_modify.mpr ⟨old, hinv, by simp⟩

theorem joins_of_ok {now : Time} {token : String} {user : User}
    (h : (next settings s (.acceptInvitation now token user)).2 = .ok inv) :
    Joins s token user inv (next settings s (.acceptInvitation now token user)).1 := by
  have hmoved := next_moved settings s (.acceptInvitation now token user)
  rw [h] at hmoved
  generalize (next settings s (.acceptInvitation now token user)).1 = s' at hmoved
  cases hmoved with
  | accepted _ _ old _ hinv hpending hnot hrows hroles =>
      refine ⟨rfl, statusOf_eq_some.mpr ⟨old, hinv, rfl, hpending⟩, ?_, ?_, ?_, rfl, rfl⟩
      · rw [Option.eq_none_iff_forall_ne_some]
        intro r hr
        obtain ⟨row, hrow, hkey, -⟩ := roleAt_eq_some.mp hr
        have hmember : isMember s user.pk old.tenant = true :=
          isMember_iff.mpr ⟨row, hrow, congrArg Prod.fst hkey, congrArg Prod.snd hkey⟩
        rw [hnot] at hmember
        cases hmember
      · have hown : (grantedRow s old user).key = (user.pk, old.tenant) := rfl
        rw [roleAt_put hown hroles, if_pos rfl]
        rfl
      · rw [hrows]
        exact Table.mem_modify.mpr ⟨old, hinv, by simp [setAccepted]⟩

theorem spared_of_error {e : Exc} (hup : Delivered op) (h : (next settings s op).2 = .error e) :
    Spared s op (next settings s op).1 := by
  have hmoved := next_moved settings s op
  rw [h] at hmoved
  generalize (next settings s op).1 = s' at hmoved
  cases hmoved with
  | raised => exact ⟨rfl, Or.inl rfl⟩
  | sent _ _ _ _ _ new _ _ _ _ _ hres => cases hres hup
  | expired now user inv _ hinv hpending hexpired =>
      exact ⟨rfl, Or.inr ⟨now, inv.token, user, rfl, inv, hinv, rfl, hpending,
        of_decide_eq_true hexpired, rfl⟩⟩

/-- In every run in which the broker answers, an invitation leaves `PENDING`
once at most and for good; it becomes `ACCEPTED` exactly in the call that
accepts it, which makes its user a member; and a call that raises leaves both
tables, but for an invitation that it found expired. -/
theorem lifecycle {s₀ : Site} {ops : List Op} (hup : ∀ op ∈ ops, Delivered op) :
    (∀ id, (Lts.steps (next settings) s₀ ops).countP (leaves settings id) ≤ 1)
      ∧ (∀ pre post id status, ops = pre ++ post →
          statusOf (after settings s₀ pre) id = some status → status ≠ .pending →
          statusOf (after settings s₀ ops) id = some status)
      ∧ ∀ s op res, (s, op, res) ∈ Lts.steps (next settings) s₀ ops →
          (∀ id, (statusOf s id ≠ some .accepted
              ∧ statusOf (next settings s op).1 id = some .accepted)
            ↔ ∃ now token user inv, op = .acceptInvitation now token user ∧ res = .ok inv
                ∧ inv.id = id)
          ∧ (∀ now token user inv, op = .acceptInvitation now token user → res = .ok inv →
              Joins s token user inv (next settings s op).1)
          ∧ ∀ e, res = .error e → Spared s op (next settings s op).1 := by
  refine ⟨leaves_once settings s₀ ops, ?_, ?_⟩
  · rintro pre post id status rfl hstatus hne
    unfold after
    rw [List.foldl_append]
    exact status_final hstatus hne post
  · intro s op res hstep
    have hres : res = (next settings s op).2 := Lts.steps_output hstep
    subst hres
    refine ⟨fun id => becomes_accepted_iff, ?_, fun e he => ?_⟩
    · rintro now token user inv rfl hok
      exact joins_of_ok hok
    · exact spared_of_error (hup op (Lts.steps_input hstep)) he

end

/-! ## One invitation, accepted -/

/-- The admin of one tenant is invited to the other, and accepts. -/
def invited : List Op :=
  [.sendInvitation (DemoSeed.callAt 0 7) DemoSeed.tenant2 DemoSeed.admin.email "member"
      DemoSeed.admin,
    .acceptInvitation (hours 1) "token-7" DemoSeed.admin]

theorem lifecycle_invited :
    (Lts.steps (next DemoSeed.settings) DemoSeed.site invited).countP
      (leaves DemoSeed.settings 7) ≤ 1 := by
  have hup : ∀ op ∈ invited, Delivered op := by
    intro op hop
    rcases List.mem_cons.mp hop with rfl | hop
    · rfl
    · obtain rfl := List.mem_singleton.mp hop
      trivial
  exact (lifecycle hup).1 7

end InvitationLifecycle

end SaasKit
