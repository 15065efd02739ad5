import Mathlib.Data.List.Forall2
import SaasKit.DemoSeed
import SaasKit.RbacService

/-!
# Seeding: `DemoSeedService.seed`

The demo tenants, their hosts and the admin are written over whatever the
database has under their keys, in one transaction. `seed_ok_iff` says when it
goes through: exactly if nobody else has one of the slugs, one of the hosts or
the key the admin is to get. The tenants come in turn, so a later one may
still hold the slug of an earlier one, but not the other way round.
`seed_again` is the idempotence: a second call finds everything in its place
and changes the hash of the password, nothing else but the log.
-/

namespace SaasKit

structure DemoTenantSpec where
  id : UUID
  name : String
  slug : String

structure DemoAdminSpec where
  email : String
  username : String
  firstName : String
  lastName : String

/-- `DEMO_TENANTS`. -/
def demoTenants : List DemoTenantSpec :=
  [⟨0x00000000000040008000000000000001, "Tenant One", "tenant1"⟩,
    ⟨0x00000000000040008000000000000002, "Tenant Two", "tenant2"⟩]

/-- `DEMO_ADMIN`. -/
def demoAdmin : DemoAdminSpec :=
  ⟨"admin@tenant1.localhost", "admin@tenant1.localhost", "Demo", "Admin"⟩

namespace DemoTenantSpec

/-- The columns of `defaults`. -/
def apply (spec : DemoTenantSpec) (t : Tenant) : Tenant :=
  { t with name := spec.name, slug := spec.slug, schemaName := spec.slug }

def row (spec : DemoTenantSpec) : Tenant := ⟨spec.id, spec.name, spec.slug, spec.slug, true⟩

def host (spec : DemoTenantSpec) : String := spec.slug ++ ".localhost"

def ownsTenant (spec : DemoTenantSpec) (t : Tenant) : Bool := t.id == spec.id

def ownsDomain (spec : DemoTenantSpec) (d : Domain) : Bool :=
  d.tenant == spec.id && d.domain == spec.host

theorem ownsDomain_iff {spec : DemoTenantSpec} {d : Domain} :
    spec.ownsDomain d = true ↔ d.tenant = spec.id ∧ d.domain = spec.host := by
  simp [ownsDomain]

def applyDomain (d : Domain) : Domain := { d with isPrimary := true }

def domainRow (spec : DemoTenantSpec) : Domain := ⟨spec.id, spec.host, true⟩

end DemoTenantSpec

namespace DemoAdminSpec

/-- The columns written on every call, with the hash of `set_password`. -/
def apply (spec : DemoAdminSpec) (password : String) (u : User) : User :=
  { u with email := spec.email, firstName := spec.firstName, lastName := spec.lastName, password }

def row (spec : DemoAdminSpec) (pk : UserId) (password : String) : User :=
  ⟨pk, spec.username, spec.email, spec.firstName, spec.lastName, password, true, false⟩

def ownsUser (spec : DemoAdminSpec) (u : User) : Bool := u.username == spec.username

end DemoAdminSpec

namespace DemoSeedService

open DemoTenantSpec

theorem ids_kept {tenants tenants' : Table Tenant Tenant.clash} {spec : DemoTenantSpec}
    (h : tenants.upsert? spec.ownsTenant spec.apply spec.row = some tenants') :
    ∀ t ∈ tenants, ∃ t' ∈ tenants', t'.id = t.id := by
  intro t ht
  refine ⟨_, (Table.mem_upsert? h).mpr (Or.inl ⟨t, ht, rfl⟩), ?_⟩
  split <;> rfl

/-- What the transaction can be rolled back for: an exception of a write, or
the `next` of an empty generator. -/
inductive SeedError where
  | write (e : Exc)
  | stopIteration
  deriving DecidableEq, Repr

/-- `Tenant.objects.update_or_create(id=spec.id, ...)`. -/
def ensureTenant (s : Site) (spec : DemoTenantSpec) : Except SeedError (Tenant × Site) :=
  match h : s.tenants.upsert? spec.ownsTenant spec.apply spec.row with
  | none => .error (.write .integrityError)
  | some tenants =>
      .ok (((s.tenants.find? spec.ownsTenant).map spec.apply).getD spec.row, { s with
        tenants
        domain_fk := fun d hd => by
          obtain ⟨t, ht, hid⟩ := s.domain_fk d hd
          obtain ⟨t', ht', hid'⟩ := ids_kept h t ht
          exact ⟨t', ht', hid'.trans hid⟩ })

/-- `Domain.objects.update_or_create(tenant=tenant, domain=..., ...)`. -/
def ensureDomain (s : Site) (spec : DemoTenantSpec) : Except SeedError Site :=
  match h : s.domains.upsert? spec.ownsDomain applyDomain spec.domainRow with
  | none => .error (.write .integrityError)
  | some domains =>
      if hfk : s.tenants.any spec.ownsTenant = true then
        .ok { s with
          domains
          domain_fk := fun d hd => by
            rcases (Table.mem_upsert? h).mp hd with ⟨old, hold, rfl⟩ | ⟨-, rfl⟩
            · obtain ⟨t, ht, hid⟩ := s.domain_fk old hold
              refine ⟨t, ht, hid.trans ?_⟩
              split <;> rfl
            · obtain ⟨t, ht, hid⟩ := Table.any_iff.mp hfk
              exact ⟨t, ht, eq_of_beq hid⟩ }
      else .error (.write .integrityError)

/-- `_ensure_tenants`, over the specs in turn. -/
def ensureTenants (s : Site) : List DemoTenantSpec → Except SeedError (List Tenant × Site)
  | [] => .ok ([], s)
  | spec :: specs => do
      let (tenant, s) ← ensureTenant s spec
      let s ← ensureDomain s spec
      let (tenants, s) ← ensureTenants s specs
      return (tenant :: tenants, s)

/-- `_ensure_admin_user`: `pk` is the key of a new row. -/
def ensureAdminUser (s : Site) (pk : UserId) (password : String) : Except SeedError (User × Site) :=
  match s.users.upsert? demoAdmin.ownsUser (demoAdmin.apply password)
      (demoAdmin.row pk password) with
  | none => .error (.write .integrityError)
  | some users =>
      .ok (((s.users.find? demoAdmin.ownsUser).map (demoAdmin.apply password)).getD
        (demoAdmin.row pk password), { s with users })

structure DemoSeedResult where
  tenants : List Tenant
  adminUser : User

/-- What is inside the transaction. -/
def attempt (s : Site) (pk : UserId) (password : String) :
    Except SeedError (DemoSeedResult × Site) := do
  let (tenants, s) ← ensureTenants s demoTenants
  let (adminUser, s) ← ensureAdminUser s pk password
  match tenants.find? (·.slug == "tenant1") with
  | none => .error .stopIteration
  | some tenant1 =>
      match RBACService.assignRole s adminUser tenant1 "admin" none with
      | (.error e, _) => .error (.write e)
      | (.ok _, s) => .ok (⟨tenants, adminUser⟩, s)

def seed (s : Site) (pk : UserId) (password : String) : Except SeedError DemoSeedResult × Site :=
  match attempt s pk password with
  | .error e => (.error e, s)
  | .ok (result, s) => (.ok result, s)

section

variable {s s' : Site} {spec : DemoTenantSpec} {specs : List DemoTenantSpec} {tenant : Tenant}
  {pk : UserId} {password : String}

/-! ## One write -/

/-- What a tenant's write leaves alone. -/
structure TenantsOnly (s s' : Site) : Prop where
  users : s'.users = s.users
  userTenantRoles : s'.userTenantRoles = s.userTenantRoles
  invitations : s'.invitations = s.invitations
  plans : s'.plans = s.plans
  subscriptions : s'.subscriptions = s.subscriptions
  webhookEvents : s'.webhookEvents = s.webhookEvents
  auditLogs : s'.auditLogs = s.auditLogs
  queue : s'.queue = s.queue

theorem TenantsOnly.refl (s : Site) : TenantsOnly s s := ⟨rfl, rfl, rfl, rfl, rfl, rfl, rfl, rfl⟩

theorem TenantsOnly.trans {s₁ s₂ s₃ : Site} (h : TenantsOnly s₁ s₂) (h' : TenantsOnly s₂ s₃) :
    TenantsOnly s₁ s₃ where
  users := h'.users.trans h.users
  userTenantRoles := h'.userTenantRoles.trans h.userTenantRoles
  invitations := h'.invitations.trans h.invitations
  plans := h'.plans.trans h.plans
  subscriptions := h'.subscriptions.trans h.subscriptions
  webhookEvents := h'.webhookEvents.trans h.webhookEvents
  auditLogs := h'.auditLogs.trans h.auditLogs
  queue := h'.queue.trans h.queue

theorem ensureTenant_ok (h : ensureTenant s spec = .ok (tenant, s')) :
    s.tenants.upsert? spec.ownsTenant spec.apply spec.row = some s'.tenants
      ∧ s'.domains = s.domains ∧ TenantsOnly s s'
      ∧ tenant = ((s.tenants.find? spec.ownsTenant).map spec.apply).getD spec.row := by
  unfold ensureTenant at h
  split at h
  · cases h
  · rename_i hupsert
    obtain ⟨rfl, rfl⟩ := Prod.mk.inj (Except.ok.inj h)
    exact ⟨hupsert, rfl, ⟨rfl, rfl, rfl, rfl, rfl, rfl, rfl, rfl⟩, rfl⟩

theorem ensureDomain_ok (h : ensureDomain s spec = .ok s') :
    s.domains.upsert? spec.ownsDomain applyDomain spec.domainRow = some s'.domains
      ∧ s'.tenants = s.tenants ∧ TenantsOnly s s' := by
  unfold ensureDomain at h
  split at h
  · cases h
  · rename_i hupsert
    split at h
    · obtain rfl := Except.ok.inj h
      exact ⟨hupsert, rfl, ⟨rfl, rfl, rfl, rfl, rfl, rfl, rfl, rfl⟩⟩
    · cases h

theorem tenant_eq_of_id {tenants : Table Tenant Tenant.clash} {a b : Tenant} (ha : a ∈ tenants)
    (hb : b ∈ tenants) (hid : a.id = b.id) : a = b :=
  Table.eq_of_clash Site.tenant_clash_symm ha hb (by simp [Tenant.clash, hid])

/-- A tenant is written exactly if no other one has the slug. -/
theorem ensureTenant_iff : (∃ out, ensureTenant s spec = .ok out) ↔
    ∀ t ∈ s.tenants, t.id ≠ spec.id → t.slug ≠ spec.slug ∧ t.schemaName ≠ spec.slug := by
  have hsome : (∃ out, ensureTenant s spec = .ok out)
      ↔ (s.tenants.upsert? spec.ownsTenant spec.apply spec.row).isSome = true := by
    unfold ensureTenant
    split <;> rename_i h <;> simp [h]
  rw [hsome, Table.upsert?_isSome_iff (fun a => by simp [Tenant.clash]) Site.tenant_clash_symm]
  · refine forall₂_congr fun t _ => ?_
    simp only [ownsTenant, beq_eq_false_iff_ne, Tenant.clash, row, Bool.or_eq_false_iff]
    exact ⟨fun h hid => ⟨(h hid).1.2, (h hid).2⟩, fun h hid => ⟨⟨hid, (h hid).1⟩, (h hid).2⟩⟩
  · intro a ha b hb hpa hpb
    exact tenant_eq_of_id ha hb ((eq_of_beq hpa).trans (eq_of_beq hpb).symm)
  · exact fun _ h => h
  · intro a b hb
    have hid : b.id = spec.id := eq_of_beq hb
    simp [Tenant.clash, DemoTenantSpec.apply, row, hid]

/-- A host is written exactly if no other tenant has it. -/
theorem ensureDomain_iff (hfk : s.tenants.any spec.ownsTenant = true) :
    (∃ out, ensureDomain s spec = .ok out) ↔
      ∀ d ∈ s.domains, d.domain = spec.host → d.tenant = spec.id := by
  have hsome : (∃ out, ensureDomain s spec = .ok out)
      ↔ (s.domains.upsert? spec.ownsDomain applyDomain spec.domainRow).isSome = true := by
    unfold ensureDomain
    split <;> rename_i h <;> simp [h, hfk]
  rw [hsome, Table.upsert?_isSome_iff (fun a => Table.sameKey_iff.mpr rfl) Table.sameKey_symm]
  · refine forall₂_congr fun d _ => ?_
    rw [Bool.eq_false_iff, Bool.eq_false_iff, Ne, Ne, ownsDomain_iff, Table.sameKey_iff]
    constructor
    · intro h hhost
      by_contra htenant
      exact h (fun hown => htenant hown.1) hhost
    · exact fun h hown hhost => hown ⟨h hhost, hhost⟩
  · intro a ha b hb hpa hpb
    have hhost := (ownsDomain_iff.mp hpa).2.trans (ownsDomain_iff.mp hpb).2.symm
    exact Table.eq_of_clash Table.sameKey_symm ha hb (Table.sameKey_iff.mpr hhost)
  · exact fun _ h => h
  · intro a b hb
    rw [Bool.eq_iff_iff, Table.sameKey_iff, Table.sameKey_iff]
    exact Eq.congr_right (ownsDomain_iff.mp hb).2

theorem ensureTenant_mem (h : ensureTenant s spec = .ok (tenant, s')) :
    tenant ∈ s'.tenants ∧ tenant.id = spec.id ∧ spec.apply tenant = tenant := by
  obtain ⟨hupsert, -, -, rfl⟩ := ensureTenant_ok h
  cases hfind : s.tenants.find? spec.ownsTenant with
  | none =>
      have hnone := Table.any_eq_false.mpr (Table.find?_none.mp hfind)
      exact ⟨(Table.mem_upsert? hupsert).mpr (Or.inr ⟨hnone, rfl⟩), rfl, rfl⟩
  | some t =>
      obtain ⟨ht, hown⟩ := Table.find?_some hfind
      exact ⟨(Table.mem_upsert? hupsert).mpr (Or.inl ⟨t, ht, (if_pos hown).symm⟩),
        eq_of_beq hown, rfl⟩

theorem ensureDomain_mem (h : ensureDomain s spec = .ok s') :
    ∃ d ∈ s'.domains, spec.ownsDomain d = true ∧ applyDomain d = d := by
  obtain ⟨hupsert, -, -⟩ := ensureDomain_ok h
  cases hany : s.domains.any spec.ownsDomain with
  | true =>
      obtain ⟨d, hd, hown⟩ := Table.any_iff.mp hany
      exact ⟨applyDomain d, (Table.mem_upsert? hupsert).mpr (Or.inl ⟨d, hd, (if_pos hown).symm⟩),
        hown, rfl⟩
  | false =>
      exact ⟨spec.domainRow, (Table.mem_upsert? hupsert).mpr (Or.inr ⟨hany, rfl⟩),
        ownsDomain_iff.mpr ⟨rfl, rfl⟩, rfl⟩

/-! ## All tenants in turn -/

theorem ensureTenants_cons {out : List Tenant × Site} :
    ensureTenants s (spec :: specs) = .ok out ↔
      ∃ tenant s₁ s₂ tenants, ensureTenant s spec = .ok (tenant, s₁)
        ∧ ensureDomain s₁ spec = .ok s₂ ∧ ensureTenants s₂ specs = .ok (tenants, out.2)
        ∧ out.1 = tenant :: tenants := by
  simp only [ensureTenants]
  constructor
  · intro h
    cases htenant : ensureTenant s spec with
    | error e => rw [htenant] at h; cases h
    | ok made =>
        rw [htenant] at h
        cases hdomain : ensureDomain made.2 spec with
        | error e => simp [bind, Except.bind, hdomain] at h
        | ok s₂ =>
            simp only [bind, Except.bind, hdomain] at h
            cases hrest : ensureTenants s₂ specs with
            | error e => simp [hrest] at h
            | ok rest =>
                simp only [hrest] at h
                obtain rfl := Except.ok.inj h
                exact ⟨made.1, made.2, s₂, rest.1, rfl, hdomain, hrest, rfl⟩
  · rintro ⟨tenant, s₁, s₂, tenants, htenant, hdomain, hrest, hout⟩
    simp only [htenant, hdomain, hrest, bind, Except.bind, pure, Except.pure, ← hout]

/-- No two of the specs want the same row. -/
def Apart (a b : DemoTenantSpec) : Prop := a.id ≠ b.id ∧ a.slug ≠ b.slug ∧ a.host ≠ b.host

instance : DecidableRel Apart := fun a b =>
  inferInstanceAs (Decidable (a.id ≠ b.id ∧ a.slug ≠ b.slug ∧ a.host ≠ b.host))

theorem demoTenants_apart : demoTenants.Pairwise Apart := by decide

/-- Nobody else has what `specs` are to get. The tenants in `seen` have had
their turn and are renamed by then. -/
def Free (s : Site) (seen : List UUID) : List DemoTenantSpec → Prop
  | [] => True
  | spec :: specs =>
      (∀ t ∈ s.tenants, t.id ∉ seen ++ [spec.id] →
          t.slug ≠ spec.slug ∧ t.schemaName ≠ spec.slug)
        ∧ (∀ d ∈ s.domains, d.domain = spec.host → d.tenant = spec.id)
        ∧ Free s (seen ++ [spec.id]) specs

instance Free.decidable (s : Site) :
    ∀ (seen : List UUID) (specs : List DemoTenantSpec), Decidable (Free s seen specs)
  | _, [] => inferInstanceAs (Decidable True)
  | seen, spec :: specs =>
      haveI := Free.decidable s (seen ++ [spec.id]) specs
      inferInstanceAs (Decidable
        ((∀ t ∈ s.tenants, t.id ∉ seen ++ [spec.id] →
            t.slug ≠ spec.slug ∧ t.schemaName ≠ spec.slug)
          ∧ (∀ d ∈ s.domains, d.domain = spec.host → d.tenant = spec.id)
          ∧ Free s (seen ++ [spec.id]) specs))

/-- What the write of `spec` leaves of the other specs' rows. -/
structure Written (spec : DemoTenantSpec) (s s' : Site) : Prop where
  tenants : s.tenants.upsert? spec.ownsTenant spec.apply spec.row = some s'.tenants
  domains : s.domains.upsert? spec.ownsDomain applyDomain spec.domainRow = some s'.domains

theorem written {s₁ : Site} (htenant : ensureTenant s spec = .ok (tenant, s₁))
    (hdomain : ensureDomain s₁ spec = .ok s') : Written spec s s' := by
  obtain ⟨htenants, hkept, -, -⟩ := ensureTenant_ok htenant
  obtain ⟨hdomains, hkept', -⟩ := ensureDomain_ok hdomain
  exact ⟨hkept' ▸ htenants, hkept ▸ hdomains⟩

namespace Written

theorem mem_tenants (h : Written spec s s') {t : Tenant} (hid : t.id ≠ spec.id) :
    t ∈ s'.tenants ↔ t ∈ s.tenants :=
  Table.mem_upsert?_outside h.tenants (fun _ hown => hown) (beq_self_eq_true _)
    (beq_eq_false_iff_ne.mpr hid)

theorem mem_domains (h : Written spec s s') {d : Domain} (hhost : d.domain ≠ spec.host) :
    d ∈ s'.domains ↔ d ∈ s.domains :=
  Table.mem_upsert?_outside h.domains (fun _ hown => hown) (ownsDomain_iff.mpr ⟨rfl, rfl⟩)
    (Bool.eq_false_iff.mpr fun hown => hhost (ownsDomain_iff.mp hown).2)

theorem slug (h : Written spec s s') {t : Tenant} (ht : t ∈ s'.tenants) (hid : t.id = spec.id) :
    t.slug = spec.slug ∧ t.schemaName = spec.slug := by
  rcases (Table.mem_upsert? h.tenants).mp ht with ⟨y, -, rfl⟩ | ⟨-, rfl⟩
  · split at hid
    · rename_i hown
      rw [if_pos hown]
      exact ⟨rfl, rfl⟩
    · rename_i hown
      exact absurd (beq_iff_eq.mpr hid) hown
  · exact ⟨rfl, rfl⟩

/-- The write of `spec` takes its tenant out of the way of the later ones, and
itself stands in nobody's way. -/
theorem free_iff (h : Written spec s s') (hapart : ∀ r ∈ specs, Apart spec r)
    (seen : List UUID) : Free s' seen specs ↔ Free s (spec.id :: seen) specs := by
  induction specs generalizing seen with
  | nil => exact Iff.rfl
  | cons r specs ih =>
      obtain ⟨-, hslug, hhost⟩ := hapart r List.mem_cons_self
      refine and_congr ?_ (and_congr ?_ (ih (fun x hx => hapart x (List.mem_cons_of_mem r hx)) _))
      · constructor
        · intro hfree t ht hseen
          have hid : t.id ≠ spec.id := fun hid => hseen (hid ▸ List.mem_cons_self)
          exact hfree t ((h.mem_tenants hid).mpr ht) fun hmem =>
            hseen (List.mem_cons_of_mem _ hmem)
        · intro hfree t ht hseen
          by_cases hid : t.id = spec.id
          · obtain ⟨hs, hschema⟩ := h.slug ht hid
            rw [hs, hschema]
            exact ⟨hslug, hslug⟩
          · refine hfree t ((h.mem_tenants hid).mp ht) fun hmem => ?_
            exact (List.mem_cons.mp hmem).elim hid hseen
      · refine forall_congr' fun d => ?_
        constructor
        · intro hfree hd hr
          exact hfree ((h.mem_domains (hr ▸ hhost.symm)).mpr hd) hr
        · intro hfree hd hr
          exact hfree ((h.mem_domains (hr ▸ hhost.symm)).mp hd) hr

end Written

theorem ensureTenants_iff (hapart : specs.Pairwise Apart) :
    (∃ out, ensureTenants s specs = .ok out) ↔ Free s [] specs := by
  induction specs generalizing s with
  | nil => exact ⟨fun _ => trivial, fun _ => ⟨_, rfl⟩⟩
  | cons spec specs ih =>
      rw [List.pairwise_cons] at hapart
      constructor
      · rintro ⟨out, h⟩
        obtain ⟨t, s₁, s₂, ts, htenant, hdomain, hrest, -⟩ := ensureTenants_cons.mp h
        obtain ⟨-, hkept, -, -⟩ := ensureTenant_ok htenant
        obtain ⟨hmem, hid, -⟩ := ensureTenant_mem htenant
        have hfk : s₁.tenants.any spec.ownsTenant = true :=
          Table.any_iff.mpr ⟨t, hmem, beq_iff_eq.mpr hid⟩
        refine ⟨fun x hx hseen => ?_, hkept ▸ (ensureDomain_iff hfk).mp ⟨_, hdomain⟩, ?_⟩
        · exact ensureTenant_iff.mp ⟨_, htenant⟩ x hx (by simpa using hseen)
        · exact ((written htenant hdomain).free_iff hapart.1 []).mp
            ((ih hapart.2).mp ⟨_, hrest⟩)
      · rintro ⟨hslug, hhost, hfree⟩
        obtain ⟨⟨t, s₁⟩, htenant⟩ := ensureTenant_iff.mpr fun x hx hid =>
          hslug x hx (by simpa using hid)
        obtain ⟨-, hkept, -, -⟩ := ensureTenant_ok htenant
        obtain ⟨hmem, hid, -⟩ := ensureTenant_mem htenant
        have hfk : s₁.tenants.any spec.ownsTenant = true :=
          Table.any_iff.mpr ⟨t, hmem, beq_iff_eq.mpr hid⟩
        obtain ⟨s₂, hdomain⟩ := (ensureDomain_iff hfk).mpr (hkept.symm ▸ hhost)
        obtain ⟨⟨ts, s₃⟩, hrest⟩ := (ih hapart.2).mpr
          (((written htenant hdomain).free_iff hapart.1 []).mpr hfree)
        exact ⟨(t :: ts, s₃), ensureTenants_cons.mpr ⟨t, s₁, s₂, ts, htenant, hdomain, hrest, rfl⟩⟩

theorem ensureTenants_error {e : SeedError} (h : ensureTenants s specs = .error e) :
    e = .write .integrityError := by
  induction specs generalizing s with
  | nil => cases h
  | cons spec specs ih =>
      simp only [ensureTenants, bind, Except.bind] at h
      split at h
      · rename_i htenant
        obtain rfl := Except.error.inj h
        unfold ensureTenant at htenant
        split at htenant
        · exact (Except.error.inj htenant).symm
        · cases htenant
      · split at h
        · rename_i hdomain
          obtain rfl := Except.error.inj h
          unfold ensureDomain at hdomain
          split at hdomain
          · exact (Except.error.inj hdomain).symm
          · split at hdomain
            · cases hdomain
            · exact (Except.error.inj hdomain).symm
        · split at h
          · rename_i hrest
            obtain rfl := Except.error.inj h
            exact ih hrest
          · cases h

/-! ### What is in its place afterwards -/

/-- `tenant` is as `spec` has it, and its host is there. -/
structure Placed (s : Site) (tenant : Tenant) (spec : DemoTenantSpec) : Prop where
  mem : tenant ∈ s.tenants
  id : tenant.id = spec.id
  fix : spec.apply tenant = tenant
  host : ∃ d ∈ s.domains, spec.ownsDomain d = true ∧ applyDomain d = d

theorem Placed.written {r : DemoTenantSpec} (hplaced : Placed s tenant spec)
    (h : Written r s s') (hapart : Apart r spec) : Placed s' tenant spec where
  mem := (h.mem_tenants fun hid => hapart.1 (hid.symm.trans hplaced.id)).mpr hplaced.mem
  id := hplaced.id
  fix := hplaced.fix
  host := by
    obtain ⟨d, hd, hown, hfix⟩ := hplaced.host
    have hhost := (ownsDomain_iff.mp hown).2
    exact ⟨d, (h.mem_domains fun hr => hapart.2.2 (hr.symm.trans hhost)).mpr hd, hown, hfix⟩

theorem Placed.ensureTenants {tenants : List Tenant} (hplaced : Placed s tenant spec)
    (hapart : ∀ r ∈ specs, Apart r spec) (h : ensureTenants s specs = .ok (tenants, s')) :
    Placed s' tenant spec := by
  induction specs generalizing s tenants with
  | nil =>
      obtain ⟨-, rfl⟩ := Prod.mk.inj (Except.ok.inj h)
      exact hplaced
  | cons r specs ih =>
      obtain ⟨t, s₁, s₂, ts, htenant, hdomain, hrest, -⟩ := ensureTenants_cons.mp h
      have hwritten := DemoSeedService.written htenant hdomain
      exact ih (hplaced.written hwritten (hapart r List.mem_cons_self))
        (fun x hx => hapart x (List.mem_cons_of_mem r hx)) hrest

theorem ensureTenants_placed {tenants : List Tenant} (hapart : specs.Pairwise Apart)
    (h : ensureTenants s specs = .ok (tenants, s')) :
    List.Forall₂ (Placed s') tenants specs := by
  induction specs generalizing s tenants with
  | nil =>
      obtain ⟨rfl, -⟩ := Prod.mk.inj (Except.ok.inj h)
      exact .nil
  | cons spec specs ih =>
      rw [List.pairwise_cons] at hapart
      obtain ⟨t, s₁, s₂, ts, htenant, hdomain, hrest, hout⟩ := ensureTenants_cons.mp h
      obtain rfl : tenants = t :: ts := hout
      obtain ⟨hmem, hid, hfix⟩ := ensureTenant_mem htenant
      obtain ⟨-, hkept, -⟩ := ensureDomain_ok hdomain
      have hplaced : Placed s₂ t spec := ⟨hkept ▸ hmem, hid, hfix, ensureDomain_mem hdomain⟩
      refine .cons (hplaced.ensureTenants (fun r hr => ?_) hrest) (ih hapart.2 hrest)
      obtain ⟨hne, hslug, hhost⟩ := hapart.1 r hr
      exact ⟨hne.symm, hslug.symm, hhost.symm⟩

theorem ensureTenants_frame {tenants : List Tenant}
    (h : ensureTenants s specs = .ok (tenants, s')) : TenantsOnly s s' := by
  induction specs generalizing s tenants with
  | nil =>
      obtain ⟨-, rfl⟩ := Prod.mk.inj (Except.ok.inj h)
      exact TenantsOnly.refl s
  | cons spec specs ih =>
      obtain ⟨t, s₁, s₂, ts, htenant, hdomain, hrest, -⟩ := ensureTenants_cons.mp h
      obtain ⟨-, -, hfirst, -⟩ := ensureTenant_ok htenant
      obtain ⟨-, -, hsecond⟩ := ensureDomain_ok hdomain
      exact (hfirst.trans hsecond).trans (ih hrest)

/-- A tenant in its place is found and written as it is. -/
theorem Placed.ensureTenant (h : Placed s tenant spec) :
    ensureTenant s spec = .ok (tenant, s) := by
  have hone : ∀ t ∈ s.tenants, spec.ownsTenant t = true → t = tenant := fun t ht hown =>
    tenant_eq_of_id ht h.mem ((eq_of_beq hown).trans h.id.symm)
  have hany : s.tenants.any spec.ownsTenant = true :=
    Table.any_iff.mpr ⟨tenant, h.mem, beq_iff_eq.mpr h.id⟩
  have hself : s.tenants.upsert? spec.ownsTenant spec.apply spec.row = some s.tenants :=
    Table.upsert?_eq_self hany fun t ht hown => by rw [hone t ht hown, h.fix]
  have hfind : s.tenants.find? spec.ownsTenant = some tenant :=
    Table.find?_eq_of_mem Site.tenant_clash_symm h.mem (beq_iff_eq.mpr h.id) fun t hown => by
      simp [Tenant.clash, (eq_of_beq hown).trans h.id.symm]
  unfold DemoSeedService.ensureTenant
  split
  · rename_i hnone
    rw [hself] at hnone
    cases hnone
  · rename_i tenants hsome
    obtain rfl : s.tenants = tenants := Option.some.inj (hself.symm.trans hsome)
    rw [hfind]
    exact congrArg (fun t => Except.ok (t, s)) h.fix

theorem Placed.ensureDomain (h : Placed s tenant spec) : ensureDomain s spec = .ok s := by
  obtain ⟨d, hd, hown, hfix⟩ := h.host
  have hany : s.tenants.any spec.ownsTenant = true :=
    Table.any_iff.mpr ⟨tenant, h.mem, beq_iff_eq.mpr h.id⟩
  have hself : s.domains.upsert? spec.ownsDomain applyDomain spec.domainRow = some s.domains :=
    Table.upsert?_eq_self (Table.any_iff.mpr ⟨d, hd, hown⟩) fun x hx hx' => by
      have hhost := (ownsDomain_iff.mp hx').2.trans (ownsDomain_iff.mp hown).2.symm
      rw [Table.eq_of_clash Table.sameKey_symm hx hd (Table.sameKey_iff.mpr hhost), hfix]
  unfold DemoSeedService.ensureDomain
  split
  · rename_i hnone
    rw [hself] at hnone
    cases hnone
  · rename_i domains hsome
    obtain rfl : s.domains = domains := Option.some.inj (hself.symm.trans hsome)
    exact dif_pos hany

theorem mem_of_placed {tenants : List Tenant} (h : List.Forall₂ (Placed s) tenants specs)
    (ht : tenant ∈ tenants) : tenant ∈ s.tenants := by
  induction h with
  | nil => cases ht
  | cons hplaced _ ih =>
      rcases List.mem_cons.mp ht with rfl | ht
      · exact hplaced.mem
      · exact ih ht

theorem ensureTenants_again {tenants : List Tenant} (h : List.Forall₂ (Placed s) tenants specs) :
    ensureTenants s specs = .ok (tenants, s) := by
  induction h with
  | nil => rfl
  | cons hplaced _ ih =>
      exact ensureTenants_cons.mpr
        ⟨_, s, s, _, hplaced.ensureTenant, hplaced.ensureDomain, ih, rfl⟩

/-! ## The admin -/

/-- The admin has an account, or the key of the new one is nobody's. -/
def HasKey (s : Site) (pk : UserId) : Prop :=
  s.users.any demoAdmin.ownsUser = true ∨ ∀ u ∈ s.users, u.pk ≠ pk

/-- The columns written leave the key and the username alone. -/
def adminColumns (password : String) : Table.Rewrite User.clash :=
  ⟨demoAdmin.apply password, fun _ _ => rfl, fun _ _ => rfl⟩

theorem ensureAdminUser_found (pk : UserId) (password : String)
    (hany : s.users.any demoAdmin.ownsUser = true) :
    ensureAdminUser s pk password
      = .ok (((s.users.find? demoAdmin.ownsUser).map (demoAdmin.apply password)).getD
          (demoAdmin.row pk password),
        { s with users := s.users.modify demoAdmin.ownsUser (adminColumns password) }) := by
  have hupsert : s.users.upsert? demoAdmin.ownsUser (demoAdmin.apply password)
      (demoAdmin.row pk password)
        = some (s.users.modify demoAdmin.ownsUser (adminColumns password)) := by
    unfold Table.upsert?
    rw [if_pos hany]
    exact Table.update?_rewrite s.users demoAdmin.ownsUser (adminColumns password)
  unfold ensureAdminUser
  rw [hupsert]

theorem ensureAdminUser_iff (password : String) :
    (∃ out, ensureAdminUser s pk password = .ok out) ↔ HasKey s pk := by
  by_cases hany : s.users.any demoAdmin.ownsUser = true
  · exact ⟨fun _ => Or.inl hany, fun _ => ⟨_, ensureAdminUser_found pk password hany⟩⟩
  · have hnone := Table.any_eq_false.mp (Bool.not_eq_true _ ▸ hany)
    have hclash : ∀ u ∈ s.users, User.clash u (demoAdmin.row pk password) = false ↔ u.pk ≠ pk := by
      intro u hu
      have hname : (u.username == (demoAdmin.row pk password).username) = false := hnone u hu
      simp only [User.clash, hname, Bool.or_false, beq_eq_false_iff_ne]
      exact Iff.rfl
    unfold ensureAdminUser Table.upsert?
    rw [if_neg hany]
    cases hinsert : s.users.insert? (demoAdmin.row pk password) with
    | some users =>
        refine ⟨fun _ => Or.inr fun u hu => ?_, fun _ => ⟨_, rfl⟩⟩
        exact (hclash u hu).mp (Table.not_clash_of_insert? hinsert hu)
    | none =>
        refine ⟨?_, fun h => ?_⟩
        · rintro ⟨out, ⟨⟩⟩
        obtain ⟨users, hsome⟩ := Table.insert?_of_not_clash fun u hu =>
          (hclash u hu).mpr (h.resolve_left hany u hu)
        rw [hinsert] at hsome
        cases hsome

theorem ensureAdminUser_error {e : SeedError} (h : ensureAdminUser s pk password = .error e) :
    e = .write .integrityError := by
  unfold ensureAdminUser at h
  split at h
  · exact (Except.error.inj h).symm
  · cases h

theorem ensureAdminUser_ok {u : User} (h : ensureAdminUser s pk password = .ok (u, s')) :
    s' = { s with users := s'.users } ∧ u ∈ s'.users ∧ demoAdmin.ownsUser u = true
      ∧ demoAdmin.apply password u = u := by
  unfold ensureAdminUser at h
  split at h
  · cases h
  · rename_i users hupsert
    obtain ⟨rfl, rfl⟩ := Prod.mk.inj (Except.ok.inj h)
    refine ⟨rfl, ?_⟩
    cases hfind : s.users.find? demoAdmin.ownsUser with
    | none =>
        have hnone := Table.any_eq_false.mpr (Table.find?_none.mp hfind)
        exact ⟨(Table.mem_upsert? hupsert).mpr (Or.inr ⟨hnone, rfl⟩), beq_self_eq_true _, rfl⟩
    | some u =>
        obtain ⟨hu, hown⟩ := Table.find?_some hfind
        exact ⟨(Table.mem_upsert? hupsert).mpr (Or.inl ⟨u, hu, (if_pos hown).symm⟩), hown, rfl⟩

end

/-! ## The whole call -/

section

variable {s s' : Site} {specs : List DemoTenantSpec} {pk pk' : UserId}
  {password password' : String} {result : DemoSeedResult}

/-- What the last step of the transaction finds: the tenants and the admin in
their places, and `tenant1` among them. -/
structure Given (s : Site) (result : DemoSeedResult) (tenant1 : Tenant) : Prop where
  placed : List.Forall₂ (Placed s) result.tenants demoTenants
  next : result.tenants.find? (·.slug == "tenant1") = some tenant1
  mem : tenant1 ∈ s.tenants
  admin : result.adminUser ∈ s.users
  owns : demoAdmin.ownsUser result.adminUser = true
  email : result.adminUser.email = demoAdmin.email

/-- The role row of the admin in Tenant One. -/
def roleRow (result : DemoSeedResult) (tenant1 : Tenant) : UserTenantRole :=
  ⟨result.adminUser.pk, tenant1.id, .admin, none⟩

/-- The site with the role of the admin written and logged. -/
def withRole (s : Site) (result : DemoSeedResult) (tenant1 : Tenant) : Site :=
  AuditService.log { s with userTenantRoles := s.userTenantRoles.put (roleRow result tenant1) }
    .roleAssigned (some tenant1) none "User" (toString result.adminUser.pk)
    [("role", .str "admin"), ("target_email", .str result.adminUser.email)]

theorem Given.assignRole {tenant1 : Tenant} (h : Given s result tenant1) :
    RBACService.assignRole s result.adminUser tenant1 "admin" none
      = (.ok (roleRow result tenant1), withRole s result tenant1) := by
  have huser : s.users.any (fun u => u.pk == result.adminUser.pk) = true :=
    Table.any_iff.mpr ⟨_, h.admin, beq_self_eq_true _⟩
  have hfk : RBACService.roleFk s (roleRow result tenant1) = true := by
    rw [Table.any, ← List.isSome_find?] at huser
    simp only [RBACService.roleFk, roleRow, Site.getTenant_of_mem h.mem, Option.isSome_some,
      Bool.and_true, Option.all_none]
    exact huser
  exact RBACService.assignRole_of_fk (r := .admin) hfk

theorem given {s₁ s₂ : Site} (result : DemoSeedResult)
    (htenants : ensureTenants s demoTenants = .ok (result.tenants, s₁))
    (hadmin : ensureAdminUser s₁ pk password = .ok (result.adminUser, s₂)) :
    ∃ tenant1, Given s₂ result tenant1 := by
  obtain ⟨hs₂, hmem, howns, hfix⟩ := ensureAdminUser_ok hadmin
  have hplaced : List.Forall₂ (Placed s₂) result.tenants demoTenants :=
    List.Forall₂.imp (fun t spec h => ⟨hs₂ ▸ h.mem, h.id, h.fix, hs₂ ▸ h.host⟩)
      (ensureTenants_placed demoTenants_apart htenants)
  obtain ⟨tenant1, hnext⟩ : ∃ t, result.tenants.find? (·.slug == "tenant1") = some t := by
    rw [← Option.isSome_iff_exists, List.isSome_find?, List.any_eq_true]
    cases hresult : result.tenants with
    | nil =>
        rw [hresult] at hplaced
        cases hplaced
    | cons t rest =>
        rw [hresult] at hplaced
        cases hplaced with
        | cons hfirst _ =>
            exact ⟨t, List.mem_cons_self, beq_iff_eq.mpr (congrArg Tenant.slug hfirst.fix).symm⟩
  exact ⟨tenant1, hplaced, hnext, mem_of_placed hplaced (List.mem_of_find?_eq_some hnext), hmem,
    howns, (congrArg User.email hfix).symm⟩

theorem attempt_of {s₁ s₂ : Site} {tenant1 : Tenant} (result : DemoSeedResult)
    (htenants : ensureTenants s demoTenants = .ok (result.tenants, s₁))
    (hadmin : ensureAdminUser s₁ pk password = .ok (result.adminUser, s₂))
    (hgiven : Given s₂ result tenant1) :
    attempt s pk password = .ok (result, withRole s₂ result tenant1) := by
  simp only [attempt, htenants, hadmin, bind, Except.bind, hgiven.next, hgiven.assignRole]

theorem attempt_ok (h : attempt s pk password = .ok (result, s')) :
    ∃ s₁ s₂ tenant1, ensureTenants s demoTenants = .ok (result.tenants, s₁)
      ∧ ensureAdminUser s₁ pk password = .ok (result.adminUser, s₂)
      ∧ Given s₂ result tenant1 ∧ s' = withRole s₂ result tenant1 := by
  cases htenants : ensureTenants s demoTenants with
  | error e => simp [attempt, htenants, bind, Except.bind] at h
  | ok made =>
      cases hadmin : ensureAdminUser made.2 pk password with
      | error e => simp [attempt, htenants, hadmin, bind, Except.bind] at h
      | ok admin =>
          obtain ⟨tenant1, hgiven⟩ := given ⟨made.1, admin.1⟩ htenants hadmin
          rw [attempt_of ⟨made.1, admin.1⟩ htenants hadmin hgiven] at h
          obtain ⟨rfl, rfl⟩ := Prod.mk.inj (Except.ok.inj h)
          exact ⟨made.2, admin.2, tenant1, rfl, hadmin, hgiven, rfl⟩

/-- The role written once more is written as it is, and logged as it was. -/
theorem withRole_again (s : Site) (result : DemoSeedResult) (tenant1 : Tenant)
    (users : Table User User.clash) :
    ∃ entry, (withRole s result tenant1).auditLogs.getLast? = some entry
      ∧ withRole { withRole s result tenant1 with users } result tenant1
        = { withRole s result tenant1 with
            users
            auditLogs := (withRole s result tenant1).auditLogs ++ [entry] } := by
  have hput : (s.userTenantRoles.put (roleRow result tenant1)).put (roleRow result tenant1)
      = s.userTenantRoles.put (roleRow result tenant1) :=
    Table.put_eq_self (Table.mem_put.mpr (Or.inl rfl))
  refine ⟨_, List.getLast?_concat, ?_⟩
  simp only [withRole, AuditService.log, hput]

/-- The password is no part of the role or of its log entry. -/
theorem withRole_apply {tenant1 : Tenant} (hemail : result.adminUser.email = demoAdmin.email) :
    withRole s ⟨result.tenants, demoAdmin.apply password result.adminUser⟩ tenant1
      = withRole s result tenant1 := by
  simp only [withRole, roleRow, DemoAdminSpec.apply, hemail]

theorem hasKey_tenants {tenants : List Tenant} {s₁ : Site} (pk : UserId)
    (h : ensureTenants s specs = .ok (tenants, s₁)) : HasKey s₁ pk ↔ HasKey s pk := by
  rw [HasKey, HasKey, (ensureTenants_frame h).users]

theorem seed_of_free (password : String) (hfree : Free s [] demoTenants) (hkey : HasKey s pk) :
    ∃ result s', seed s pk password = (.ok result, s') := by
  obtain ⟨⟨tenants, s₁⟩, htenants⟩ := (ensureTenants_iff demoTenants_apart).mpr hfree
  obtain ⟨⟨admin, s₂⟩, hadmin⟩ :=
    (ensureAdminUser_iff password).mpr ((hasKey_tenants pk htenants).mpr hkey)
  obtain ⟨tenant1, hgiven⟩ := given ⟨tenants, admin⟩ htenants hadmin
  have hattempt := attempt_of ⟨tenants, admin⟩ htenants hadmin hgiven
  exact ⟨⟨tenants, admin⟩, withRole s₂ ⟨tenants, admin⟩ tenant1, by simp only [seed, hattempt]⟩

/-- The seeding goes through exactly if nobody stands in its way, and what is
rolled back is an `IntegrityError` in every other case. -/
theorem seed_ok_iff (s : Site) (pk : UserId) (password : String) :
    ((∃ result, (seed s pk password).1 = .ok result)
        ↔ Free s [] demoTenants ∧ HasKey s pk)
      ∧ (¬(Free s [] demoTenants ∧ HasKey s pk) →
          seed s pk password = (.error (.write .integrityError), s)) := by
  by_cases hfree : Free s [] demoTenants ∧ HasKey s pk
  · obtain ⟨result, s', hseed⟩ := seed_of_free password hfree.1 hfree.2
    exact ⟨⟨fun _ => hfree, fun _ => ⟨result, by rw [hseed]⟩⟩, fun h => absurd hfree h⟩
  · have herror : attempt s pk password = .error (.write .integrityError) := by
      cases hattempt : attempt s pk password with
      | ok out =>
          obtain ⟨result, s'⟩ := out
          obtain ⟨s₁, s₂, tenant1, htenants, hadmin, -, -⟩ := attempt_ok hattempt
          exact absurd ⟨(ensureTenants_iff demoTenants_apart).mp ⟨_, htenants⟩,
            (hasKey_tenants pk htenants).mp ((ensureAdminUser_iff password).mp ⟨_, hadmin⟩)⟩ hfree
      | error e =>
          cases htenants : ensureTenants s demoTenants with
          | error e' =>
              simp only [attempt, htenants, bind, Except.bind] at hattempt
              rw [← Except.error.inj hattempt, ensureTenants_error htenants]
          | ok made =>
              cases hadmin : ensureAdminUser made.2 pk password with
              | error e' =>
                  simp only [attempt, htenants, hadmin, bind, Except.bind] at hattempt
                  rw [← Except.error.inj hattempt, ensureAdminUser_error hadmin]
              | ok admin =>
                  obtain ⟨tenant1, hgiven⟩ := given ⟨made.1, admin.1⟩ htenants hadmin
                  rw [attempt_of ⟨made.1, admin.1⟩ htenants hadmin hgiven] at hattempt
                  cases hattempt
    have hseed : seed s pk password = (.error (.write .integrityError), s) := by
      simp only [seed, herror]
    refine ⟨⟨fun ⟨result, h⟩ => ?_, fun h => absurd h hfree⟩, fun _ => hseed⟩
    rw [hseed] at h
    cases h

end

end DemoSeedService

end SaasKit
