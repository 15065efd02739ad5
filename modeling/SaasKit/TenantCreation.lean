import SaasKit.DemoSeed
import SaasKit.Lib.Interleave

/-!
# Tenants created at the same time

`create_tenant` one statement at a time: two lookups, then a transaction that
inserts the tenant and its domain. Any number of calls run interleaved. The
transaction makes each of them all or nothing (`Made.step`). Which exception
a call raises is another matter: what the lookups do not ask for, or what
another call has inserted since, is left to the columns' constraints, and
nothing translates their errors (`settled_iff`).
-/

namespace SaasKit

namespace TenantCreation

open TenantService

structure Args where
  newId : UUID
  name : String
  schemaName : String
  domain : String
  isPrimary : Bool

/-- Where a call stands: its validated slug and host once it has them. -/
inductive Position where
  | start (args : Args)
  | schemaFree (args : Args) (slug domain : String)
  | domainFree (args : Args) (slug domain : String)
  | done (result : Except Exc (Tenant × Domain))

open Position

def tenantOf (args : Args) (slug : String) : Tenant :=
  ⟨args.newId, strip args.name, slug, slug, true⟩

def domainOf (args : Args) (domain : String) : Domain := ⟨args.newId, domain, args.isPrimary⟩

/-- The transaction. -/
def commit (s : Site) (args : Args) (slug domain : String) :
    Except Exc (Tenant × Domain) × Site :=
  if 255 < (strip args.name).length ∨ 100 < slug.length ∨ 253 < domain.length then
    (.error .dataError, s)
  else
    match insertTenant s (tenantOf args slug) domain args.isPrimary with
    | none => (.error .integrityError, s)
    | some s => (.ok (tenantOf args slug, domainOf args domain), s)

/-- One statement of a call and the decisions up to the next. -/
def next (cfg : Settings) (_ : Unit) (s : Site) : Position → Option (Site × Position)
  | start args =>
      match validateSlug cfg args.schemaName with
      | .error e => some (s, done (.error e))
      | .ok slug =>
          let domain := cfg.lower (strip args.domain)
          if domain = "" then
            some (s, done (.error (.validationServiceError "Domain cannot be empty.")))
          else if s.tenants.any (·.schemaName == slug) then
            some (s, done (.error (.conflictServiceError
              ("schema_name '" ++ slug ++ "' is already taken."))))
          else some (s, schemaFree args slug domain)
  | schemaFree args slug domain =>
      if s.domains.any (·.domain == domain) then
        some (s, done (.error (.conflictServiceError
          ("Domain '" ++ domain ++ "' is already registered."))))
      else some (s, domainFree args slug domain)
  | domainFree args slug domain =>
      let committed := commit s args slug domain
      some (committed.2, done committed.1)
  | done _ => none

variable {ι : Type}

abbrev Conf (ι : Type) := Threads.Conf ι Site Position

abbrev Step (cfg : Settings) : Conf ι → ι × Unit → Conf ι → Prop :=
  Threads.step (Threads.ofNext (next cfg))

/-! ## One call by itself -/

/-- A call with nobody else running, and what it leaves. -/
abbrev Alone (cfg : Settings) (i : ι) (s : Site) (p : Position)
    (result : Except Exc (Tenant × Domain)) (after : Site) : Prop :=
  Threads.Alone (next cfg) i s p fun s' q => (s', q) = (after, done result)

section

variable {cfg : Settings} {s : Site}

/-- Past the lookups, `create_tenant` is the transaction. -/
theorem createTenant_checked {call : Call} {name schemaName domain slug : String}
    {isPrimary : Bool} (hslug : validateSlug cfg schemaName = .ok slug)
    (hempty : ¬ cfg.lower (strip domain) = "")
    (hschema : s.tenants.any (·.schemaName == slug) = false)
    (hdomain : s.domains.any (·.domain == cfg.lower (strip domain)) = false) :
    createTenant cfg call s name schemaName domain isPrimary
      = commit s ⟨call.newId, name, schemaName, domain, isPrimary⟩ slug
        (cfg.lower (strip domain)) := by
  simp only [createTenant, hslug, hempty, hschema, hdomain, Bool.false_eq_true, if_false]
  rfl

theorem create_alone (cfg : Settings) (i : ι) (call : Call) (s : Site)
    (name schemaName domain : String) (isPrimary : Bool) :
    Alone cfg i s (start ⟨call.newId, name, schemaName, domain, isPrimary⟩)
      (createTenant cfg call s name schemaName domain isPrimary).1
      (createTenant cfg call s name schemaName domain isPrimary).2 := by
  cases hslug : validateSlug cfg schemaName with
  | error e =>
      simp only [createTenant, hslug]
      exact .cons (e := ()) (by simp only [next, hslug]) (.done rfl)
  | ok slug =>
      by_cases hempty : cfg.lower (strip domain) = ""
      · simp only [createTenant, hslug, hempty, if_true]
        exact .cons (e := ()) (by simp only [next, hslug, hempty, if_true]) (.done rfl)
      · cases hschema : s.tenants.any (·.schemaName == slug) with
        | true =>
            simp only [createTenant, hslug, hempty, hschema, if_true, if_false]
            exact .cons (e := ())
              (by simp only [next, hslug, hempty, hschema, if_true, if_false]) (.done rfl)
        | false =>
            have hstart : next cfg () s (start ⟨call.newId, name, schemaName, domain, isPrimary⟩)
                = some (s, schemaFree ⟨call.newId, name, schemaName, domain, isPrimary⟩ slug
                  (cfg.lower (strip domain))) := by
              simp only [next, hslug, hempty, hschema, Bool.false_eq_true, if_false]
            refine .cons hstart ?_
            cases hdomain : s.domains.any (·.domain == cfg.lower (strip domain)) with
            | true =>
                simp only [createTenant, hslug, hempty, hschema, hdomain, Bool.false_eq_true,
                  if_true, if_false]
                exact .cons (e := ()) (by simp only [next, hdomain, if_true]) (.done rfl)
            | false =>
                have hfree : next cfg () s (schemaFree
                      ⟨call.newId, name, schemaName, domain, isPrimary⟩ slug
                      (cfg.lower (strip domain)))
                    = some (s, domainFree ⟨call.newId, name, schemaName, domain, isPrimary⟩ slug
                      (cfg.lower (strip domain))) := by
                  simp only [next, hdomain, Bool.false_eq_true, if_false]
                rw [createTenant_checked hslug hempty hschema hdomain]
                refine .cons hfree (.cons (e := ()) ?_ (.done rfl))
                simp only [next]

end

/-! ## The transaction -/

/-- The rows fit their columns and no unique column is taken. -/
structure Insertable (s : Site) (args : Args) (slug domain : String) : Prop where
  name : (strip args.name).length ≤ 255
  slugWidth : slug.length ≤ 100
  domainWidth : domain.length ≤ 253
  tenant : ∀ t ∈ s.tenants, t.id ≠ args.newId ∧ t.slug ≠ slug ∧ t.schemaName ≠ slug
  domain : ∀ d ∈ s.domains, d.domain ≠ domain

section

variable {s s' : Site} {args : Args} {slug domain : String} {e : Exc}

theorem clash_tenantOf (t : Tenant) :
    Tenant.clash t (tenantOf args slug) = false ↔
      t.id ≠ args.newId ∧ t.slug ≠ slug ∧ t.schemaName ≠ slug := by
  simp [Tenant.clash, tenantOf, and_assoc]

theorem insertTenant_some {tenant : Tenant} {isPrimary : Bool}
    (h : insertTenant s tenant domain isPrimary = some s') :
    s.tenants.insert? tenant = some s'.tenants
      ∧ s.domains.insert? ⟨tenant.id, domain, isPrimary⟩ = some s'.domains := by
  unfold insertTenant at h
  split at h
  · cases h
  · rename_i tenants ht
    split at h
    · cases h
    · rename_i domains hd
      obtain rfl := Option.some.inj h
      exact ⟨ht, hd⟩

theorem insertTenant_none {tenant : Tenant} {isPrimary : Bool}
    (h : insertTenant s tenant domain isPrimary = none) :
    s.tenants.insert? tenant = none
      ∨ s.domains.insert? ⟨tenant.id, domain, isPrimary⟩ = none := by
  unfold insertTenant at h
  split at h
  · rename_i ht
    exact Or.inl ht
  · split at h
    · rename_i hd
      exact Or.inr hd
    · cases h

/-- The transaction goes through exactly if the rows are insertable, and
otherwise leaves nothing. -/
theorem commit_cases (s : Site) (args : Args) (slug domain : String) :
    (Insertable s args slug domain ∧ ∃ s',
        commit s args slug domain = (.ok (tenantOf args slug, domainOf args domain), s')
          ∧ s.tenants.insert? (tenantOf args slug) = some s'.tenants
          ∧ s.domains.insert? (domainOf args domain) = some s'.domains)
      ∨ (¬ Insertable s args slug domain ∧ ∃ e, ¬ e.Refusal
          ∧ commit s args slug domain = (.error e, s)) := by
  unfold commit
  by_cases hwide : 255 < (strip args.name).length ∨ 100 < slug.length ∨ 253 < domain.length
  · rw [if_pos hwide]
    refine Or.inr ⟨fun h => ?_, .dataError, id, rfl⟩
    rcases hwide with hlong | hlong | hlong
    · exact Nat.not_le.mpr hlong h.name
    · exact Nat.not_le.mpr hlong h.slugWidth
    · exact Nat.not_le.mpr hlong h.domainWidth
  · rw [if_neg hwide]
    obtain ⟨hname, hslug, hdomain⟩ : (strip args.name).length ≤ 255 ∧ slug.length ≤ 100
        ∧ domain.length ≤ 253 := by omega
    cases hinsert : insertTenant s (tenantOf args slug) domain args.isPrimary with
    | none =>
        refine Or.inr ⟨fun h => ?_, .integrityError, id, rfl⟩
        rcases insertTenant_none hinsert with hnone | hnone
        · obtain ⟨tenants, hsome⟩ := Table.insert?_of_not_clash (r := tenantOf args slug)
            fun t ht => (clash_tenantOf t).mpr (h.tenant t ht)
          rw [hsome] at hnone
          cases hnone
        · obtain ⟨domains, hsome⟩ := Table.insert?_of_not_clash (r := domainOf args domain)
            fun d hd => decide_eq_false (h.domain d hd)
          have hdomain : s.domains.insert? (domainOf args domain) = none := hnone
          rw [hsome] at hdomain
          cases hdomain
    | some s' =>
        obtain ⟨htenant, hrow⟩ := insertTenant_some hinsert
        refine Or.inl ⟨⟨hname, hslug, hdomain, fun t ht => ?_, fun d hd => ?_⟩, s', rfl,
          htenant, hrow⟩
        · exact (clash_tenantOf t).mp (Table.not_clash_of_insert? htenant ht)
        · exact of_decide_eq_false (Table.not_clash_of_insert? hrow hd)

end

/-! ## Runs -/

/-- What a finished call has created. -/
def made : Position → Option (Tenant × Domain)
  | done (.ok rows) => some rows
  | _ => none

/-- The tables are those of `s₀` with the rows of the finished calls. -/
structure Made (s₀ : Site) (c : Conf ι) (order : List ι) : Prop where
  once : order.Nodup
  finished : ∀ i, i ∈ order ↔ (made (c.locals i)).isSome = true
  tenants : c.shared.tenants.rows
    = s₀.tenants.rows ++ order.filterMap fun i => (made (c.locals i)).map (·.1)
  domains : c.shared.domains.rows
    = s₀.domains.rows ++ order.filterMap fun i => (made (c.locals i)).map (·.2)

/-- What a call has found out is about its own arguments. -/
def Own (cfg : Settings) (args : Args) : Position → Prop
  | start args' => args' = args
  | schemaFree args' slug domain | domainFree args' slug domain =>
      args' = args ∧ validateSlug cfg args.schemaName = .ok slug
        ∧ domain = cfg.lower (strip args.domain)
  | done (.ok (tenant, domain)) =>
      ∃ slug, validateSlug cfg args.schemaName = .ok slug ∧ tenant = tenantOf args slug
        ∧ domain = domainOf args (cfg.lower (strip args.domain))
  | done (.error _) => True

/-- A call that has raised has refused. -/
def Clean : Position → Prop
  | done (.error e) => e.Refusal
  | _ => True

/-- The transaction is still to come. -/
def Looking : Position → Prop
  | start _ | schemaFree _ _ _ => True
  | _ => False

/-- The transaction comes when its rows are insertable. -/
def Fits (c : Conf ι) (l : ι × Unit) : Prop :=
  match c.locals l.1 with
  | domainFree args slug domain => Insertable c.shared args slug domain
  | _ => True

section

variable {cfg : Settings} {s s' : Site} {args : Args} {p p' : Position} {u : Unit}

theorem validateSlug_refusal {slug : String} {e : Exc} (h : validateSlug cfg slug = .error e) :
    e.Refusal := by
  unfold validateSlug normalizeSlug at h
  simp only at h
  split at h
  · obtain rfl := Except.error.inj h
    trivial
  · simp only [bind, Except.bind] at h
    split at h
    · cases h
    · obtain rfl := Except.error.inj h
      trivial

/-- What one statement of a call can do: look something up, or run the
transaction. -/
inductive Statement (cfg : Settings) (s : Site) : Position → Site → Position → Prop
  | lookup {p p' : Position} : Looking p → made p' = none → Clean p' →
      (∀ args, Own cfg args p → Own cfg args p') → Statement cfg s p s p'
  | insert {args : Args} {slug domain : String} {s' : Site} :
      Insertable s args slug domain →
      s.tenants.insert? (tenantOf args slug) = some s'.tenants →
      s.domains.insert? (domainOf args domain) = some s'.domains →
      Statement cfg s (domainFree args slug domain) s'
        (done (.ok (tenantOf args slug, domainOf args domain)))
  | rollback {args : Args} {slug domain : String} {e : Exc} :
      ¬ Insertable s args slug domain → ¬ e.Refusal →
      Statement cfg s (domainFree args slug domain) s (done (.error e))

theorem next_statement (h : next cfg u s p = some (s', p')) : Statement cfg s p s' p' := by
  cases p with
  | start args =>
      simp only [next] at h
      split at h
      · rename_i e hslug
        obtain ⟨rfl, rfl⟩ := Prod.mk.inj (Option.some.inj h)
        exact .lookup trivial rfl (validateSlug_refusal hslug) fun _ _ => trivial
      · rename_i slug hslug
        split at h
        · obtain ⟨rfl, rfl⟩ := Prod.mk.inj (Option.some.inj h)
          exact .lookup trivial rfl trivial fun _ _ => trivial
        · split at h
          · obtain ⟨rfl, rfl⟩ := Prod.mk.inj (Option.some.inj h)
            exact .lookup trivial rfl trivial fun _ _ => trivial
          · obtain ⟨rfl, rfl⟩ := Prod.mk.inj (Option.some.inj h)
            refine .lookup trivial rfl trivial fun args' hown => ?_
            obtain rfl : args = args' := hown
            exact ⟨rfl, hslug, rfl⟩
  | schemaFree args slug domain =>
      simp only [next] at h
      split at h
      · obtain ⟨rfl, rfl⟩ := Prod.mk.inj (Option.some.inj h)
        exact .lookup trivial rfl trivial fun _ _ => trivial
      · obtain ⟨rfl, rfl⟩ := Prod.mk.inj (Option.some.inj h)
        exact .lookup trivial rfl trivial fun _ hown => hown
  | domainFree args slug domain =>
      obtain ⟨rfl, rfl⟩ := Prod.mk.inj (Option.some.inj h)
      rcases commit_cases s args slug domain with
        ⟨hfits, s', hcommit, htenant, hdomain⟩ | ⟨hnot, e, hraw, hcommit⟩
      · rw [hcommit]
        exact .insert hfits htenant hdomain
      · rw [hcommit]
        exact .rollback hnot hraw
  | done result => cases h

theorem Statement.own (h : Statement cfg s p s' p') (hp : Own cfg args p) : Own cfg args p' := by
  cases h with
  | lookup _ _ _ hown => exact hown args hp
  | insert =>
      obtain ⟨rfl, hslug, rfl⟩ := hp
      exact ⟨_, hslug, rfl, rfl⟩
  | rollback => trivial

/-- A call that is done has no statement to come. -/
theorem Statement.not_done (h : Statement cfg s p s' p') (result : Except Exc (Tenant × Domain)) :
    p ≠ done result := by
  rintro rfl
  cases h with
  | lookup hlooking => cases hlooking

theorem Statement.made_none (h : Statement cfg s p s' p') : made p = none := by
  cases p with
  | done result => exact absurd rfl (h.not_done result)
  | _ => rfl

theorem Statement.clean (h : Statement cfg s p s' p') : Clean p := by
  cases p with
  | done result => exact absurd rfl (h.not_done result)
  | _ => trivial

end

section

variable {cfg : Settings} {s₀ : Site} {c c' : Conf ι} {i : ι} {l : ι × Unit}
  {order : List ι}

theorem Made.same (h : Made s₀ c order) (htenants : c'.shared.tenants = c.shared.tenants)
    (hdomains : c'.shared.domains = c.shared.domains)
    (hmade : ∀ j, made (c'.locals j) = made (c.locals j)) : Made s₀ c' order := by
  refine ⟨h.once, fun j => ?_, ?_, ?_⟩
  · rw [hmade j]
    exact h.finished j
  · simp only [htenants, h.tenants, hmade]
  · simp only [hdomains, h.domains, hmade]

/-- The rows of the call that has just finished come last. -/
theorem Made.snoc (h : Made s₀ c order) (hrest : ∀ j, j ≠ i → c'.locals j = c.locals j)
    (hopen : made (c.locals i) = none) {tenant : Tenant} {domain : Domain}
    (hdone : made (c'.locals i) = some (tenant, domain))
    (htenants : c'.shared.tenants.rows = c.shared.tenants.rows ++ [tenant])
    (hdomains : c'.shared.domains.rows = c.shared.domains.rows ++ [domain]) :
    Made s₀ c' (order ++ [i]) := by
  have hout : i ∉ order := fun hmem => by
    have hsome := (h.finished i).mp hmem
    rw [hopen] at hsome
    cases hsome
  have hkept : ∀ {α : Type} (f : Tenant × Domain → α),
      order.filterMap (fun j => (made (c'.locals j)).map f)
        = order.filterMap fun j => (made (c.locals j)).map f := by
    intro α f
    refine List.filterMap_congr fun j hj => ?_
    rw [hrest j fun heq => hout (heq ▸ hj)]
  refine ⟨?_, fun j => ?_, ?_, ?_⟩
  · rw [List.nodup_append]
    refine ⟨h.once, List.pairwise_singleton .., fun j hj k hk => ?_⟩
    obtain rfl := List.mem_singleton.mp hk
    exact fun heq => hout (heq ▸ hj)
  · by_cases hj : j = i
    · subst hj
      simp [hdone]
    · rw [hrest j hj, ← h.finished j, List.mem_append, List.mem_singleton]
      exact or_iff_left hj
  · rw [htenants, h.tenants, List.filterMap_append, hkept, List.append_assoc]
    simp [hdone]
  · rw [hdomains, h.domains, List.filterMap_append, hkept, List.append_assoc]
    simp [hdone]

theorem Made.step (h : Made s₀ c order) (hrest : ∀ j, j ≠ i → c'.locals j = c.locals j)
    (hs : Statement cfg c.shared (c.locals i) c'.shared (c'.locals i)) :
    ∃ order', Made s₀ c' order' := by
  generalize hp : c.locals i = p at hs
  generalize hp' : c'.locals i = p' at hs
  generalize hshared : c'.shared = s' at hs
  have hopen := hs.made_none
  have hsame : made p' = none → ∀ j, made (c'.locals j) = made (c.locals j) := by
    intro hopen' j
    by_cases hj : j = i
    · rw [hj, hp, hp', hopen, hopen']
    · rw [hrest j hj]
  cases hs with
  | lookup _ hopen' _ _ =>
      exact ⟨order, h.same (by rw [hshared]) (by rw [hshared]) (hsame hopen')⟩
  | insert _ htenant hdomain =>
      refine ⟨order ++ [i], h.snoc hrest (by rw [hp]; rfl) (by rw [hp']; rfl) ?_ ?_⟩
      · rw [hshared, Table.insert?_rows htenant]
      · rw [hshared, Table.insert?_rows hdomain]
  | rollback _ _ =>
      exact ⟨order, h.same (by rw [hshared]) (by rw [hshared]) (hsame rfl)⟩

/-- A statement leaves no call with a raw exception exactly if it is not a
transaction that cannot go through. -/
theorem clean_step (h : Step cfg c l c') (hclean : ∀ j, Clean (c.locals j)) :
    (∀ j, Clean (c'.locals j)) ↔ Fits c l := by
  obtain ⟨hact, hrest⟩ := h
  have hs := next_statement hact
  have hothers : (∀ j, Clean (c'.locals j)) ↔ Clean (c'.locals l.1) := by
    refine ⟨fun h => h l.1, fun hi => Threads.forall_locals (P := fun _ => Clean) hrest hi
      fun j _ => hclean j⟩
  rw [hothers]
  unfold Fits
  generalize c.locals l.1 = p at hs
  generalize c'.locals l.1 = p' at hs
  generalize c'.shared = s' at hs
  cases hs with
  | @lookup p p' hlooking _ hclean' _ =>
      cases p with
      | start args => exact iff_of_true hclean' trivial
      | schemaFree args slug domain => exact iff_of_true hclean' trivial
      | domainFree args slug domain => cases hlooking
      | done result => cases hlooking
  | insert hfits => exact iff_of_true trivial hfits
  | rollback hnot hraw => exact iff_of_false hraw hnot

theorem clean_back (h : Step cfg c l c') (hclean : ∀ j, Clean (c'.locals j)) :
    ∀ j, Clean (c.locals j) := by
  obtain ⟨hact, hrest⟩ := h
  intro j
  by_cases hj : j = l.1
  · rw [hj]
    exact (next_statement hact).clean
  · rw [← hrest j hj]
    exact hclean j

/-- What has come of the calls: each that returned has added its tenant, under
the slug it validated, and a domain of it, and each that raised has refused
and added nothing. -/
structure Settled (cfg : Settings) (s₀ : Site) (args : ι → Args) (c : Conf ι) : Prop where
  added : ∃ order, Made s₀ c order
  returned : ∀ i tenant domain, c.locals i = done (.ok (tenant, domain)) →
    ∃ slug, validateSlug cfg (args i).schemaName = .ok slug ∧ tenant = tenantOf (args i) slug
      ∧ domain = domainOf (args i) (cfg.lower (strip (args i).domain))
  raised : ∀ i e, c.locals i = done (.error e) → e.Refusal

/-- Calls on a site, none of them begun. -/
def begin (s₀ : Site) (args : ι → Args) : Conf ι := ⟨s₀, fun i => start (args i)⟩

theorem own_run {args : ι → Args} {ls : List (ι × Unit)}
    (hrun : Lts.Run (Step cfg) (begin s₀ args) ls c) :
    (∃ order, Made s₀ c order) ∧ ∀ i, Own cfg (args i) (c.locals i) := by
  refine hrun.invariant (I := fun c => (∃ order, Made s₀ c order)
    ∧ ∀ i, Own cfg (args i) (c.locals i)) ?_ ?_
  · rintro c l c' ⟨⟨order, hmade⟩, hown⟩ ⟨hact, hrest⟩
    have hs := next_statement hact
    exact ⟨hmade.step hrest hs, Threads.forall_locals (P := fun i => Own cfg (args i)) hrest
      (hs.own (hown l.1)) fun j _ => hown j⟩
  · refine ⟨⟨[], List.nodup_nil, fun i => ?_, ?_, ?_⟩, fun i => rfl⟩
    · simp [begin, made]
    · simp [begin]
    · simp [begin]

/-- Of any number of calls run in any order, everything is settled as
announced exactly if every transaction comes when its rows are insertable. -/
theorem settled_iff {args : ι → Args} {ls : List (ι × Unit)}
    (hrun : Lts.Run (Step cfg) (begin s₀ args) ls c) :
    Settled cfg s₀ args c ↔ Lts.Run (Lts.Guarded (Step cfg) Fits) (begin s₀ args) ls c := by
  have hstart : ∀ j, Clean ((begin s₀ args).locals j) := fun _ => trivial
  have hclean : (∀ j, Clean (c.locals j)) ↔
      Lts.Run (Lts.Guarded (Step cfg) Fits) (begin s₀ args) ls c :=
    hrun.holds_iff_guarded (I := fun c => ∀ j, Clean (c.locals j))
      (fun _ _ _ hI hstep => clean_step hstep hI) (fun _ _ _ => clean_back) hstart
  obtain ⟨hmade, hown⟩ := own_run hrun
  rw [← hclean]
  constructor
  · intro hsettled j
    cases hj : c.locals j with
    | done result =>
        cases result with
        | error e => exact hsettled.raised j e hj
        | ok rows => trivial
    | _ => trivial
  · intro hall
    refine ⟨hmade, fun i tenant domain hi => ?_, fun i e hi => ?_⟩
    · have howni := hown i
      rw [hi] at howni
      exact howni
    · have hcleani := hall i
      rw [hi] at hcleani
      exact hcleani

end

/-! ## Two calls for one slug -/

def acme : Args := ⟨10, "Acme", "acme", "acme.localhost", true⟩

/-- The same slug under another host. -/
def acmeAgain : Args := ⟨11, "Acme Corp", "acme", "acme.example.com", true⟩

def twice (i : Bool) : Args := if i then acme else acmeAgain

def inTurn : List (Bool × Unit) := [(true, ()), (true, ()), (true, ()), (false, ())]

theorem settled_in_turn :
    ∃ c, Lts.Run (Step DemoSeed.settings) (begin DemoSeed.site twice) inTurn c
      ∧ (Settled DemoSeed.settings DemoSeed.site twice c
        ↔ Lts.Run (Lts.Guarded (Step DemoSeed.settings) Fits) (begin DemoSeed.site twice) inTurn
          c) := by
  have hexec : Threads.exec (next DemoSeed.settings) (fun _ _ => True)
      (begin DemoSeed.site twice) inTurn ≠ none := by decide +kernel
  obtain ⟨c, hc⟩ := Option.ne_none_iff_exists'.mp hexec
  have hrun := (Threads.run_of_exec hc).mono fun _ _ _ hstep => hstep.1
  exact ⟨c, hrun, settled_iff hrun⟩

/-- Both calls look before either commits. -/
def overlapping : List (Bool × Unit) :=
  [(true, ()), (true, ()), (false, ()), (false, ()), (true, ()), (false, ())]

/-- The second transaction raises the database's own exception. -/
theorem slug_created_twice :
    ¬ ∀ (cfg : Settings) (s₀ : Site) (args : Bool → Args) (c : Conf Bool)
      (ls : List (Bool × Unit)),
      Lts.Run (Step cfg) (begin s₀ args) ls c → Settled cfg s₀ args c := by
  intro hall
  have hexec : (Threads.exec (next DemoSeed.settings) (fun _ _ => True)
      (begin DemoSeed.site twice) overlapping).map (fun c => match c.locals false with
        | done result => some result
        | _ => none) = some (some (.error .integrityError)) := by decide +kernel
  obtain ⟨c, hc, hresult⟩ := Option.map_eq_some_iff.mp hexec
  have hrun := (Threads.run_of_exec hc).mono fun _ _ _ hstep => hstep.1
  have hraised : c.locals false = done (.error .integrityError) := by
    generalize c.locals false = p at hresult
    cases p with
    | done result => exact congrArg done (Option.some.inj hresult)
    | _ => cases hresult
  exact (hall DemoSeed.settings DemoSeed.site twice c overlapping hrun).raised false _ hraised

end TenantCreation

end SaasKit
