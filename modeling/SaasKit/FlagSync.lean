import SaasKit.FlagResolution

/-!
# Flags while others write them

`sync_plan_flags` looks up the tenant's plan once and then stores one flag at
a time, each in a transaction of its own, so other calls come in between:
manual overrides, the admin's forms, a change of plan, a second sync. Whatever
the order, an override is the last one stored under its tenant and name, and
both views of the API answer from it (`flags_shown`). If a sync stored it
last, the settings call for it under the plan the tenant was on when that
sync began (`overrides_explained`).
-/

namespace SaasKit

namespace FlagSync

open FeatureService
open FeatureFlags (flagsOf overrideOf isEnabled_eq)
open FlagResolution (forTenant_get?)

/-! ## The views -/

section

variable {R : Type}

/-- `FeatureFlagsView.get`. -/
def flagsView (cfg : FeatureSettings) (waffle : Waffle R) (s : FeatureSite)
    (request : FlagRequest R) : Dict String Bool :=
  match request.tenant with
  | none => ∅
  | some tenant => forTenant cfg waffle s tenant (some request)

/-- `FeatureFlagDetailView.get`. -/
def flagDetailView (cfg : FeatureSettings) (waffle : Waffle R) (s : FeatureSite)
    (request : FlagRequest R) (flagName : String) : String × Bool :=
  (flagName, isEnabled cfg waffle s true flagName (some request) none)

end

/-! ## Calls that take turns -/

/-- A call of `sync_plan_flags` in its loop, with what it has left to store. -/
structure Sync where
  tenant : Tenant
  note : String
  left : List (String × Bool)

/-- `sync_plan_flags` up to its loop; `none` where it returns before. -/
def planned (cfg : FeatureSettings) (s : FeatureSite) (tenant : Tenant) : Option Sync :=
  if cfg.planFeatureFlags.rows = [] then none
  else match s.subscriptions.find? (·.tenant == tenant.id) with
    | none => none
    | some sub =>
        let slug := planSlug s.toSite sub
        some ⟨tenant, "Auto-set by plan: " ++ slug, flagsOf cfg slug⟩

/-- The deployment and the syncs that are under way. -/
structure World (ι : Type) where
  site : FeatureSite
  syncs : ι → Option Sync

/-- `add`, `change` and `remove` are the admin's forms, `elsewhere` is what
the rest of the program does to its own tables. A sync that begins where one is
under way takes its place: the old one has been killed. -/
inductive Event (ι : Type) where
  | set (tenant : Tenant) (flagName : String) (isEnabled : Bool) (source note : String)
  | add (row : TenantFeatureFlag)
  | change (key : UUID × String) (row : TenantFeatureFlag)
  | remove (key : UUID × String)
  | removeTenant (id : UUID) (site : Site)
  | elsewhere (site : Site)
  | begin (i : ι) (tenant : Tenant)
  | next (i : ι)

/-- What an event does to the overrides. -/
inductive Write where
  | put (row : TenantFeatureFlag)
  | move (key : UUID × String) (row : TenantFeatureFlag)
  | remove (key : UUID × String)
  | removeTenant (id : UUID)

def Write.row? : Write → Option TenantFeatureFlag
  | .put row | .move _ row => some row
  | .remove _ | .removeTenant _ => none

/-- The checks of `TenantFeatureFlagAdmin`'s form, but for the key's being
taken. -/
def formValid (s : FeatureSite) (row : TenantFeatureFlag) : Bool :=
  row.flagName != "" && decide (row.flagName.length ≤ 100)
    && (row.source == "manual" || row.source == "plan") && s.tenants.any (·.id == row.tenant)

variable {ι : Type} [DecidableEq ι]

def step (cfg : FeatureSettings) (w : World ι) : Event ι → World ι × Option Write
  | .set tenant flagName isEnabled source note =>
      match setForTenant w.site tenant flagName isEnabled source note with
      | (.ok (), site) =>
          ({ w with site }, some (.put ⟨tenant.id, flagName, isEnabled, source, note⟩))
      | (.error _, site) => ({ w with site }, none)
  | .add row =>
      match w.site.tenantFeatureFlags.insert? row with
      | some tenantFeatureFlags =>
          if formValid w.site row then
            ({ w with site := { w.site with tenantFeatureFlags } }, some (.put row))
          else (w, none)
      | none => (w, none)
  | .change key row =>
      match w.site.tenantFeatureFlags.update? (fun x => decide (x.key = key)) fun _ => row with
      | some tenantFeatureFlags =>
          if formValid w.site row
              && w.site.tenantFeatureFlags.any fun x => decide (x.key = key) then
            ({ w with site := { w.site with tenantFeatureFlags } }, some (.move key row))
          else (w, none)
      | none => (w, none)
  | .remove key =>
      ({ w with site := { w.site with
          tenantFeatureFlags := w.site.tenantFeatureFlags.delete fun x => decide (x.key = key) } },
        some (.remove key))
  | .removeTenant id site =>
      ({ w with site := { w.site with
          toSite := site
          tenantFeatureFlags := w.site.tenantFeatureFlags.delete fun x => decide (x.key.1 = id) } },
        some (.removeTenant id))
  | .elsewhere site => ({ w with site := { w.site with toSite := site } }, none)
  | .begin i tenant =>
      ({ w with syncs := Function.update w.syncs i (planned cfg w.site tenant) }, none)
  | .next i =>
      match w.syncs i with
      | some ⟨tenant, note, (flagName, isEnabled) :: left⟩ =>
          match setForTenant w.site tenant flagName isEnabled "plan" note with
          | (.ok (), site) =>
              (⟨site, Function.update w.syncs i (some ⟨tenant, note, left⟩)⟩,
                some (.put ⟨tenant.id, flagName, isEnabled, "plan", note⟩))
          -- the exception ends the call
          | (.error _, site) => (⟨site, Function.update w.syncs i none⟩, none)
      | some ⟨_, _, []⟩ | none => ({ w with syncs := Function.update w.syncs i none }, none)

/-! ## A sync by itself -/

theorem syncPlanFlags_planned (cfg : FeatureSettings) (s : FeatureSite) (tenant : Tenant) :
    syncPlanFlags cfg s tenant =
      match planned cfg s tenant with
      | none => (.ok (), s)
      | some sync => setAll s sync.tenant sync.note sync.left := by
  unfold syncPlanFlags planned flagsOf
  split
  · rfl
  · cases s.subscriptions.find? (·.tenant == tenant.id) with
    | none => rfl
    | some sub =>
        cases hflags : cfg.planFeatureFlags.get? (planSlug s.toSite sub) with
        | none => simp only [hflags, setAll]
        | some flags => simp only [hflags]

section

variable {cfg : FeatureSettings} {w w' : World ι} {i : ι} {tenant : Tenant}

theorem after_idle (hi : w.syncs i = none) (n : Nat) :
    (Lts.after (step cfg) w (List.replicate n (.next i))).site = w.site := by
  induction n generalizing w with
  | zero => rfl
  | succ n ih =>
      have hstep : step cfg w (.next i)
          = ({ w with syncs := Function.update w.syncs i none }, none) := by
        simp only [step, hi]
      rw [List.replicate_succ, Lts.after, hstep]
      exact ih (Function.update_self i none w.syncs)

/-- The loop, one store after the other. -/
theorem after_setAll {note : String} {left : List (String × Bool)} {n : Nat}
    (hi : w.syncs i = some ⟨tenant, note, left⟩) (hn : left.length ≤ n) :
    (Lts.after (step cfg) w (List.replicate n (.next i))).site
      = (setAll w.site tenant note left).2 := by
  induction left generalizing w n with
  | nil =>
      cases n with
      | zero => rfl
      | succ n =>
          have hstep : step cfg w (.next i)
              = ({ w with syncs := Function.update w.syncs i none }, none) := by
            simp only [step, hi]
          rw [List.replicate_succ, Lts.after, hstep]
          exact after_idle (Function.update_self i none w.syncs) n
  | cons e left ih =>
      cases n with
      | zero => exact absurd hn (Nat.not_succ_le_zero _)
      | succ n =>
          rw [List.replicate_succ, Lts.after]
          rcases setForTenant_cases w.site tenant e.1 e.2 "plan" note with ⟨err, hset⟩ | ⟨-, hset⟩
          · have hstep : step cfg w (.next i)
                = (⟨w.site, Function.update w.syncs i none⟩, none) := by
              simp only [step, hi, hset]
            rw [hstep, setAll, hset]
            exact after_idle (Function.update_self i none w.syncs) n
          · rw [setAll, hset]
            simp only [step, hi, hset]
            exact ih (Function.update_self ..) (Nat.le_of_succ_le_succ hn)

/-- A sync that nobody interrupts is a call of `sync_plan_flags`. -/
theorem after_sync {n : Nat} (hn : ∀ sync, planned cfg w.site tenant = some sync →
    sync.left.length ≤ n) :
    (Lts.after (step cfg) w (.begin i tenant :: List.replicate n (.next i))).site
      = (syncPlanFlags cfg w.site tenant).2 := by
  rw [Lts.after, syncPlanFlags_planned]
  cases hplanned : planned cfg w.site tenant with
  | none =>
      simp only [step, hplanned]
      exact after_idle (Function.update_self ..) n
  | some sync =>
      simp only [step, hplanned]
      exact after_setAll (Function.update_self ..) (hn sync hplanned)

end

/-! ## The overrides as a map -/

/-- The override under a tenant and a name. -/
def rowOf (s : FeatureSite) (key : UUID × String) : Option TenantFeatureFlag :=
  s.tenantFeatureFlags.find? fun row => decide (row.key = key)

/-- What a write does under a key: store a row there, or take it away. -/
def Write.under (key : UUID × String) : Write → Option (Option TenantFeatureFlag)
  | .put row => if row.key = key then some (some row) else none
  | .move old row =>
      if row.key = key then some (some row) else if old = key then some none else none
  | .remove old => if old = key then some none else none
  | .removeTenant id => if key.1 = id then some none else none

omit [DecidableEq ι] in
def writes (l : Event ι × Option Write) (key : UUID × String) : Option (Option TenantFeatureFlag) :=
  l.2.bind (Write.under key)

section

variable {cfg : FeatureSettings} {w w' w₁ : World ι} {i : ι} {tenant : Tenant} {e : Event ι}
  {key : UUID × String} {row : TenantFeatureFlag} {ls pre : List (Event ι × Option Write)}

theorem rowOf_put {t : Table TenantFeatureFlag (sameKey TenantFeatureFlag.key)} :
    (t.put row).find? (fun x => decide (x.key = key))
      = (Write.under key (.put row)).getD (t.find? fun x => decide (x.key = key)) := by
  rw [Table.find?_key_put, Write.under]
  split <;> rfl

theorem set_writes (s : FeatureSite) (tenant : Tenant) (flagName : String) (isEnabled : Bool)
    (source note : String) :
    (∃ err, setForTenant s tenant flagName isEnabled source note = (.error err, s))
      ∨ ∃ s', setForTenant s tenant flagName isEnabled source note = (.ok (), s')
          ∧ ∀ key, rowOf s' key
            = (Write.under key (.put ⟨tenant.id, flagName, isEnabled, source, note⟩)).getD
                (rowOf s key) := by
  rcases setForTenant_cases s tenant flagName isEnabled source note with hraised | ⟨-, hset⟩
  · exact Or.inl hraised
  · exact Or.inr ⟨_, hset, fun _ => rowOf_put⟩

/-- An event does to the overrides what it says. -/
theorem step_writes (cfg : FeatureSettings) (w : World ι) (e : Event ι) (key : UUID × String) :
    rowOf (step cfg w e).1.site key
      = (writes (e, (step cfg w e).2) key).getD (rowOf w.site key) := by
  cases e with
  | set tenant flagName isEnabled source note =>
      rcases set_writes w.site tenant flagName isEnabled source note with
        ⟨err, hset⟩ | ⟨s', hset, hrow⟩
      · simp only [step, hset]
        rfl
      · simp only [step, hset]
        exact hrow key
  | add row =>
      simp only [step]
      split
      · rename_i flags hinsert
        split
        · simp only [writes, Option.bind_some, Write.under, rowOf]
          rw [Table.find?_key_insert? hinsert]
          split <;> rfl
        · rfl
      · rfl
  | change old row =>
      simp only [step]
      split
      · rename_i flags hupdate
        split
        · rename_i hfound
          have hold := (Bool.and_eq_true_iff.mp hfound).2
          simp only [writes, Option.bind_some, Write.under, rowOf]
          rw [Table.find?_key_update? hupdate hold]
          split
          · rfl
          · split <;> rfl
        · rfl
      · rfl
  | remove old =>
      have hdelete := Table.find?_key_delete (t := w.site.tenantFeatureFlags) (k := key)
        (q := fun key => decide (key = old))
      simp only [step, writes, Option.bind_some, Write.under, rowOf, hdelete, decide_eq_true_eq,
        eq_comm (a := old)]
      split <;> rfl
  | removeTenant id site =>
      have hdelete := Table.find?_key_delete (t := w.site.tenantFeatureFlags) (k := key)
        (q := fun key => decide (key.1 = id))
      simp only [step, writes, Option.bind_some, Write.under, rowOf, hdelete, decide_eq_true_eq]
      split <;> rfl
  | elsewhere site => rfl
  | begin i tenant => rfl
  | next i =>
      cases hsync : w.syncs i with
      | none => simp only [step, hsync]; rfl
      | some sync =>
          obtain ⟨tenant, note, left⟩ := sync
          cases left with
          | nil => simp only [step, hsync]; rfl
          | cons flag left =>
              rcases set_writes w.site tenant flag.1 flag.2 "plan" note with
                ⟨err, hset⟩ | ⟨s', hset, hrow⟩
              · simp only [step, hsync, hset]
                rfl
              · simp only [step, hsync, hset]
                exact hrow key

theorem run_writes (h : Lts.Run (Lts.ofFn (step cfg)) w ls w') :
    rowOf w'.site = LastWrite.replay writes (rowOf w.site) ls := by
  have hstep : ∀ (w : World ι) l w', Lts.ofFn (step cfg) w l w' →
      ∀ key, rowOf w'.site key = (writes l key).getD (rowOf w.site key) := by
    rintro w ⟨e, out⟩ w' hnext key
    have hwrites := step_writes cfg w e key
    rw [show step cfg w e = (w', out) from hnext] at hwrites
    exact hwrites
  exact h.replays hstep

/-! ## Where an override comes from -/

/-- What the settings call for, for the plan the tenant is on. -/
def CalledFor (cfg : FeatureSettings) (s : FeatureSite) (tenant : Tenant)
    (row : TenantFeatureFlag) : Prop :=
  ∃ sub ∈ s.subscriptions, sub.tenant = tenant.id ∧ row.tenant = tenant.id ∧ row.source = "plan"
    ∧ row.note = "Auto-set by plan: " ++ planSlug s.toSite sub
    ∧ (row.flagName, row.isEnabled) ∈ flagsOf cfg (planSlug s.toSite sub)

/-- What a sync is going to store is called for. -/
def Sync.CalledFor (cfg : FeatureSettings) (s : FeatureSite) (sync : Sync) (tenant : Tenant) :
    Prop :=
  ∀ e ∈ sync.left, FlagSync.CalledFor cfg s tenant ⟨sync.tenant.id, e.1, e.2, "plan", sync.note⟩

theorem calledFor_planned {s : FeatureSite} {sync : Sync} (h : planned cfg s tenant = some sync) :
    sync.CalledFor cfg s tenant := by
  unfold planned at h
  split at h
  · cases h
  · split at h
    · cases h
    · rename_i sub hsub
      obtain ⟨hmem, htenant⟩ := Table.find?_some hsub
      obtain rfl := Option.some.inj h
      exact fun e he => ⟨sub, hmem, beq_iff_eq.mp htenant, rfl, rfl, rfl, he⟩

/-- The sync began on the way here, and what it has left was called for. -/
def Began (cfg : FeatureSettings) (w : World ι) (i : ι) (ls : List (Event ι × Option Write))
    (sync : Sync) : Prop :=
  ∃ before tenant between w₁, ls = before ++ (.begin i tenant, none) :: between
    ∧ Lts.Run (Lts.ofFn (step cfg)) w before w₁ ∧ sync.CalledFor cfg w₁.site tenant

theorem Began.snoc {sync : Sync} (h : Began cfg w i ls sync) (l : Event ι × Option Write) :
    Began cfg w i (ls ++ [l]) sync := by
  obtain ⟨before, tenant, between, w₁, rfl, hrun, hcalled⟩ := h
  exact ⟨before, tenant, between ++ [l], w₁, by simp, hrun, hcalled⟩

theorem Began.rest {note : String} {flag : String × Bool} {left : List (String × Bool)}
    (h : Began cfg w i ls ⟨tenant, note, flag :: left⟩) :
    Began cfg w i ls ⟨tenant, note, left⟩ := by
  obtain ⟨before, tenant, between, w₁, hls, hrun, hcalled⟩ := h
  exact ⟨before, tenant, between, w₁, hls, hrun, fun e he => hcalled e (List.mem_cons_of_mem _ he)⟩

/-- The syncs after a step: one has begun, one has stored a flag or ended, the
others are where they were. -/
theorem syncs_step (w : World ι) (e : Event ι) (j : ι) {sync : Sync}
    (h : (step cfg w e).1.syncs j = some sync) :
    w.syncs j = some sync
      ∨ (∃ tenant, e = .begin j tenant ∧ (step cfg w e).2 = none
          ∧ planned cfg w.site tenant = some sync)
      ∨ ∃ flag, w.syncs j = some ⟨sync.tenant, sync.note, flag :: sync.left⟩ := by
  have hothers : ∀ (i : ι) (o : Option Sync), Function.update w.syncs i o j = some sync →
      w.syncs j = some sync ∨ i = j ∧ o = some sync := by
    intro i o hupdate
    by_cases hij : j = i
    · subst hij
      rw [Function.update_self] at hupdate
      exact Or.inr ⟨rfl, hupdate⟩
    · rw [Function.update_of_ne hij] at hupdate
      exact Or.inl hupdate
  have hquiet : (step cfg w e).1.syncs = w.syncs → w.syncs j = some sync := fun hsame =>
    hsame ▸ h
  cases e with
  | set tenant flagName isEnabled source note =>
      refine Or.inl (hquiet ?_)
      simp only [step]
      split <;> rfl
  | add row =>
      refine Or.inl (hquiet ?_)
      simp only [step]
      split
      · split <;> rfl
      · rfl
  | change old row =>
      refine Or.inl (hquiet ?_)
      simp only [step]
      split
      · split <;> rfl
      · rfl
  | remove | removeTenant | elsewhere => exact Or.inl h
  | begin i tenant =>
      rcases hothers i _ h with hkept | ⟨rfl, hplanned⟩
      · exact Or.inl hkept
      · exact Or.inr (Or.inl ⟨tenant, rfl, rfl, hplanned⟩)
  | next i =>
      have hended : ∀ o, o = none → Function.update w.syncs i o j = some sync →
          w.syncs j = some sync := by
        rintro o rfl hupdate
        exact (hothers i none hupdate).resolve_right nofun
      cases hsync : w.syncs i with
      | none =>
          simp only [step, hsync] at h
          exact Or.inl (hended none rfl h)
      | some running =>
          obtain ⟨tenant, note, left⟩ := running
          cases left with
          | nil =>
              simp only [step, hsync] at h
              exact Or.inl (hended none rfl h)
          | cons flag left =>
              rcases set_writes w.site tenant flag.1 flag.2 "plan" note with
                ⟨err, hset⟩ | ⟨s', hset, -⟩
              · simp only [step, hsync, hset] at h
                exact Or.inl (hended none rfl h)
              · simp only [step, hsync, hset] at h
                rcases hothers i _ h with hkept | ⟨rfl, hleft⟩
                · exact Or.inl hkept
                · obtain rfl := Option.some.inj hleft
                  exact Or.inr (Or.inr ⟨flag, hsync⟩)

/-- A sync that is under way has begun, if none was at the start. -/
theorem began (hfree : ∀ i, w.syncs i = none) (h : Lts.Run (Lts.ofFn (step cfg)) w ls w') :
    ∀ i sync, w'.syncs i = some sync → Began cfg w i ls sync := by
  refine h.history (I := fun ls w' => ∀ i sync, w'.syncs i = some sync → Began cfg w i ls sync)
    (fun i sync hsync => ?_) fun ls w₁ l w₂ hrun hstep ih j sync hsync => ?_
  · rw [hfree i] at hsync
    cases hsync
  · obtain ⟨e, out⟩ := l
    have hnext : step cfg w₁ e = (w₂, out) := hstep
    have hafter : (step cfg w₁ e).1.syncs j = some sync := by
      rw [hnext]
      exact hsync
    rcases syncs_step w₁ e j hafter with hkept | ⟨tenant, rfl, hout, hplanned⟩ | ⟨flag, hbefore⟩
    · exact (ih j sync hkept).snoc _
    · obtain rfl : out = none := by rw [← hout, hnext]
      exact ⟨ls, tenant, [], w₁, rfl, hrun, calledFor_planned hplanned⟩
    · exact (ih j _ hbefore).rest.snoc _

omit [DecidableEq ι] in
/-- The event of a call or of a form that stores the override. -/
def Asks (row : TenantFeatureFlag) : Event ι → Prop
  | .set tenant flagName isEnabled source note =>
      row = ⟨tenant.id, flagName, isEnabled, source, note⟩
  | .add row' | .change _ row' => row = row'
  | _ => False

/-- An override is stored because it was asked for, or by a sync. -/
theorem stored_by {wr : Write} (hout : (step cfg w e).2 = some wr) (hrow : wr.row? = some row) :
    Asks row e ∨ ∃ i tenant note flag left, e = .next i
      ∧ w.syncs i = some ⟨tenant, note, flag :: left⟩
      ∧ row = ⟨tenant.id, flag.1, flag.2, "plan", note⟩ := by
  cases e with
  | set tenant flagName isEnabled source note =>
      simp only [step] at hout
      split at hout
      · obtain rfl := Option.some.inj hout
        exact Or.inl (Option.some.inj hrow).symm
      · cases hout
  | add row' =>
      simp only [step] at hout
      split at hout
      · split at hout
        · obtain rfl := Option.some.inj hout
          exact Or.inl (Option.some.inj hrow).symm
        · cases hout
      · cases hout
  | change old row' =>
      simp only [step] at hout
      split at hout
      · split at hout
        · obtain rfl := Option.some.inj hout
          exact Or.inl (Option.some.inj hrow).symm
        · cases hout
      · cases hout
  | remove old =>
      obtain rfl := Option.some.inj hout
      cases hrow
  | removeTenant id site =>
      obtain rfl := Option.some.inj hout
      cases hrow
  | elsewhere site => cases hout
  | begin i tenant => cases hout
  | next i =>
      cases hsync : w.syncs i with
      | none => simp only [step, hsync] at hout; cases hout
      | some sync =>
          obtain ⟨tenant, note, left⟩ := sync
          cases left with
          | nil => simp only [step, hsync] at hout; cases hout
          | cons flag left =>
              simp only [step, hsync] at hout
              split at hout
              · obtain rfl := Option.some.inj hout
                exact Or.inr ⟨i, tenant, note, flag, left, rfl, hsync, (Option.some.inj hrow).symm⟩
              · cases hout

theorem row_of_under {wr : Write} (h : wr.under key = some (some row)) : wr.row? = some row := by
  cases wr with
  | put row' =>
      simp only [Write.under] at h
      split at h
      · exact Option.some.inj h
      · cases h
  | move old row' =>
      simp only [Write.under] at h
      split at h
      · exact Option.some.inj h
      · split at h
        · cases h
        · cases h
  | remove old =>
      simp only [Write.under] at h
      split at h
      · cases h
      · cases h
  | removeTenant id =>
      simp only [Write.under] at h
      split at h
      · cases h
      · cases h

end

/-- Whatever comes in between, an override was there at the start and has not
been written since, or the last that wrote it is a call or a form that asks
for it, or a sync whose tenant was on a plan that calls for it when the sync
began. -/
theorem overrides_explained {cfg : FeatureSettings} {w w' : World ι}
    {ls : List (Event ι × Option Write)} (hfree : ∀ i, w.syncs i = none)
    (h : Lts.Run (Lts.ofFn (step cfg)) w ls w') {row : TenantFeatureFlag}
    (hrow : row ∈ w'.site.tenantFeatureFlags) :
    (row ∈ w.site.tenantFeatureFlags ∧ ∀ l ∈ ls, writes l row.key = none)
      ∨ ∃ pre l post, ls = pre ++ l :: post ∧ (∀ later ∈ post, writes later row.key = none)
        ∧ (Asks row l.1 ∨ ∃ i before tenant between w₁, l.1 = .next i
          ∧ pre = before ++ (.begin i tenant, none) :: between
          ∧ Lts.Run (Lts.ofFn (step cfg)) w before w₁ ∧ CalledFor cfg w₁.site tenant row) := by
  have hshown : rowOf w'.site row.key = some row := Table.find?_key.mpr ⟨hrow, rfl⟩
  rw [run_writes h] at hshown
  rcases LastWrite.replay_eq_some.mp hshown with ⟨pre, l, post, hls, hwrites, hquiet⟩ | hstart
  · refine Or.inr ⟨pre, l, post, hls, hquiet, ?_⟩
    obtain ⟨wr, hout, hunder⟩ := Option.bind_eq_some_iff.mp hwrites
    subst hls
    obtain ⟨w₀, w₁, hpre, hstep, -⟩ := h.split
    have hnext : (step cfg w₀ l.1).2 = some wr := by
      rw [← hout]
      exact congrArg Prod.snd hstep
    rcases stored_by hnext (row_of_under hunder) with hasked | hsynced
    · exact Or.inl hasked
    · obtain ⟨i, tenant, note, flag, left, he, hsync, rfl⟩ := hsynced
      obtain ⟨before, tenant', between, w₂, rfl, hrun, hcalled⟩ := began hfree hpre i _ hsync
      exact Or.inr ⟨i, before, tenant', between, w₂, he, rfl, hrun,
        hcalled flag List.mem_cons_self⟩
  · exact Or.inl ⟨(Table.find?_key.mp hstart.1).1, hstart.2⟩

/-! ## What the API shows -/

/-- The override a request meets after the events, by what they wrote. -/
def overrideShown {R : Type} (w : World ι) (ls : List (Event ι × Option Write))
    (request : FlagRequest R) (flagName : String) : Option TenantFeatureFlag :=
  request.tenant.bind fun tenant => LastWrite.replay writes (rowOf w.site) ls (tenant.id, flagName)

/-- Both views answer from the last override that was stored for the tenant,
and without one from waffle and the defaults. -/
theorem flags_shown {R : Type} {cfg : FeatureSettings} {w w' : World ι}
    {ls : List (Event ι × Option Write)} (h : Lts.Run (Lts.ofFn (step cfg)) w ls w')
    (waffle : Waffle R) (request : FlagRequest R) (flagName : String) :
    flagDetailView cfg waffle w'.site request flagName
        = (flagName, match overrideShown w ls request flagName with
            | some row => row.isEnabled
            | none => (getWaffleFlag waffle flagName (some request)).getD (getDefault cfg flagName))
      ∧ (flagsView cfg waffle w'.site request).get? flagName
        = request.tenant.bind fun _ => match overrideShown w ls request flagName with
            | some row => some row.isEnabled
            | none => (cfg.featureFlagsDefaults.get? flagName).map
                (getWaffleFlag waffle flagName (some request)).getD := by
  have hrows := run_writes h
  have hshown : overrideShown w ls request flagName
      = request.tenant.bind fun tenant => rowOf w'.site (tenant.id, flagName) := by
    rw [overrideShown, hrows]
  refine ⟨Prod.ext rfl ?_, ?_⟩
  · rw [hshown]
    exact isEnabled_eq
  · rw [hshown, flagsView]
    cases request.tenant with
    | none => rfl
    | some tenant => exact forTenant_get?

/-! ## A downgrade while a sync is under way -/

/-- Tenant One under a plan. -/
def onPlan (plan : Plan) : Event Bool :=
  .elsewhere (FeatureFlags.assignPlan FeatureFlags.subscribed DemoSeed.tenant1 (some plan)).toSite

def atRest : World Bool := ⟨FeatureFlags.subscribed, fun _ => none⟩

/-- The sync for the old plan stores its last flag when the one for the new
plan is done. -/
def events : List (Event Bool) :=
  [onPlan FeatureFlags.enterprise, .begin true DemoSeed.tenant1, .next true,
    .set DemoSeed.tenant1 "sso" false "manual" "", onPlan FeatureFlags.pro,
    .begin false DemoSeed.tenant1, .next true, .next false, .next false, .next true]

def labels : List (Event Bool × Option Write) :=
  (Lts.steps (step FeatureFlags.readme) atRest events).map fun call => (call.2.1, call.2.2)

def interleaved : World Bool := Lts.after (step FeatureFlags.readme) atRest events

theorem overrides_explained_interleaved :
    ∃ row ∈ interleaved.site.tenantFeatureFlags, row.flagName = "sso"
      ∧ ((row ∈ atRest.site.tenantFeatureFlags ∧ ∀ l ∈ labels, writes l row.key = none)
        ∨ ∃ pre l post, labels = pre ++ l :: post ∧ (∀ later ∈ post, writes later row.key = none)
          ∧ (Asks row l.1 ∨ ∃ i before tenant between w₁, l.1 = .next i
            ∧ pre = before ++ (.begin i tenant, none) :: between
            ∧ Lts.Run (Lts.ofFn (step FeatureFlags.readme)) atRest before w₁
            ∧ CalledFor FeatureFlags.readme w₁.site tenant row)) := by
  have hrow : (⟨DemoSeed.tenant1.id, "sso", true, "plan", "Auto-set by plan: enterprise"⟩ :
      TenantFeatureFlag) ∈ interleaved.site.tenantFeatureFlags := by decide
  exact ⟨_, hrow, rfl, overrides_explained (fun _ => rfl) (Lts.Run.of_inputs _ events atRest) hrow⟩

theorem flags_shown_interleaved :
    flagDetailView FeatureFlags.readme FeatureFlags.noRows interleaved.site
        ⟨(), some DemoSeed.tenant1⟩ "sso"
      = ("sso", match overrideShown atRest labels ⟨(), some DemoSeed.tenant1⟩ "sso" with
          | some row => row.isEnabled
          | none => (getWaffleFlag FeatureFlags.noRows "sso"
              (some ⟨(), some DemoSeed.tenant1⟩)).getD (getDefault FeatureFlags.readme "sso")) :=
  (flags_shown (Lts.Run.of_inputs _ events atRest) FeatureFlags.noRows
    ⟨(), some DemoSeed.tenant1⟩ "sso").1

end FlagSync

end SaasKit
