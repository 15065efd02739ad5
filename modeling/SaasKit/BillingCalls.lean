import SaasKit.SubscriptionObject

/-!
# What a call of `process_event` leaves

Every call, seen as a whole (`processEvent_outcome`): it raises with nothing
written, or finds no row, or rewrites the one row its event names. A call
that writes leaves the other tables alone, its entry in the audit log if it
is one of the two kinds that keep one, and a task only after a failed
payment.
-/

namespace SaasKit

namespace BillingService

/-- The event names this row by the key its handler looks for. -/
def Finds (str : Json → String) (row : Subscription) (e : StripeEvent) : Prop :=
  match e.kind with
  | some .subscriptionCreated => e.column str "customer" "" = some row.stripeCustomerId
  | some .subscriptionUpdated | some .subscriptionDeleted =>
      e.column str "id" "" = row.stripeSubscriptionId
  | some .paymentSucceeded | some .paymentFailed =>
      ∃ stripeSubId, e.invoiced str = some stripeSubId
        ∧ row.stripeSubscriptionId = some stripeSubId
  | some .trialWillEnd | none => False

/-- The entry an event leaves with the row it has written: the handlers of
`customer.subscription.updated` and of the two invoice events leave none. -/
def logged : EventType → Option AuditAction
  | .subscriptionCreated => some .subscriptionCreated
  | .subscriptionDeleted => some .subscriptionCanceled
  | .subscriptionUpdated | .paymentSucceeded | .paymentFailed | .trialWillEnd => none

/-- Nothing but subscriptions, the audit log and the queue differs. -/
structure BillingOnly (s s' : Site) : Prop where
  users : s'.users = s.users
  tenants : s'.tenants = s.tenants
  domains : s'.domains = s.domains
  userTenantRoles : s'.userTenantRoles = s.userTenantRoles
  invitations : s'.invitations = s.invitations
  plans : s'.plans = s.plans
  webhookEvents : s'.webhookEvents = s.webhookEvents

theorem BillingOnly.refl (s : Site) : BillingOnly s s := ⟨rfl, rfl, rfl, rfl, rfl, rfl, rfl⟩

/-- One row is rewritten, under its key and for its tenant. -/
structure Rewrites (str : Json → String) (s : Site) (e : StripeEvent) (s' : Site)
    (row row' : Subscription) : Prop where
  stored : row ∈ s.subscriptions
  found : Finds str row e
  only : ∀ x ∈ s.subscriptions, Finds str x e → x = row
  id : row'.id = row.id
  tenant : row'.tenant = row.tenant
  rows : s'.subscriptions.rows
    = s.subscriptions.rows.map fun x => if x.id == row.id then row' else x
  frame : BillingOnly s s'
  trail : AuditService.trail s' = AuditService.trail s ++
    (e.kind.bind logged).toList.map fun action => (action, (s.getTenant row.tenant).map (·.id))
  queue : e.kind ≠ some .paymentFailed → s'.queue = s.queue

/-- What a call can have come to. -/
inductive Outcome (str : Json → String) (s : Site) (e : StripeEvent) :
    Except Exc Unit × Site → Prop
  | raised (err : Exc) : Outcome str s e (.error err, s)
  | unmatched : (∀ row ∈ s.subscriptions, ¬ Finds str row e) → Outcome str s e (.ok (), s)
  | wrote (res : Except Exc Unit) (s' : Site) (row row' : Subscription) :
      Rewrites str s e s' row row' → Outcome str s e (res, s')

section

variable {str : Json → String} {s s' : Site} {e : StripeEvent} {sub : Subscription}
  {stripeSubId : Option String} {status : String} {grace : Option Time}

theorem getBySubscriptionId_none (hget : getBySubscriptionId s stripeSubId = .ok none) :
    ∀ row ∈ s.subscriptions, row.stripeSubscriptionId ≠ stripeSubId := by
  intro row hrow heq
  have hmem : row ∈ s.subscriptions.filter (·.stripeSubscriptionId == stripeSubId) :=
    Table.mem_filter.mpr ⟨hrow, beq_iff_eq.mpr heq⟩
  unfold getBySubscriptionId at hget
  split at hget
  · rename_i hnil
    rw [hnil] at hmem
    cases hmem
  · cases hget
  · cases hget

theorem getBySubscriptionId_only {row : Subscription}
    (hget : getBySubscriptionId s stripeSubId = .ok (some sub)) (hrow : row ∈ s.subscriptions)
    (hid : row.stripeSubscriptionId = stripeSubId) : row = sub := by
  have hmem : row ∈ s.subscriptions.filter (·.stripeSubscriptionId == stripeSubId) :=
    Table.mem_filter.mpr ⟨hrow, beq_iff_eq.mpr hid⟩
  unfold getBySubscriptionId at hget
  split at hget
  · cases hget
  · rename_i hsingle
    rw [hsingle] at hmem
    obtain rfl := Option.some.inj (Except.ok.inj hget)
    exact List.mem_singleton.mp hmem
  · cases hget

/-! ## The three handlers that set status and grace period -/

theorem standing_cases (s : Site) (stripeSubId : Option String) (status : String)
    (grace : Option Time) (after : Subscription → Site → Except Exc Unit × Site) :
    (∃ err, atomic s (saveStanding s stripeSubId status grace) after = (.error err, s))
      ∨ atomic s (saveStanding s stripeSubId status grace) after = (.ok (), s)
        ∧ getBySubscriptionId s stripeSubId = .ok none
      ∨ ∃ sub, getBySubscriptionId s stripeSubId = .ok (some sub)
        ∧ atomic s (saveStanding s stripeSubId status grace) after
          = after ((setStanding status grace).apply sub)
              { s with
                subscriptions :=
                  s.subscriptions.modify (·.id == sub.id) (setStanding status grace) } := by
  cases hget : getBySubscriptionId s stripeSubId with
  | error err => exact Or.inl ⟨err, by simp only [saveStanding, hget, atomic]⟩
  | ok found =>
      cases found with
      | none => exact Or.inr (Or.inl ⟨by simp only [saveStanding, hget, atomic], rfl⟩)
      | some sub => exact Or.inr (Or.inr ⟨sub, rfl, by simp only [saveStanding, hget, atomic]⟩)

/-- What follows the transaction leaves the rows alone, and the entry of the
event. -/
structure Follows (e : StripeEvent) (after : Subscription → Site → Except Exc Unit × Site)
    (sub : Subscription) (s : Site) : Prop where
  frame : BillingOnly s (after sub s).2
  rows : (after sub s).2.subscriptions = s.subscriptions
  trail : AuditService.trail (after sub s).2 = AuditService.trail s ++
    (e.kind.bind logged).toList.map fun action => (action, (s.getTenant sub.tenant).map (·.id))
  queue : e.kind ≠ some .paymentFailed → (after sub s).2.queue = s.queue

theorem standing_outcome {after : Subscription → Site → Except Exc Unit × Site}
    (hkey : ∀ row : Subscription, Finds str row e ↔ row.stripeSubscriptionId = stripeSubId)
    (hafter : ∀ sub s, Follows e after sub s) :
    Outcome str s e (atomic s (saveStanding s stripeSubId status grace) after) := by
  rcases standing_cases s stripeSubId status grace after with
    ⟨err, hraised⟩ | ⟨hdone, hnone⟩ | ⟨sub, hget, hdone⟩
  · rw [hraised]
    exact .raised err
  · rw [hdone]
    exact .unmatched fun row hrow hfinds =>
      getBySubscriptionId_none hnone row hrow ((hkey row).mp hfinds)
  · rw [hdone]
    obtain ⟨hsub, hid⟩ := getBySubscriptionId_some hget
    obtain ⟨hframe, hrows, htrail, hqueue⟩ := hafter ((setStanding status grace).apply sub)
      { s with
        subscriptions := s.subscriptions.modify (·.id == sub.id) (setStanding status grace) }
    refine .wrote _ _ sub ((setStanding status grace).apply sub) ⟨hsub, (hkey sub).mpr hid,
      fun row hrow hfinds => getBySubscriptionId_only hget hrow ((hkey row).mp hfinds), rfl, rfl,
      ?_, ⟨hframe.users, hframe.tenants, hframe.domains, hframe.userTenantRoles,
        hframe.invitations, hframe.plans, hframe.webhookEvents⟩, htrail, hqueue⟩
    rw [hrows]
    refine List.map_congr_left fun row hrow => ?_
    split
    · rename_i hpk
      rw [subscription_eq_of_id hrow hsub (eq_of_beq hpk)]
    · rfl

theorem onSubscriptionCanceled_outcome (hkind : e.kind = some .subscriptionDeleted) :
    Outcome str s e (onSubscriptionCanceled str s e.eventData) := by
  unfold onSubscriptionCanceled
  simp only
  split
  · exact .raised _
  · rename_i v hfields
    obtain ⟨obj, hobj, hid⟩ := except_bind_ok.mp hfields
    refine standing_outcome (fun row => ?_) fun sub s => ⟨⟨rfl, rfl, rfl, rfl, rfl, rfl, rfl⟩, rfl,
      ?_, fun _ => rfl⟩
    · simp only [Finds, hkind]
      rw [StripeEvent.column_eq hobj hid]
      exact eq_comm
    · rw [hkind]
      exact AuditService.trail_log ..

/-- The two invoice events: a falsy id is that of no row. -/
theorem invoice_outcome {after : Subscription → Site → Except Exc Unit × Site}
    (hkind : e.kind = some .paymentSucceeded ∨ e.kind = some .paymentFailed)
    (hafter : ∀ sub s, Follows e after sub s) :
    Outcome str s e
      (match (do let obj ← e.eventData.get "object" (.obj []); obj.get "subscription" (.str "") :
          Except Exc Json) with
        | .error err => (.error err, s)
        | .ok v =>
            if v.truthy then atomic s (saveStanding s (charField str v) status grace) after
            else (.ok (), s)) := by
  have hfinds : ∀ row : Subscription, Finds str row e ↔ ∃ stripeSubId,
      e.invoiced str = some stripeSubId ∧ row.stripeSubscriptionId = some stripeSubId := by
    intro row
    rcases hkind with hkind | hkind <;> simp only [Finds, hkind]
  split
  · exact .raised _
  · rename_i v hfields
    obtain ⟨obj, hobj, hv⟩ := except_bind_ok.mp hfields
    split
    · rename_i htruthy
      obtain ⟨stripeSubId, hinvoiced, hchar⟩ := StripeEvent.invoiced_eq hobj hv htruthy
      rw [hchar]
      refine standing_outcome (fun row => ?_) hafter
      rw [hfinds, hinvoiced]
      simp
    · rename_i hfalsy
      refine .unmatched fun row _ hrowFinds => ?_
      obtain ⟨stripeSubId, hinvoiced, -⟩ := (hfinds row).mp hrowFinds
      obtain ⟨obj', v', hobj', hv', htruthy, -⟩ := StripeEvent.invoiced_some hinvoiced
      cases hobj.symm.trans hobj'
      cases hv.symm.trans hv'
      exact hfalsy htruthy

/-- No entry is kept of an invoice event. -/
theorem follows_quiet {after : Subscription → Site → Except Exc Unit × Site}
    (hkind : e.kind = some .paymentSucceeded ∨ e.kind = some .paymentFailed)
    (hframe : BillingOnly s (after sub s).2)
    (hrows : (after sub s).2.subscriptions = s.subscriptions)
    (hlogs : (after sub s).2.auditLogs = s.auditLogs)
    (hqueue : e.kind ≠ some .paymentFailed → (after sub s).2.queue = s.queue) :
    Follows e after sub s := by
  refine ⟨hframe, hrows, ?_, hqueue⟩
  have hquiet : e.kind.bind logged = none := by
    rcases hkind with hkind | hkind <;> rw [hkind] <;> rfl
  rw [hquiet, AuditService.trail, hlogs]
  exact (List.append_nil _).symm

theorem onPaymentSucceeded_outcome (hkind : e.kind = some .paymentSucceeded) :
    Outcome str s e (onPaymentSucceeded str s e.eventData) :=
  invoice_outcome (Or.inl hkind) fun _ _ =>
    follows_quiet (Or.inl hkind) (.refl _) rfl rfl fun _ => rfl

theorem onPaymentFailed_outcome (hkind : e.kind = some .paymentFailed) :
    Outcome str s e (onPaymentFailed str e.now e.brokerUp s e.eventData) := by
  refine invoice_outcome (Or.inr hkind) fun sub s => ?_
  have hother : ∀ {queue : List Task}, e.kind ≠ some .paymentFailed → queue = s.queue :=
    fun hne => absurd hkind hne
  cases e.brokerUp with
  | true => exact follows_quiet (Or.inr hkind) ⟨rfl, rfl, rfl, rfl, rfl, rfl, rfl⟩ rfl rfl hother
  | false => exact follows_quiet (Or.inr hkind) (.refl _) rfl rfl hother

/-! ## The two handlers that save the whole row -/

theorem rewrites_of_save {s₁ : Site} {loaded saved : Subscription}
    {price statusValue : Option String} {flag : Option Bool} (hsub : sub ∈ s.subscriptions)
    (hfound : Finds str sub e) (honly : ∀ x ∈ s.subscriptions, Finds str x e → x = sub)
    (hid : loaded.id = sub.id) (htenant : loaded.tenant = sub.tenant)
    (hsave : save s loaded stripeSubId price statusValue flag = .ok (saved, s₁))
    (hrows : s'.subscriptions = s₁.subscriptions) (hframe : BillingOnly s₁ s')
    (hqueue : s'.queue = s₁.queue)
    (htrail : AuditService.trail s' = AuditService.trail s₁ ++
      (e.kind.bind logged).toList.map fun action =>
        (action, (s₁.getTenant saved.tenant).map (·.id))) :
    Rewrites str s e s' sub saved := by
  obtain ⟨-, -, -, _, _, _, -, -, -, hsaved, _, hupdate, rfl⟩ := save_ok_iff.mp hsave
  have hsavedTenant : saved.tenant = sub.tenant := by
    rw [hsaved]
    exact htenant
  refine ⟨hsub, hfound, honly, by rw [hsaved]; exact hid, hsavedTenant, ?_, ?_, ?_, fun _ => hqueue⟩
  · rw [hrows, Table.update?_rows hupdate, hid]
  · exact ⟨hframe.users, hframe.tenants, hframe.domains, hframe.userTenantRoles,
      hframe.invitations, hframe.plans, hframe.webhookEvents⟩
  · rw [htrail, hsavedTenant]
    rfl

theorem onSubscriptionCreated_outcome (hkind : e.kind = some .subscriptionCreated) :
    Outcome str s e (onSubscriptionCreated str s e.eventData) := by
  rcases onSubscriptionCreated_cases str s e.eventData with
    ⟨err, hraised⟩ | ⟨hdone, obj, customerId, hobj, hcustomer, hnone⟩
      | ⟨_, sub, saved, s₁, _, _, _, _, _, hcreates⟩
  · rw [hraised]
    exact .raised err
  · rw [hdone]
    refine .unmatched fun row hrow hfinds => hnone row hrow ?_
    simp only [Finds, hkind] at hfinds
    exact hfinds.symm.trans (StripeEvent.column_eq hobj hcustomer)
  · obtain ⟨hsub, hmatch⟩ := Table.find?_some hcreates.found
    obtain ⟨_, _, _, hloaded⟩ := applyPeriod_ok hcreates.period
    have hkey : ∀ row : Subscription,
        Finds str row e ↔ some row.stripeCustomerId = some sub.stripeCustomerId := by
      intro row
      simp only [Finds, hkind]
      rw [StripeEvent.column_eq hcreates.object_eq hcreates.customer_eq, ← eq_of_beq hmatch]
      exact eq_comm
    have honly : ∀ row ∈ s.subscriptions, Finds str row e → row = sub := by
      intro row hrow hfinds
      refine Table.eq_of_clash Site.subscription_clash_symm hrow hsub ?_
      simp [Subscription.clash, Option.some.inj ((hkey row).mp hfinds)]
    rw [onSubscriptionCreated_of hcreates]
    refine .wrote _ _ sub saved (rewrites_of_save hsub ((hkey sub).mpr rfl) honly
      (by rw [hloaded]) (by rw [hloaded])
      hcreates.save_eq rfl ⟨rfl, rfl, rfl, rfl, rfl, rfl, rfl⟩ rfl ?_)
    rw [hkind]
    exact AuditService.trail_log ..

theorem onSubscriptionUpdated_outcome (hkind : e.kind = some .subscriptionUpdated) :
    Outcome str s e (onSubscriptionUpdated str s e.eventData) := by
  rcases onSubscriptionUpdated_cases str s e.eventData with
    ⟨err, hraised⟩ | ⟨hdone, obj, stripeSubId, hobj, hid, hnone⟩
      | ⟨_, sub, saved, s₁, stripeSubId, _, _, _, _, hupdates⟩
  · rw [hraised]
    exact .raised err
  · rw [hdone]
    refine .unmatched fun row hrow hfinds => getBySubscriptionId_none hnone row hrow ?_
    simp only [Finds, hkind] at hfinds
    exact hfinds.symm.trans (StripeEvent.column_eq hobj hid)
  · obtain ⟨hsub, hid⟩ := getBySubscriptionId_some hupdates.found
    obtain ⟨_, _, _, hloaded⟩ := applyPeriod_ok hupdates.period
    have hkey : ∀ row : Subscription,
        Finds str row e ↔ row.stripeSubscriptionId = charField str stripeSubId := by
      intro row
      simp only [Finds, hkind]
      rw [StripeEvent.column_eq hupdates.object_eq hupdates.id_eq]
      exact eq_comm
    rw [onSubscriptionUpdated_of hupdates]
    refine .wrote _ _ sub saved (rewrites_of_save hsub ((hkey sub).mpr hid)
      (fun row hrow hfinds => getBySubscriptionId_only hupdates.found hrow ((hkey row).mp hfinds))
      (by rw [hloaded]) (by rw [hloaded])
      hupdates.save_eq rfl (.refl _) rfl ?_)
    rw [hkind]
    exact (List.append_nil _).symm

/-! ## Any call -/

theorem processEvent_outcome (str : Json → String) (s : Site) (e : StripeEvent) :
    Outcome str s e (processEvent str s e) := by
  unfold processEvent
  cases hof : EventType.ofValue? e.eventType with
  | none =>
      have hkind : e.kind = none := hof
      exact .unmatched fun row _ hfinds => by simp only [Finds, hkind] at hfinds
  | some kind =>
      have hkind : e.kind = some kind := hof
      cases kind with
      | subscriptionCreated => exact onSubscriptionCreated_outcome hkind
      | subscriptionUpdated => exact onSubscriptionUpdated_outcome hkind
      | subscriptionDeleted => exact onSubscriptionCanceled_outcome hkind
      | paymentSucceeded => exact onPaymentSucceeded_outcome hkind
      | paymentFailed => exact onPaymentFailed_outcome hkind
      | trialWillEnd =>
          simp only [onTrialEnding]
          split
          · exact .raised _
          · exact .unmatched fun row _ hfinds => by simp only [Finds, hkind] at hfinds

/-- A call leaves everything alone, or rewrites the row its event names. -/
theorem processEvent_rewrites (str : Json → String) (s : Site) (e : StripeEvent) :
    (processEvent str s e).2 = s
      ∨ ∃ row row', Rewrites str s e (processEvent str s e).2 row row' := by
  have houtcome := processEvent_outcome str s e
  generalize processEvent str s e = called at houtcome ⊢
  cases houtcome with
  | raised err => exact Or.inl rfl
  | unmatched hnone => exact Or.inl rfl
  | wrote res s' row row' hrewrites => exact Or.inr ⟨row, row', hrewrites⟩

theorem processEvent_frame (str : Json → String) (s : Site) (e : StripeEvent) :
    BillingOnly s (processEvent str s e).2 := by
  rcases processEvent_rewrites str s e with hsame | ⟨row, row', hrewrites⟩
  · rw [hsame]
    exact .refl s
  · exact hrewrites.frame

/-- Only a failed payment reaches for the queue. -/
theorem processEvent_queue (hkind : e.kind ≠ some .paymentFailed) :
    (processEvent str s e).2.queue = s.queue := by
  rcases processEvent_rewrites str s e with hsame | ⟨row, row', hrewrites⟩
  · rw [hsame]
  · exact hrewrites.queue hkind

end

end BillingService

end SaasKit
