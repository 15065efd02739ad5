import SaasKit.BillingService
import SaasKit.DemoSeed
import SaasKit.Lib.Run

/-!
# When a subscription ends

Access over runs of `process_event`. Stripe delivers events in any order
and any number of times, so a run is any list of events.

Two things end access. A failed payment ends it seven days later, counted
from the last failure that was processed, because every failure moves the
date (`grace_bounded`, `grace_extended`). A deletion ends it at once, but
only until the next event about the old subscription that writes a status
with access: the handlers write what the event says and do not look at what
was there (`cancellation_final`, `canceled_paid`).
-/

namespace SaasKit

namespace SubscriptionLifecycle

open BillingService

/-- The status alone gives access. -/
def Live (row : Subscription) : Prop :=
  row.status = Subscription.active ∨ row.status = Subscription.trialing

instance (row : Subscription) : Decidable (Live row) :=
  inferInstanceAs (Decidable (_ ∨ _))

theorem not_live {row : Subscription} {status : String} {grace : Option Time}
    (h : status ≠ Subscription.active ∧ status ≠ Subscription.trialing) :
    ¬ Live ((setStanding status grace).apply row) := by
  rintro (hactive | htrialing)
  · exact h.1 hactive
  · exact h.2 htrialing

theorem isAccessAllowed_iff {row : Subscription} {now : Time} :
    row.isAccessAllowed now = true
      ↔ Live row ∨ row.status = Subscription.pastDue
          ∧ ∃ graceEnd, row.gracePeriodEnd = some graceEnd ∧ now < graceEnd := by
  unfold Subscription.isAccessAllowed
  by_cases hlive : Live row
  · have hcond : row.status = Subscription.active ∨ row.status = Subscription.trialing := hlive
    simp [hcond, hlive]
  · have hcond : ¬ (row.status = Subscription.active ∨ row.status = Subscription.trialing) :=
      hlive
    rw [if_neg hcond]
    by_cases hdue : row.status = Subscription.pastDue
    · cases hgrace : row.gracePeriodEnd with
      | none => simp [hdue, hlive]
      | some graceEnd => simp [hdue, hlive]
    · simp [hdue, hlive]

theorem denied_of {row : Subscription} {now bound : Time} (hlive : ¬ Live row)
    (hgrace : ∀ graceEnd, row.gracePeriodEnd = some graceEnd → graceEnd ≤ bound)
    (hnow : bound ≤ now) : row.isAccessAllowed now = false := by
  rw [Bool.eq_false_iff]
  intro hallowed
  rcases isAccessAllowed_iff.mp hallowed with hl | ⟨-, graceEnd, hend, hlt⟩
  · exact hlive hl
  · exact Int.not_lt.mpr (Int.le_trans (hgrace graceEnd hend) hnow) hlt

/-! ## Runs -/

section

variable (str : Json → String)

/-- One call of `process_event`. Whether it raised is not told: the task
retries it, and a retry is one more event of the run. -/
def Step (s : Site) (e : StripeEvent) (s' : Site) : Prop :=
  (processEvent str s e).2 = s'

variable {str} {s₀ s₁ s s' : Site} {sub : Subscription} {e : StripeEvent} {es : List StripeEvent}

theorem Step.changed (h : Step str s e s') : Changed str e s s' :=
  h ▸ processEvent_changed str s e

/-! ## The dunning window -/

/-- The event is a failed payment of the subscription in this row. -/
def Fails (str : Json → String) (row : Subscription) (e : StripeEvent) : Prop :=
  e.kind = some .paymentFailed
    ∧ ∃ stripeSubId, e.invoiced str = some stripeSubId
        ∧ row.stripeSubscriptionId = some stripeSubId

/-- A call after which row `pk` has no status with access. -/
def NoRevival (str : Json → String) (pk : UUID) (s : Site) (e : StripeEvent) (s' : Site) : Prop :=
  Step str s e s' ∧ ∀ row ∈ s'.subscriptions, row.id = pk → ¬ Live row

/-- The event is no failed payment of row `pk`. -/
def NotFailing (str : Json → String) (pk : UUID) (s : Site) (e : StripeEvent) : Prop :=
  ∀ row ∈ s.subscriptions, row.id = pk → ¬ Fails str row e

/-- Row `pk` has no status with access and its grace period ends by then. -/
def Dunned (pk : UUID) (bound : Time) (s : Site) : Prop :=
  ∀ row ∈ s.subscriptions, row.id = pk →
    ¬ Live row ∧ ∀ graceEnd, row.gracePeriodEnd = some graceEnd → graceEnd ≤ bound

theorem dunned_of_failed (hsub : sub ∈ s₀.subscriptions) (hfails : Fails str sub e)
    (hstep : Step str s₀ e s₁) : Dunned sub.id (e.now + days gracePeriodDays) s₁ := by
  obtain ⟨hkind, stripeSubId, hinvoiced, hid⟩ := hfails
  obtain rfl := hstep
  intro row' hrow' hpk
  rw [processEvent_of_failed hsub hid hkind hinvoiced] at hrow'
  obtain ⟨row, hrow, rfl⟩ := Table.mem_modify.mp hrow'
  by_cases hsame : (row.id == sub.id) = true
  · rw [if_pos hsame]
    refine ⟨not_live (by decide), fun graceEnd hend => ?_⟩
    obtain rfl := Option.some.inj hend
    exact Int.le_refl _
  · rw [if_neg hsame] at hpk
    exact absurd (beq_iff_eq.mpr hpk) hsame

theorem dunned_step {pk : UUID} {bound : Time} (hs : Dunned pk bound s)
    (h : Lts.Guarded (NoRevival str pk) (NotFailing str pk) s e s') : Dunned pk bound s' := by
  obtain ⟨⟨hstep, hquiet⟩, hnotFailing⟩ := h
  intro row' hrow' hpk
  refine ⟨hquiet row' hrow' hpk, ?_⟩
  obtain ⟨row, hrow, hchange⟩ := hstep.changed row' hrow'
  have hrowPk : row.id = pk := hchange.id_eq.symm.trans hpk
  obtain ⟨-, hgrace⟩ := hs row hrow hrowPk
  cases hchange with
  | kept => exact hgrace
  | created _ _ _ _ _ _ _ hsame => rw [hsame]; exact hgrace
  | updated _ _ _ _ _ _ _ hsame => rw [hsame]; exact hgrace
  | canceled => exact fun _ hend => by cases hend
  | paid => exact fun _ hend => by cases hend
  | failed stripeSubId hkind hinvoiced hid =>
      exact absurd ⟨hkind, stripeSubId, hinvoiced, hid⟩ (hnotFailing row hrow hrowPk)

/-- Seven days after the last failed payment access is over, whatever other
events come, as long as none of them sets a status with access. -/
theorem grace_bounded {now : Time} (hsub : sub ∈ s₀.subscriptions) (hfails : Fails str sub e)
    (hstep : Step str s₀ e s₁)
    (hrun : Lts.Run (Lts.Guarded (NoRevival str sub.id) (NotFailing str sub.id)) s₁ es s)
    (hnow : e.now + days gracePeriodDays ≤ now) :
    ∀ row ∈ s.subscriptions, row.id = sub.id → row.isAccessAllowed now = false := by
  have hdunned : Dunned sub.id (e.now + days gracePeriodDays) s :=
    hrun.invariant (fun _ _ _ hs h => dunned_step hs h) (dunned_of_failed hsub hfails hstep)
  intro row hrow hpk
  obtain ⟨hlive, hgrace⟩ := hdunned row hrow hpk
  exact denied_of hlive hgrace hnow

/-! ## Cancellation -/

/-- The event deletes the subscription in this row. -/
def Deletes (str : Json → String) (row : Subscription) (e : StripeEvent) : Prop :=
  e.kind = some .subscriptionDeleted
    ∧ ∃ stripeSubId, e.column str "id" "" = some stripeSubId
        ∧ row.stripeSubscriptionId = some stripeSubId

/-- The customer of this row gets a subscription with another id. -/
def Replaces (str : Json → String) (sub : Subscription) (e : StripeEvent) : Prop :=
  e.kind = some .subscriptionCreated
    ∧ e.column str "customer" "" = some sub.stripeCustomerId
    ∧ e.column str "id" "" ≠ sub.stripeSubscriptionId

/-- The event's status is one with access. -/
def SaysLive (str : Json → String) (e : StripeEvent) : Prop :=
  e.column str "status" "active" = some Subscription.active
    ∨ e.column str "status" "active" = some Subscription.trialing

instance (e : StripeEvent) : Decidable (SaysLive str e) :=
  inferInstanceAs (Decidable (_ ∨ _))

/-- The event is about the subscription of this row as if it still ran: a
payment or a failed payment of it, or an update or the creation of it with a
status that gives access. -/
def Revives (str : Json → String) (sub : Subscription) (e : StripeEvent) : Prop :=
  match e.kind with
  | some .paymentSucceeded | some .paymentFailed =>
      e.invoiced str = sub.stripeSubscriptionId
  | some .subscriptionUpdated =>
      e.column str "id" "" = sub.stripeSubscriptionId ∧ SaysLive str e
  | some .subscriptionCreated =>
      e.column str "customer" "" = some sub.stripeCustomerId
        ∧ e.column str "id" "" = sub.stripeSubscriptionId ∧ SaysLive str e
  | _ => False

/-- The row of `sub` still has its ids, a status without access and no grace
period that a past due status could fall back on. -/
def Canceled (sub : Subscription) (s : Site) : Prop :=
  ∀ row ∈ s.subscriptions, row.id = sub.id →
    row.stripeCustomerId = sub.stripeCustomerId
      ∧ row.stripeSubscriptionId = sub.stripeSubscriptionId
      ∧ ¬ Live row ∧ row.gracePeriodEnd = none

theorem canceled_of_deleted (hsub : sub ∈ s₀.subscriptions) (hdeletes : Deletes str sub e)
    (hstep : Step str s₀ e s₁) : Canceled sub s₁ := by
  obtain ⟨hkind, stripeSubId, hnames, hid⟩ := hdeletes
  obtain rfl := hstep
  intro row' hrow' hpk
  rw [processEvent_of_deleted hsub hid hkind hnames] at hrow'
  obtain ⟨row, hrow, rfl⟩ := Table.mem_modify.mp hrow'
  by_cases hsame : (row.id == sub.id) = true
  · obtain rfl := subscription_eq_of_id hrow hsub (eq_of_beq hsame)
    rw [if_pos hsame]
    exact ⟨rfl, rfl, not_live (by decide), rfl⟩
  · rw [if_neg hsame] at hpk
    exact absurd (beq_iff_eq.mpr hpk) hsame

/-- A status that the event reads out of its payload. -/
theorem saysLive_of_live {row : Subscription} (hlive : Live row)
    (hstatus : e.column str "status" "active" = some row.status) : SaysLive str e := by
  rcases hlive with hactive | htrialing
  · exact Or.inl (hstatus.trans (congrArg some hactive))
  · exact Or.inr (hstatus.trans (congrArg some htrialing))

theorem canceled_step (hs : Canceled sub s) (hstep : Step str s e s')
    (hkept : ¬ Replaces str sub e) (hquiet : ¬ Revives str sub e) : Canceled sub s' := by
  intro row' hrow' hpk
  obtain ⟨row, hrow, hchange⟩ := hstep.changed row' hrow'
  have hrowPk : row.id = sub.id := hchange.id_eq.symm.trans hpk
  obtain ⟨hcus, hsid, hlive, hgrace⟩ := hs row hrow hrowPk
  cases hchange with
  | kept => exact ⟨hcus, hsid, hlive, hgrace⟩
  | created _ hkind hcustomer _ hcus' hsid' hstatus hgrace' =>
      rw [hcus] at hcustomer
      have hsame : e.column str "id" "" = sub.stripeSubscriptionId := by
        by_contra hother
        exact hkept ⟨hkind, hcustomer, hother⟩
      refine ⟨hcus'.trans hcus, hsid'.trans hsame, fun hl => hquiet ?_, hgrace'.trans hgrace⟩
      simp only [Revives, hkind]
      exact ⟨hcustomer, hsame, saysLive_of_live hl hstatus⟩
  | updated _ hkind hid _ hcus' hsid' hstatus hgrace' =>
      refine ⟨hcus'.trans hcus, hsid'.trans hsid, fun hl => hquiet ?_, hgrace'.trans hgrace⟩
      simp only [Revives, hkind]
      exact ⟨hid.trans hsid, saysLive_of_live hl hstatus⟩
  | canceled => exact ⟨hcus, hsid, not_live (by decide), rfl⟩
  | paid stripeSubId hkind hinvoiced hid =>
      refine absurd ?_ hquiet
      simp only [Revives, hkind]
      exact hinvoiced.trans (hid.symm.trans hsid)
  | failed stripeSubId hkind hinvoiced hid =>
      refine absurd ?_ hquiet
      simp only [Revives, hkind]
      exact hinvoiced.trans (hid.symm.trans hsid)

/-- From its deletion on, and until its customer gets another one, a
subscription gives no access at any time, in every run without an event that
revives it. -/
theorem cancellation_final (hsub : sub ∈ s₀.subscriptions) (hdeletes : Deletes str sub e)
    (hstep : Step str s₀ e s₁)
    (hrun : Lts.Run (Lts.Guarded (Lts.Guarded (Step str) fun _ e => ¬ Replaces str sub e)
      fun _ e => ¬ Revives str sub e) s₁ es s) (now : Time) :
    ∀ row ∈ s.subscriptions, row.id = sub.id → row.isAccessAllowed now = false := by
  have hcanceled : Canceled sub s :=
    hrun.invariant (I := Canceled sub) (fun _ _ _ hs h => canceled_step hs h.1.1 h.1.2 h.2)
      (canceled_of_deleted hsub hdeletes hstep)
  intro row hrow hpk
  obtain ⟨-, -, hlive, hgrace⟩ := hcanceled row hrow hpk
  refine denied_of hlive (fun graceEnd hend => ?_) (Int.le_refl now)
  rw [hgrace] at hend
  cases hend

end

/-! ## One subscription -/

def subscription : Subscription :=
  ⟨1, DemoSeed.tenant1.id, none, "cus_1", some "sub_1", "", Subscription.active, none, none,
    none, false, none⟩

/-- The demo data with a running subscription of Tenant One. -/
def subscribed : Site :=
  { DemoSeed.site with
    subscriptions := ⟨[subscription], List.pairwise_singleton ..⟩ }

/-- `str` is not called on the payloads below. -/
def str : Json → String := fun _ => ""

def invoice (now : Time) (type : EventType) : StripeEvent :=
  ⟨now, true, type.value, .obj [("object", .obj [("subscription", .str "sub_1")])]⟩

def notice (now : Time) (type : EventType) (fields : List (String × Json)) : StripeEvent :=
  ⟨now, true, type.value, .obj [("object", .obj (("id", .str "sub_1") :: fields))]⟩

/-- The site after these events. -/
def after (s : Site) (es : List StripeEvent) : Site :=
  es.foldl (fun s e => (processEvent str s e).2) s

theorem fails_first : Fails str subscription (invoice 0 .paymentFailed) :=
  ⟨by decide, "sub_1", by decide, by decide⟩

/-- A failed payment, then an update that says the same. -/
theorem grace_bounded_after_update :
    ∃ row ∈ (after subscribed [invoice 0 .paymentFailed,
        notice 1 .subscriptionUpdated [("status", .str "past_due")]]).subscriptions,
      row.id = subscription.id ∧ row.isAccessAllowed (days 7) = false := by
  have hstep : Step str subscribed (invoice 0 .paymentFailed)
      (after subscribed [invoice 0 .paymentFailed]) := rfl
  have hupdate : Lts.Guarded (NoRevival str subscription.id) (NotFailing str subscription.id)
      (after subscribed [invoice 0 .paymentFailed])
      (notice 1 .subscriptionUpdated [("status", .str "past_due")]) _ :=
    ⟨⟨rfl, by decide⟩, fun row hrow hpk hfails => absurd hfails.1 (by decide)⟩
  have hdenied := grace_bounded (List.mem_singleton_self _) fails_first hstep
    (.cons hupdate (.nil _)) (Int.le_refl _)
  refine ⟨{ subscription with
    status := Subscription.pastDue, gracePeriodEnd := some (days 7) }, ?_, rfl, ?_⟩
  · decide
  · exact hdenied _ (by decide) rfl

/-- A second failure six days after the first: on the seventh day access
goes on. -/
theorem grace_extended :
    ¬ ∀ (s₀ s₁ s : Site) (sub : Subscription) (e : StripeEvent) (es : List StripeEvent)
      (now : Time), sub ∈ s₀.subscriptions → sub.gracePeriodEnd = none → Fails str sub e →
      Step str s₀ e s₁ → Lts.Run (NoRevival str sub.id) s₁ es s →
      (e :: es).Pairwise (fun e e' => e.now ≤ e'.now) → e.now + days gracePeriodDays ≤ now →
      ∀ row ∈ s.subscriptions, row.id = sub.id → row.isAccessAllowed now = false := by
  intro hall
  have hdenied := hall subscribed _ _ subscription (invoice 0 .paymentFailed)
    [invoice (days 6) .paymentFailed] (days 7) (List.mem_singleton_self _) rfl fails_first rfl
    (.cons ⟨rfl, by decide⟩ (.nil _)) (by decide) (by decide)
  revert hdenied
  decide

theorem deletes_first : Deletes str subscription (notice 0 .subscriptionDeleted []) :=
  ⟨by decide, "sub_1", by decide, by decide⟩

/-- A deletion, then an update that says so too. -/
theorem cancellation_final_after_update :
    ∃ row ∈ (after subscribed [notice 0 .subscriptionDeleted [],
        notice 1 .subscriptionUpdated [("status", .str "canceled")]]).subscriptions,
      row.id = subscription.id ∧ row.isAccessAllowed 2 = false := by
  have hstep : Step str subscribed (notice 0 .subscriptionDeleted [])
      (after subscribed [notice 0 .subscriptionDeleted []]) := rfl
  have hquiet : ¬ Revives str subscription
      (notice 1 .subscriptionUpdated [("status", .str "canceled")]) := by
    intro hrevives
    have hlive : SaysLive str _ := And.right hrevives
    exact absurd hlive (by decide)
  have hdenied := cancellation_final (List.mem_singleton_self _) deletes_first hstep
    (.cons ⟨⟨rfl, fun hreplaces => absurd hreplaces.1 (by decide)⟩, hquiet⟩ (.nil _)) 2
  refine ⟨{ subscription with status := Subscription.canceled }, ?_, rfl, ?_⟩
  · decide
  · exact hdenied _ (by decide) rfl

/-- A payment that is processed after the deletion: access is back. -/
theorem canceled_paid :
    ¬ ∀ (s₀ s₁ s : Site) (sub : Subscription) (e : StripeEvent) (es : List StripeEvent)
      (now : Time), sub ∈ s₀.subscriptions → Deletes str sub e → Step str s₀ e s₁ →
      Lts.Run (Lts.Guarded (Step str) fun _ e => ¬ Replaces str sub e) s₁ es s →
      (e :: es).Pairwise (fun e e' => e.now ≤ e'.now) → (∀ e ∈ es, e.now ≤ now) →
      ∀ row ∈ s.subscriptions, row.id = sub.id → row.isAccessAllowed now = false := by
  intro hall
  have hdenied := hall subscribed _ _ subscription (notice 0 .subscriptionDeleted [])
    [invoice 1 .paymentSucceeded] 2 (List.mem_singleton_self _) deletes_first rfl
    (.cons ⟨rfl, fun hreplaces => absurd hreplaces.1 (by decide)⟩ (.nil _)) (by decide)
    (by decide)
  revert hdenied
  decide

end SubscriptionLifecycle

end SaasKit
