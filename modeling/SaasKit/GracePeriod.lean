import SaasKit.SubscriptionLifecycle

/-!
# The grace period and the status

A failed payment sets the status and the grace period together, and a
payment or a deletion clears both. The two handlers that copy the status out
of a subscription object leave the grace period alone, so it outlives the
past due status it was granted for whenever such an event says anything
else. Where none does (`KeepsStanding`), a row has a grace period only while
it is past due, and each past due period starts without one or with its own
(`grace_within_past_due`).
-/

namespace SaasKit

namespace GracePeriod

open BillingService SubscriptionLifecycle

/-- Row `pk` has a grace period only while it is past due. -/
def Graced (pk : UUID) (s : Site) : Prop :=
  ∀ row ∈ s.subscriptions, row.id = pk → row.gracePeriodEnd ≠ none →
    row.status = Subscription.pastDue

/-- The event is about a subscription object of this row, by the key its
handler looks for. -/
def Describes (str : Json → String) (row : Subscription) (e : StripeEvent) : Prop :=
  e.kind = some .subscriptionUpdated ∧ e.column str "id" "" = row.stripeSubscriptionId
    ∨ e.kind = some .subscriptionCreated
      ∧ e.column str "customer" "" = some row.stripeCustomerId

/-- While row `pk` has a grace period, the event is no subscription object of
it with another status than past due. -/
def KeepsStanding (str : Json → String) (pk : UUID) (s : Site) (e : StripeEvent) : Prop :=
  ∀ row ∈ s.subscriptions, row.id = pk → row.gracePeriodEnd ≠ none → Describes str row e →
    e.column str "status" "active" = some Subscription.pastDue

section

variable {str : Json → String} {pk : UUID} {s₀ s s' : Site} {e : StripeEvent}
  {es : List StripeEvent}

theorem graced_step (hs : Graced pk s)
    (h : Lts.Guarded (Step str) (KeepsStanding str pk) s e s') : Graced pk s' := by
  obtain ⟨hstep, hkeeps⟩ := h
  intro row' hrow' hpk hgrace
  obtain ⟨row, hrow, hchange⟩ := hstep.changed row' hrow'
  have hrowPk : row.id = pk := hchange.id_eq.symm.trans hpk
  cases hchange with
  | kept => exact hs row' hrow hpk hgrace
  | created _ hkind hcustomer _ _ _ hstatus hsame =>
      rw [hsame] at hgrace
      have hsays := hkeeps row hrow hrowPk hgrace (Or.inr ⟨hkind, hcustomer⟩)
      exact Option.some.inj (hstatus.symm.trans hsays)
  | updated _ hkind hid _ _ _ hstatus hsame =>
      rw [hsame] at hgrace
      have hsays := hkeeps row hrow hrowPk hgrace (Or.inl ⟨hkind, hid⟩)
      exact Option.some.inj (hstatus.symm.trans hsays)
  | canceled => exact absurd rfl hgrace
  | paid => exact absurd rfl hgrace
  | failed => rfl

/-- A grace period that a row did not have is that of a failed payment. -/
theorem granted_by_failure {row row' : Subscription} {graceEnd : Time}
    (hchange : Change str e row row') (hbefore : row.gracePeriodEnd = none)
    (hafter : row'.gracePeriodEnd = some graceEnd) :
    Fails str row e ∧ graceEnd = e.now + days gracePeriodDays := by
  cases hchange with
  | kept => rw [hbefore] at hafter; cases hafter
  | created _ _ _ _ _ _ _ hsame => rw [hsame, hbefore] at hafter; cases hafter
  | updated _ _ _ _ _ _ _ hsame => rw [hsame, hbefore] at hafter; cases hafter
  | canceled => cases hafter
  | paid => cases hafter
  | failed stripeSubId hkind hinvoiced hid =>
      exact ⟨⟨hkind, stripeSubId, hinvoiced, hid⟩, (Option.some.inj hafter).symm⟩

/-- From a fresh row on, a grace period means past due. A row that is not past
due takes none along: it gets its next one from a failed payment, for seven
days from then. -/
theorem grace_within_past_due
    (hfresh : ∀ row ∈ s₀.subscriptions, row.id = pk → row.gracePeriodEnd = none)
    (hrun : Lts.Run (Lts.Guarded (Step str) (KeepsStanding str pk)) s₀ es s) :
    Graced pk s ∧ ∀ e s', Step str s e s' →
      ∀ row ∈ s.subscriptions, row.id = pk → row.status ≠ Subscription.pastDue →
      ∀ row' ∈ s'.subscriptions, row'.id = pk →
      ∀ graceEnd, row'.gracePeriodEnd = some graceEnd →
        Fails str row e ∧ graceEnd = e.now + days gracePeriodDays := by
  have hinit : Graced pk s₀ := fun row hrow hpk hgrace => absurd (hfresh row hrow hpk) hgrace
  have hgraced : Graced pk s :=
    hrun.invariant (I := Graced pk) (fun _ _ _ hs h => graced_step hs h) hinit
  refine ⟨hgraced, fun e s' hstep row hrow hpk hstatus row' hrow' hpk' graceEnd hgrace => ?_⟩
  obtain ⟨row₁, hrow₁, hchange⟩ := hstep.changed row' hrow'
  obtain rfl := subscription_eq_of_id hrow₁ hrow ((hchange.id_eq.symm.trans hpk').trans hpk.symm)
  have hnone : row₁.gracePeriodEnd = none := by
    by_contra hsome
    exact hstatus (hgraced row₁ hrow hpk hsome)
  exact granted_by_failure hchange hnone hgrace

end

/-! ## One window -/

theorem subscribed_fresh :
    ∀ row ∈ subscribed.subscriptions, row.id = subscription.id → row.gracePeriodEnd = none := by
  decide

/-- The customer pays within the window: Stripe reports the subscription past
due, then paid. -/
def settled : List StripeEvent :=
  [invoice 0 .paymentFailed, notice 1 .subscriptionUpdated [("status", .str "past_due")],
    invoice 2 .paymentSucceeded]

theorem settled_keeps : Lts.Run (Lts.Guarded (Step str) (KeepsStanding str subscription.id))
    subscribed settled (after subscribed settled) := by
  refine .cons ⟨rfl, fun row hrow hpk hgrace => ?_⟩ (.cons ⟨rfl, fun _ _ _ _ _ => rfl⟩
    (.cons ⟨rfl, fun row _ _ _ hdescribes => ?_⟩ (.nil _)))
  · exact absurd (subscribed_fresh row hrow hpk) hgrace
  · rcases hdescribes with ⟨hkind, -⟩ | ⟨hkind, -⟩
    · exact absurd hkind (by decide)
    · exact absurd hkind (by decide)

theorem grace_within_past_due_settled : Graced subscription.id (after subscribed settled) :=
  (grace_within_past_due subscribed_fresh settled_keeps).1

/-- A failed payment, then an update that says active: the window is still
open. -/
theorem grace_kept_when_active :
    ¬ ∀ (str : Json → String) (pk : UUID) (s₀ s : Site) (es : List StripeEvent),
      (∀ row ∈ s₀.subscriptions, row.id = pk → row.gracePeriodEnd = none) →
      Lts.Run (Step str) s₀ es s → Graced pk s := by
  intro hall
  have hgraced := hall str subscription.id subscribed _
    [invoice 0 .paymentFailed, notice 1 .subscriptionUpdated [("status", .str "active")]]
    subscribed_fresh (.cons rfl (.cons rfl (.nil _)))
  have hrow : { subscription with gracePeriodEnd := some (days 7) } ∈
      (after subscribed [invoice 0 .paymentFailed,
        notice 1 .subscriptionUpdated [("status", .str "active")]]).subscriptions := by decide
  have hstatus := hgraced _ hrow rfl (by decide)
  exact absurd hstatus (by decide)

end GracePeriod

end SaasKit
