import SaasKit.BillingCalls
import SaasKit.SubscriptionLifecycle

/-!
# The same event twice

The task that processes an event retries it whenever it raised, so an event
is processed again, later, on the rows the first call left. Five of the six
handlers write what the event says and nothing else: the second call leaves
the rows alone. A failed payment also reads the clock and hands a task to
the broker, so a replay moves the grace period and can send a second dunning
email (`replay_iff`).
-/

namespace SaasKit

namespace EventReplay

open BillingService SubscriptionLifecycle

def isDunning : Task → Bool
  | .sendDunningEmail _ => true
  | _ => false

section

variable {str : Json → String} {s s' : Site} {data : Json} {e : StripeEvent} {sub : Subscription}

/-! ## Handlers that write what the event says -/

/-- The transaction that sets status and grace period, twice. -/
theorem standing_again {stripeSubId : Option String} {status : String} {grace : Option Time}
    {after : Subscription → Site → Except Exc Unit × Site}
    (hafter : ∀ sub s, (after sub s).2.subscriptions = s.subscriptions)
    (hfirst : (atomic s (saveStanding s stripeSubId status grace) after).2 = s') :
    (atomic s' (saveStanding s' stripeSubId status grace) after).2.subscriptions
      = s'.subscriptions := by
  rcases standing_cases s stripeSubId status grace after with
    ⟨err, hraised⟩ | ⟨hnone, -⟩ | ⟨sub, hget, hdone⟩
  · rw [hraised] at hfirst
    subst hfirst
    rw [hraised]
  · rw [hnone] at hfirst
    subst hfirst
    rw [hnone]
  · have hrows : s'.subscriptions
        = s.subscriptions.modify (·.id == sub.id) (setStanding status grace) := by
      rw [← hfirst, hdone, hafter]
    have hagain : getBySubscriptionId s' stripeSubId
        = .ok (some ((setStanding status grace).apply sub)) :=
      getBySubscriptionId_rewritten hget (by rw [hrows]; rfl) rfl
    simp only [saveStanding, hagain, atomic, hafter]
    rw [hrows]
    exact Table.modify_modify (fun _ _ hpk => hpk) fun _ _ _ => rfl

theorem onSubscriptionCanceled_again :
    (onSubscriptionCanceled str (onSubscriptionCanceled str s data).2 data).2.subscriptions
      = (onSubscriptionCanceled str s data).2.subscriptions := by
  unfold onSubscriptionCanceled
  simp only
  split
  · rfl
  · exact standing_again (fun _ _ => rfl) rfl

theorem onPaymentSucceeded_again :
    (onPaymentSucceeded str (onPaymentSucceeded str s data).2 data).2.subscriptions
      = (onPaymentSucceeded str s data).2.subscriptions := by
  unfold onPaymentSucceeded
  simp only
  split
  · rfl
  · rename_i stripeSubId _
    by_cases htruthy : stripeSubId.truthy = true
    · simp only [if_pos htruthy]
      exact standing_again (fun _ _ => rfl) rfl
    · simp only [if_neg htruthy]

theorem onSubscriptionCreated_again :
    (onSubscriptionCreated str (onSubscriptionCreated str s data).2 data).2.subscriptions
      = (onSubscriptionCreated str s data).2.subscriptions := by
  rcases onSubscriptionCreated_cases str s data with
    ⟨err, hraised⟩ | ⟨hnone, -⟩ | ⟨_, _, _, s', _, _, _, _, _, hcreates⟩
  · rw [hraised, hraised]
  · rw [hnone, hnone]
  · have hrows : (onSubscriptionCreated str s data).2.subscriptions = s'.subscriptions := by
      rw [onSubscriptionCreated_of hcreates]
      rfl
    rw [onSubscriptionCreated_of (hcreates.again hrows)]
    rfl

theorem onSubscriptionUpdated_again :
    (onSubscriptionUpdated str (onSubscriptionUpdated str s data).2 data).2.subscriptions
      = (onSubscriptionUpdated str s data).2.subscriptions := by
  rcases onSubscriptionUpdated_cases str s data with
    ⟨err, hraised⟩ | ⟨hnone, -⟩ | ⟨_, _, _, _, _, _, _, _, _, hupdates⟩
  · rw [hraised, hraised]
  · rw [hnone, hnone]
  · rw [onSubscriptionUpdated_of hupdates, onSubscriptionUpdated_of (hupdates.again rfl)]

/-! ## A failed payment -/

/-- A failed payment of a known subscription, with the task it enqueues if
the broker answers. -/
theorem processEvent_of_fails (hsub : sub ∈ s.subscriptions) (hfails : Fails str sub e) :
    (processEvent str s e).2 =
      { s with
        subscriptions := s.subscriptions.modify (·.id == sub.id)
          (setStanding Subscription.pastDue (some (e.now + days gracePeriodDays)))
        queue := if e.brokerUp then s.queue ++ [.sendDunningEmail sub.tenant] else s.queue } := by
  obtain ⟨hkind, stripeSubId, hinvoiced, hid⟩ := hfails
  exact processEvent_of_failed_eq hsub hid hkind hinvoiced

/-- A failed payment of no known subscription. -/
theorem processEvent_of_unknown (hkind : e.kind = some .paymentFailed)
    (hunknown : ∀ row ∈ s.subscriptions, ¬ Fails str row e) : (processEvent str s e).2 = s := by
  rcases processEvent_rewrites str s e with hsame | ⟨row, row', hrewrites⟩
  · exact hsame
  · have hfound := hrewrites.found
    simp only [Finds, hkind] at hfound
    exact absurd ⟨hkind, hfound⟩ (hunknown row hrewrites.stored)

end

/-! ## The same event at two times -/

/-- The second call leaves the rows as the first one did, and the two send
one dunning email at most. -/
structure Replays (str : Json → String) (s : Site) (first second : StripeEvent) : Prop where
  rows : (processEvent str (processEvent str s first).2 second).2.subscriptions
    = (processEvent str s first).2.subscriptions
  mails : (processEvent str (processEvent str s first).2 second).2.queue.countP isDunning
    ≤ s.queue.countP isDunning + 1

section

variable {str : Json → String} {s : Site} {eventType : String} {eventData : Json}
  {t₁ t₂ : Time} {up₁ up₂ : Bool} {row : Subscription}

/-- Every other event says all that its handler writes. -/
theorem replays_of_other (hkind : EventType.ofValue? eventType ≠ some .paymentFailed) :
    Replays str s ⟨t₁, up₁, eventType, eventData⟩ ⟨t₂, up₂, eventType, eventData⟩ := by
  refine ⟨?_, ?_⟩
  · unfold processEvent
    simp only
    cases hof : EventType.ofValue? eventType with
    | none => rfl
    | some kind =>
        cases kind with
        | subscriptionCreated => exact onSubscriptionCreated_again
        | subscriptionUpdated => exact onSubscriptionUpdated_again
        | subscriptionDeleted => exact onSubscriptionCanceled_again
        | paymentSucceeded => exact onPaymentSucceeded_again
        | paymentFailed => exact absurd hof hkind
        | trialWillEnd => exact onTrialEnding_subscriptions eventData
  · rw [processEvent_queue (e := ⟨t₂, up₂, eventType, eventData⟩) hkind,
      processEvent_queue (e := ⟨t₁, up₁, eventType, eventData⟩) hkind]
    exact Nat.le_succ _

/-- What two calls for a failed payment leave: the grace period of the
second, and a task for each time the broker answered. -/
theorem failed_twice (hrow : row ∈ s.subscriptions)
    (hfails : Fails str row ⟨t₁, up₁, eventType, eventData⟩) :
    (processEvent str (processEvent str s ⟨t₁, up₁, eventType, eventData⟩).2
        ⟨t₂, up₂, eventType, eventData⟩).2.subscriptions
        = s.subscriptions.modify (·.id == row.id)
            (setStanding Subscription.pastDue (some (t₂ + days gracePeriodDays)))
      ∧ (processEvent str (processEvent str s ⟨t₁, up₁, eventType, eventData⟩).2
          ⟨t₂, up₂, eventType, eventData⟩).2.queue.countP isDunning
        = s.queue.countP isDunning + (if up₁ then 1 else 0) + if up₂ then 1 else 0 := by
  have hfirst := processEvent_of_fails hrow hfails
  simp only at hfirst
  generalize (processEvent str s ⟨t₁, up₁, eventType, eventData⟩).2 = s₁ at hfirst ⊢
  have hrow₁ : (setStanding Subscription.pastDue (some (t₁ + days gracePeriodDays))).apply row
      ∈ s₁.subscriptions := by
    rw [hfirst]
    exact Table.mem_modify.mpr ⟨row, hrow, by simp⟩
  rw [processEvent_of_fails (e := ⟨t₂, up₂, eventType, eventData⟩) hrow₁ hfails]
  refine ⟨?_, ?_⟩
  · rw [hfirst]
    exact Table.modify_modify (fun _ _ hpk => hpk) fun _ _ _ => rfl
  · rw [hfirst]
    cases up₁ <;> cases up₂ <;> simp [isDunning, List.countP_cons]

theorem modify_grace_inj {g₁ g₂ : Time} (hrow : row ∈ s.subscriptions)
    (h : s.subscriptions.modify (·.id == row.id) (setStanding Subscription.pastDue (some g₂))
      = s.subscriptions.modify (·.id == row.id) (setStanding Subscription.pastDue (some g₁))) :
    g₁ = g₂ := by
  have hmem : (setStanding Subscription.pastDue (some g₂)).apply row ∈
      s.subscriptions.modify (·.id == row.id) (setStanding Subscription.pastDue (some g₁)) := by
    rw [← h]
    exact Table.mem_modify.mpr ⟨row, hrow, by simp⟩
  obtain ⟨row', -, heq⟩ := Table.mem_modify.mp hmem
  split at heq
  · exact (Option.some.inj (congrArg Subscription.gracePeriodEnd heq)).symm
  · rename_i hne
    have hid : row'.id = row.id := (congrArg Subscription.id heq).symm
    exact absurd (beq_iff_eq.mpr hid) hne

/-- An event can be processed twice exactly when it is no failed payment of a
subscription that is known, or the two calls read one clock and the broker
refuses one of their tasks. -/
theorem replay_iff (str : Json → String) (s : Site) (eventType : String) (eventData : Json)
    (t₁ t₂ : Time) (up₁ up₂ : Bool) :
    Replays str s ⟨t₁, up₁, eventType, eventData⟩ ⟨t₂, up₂, eventType, eventData⟩
      ↔ ((∃ row ∈ s.subscriptions, Fails str row ⟨t₁, up₁, eventType, eventData⟩) →
          t₁ = t₂ ∧ ¬ (up₁ = true ∧ up₂ = true)) := by
  by_cases hknown : ∃ row ∈ s.subscriptions, Fails str row ⟨t₁, up₁, eventType, eventData⟩
  · obtain ⟨row, hrow, hfails⟩ := hknown
    obtain ⟨hrows, hqueue⟩ := @failed_twice str s eventType eventData t₁ t₂ up₁ up₂ row hrow hfails
    have hfirst := congrArg Site.subscriptions (processEvent_of_fails hrow hfails)
    constructor
    · rintro ⟨hsame, hmails⟩ -
      rw [hrows, hfirst] at hsame
      rw [hqueue] at hmails
      refine ⟨?_, fun ⟨hup₁, hup₂⟩ => ?_⟩
      · exact Int.add_left_inj (days gracePeriodDays) |>.mp (modify_grace_inj hrow hsame)
      · rw [hup₁, hup₂] at hmails
        simp only [if_true] at hmails
        omega
    · intro hcond
      obtain ⟨rfl, hup⟩ := hcond ⟨row, hrow, hfails⟩
      refine ⟨hrows.trans hfirst.symm, ?_⟩
      rw [hqueue]
      cases up₁ <;> cases up₂ <;> simp at hup ⊢
  · refine ⟨fun _ h => absurd h hknown, fun _ => ?_⟩
    by_cases hkind : EventType.ofValue? eventType = some .paymentFailed
    · have hunknown : ∀ row ∈ s.subscriptions,
          ¬ Fails str row ⟨t₁, up₁, eventType, eventData⟩ :=
        fun row hrow hfails => hknown ⟨row, hrow, hfails⟩
      have hfirst := processEvent_of_unknown (e := ⟨t₁, up₁, eventType, eventData⟩) hkind hunknown
      have hsecond := processEvent_of_unknown (e := ⟨t₂, up₂, eventType, eventData⟩) hkind hunknown
      refine ⟨by rw [hfirst, hsecond], ?_⟩
      rw [hfirst, hsecond]
      exact Nat.le_succ _
    · exact replays_of_other hkind

end

/-! ## One failed payment -/

/-- The broker does not answer, and the task is retried half a minute later:
the grace period has moved. -/
theorem replay_moves_grace :
    ¬ ∀ (str : Json → String) (s : Site) (eventType : String) (eventData : Json) (t₁ t₂ : Time)
      (up₁ up₂ : Bool), t₁ ≤ t₂ →
      Replays str s ⟨t₁, up₁, eventType, eventData⟩ ⟨t₂, up₂, eventType, eventData⟩ := by
  intro hall
  have hrows := (hall str subscribed (EventType.paymentFailed).value
    (invoice 0 .paymentFailed).eventData 0 (seconds 30) false true (by decide)).rows
  revert hrows
  decide

end EventReplay

end SaasKit
