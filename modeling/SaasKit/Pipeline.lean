import SaasKit.StripeWebhook
import SaasKit.Worker

/-!
# From the webhook to the subscription

The view logs an event and hands it over, the worker processes it. With the
events taken in the order in which they wait, and no attempt at one of them
put back, the whole of it comes to a fold: the subscriptions are what
`process_event` makes of the accepted events one after the other, each event
id once, whatever is redelivered by Stripe, requested and mailed in between
(`pipeline_in_order`).

`processEvent_congr` is what lets the two sides be compared: a handler reads
of the database what it writes, the subscriptions.
-/

namespace SaasKit

namespace BillingService

section

variable {str : Json → String} {s s' : Site}

/-! ## What a handler reads -/

/-- Two transactions that end alike and write the same rows. -/
def SameRows (t t' : Except Exc (Option (Subscription × Site))) : Prop :=
  t.map (Option.map fun p => (p.1, p.2.subscriptions))
    = t'.map (Option.map fun p => (p.1, p.2.subscriptions))

theorem getBySubscriptionId_congr (h : s.subscriptions = s'.subscriptions)
    (stripeSubId : Option String) :
    getBySubscriptionId s stripeSubId = getBySubscriptionId s' stripeSubId := by
  unfold getBySubscriptionId
  rw [h]

theorem saveStanding_congr (h : s.subscriptions = s'.subscriptions) (stripeSubId : Option String)
    (status : String) (grace : Option Time) :
    SameRows (saveStanding s stripeSubId status grace)
      (saveStanding s' stripeSubId status grace) := by
  unfold SameRows saveStanding
  rw [getBySubscriptionId_congr h]
  cases getBySubscriptionId s' stripeSubId with
  | error e => rfl
  | ok found =>
      cases found with
      | none => rfl
      | some sub =>
          simp only [Except.map, Option.map_some, h]

theorem save_congr (h : s.subscriptions = s'.subscriptions) (sub : Subscription)
    (stripeSubId stripePriceId status : Option String) (cancelAtPeriodEnd : Option Bool) :
    SameRows (some <$> save s sub stripeSubId stripePriceId status cancelAtPeriodEnd)
      (some <$> save s' sub stripeSubId stripePriceId status cancelAtPeriodEnd) := by
  unfold SameRows save
  rw [h]
  split
  · rfl
  · split
    · simp only
      split <;> rfl
    · rfl

theorem atomic_congr (h : s.subscriptions = s'.subscriptions)
    {txn txn' : Except Exc (Option (Subscription × Site))} (htxn : SameRows txn txn')
    {after after' : Subscription → Site → Except Exc Unit × Site}
    (hafter : ∀ sub s, (after sub s).2.subscriptions = s.subscriptions)
    (hafter' : ∀ sub s, (after' sub s).2.subscriptions = s.subscriptions) :
    (atomic s txn after).2.subscriptions = (atomic s' txn' after').2.subscriptions := by
  unfold SameRows at htxn
  cases txn with
  | error e =>
      cases txn' with
      | error e' => exact h
      | ok r => cases htxn
  | ok r =>
      cases txn' with
      | error e' => cases htxn
      | ok r' =>
          have hsame := Except.ok.inj htxn
          cases r with
          | none =>
              cases r' with
              | none => exact h
              | some p => cases hsame
          | some p =>
              cases r' with
              | none => cases hsame
              | some p' =>
                  have hrows := congrArg Prod.snd (Option.some.inj hsame)
                  show (after p.1 p.2).2.subscriptions = (after' p'.1 p'.2).2.subscriptions
                  rw [hafter, hafter']
                  exact hrows

theorem onSubscriptionCreated_congr (h : s.subscriptions = s'.subscriptions) (data : Json) :
    (onSubscriptionCreated str s data).2.subscriptions
      = (onSubscriptionCreated str s' data).2.subscriptions := by
  unfold onSubscriptionCreated
  simp only
  split
  · exact h
  · refine atomic_congr h ?_ (fun _ _ => rfl) fun _ _ => rfl
    rw [h]
    split
    · rfl
    · rename_i obj stripeSubId customerId status _ _ sub _
      cases hprice : priceId obj with
      | error e => rfl
      | ok price =>
          cases hperiod : applyPeriod sub obj with
          | error e => rfl
          | ok sub' => exact save_congr h ..

theorem onSubscriptionUpdated_congr (h : s.subscriptions = s'.subscriptions) (data : Json) :
    (onSubscriptionUpdated str s data).2.subscriptions
      = (onSubscriptionUpdated str s' data).2.subscriptions := by
  unfold onSubscriptionUpdated
  simp only
  split
  · exact h
  · refine atomic_congr h ?_ (fun _ _ => rfl) fun _ _ => rfl
    rw [getBySubscriptionId_congr h]
    split
    · rfl
    · rfl
    · rename_i obj stripeSubId status _ _ sub _
      cases hflag : obj.get "cancel_at_period_end" (.bool false) with
      | error e => rfl
      | ok cancelAtPeriodEnd =>
          cases hperiod : applyPeriod sub obj with
          | error e => rfl
          | ok sub' =>
              show SameRows
                (booleanField cancelAtPeriodEnd >>= fun flag => some <$> save s sub'
                  sub'.stripeSubscriptionId (some sub'.stripePriceId) (charField str status) flag)
                (booleanField cancelAtPeriodEnd >>= fun flag => some <$> save s' sub'
                  sub'.stripeSubscriptionId (some sub'.stripePriceId) (charField str status) flag)
              cases booleanField cancelAtPeriodEnd with
              | error e => rfl
              | ok flag => exact save_congr h ..

/-- The rows after an event depend on the rows before it, and not on the
broker. -/
theorem processEvent_congr (h : s.subscriptions = s'.subscriptions) (now : Time)
    (up up' : Bool) (eventType : String) (eventData : Json) :
    (processEvent str s ⟨now, up, eventType, eventData⟩).2.subscriptions
      = (processEvent str s' ⟨now, up', eventType, eventData⟩).2.subscriptions := by
  unfold processEvent
  simp only
  cases EventType.ofValue? eventType with
  | none => exact h
  | some kind =>
      cases kind with
      | subscriptionCreated => exact onSubscriptionCreated_congr h eventData
      | subscriptionUpdated => exact onSubscriptionUpdated_congr h eventData
      | subscriptionDeleted =>
          simp only [onSubscriptionCanceled]
          split
          · exact h
          · exact atomic_congr h (saveStanding_congr h ..) (fun _ _ => rfl) fun _ _ => rfl
      | paymentSucceeded =>
          simp only [onPaymentSucceeded]
          split
          · exact h
          · split
            · exact atomic_congr h (saveStanding_congr h ..) (fun _ _ => rfl) fun _ _ => rfl
            · exact h
      | paymentFailed =>
          simp only [onPaymentFailed]
          split
          · exact h
          · split
            · refine atomic_congr h (saveStanding_congr h ..) (fun _ _ => ?_) fun _ _ => ?_
              · split <;> rfl
              · split <;> rfl
            · exact h
      | trialWillEnd =>
          simp only [onTrialEnding]
          split <;> exact h

end

end BillingService

namespace Pipeline

open StripeWebhook Worker

/-- An event as the broker carries it: id, type and data. -/
abbrev Carried := String × String × Json

def carried? : Message → Option Carried
  | .task (.handleStripeEvent eventId eventType eventData) => some (eventId, eventType, eventData)
  | _ => none

/-- The events that have been handed over, and those that still wait. -/
def accepted (s : Site) : List Carried := s.queue.filterMap fun t => carried? (.task t)

def waiting (b : Broker Message Outcome) : List Carried := b.pending.filterMap fun p => carried? p.1

/-- The rows after some events. -/
def apply (str : Json → String) (s : Site) (es : List StripeEvent) : Site :=
  es.foldl (fun s e => (BillingService.processEvent str s e).2) s

/-! ## Runs in order -/

/-- A delivery of Stripe, or a request that has nothing to do with billing. -/
def Unrelated (s s' : Site) : Prop :=
  s'.subscriptions = s.subscriptions ∧ s'.webhookEvents = s.webhookEvents
    ∧ accepted s' = accepted s

/-- The message at `i` is no event, or it is the first one that waits and the
attempt at it returns. -/
def NextInLine (str : Json → String) (w : Worker) (i : Nat) (a : Attempt) : Prop :=
  ∀ p, w.broker.pending[i]? = some p → ∀ e, carried? p.1 = some e →
    (w.broker.pending.take i).filterMap (fun p => carried? p.1) = []
      ∧ (BillingService.processEvent str w.accounts.toSite ⟨a.now, a.brokerUp, e.2.1, e.2.2⟩).1
        = .ok ()

def InOrder (str : Json → String) (cfg : StripeConfig) (w : Worker) : Label → Prop
  | .request accounts =>
      (∃ d : Delivery cfg, accounts.toSite = (deliver w.accounts.toSite d).2)
        ∨ Unrelated w.accounts.toSite accounts.toSite
  | .call _ => True
  | .redeliver i => ∀ p, w.broker.pending[i]? = some p → carried? p.1 = none
  | .attempt i a => NextInLine str w i a

/-- Every event handed over has its row in the log, and is there once. -/
structure Once (s : Site) : Prop where
  logged : ∀ e ∈ accepted s, Logged s e.1
  nodup : ((accepted s).map (·.1)).Nodup

/-- The accepted events are those processed, in this order, and those that
wait; and the rows are what the former have made of them. -/
structure Processed (str : Json → String) (s₀ : Site) (w : Worker) (es : List StripeEvent)
    (done : List Carried) : Prop where
  once : Once w.accounts.toSite
  order : accepted w.accounts.toSite = done ++ waiting w.broker
  events : es.map (fun e => (e.eventType, e.eventData)) = done.map (·.2)
  rows : w.accounts.subscriptions = (apply str s₀ es).subscriptions

section

variable {str : Json → String} {cfg : StripeConfig} {s s' s₀ : Site} {w w' : Worker}
  {es : List StripeEvent} {done : List Carried}

/-! ## Deliveries -/

theorem accepted_append {tasks : List Task} (h : s'.queue = s.queue ++ tasks) :
    accepted s' = accepted s ++ tasks.filterMap fun t => carried? (.task t) := by
  unfold accepted
  rw [h, List.filterMap_append]

/-- A delivery leaves the rows; it hands its event over if the id is new. -/
theorem deliver_accepts (s : Site) (d : Delivery cfg) :
    (deliver s d).2.subscriptions = s.subscriptions
      ∧ (∀ id, Logged s id → Logged (deliver s d).2 id)
      ∧ ((deliver s d).2.queue = s.queue
        ∨ ¬ Logged s d.event.id ∧ Logged (deliver s d).2 d.event.id
          ∧ (deliver s d).2.queue
            = s.queue ++ [.handleStripeEvent d.event.id d.event.type (.obj d.event.data)]) := by
  by_cases hlogged : Logged s d.event.id
  · rw [deliver_of_logged hlogged]
    exact ⟨rfl, fun _ h => h, Or.inl rfl⟩
  · by_cases hlength : d.event.id.length ≤ 255
    · obtain ⟨webhookEvents, hget, hlog⟩ := getOrCreate_new hlogged hlength
      have hsite : (deliver s d).2 = (delay { s with webhookEvents } d.brokerUp d.event).2 := by
        rw [deliver_eq, hget]
        simp only
        split
        · rename_i h
          rw [h]
        · rename_i h
          rw [h]
      rw [hsite]
      unfold delay
      cases d.brokerUp with
      | true =>
          exact ⟨rfl, fun id h => (hlog id).mpr (Or.inl h),
            Or.inr ⟨hlogged, (hlog _).mpr (Or.inr rfl), rfl⟩⟩
      | false => exact ⟨rfl, fun id h => (hlog id).mpr (Or.inl h), Or.inl rfl⟩
    · rw [deliver_of_long hlogged (Nat.not_le.mp hlength)]
      exact ⟨rfl, fun _ h => h, Or.inl rfl⟩

/-- What a request hands over keeps every event there once. -/
theorem once_deliver (hs : Once s) (d : Delivery cfg) : Once (deliver s d).2 := by
  obtain ⟨-, hkept, hqueue⟩ := deliver_accepts s d
  rcases hqueue with hsame | ⟨hnew, hlogged, hadded⟩
  · have haccepted : accepted (deliver s d).2 = accepted s := by
      unfold accepted
      rw [hsame]
    exact ⟨fun e he => hkept e.1 (hs.logged e (haccepted ▸ he)), haccepted ▸ hs.nodup⟩
  · have haccepted : accepted (deliver s d).2
        = accepted s ++ [(d.event.id, d.event.type, .obj d.event.data)] := accepted_append hadded
    refine ⟨fun e he => ?_, ?_⟩
    · rw [haccepted] at he
      rcases List.mem_append.mp he with he | he
      · exact hkept e.1 (hs.logged e he)
      · rw [List.mem_singleton.mp he]
        exact hlogged
    · rw [haccepted, List.map_append, List.map_cons, List.map_nil, List.nodup_append]
      refine ⟨hs.nodup, List.nodup_singleton _, fun id hid id' hid' heq => ?_⟩
      obtain ⟨e, he, rfl⟩ := List.mem_map.mp hid
      have hid : e.1 = d.event.id := heq.trans (List.mem_singleton.mp hid')
      exact hnew (hid ▸ hs.logged e he)

theorem once_congr (hs : Once s) (hlog : s'.webhookEvents = s.webhookEvents)
    (haccepted : accepted s' = accepted s) : Once s' := by
  refine ⟨fun e he => ?_, haccepted ▸ hs.nodup⟩
  have hlogged := hs.logged e (haccepted ▸ he)
  unfold Logged at hlogged ⊢
  rw [hlog]
  exact hlogged

/-! ## What waits -/

theorem waiting_publish (b : Broker Message Outcome) (messages : List Message) :
    waiting (b.publish messages) = waiting b ++ messages.filterMap carried? := by
  unfold waiting Broker.publish
  rw [List.filterMap_append, List.filterMap_map]
  rfl

/-- The events among what is handed over are those that come to the queue. -/
theorem accepted_handed {accounts accounts' : AccountSite}
    (h : accounts.queue <+: accounts'.queue) :
    accepted accounts'.toSite
      = accepted accounts.toSite ++ (handed accounts accounts').filterMap carried? := by
  obtain ⟨tasks, htasks⟩ := h
  rw [handed_append htasks.symm, List.filterMap_map]
  exact accepted_append htasks.symm

/-- A list read at one of its places. -/
theorem filterMap_at {α β : Type} {l : List α} {i : Nat} {x : α} (f : α → Option β)
    (h : l[i]? = some x) :
    l.filterMap f = (l.take i).filterMap f ++ ((f x).toList ++ (l.drop (i + 1)).filterMap f) := by
  obtain ⟨hi, rfl⟩ := List.getElem?_eq_some_iff.mp h
  have hsplit : l.take i ++ l[i] :: l.drop (i + 1) = l := by
    rw [List.getElem_cons_drop, List.take_append_drop]
  conv_lhs => rw [← hsplit]
  rw [List.filterMap_append, List.filterMap_cons]
  cases f l[i] with
  | none => rfl
  | some y => rfl

theorem filterMap_eraseIdx {α β : Type} (l : List α) (i : Nat) (f : α → Option β) :
    (l.eraseIdx i).filterMap f = (l.take i).filterMap f ++ (l.drop (i + 1)).filterMap f := by
  rw [List.eraseIdx_eq_take_drop_succ, List.filterMap_append]

/-- A message that is no event leaves the line as it was. -/
theorem waiting_settle_other {b : Broker Message Outcome} {i retries : Nat} {m : Message}
    (hi : b.pending[i]? = some (m, retries)) (hm : carried? m = none)
    (verdict : Broker.Verdict Outcome) : waiting (b.settle maxRetries i verdict) = waiting b := by
  have hwaiting := filterMap_at (fun p : Message × Nat => carried? p.1) hi
  simp only [hm, Option.toList_none, List.nil_append] at hwaiting
  rcases Broker.settle_cases maxRetries hi verdict with ⟨_, hdone⟩ | ⟨-, hagain⟩
  · rw [hdone]
    show (b.pending.eraseIdx i).filterMap _ = b.pending.filterMap _
    rw [filterMap_eraseIdx, hwaiting]
  · rw [hagain]
    have hnone : [(m, retries + 1)].filterMap (fun p => carried? p.1) = [] :=
      List.filterMap_cons_none hm
    show (b.pending.eraseIdx i ++ [(m, retries + 1)]).filterMap _ = b.pending.filterMap _
    rw [List.filterMap_append, filterMap_eraseIdx, hnone, hwaiting]
    exact List.append_nil _

/-- The first in line leaves it. -/
theorem waiting_finish_first {b : Broker Message Outcome} {i retries : Nat} {m : Message}
    {e : Carried} (hi : b.pending[i]? = some (m, retries)) (hm : carried? m = some e)
    (hfirst : (b.pending.take i).filterMap (fun p => carried? p.1) = []) (outcome : Outcome) :
    waiting b = e :: waiting (b.finish i m retries outcome) := by
  have hwaiting := filterMap_at (fun p : Message × Nat => carried? p.1) hi
  simp only [hm, Option.toList_some, hfirst] at hwaiting
  show b.pending.filterMap _ = e :: (b.pending.eraseIdx i).filterMap _
  rw [filterMap_eraseIdx, hwaiting, hfirst]
  rfl

theorem waiting_redeliver {b : Broker Message Outcome} {i : Nat}
    (h : ∀ p, b.pending[i]? = some p → carried? p.1 = none) :
    waiting (b.redeliver i) = waiting b := by
  unfold Broker.redeliver
  split
  · rfl
  · rename_i m retries hi
    have hnone : [(m, retries)].filterMap (fun p => carried? p.1) = [] :=
      List.filterMap_cons_none (h _ hi)
    show (b.pending ++ [(m, retries)]).filterMap _ = b.pending.filterMap _
    rw [List.filterMap_append, hnone]
    exact List.append_nil _

/-! ## One step -/

theorem carried?_some {m : Message} {e : Carried} (h : carried? m = some e) :
    m = .task (.handleStripeEvent e.1 e.2.1 e.2.2) := by
  unfold carried? at h
  split at h
  · obtain rfl := Option.some.inj h
    rfl
  · cases h

/-- What an attempt hands over is no event. -/
theorem handed_other (str : Json → String) (mail : MailConfig) (a : Attempt) (s : AccountSite)
    (cache : IdempotencyService.Cache String) (m : Message) :
    (handed s (perform str mail a s cache m).2.1).filterMap carried? = [] := by
  rcases perform_hands str mail a s cache m with hsame | ⟨-, tenantId, hone⟩
  · rw [handed_same hsame]
    rfl
  · rw [handed_append hone]
    rfl

/-- A task that is no event leaves the accounts alone. -/
theorem perform_other {m : Message} (hm : carried? m = none) (str : Json → String)
    (mail : MailConfig) (a : Attempt) (s : AccountSite)
    (cache : IdempotencyService.Cache String) : (perform str mail a s cache m).2.1 = s := by
  cases m with
  | task t =>
      cases t with
      | handleStripeEvent eventId eventType eventData => cases hm
      | _ => rfl
  | _ => rfl

theorem Processed.request (hw : Processed str s₀ w es done) {accounts : AccountSite}
    (hqueue : w.accounts.queue <+: accounts.queue) (honce : Once accounts.toSite)
    (hrows : accounts.subscriptions = w.accounts.subscriptions) :
    Processed str s₀
      { w with accounts, broker := w.broker.publish (handed w.accounts accounts) } es done where
  once := honce
  order := by
    rw [waiting_publish, accepted_handed hqueue, hw.order, List.append_assoc]
  events := hw.events
  rows := hrows.trans hw.rows

theorem Processed.attempt_other (hw : Processed str s₀ w es done) {mail : MailConfig} {i : Nat}
    {a : Attempt} {m : Message} {retries : Nat} (hi : w.broker.pending[i]? = some (m, retries))
    (hm : carried? m = none) : Processed str s₀ (w.attempt str mail i a) es done := by
  rw [attempt_eq hi]
  have haccounts := perform_other hm str mail a w.accounts w.cache
  refine ⟨?_, ?_, hw.events, ?_⟩
  · simp only [haccounts]
    exact hw.once
  · simp only [waiting_publish, handed_other, waiting_settle_other hi hm, List.append_nil]
    simp only [haccounts]
    exact hw.order
  · simp only [haccounts]
    exact hw.rows

theorem Processed.attempt_first (hw : Processed str s₀ w es done) {mail : MailConfig} {i : Nat}
    {a : Attempt} {m : Message} {retries : Nat} {e : Carried}
    (hi : w.broker.pending[i]? = some (m, retries)) (hm : carried? m = some e)
    (hfirst : (w.broker.pending.take i).filterMap (fun p => carried? p.1) = [])
    (hreturns : (BillingService.processEvent str w.accounts.toSite
      ⟨a.now, a.brokerUp, e.2.1, e.2.2⟩).1 = .ok ()) :
    Processed str s₀ (w.attempt str mail i a) (es ++ [⟨a.now, a.brokerUp, e.2.1, e.2.2⟩])
      (done ++ [e]) := by
  obtain rfl := carried?_some hm
  have hsite : (perform str mail a w.accounts w.cache
      (.task (.handleStripeEvent e.1 e.2.1 e.2.2))).2.1.toSite
      = (BillingService.processEvent str w.accounts.toSite
        ⟨a.now, a.brokerUp, e.2.1, e.2.2⟩).2 := handleStripeEvent_site ..
  have hresult : (perform str mail a w.accounts w.cache
      (.task (.handleStripeEvent e.1 e.2.1 e.2.2))).1
      = .returned (some ("stripe_event:processed:" ++ e.1)) none := by
    show (Tasks.handleStripeEvent str a w.accounts.toSite e.1 e.2.1 e.2.2).1 = _
    unfold Tasks.handleStripeEvent
    split
    · rfl
    · rename_i err s' hraised
      rw [hraised] at hreturns
      cases hreturns
  have hsettle : w.broker.settle maxRetries i
      ((TaskResult.returned (some ("stripe_event:processed:" ++ e.1)) none).verdict a.retryUp)
      = w.broker.finish i (.task (.handleStripeEvent e.1 e.2.1 e.2.2)) retries
        (.quiet (some ("stripe_event:processed:" ++ e.1))) := by
    unfold Broker.settle
    rw [hi]
    rfl
  have hqueue := perform_extends str mail a w.accounts w.cache
    (.task (.handleStripeEvent e.1 e.2.1 e.2.2))
  have haccepted := (accepted_handed hqueue).trans
    (by rw [handed_other, List.append_nil])
  have hframe := BillingService.processEvent_frame str w.accounts.toSite
    ⟨a.now, a.brokerUp, e.2.1, e.2.2⟩
  have hline := waiting_finish_first hi hm hfirst
    (.quiet (some ("stripe_event:processed:" ++ e.1)))
  rw [attempt_eq hi, hresult, hsettle]
  refine ⟨once_congr hw.once ?_ haccepted, ?_, ?_, ?_⟩
  · rw [hsite]
    exact hframe.webhookEvents
  · rw [waiting_publish, handed_other, List.append_nil, haccepted, hw.order, hline,
      List.append_assoc]
    rfl
  · rw [List.map_append, List.map_append, hw.events]
    rfl
  · show (perform str mail a w.accounts w.cache _).2.1.toSite.subscriptions = _
    rw [hsite, apply, List.foldl_append]
    exact BillingService.processEvent_congr hw.rows ..

theorem processed_step {mail : MailConfig} {l : Label} (hw : Processed str s₀ w es done)
    (h : Step str mail w l w') (horder : InOrder str cfg w l) :
    ∃ es done, Processed str s₀ w' es done := by
  obtain ⟨hadmissible, rfl⟩ := h
  cases l with
  | request accounts =>
      rcases horder with ⟨d, hdelivered⟩ | ⟨hrows, hlog, haccepted⟩
      · refine ⟨es, done, hw.request hadmissible ?_ ?_⟩
        · rw [hdelivered]
          exact once_deliver hw.once d
        · rw [hdelivered]
          exact (deliver_accepts w.accounts.toSite d).1
      · exact ⟨es, done, hw.request hadmissible (once_congr hw.once hlog haccepted) hrows⟩
  | call m =>
      have hcalled : carried? m = none := by
        cases m with
        | task t => cases hadmissible
        | _ => rfl
      have hnone : [m].filterMap carried? = [] := List.filterMap_cons_none hcalled
      refine ⟨es, done, hw.once, ?_, hw.events, hw.rows⟩
      show _ = done ++ waiting (w.broker.publish [m])
      rw [waiting_publish, hnone, List.append_nil]
      exact hw.order
  | redeliver i =>
      refine ⟨es, done, hw.once, ?_, hw.events, hw.rows⟩
      show _ = done ++ waiting (w.broker.redeliver i)
      rw [waiting_redeliver horder]
      exact hw.order
  | attempt i a =>
      obtain ⟨m, retries, hi⟩ := pending_of_lt hadmissible
      cases hm : carried? m with
      | none => exact ⟨es, done, hw.attempt_other hi hm⟩
      | some e =>
          obtain ⟨hfirst, hreturns⟩ := horder _ hi e hm
          exact ⟨_, _, hw.attempt_first hi hm hfirst hreturns⟩

/-- Whatever is delivered again, requested and mailed in between, the accepted
events, each id once, are those processed so far and those that wait, and the
subscriptions are what processing the former in this order makes of them. -/
theorem pipeline_in_order {mail : MailConfig} {accounts : AccountSite}
    {cache : IdempotencyService.Cache String} {ls : List Label} (hstart : Once accounts.toSite)
    (h : Lts.Run (Lts.Guarded (Step str mail) (InOrder str cfg)) (start accounts cache) ls w) :
    ∃ es done, Processed str accounts.toSite w es done := by
  refine h.invariant (I := fun w => ∃ es done, Processed str accounts.toSite w es done)
    (fun v l v' hv hstep => ?_) ⟨[], [], hstart, ?_, rfl, rfl⟩
  · obtain ⟨es, done, hv⟩ := hv
    exact processed_step hv hstep.1 hstep.2
  · show accounts.queue.filterMap _ = ((accounts.queue.map _).map _).filterMap _
    rw [List.map_map, List.filterMap_map]
    rfl

end

/-! ## A failed payment delivered twice -/

/-- A payment that went through, accepted and not processed yet. -/
def paid : Json := (SubscriptionLifecycle.invoice 0 .paymentSucceeded).eventData

def subscribed : AccountSite :=
  DemoSeed.accounts.withSite
    { SubscriptionLifecycle.subscribed with
      webhookEvents :=
        ⟨[⟨"evt_0", "invoice.payment_succeeded", paid⟩], List.pairwise_singleton ..⟩
      queue := [.handleStripeEvent "evt_0" "invoice.payment_succeeded" paid] } rfl

theorem subscribed_once : Once subscribed.toSite where
  logged e he := by
    obtain rfl := List.mem_singleton.mp he
    rfl
  nodup := List.nodup_singleton _

/-- After the first delivery; the second one changes nothing. -/
def notified : AccountSite :=
  subscribed.withSite (deliver subscribed.toSite (delivery true)).2 rfl

def inTurn : List Label :=
  [.request notified, .request notified, .attempt 0 (attemptAt 0), .attempt 0 (attemptAt 0)]

def paidFor : Worker :=
  inTurn.foldl (next SubscriptionLifecycle.str plainMail) (start subscribed .empty)

theorem inTurn_run :
    Lts.Run (Lts.Guarded (Step SubscriptionLifecycle.str plainMail)
      (InOrder SubscriptionLifecycle.str config)) (start subscribed .empty) inTurn paidFor := by
  refine .cons ⟨⟨?_, rfl⟩, Or.inl ⟨delivery true, rfl⟩⟩
    (.cons ⟨⟨List.prefix_rfl, rfl⟩, Or.inl ⟨delivery true, ?_⟩⟩
      (.cons ⟨⟨?_, rfl⟩, ?_⟩ (.cons ⟨⟨?_, rfl⟩, ?_⟩ (.nil _))))
  · exact ⟨_, rfl⟩
  · rfl
  · show 0 < List.length _
    decide
  · intro p hp e he
    obtain rfl := Option.some.inj hp
    obtain rfl := Option.some.inj he
    exact ⟨rfl, rfl⟩
  · show 0 < List.length _
    decide
  · intro p hp e he
    obtain rfl := Option.some.inj hp
    obtain rfl := Option.some.inj he
    exact ⟨rfl, rfl⟩

theorem pipeline_in_order_inTurn :
    ∃ es done, Processed SubscriptionLifecycle.str subscribed.toSite paidFor es done :=
  pipeline_in_order subscribed_once inTurn_run

/-- One grace period, from the one attempt at the failed payment. -/
example : paidFor.accounts.subscriptions.rows.map (·.gracePeriodEnd) = [some (days 7)] := by
  decide

end Pipeline

end SaasKit
