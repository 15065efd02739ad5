import Mathlib.Data.List.Induction
import SaasKit.BillingService
import SaasKit.DemoSeed

/-!
# The Stripe webhook: `StripeWebhookView`

One delivery checks the signature, logs the event id in `WebhookEvent` and
hands the event to the broker. The log row is committed before the broker
is asked, and `delay` raises when it does not answer. The row then stands
for an event that nobody will process: Stripe delivers again, finds the row
and is told that the event is a duplicate.

`deliver_of_logged`, `deliver_of_queued` and `deliver_of_failed` say what one
delivery of a handled event does; `acknowledged_iff` says for which
sequences of deliveries every acknowledged event has been enqueued.
-/

namespace SaasKit

/-- The part of `stripe.Event` the view reads; `data` is a dict. -/
structure Event where
  id : String
  type : String
  data : List (String × Json)

inductive StripeError where
  | valueError
  | signatureVerificationError
  deriving DecidableEq, Repr

/-- The webhook secret and `stripe.Webhook.construct_event`, on the payload,
the signature header and the secret. -/
structure StripeConfig where
  webhookSecret : String
  constructEvent : String → String → String → Except StripeError Event

structure WebhookResponse where
  status : Nat
  body : List (String × String)
  deriving DecidableEq, Repr

namespace StripeWebhook

/-- `HANDLED_EVENTS`: all others are acknowledged and ignored. -/
def handledEvents : List String :=
  ["customer.subscription.created", "customer.subscription.updated",
    "customer.subscription.deleted", "invoice.payment_succeeded", "invoice.payment_failed",
    "customer.subscription.trial_will_end"]

/-- The id has a row in the log. -/
def Logged (s : Site) (id : String) : Prop :=
  s.webhookEvents.any (fun row => row.stripeEventId == id) = true

instance (s : Site) (id : String) : Decidable (Logged s id) :=
  inferInstanceAs (Decidable (_ = true))

/-- `WebhookEvent.objects.get_or_create(stripe_event_id=...)`; the flag is
`created`. The key is 255 characters wide. -/
def getOrCreate (s : Site) (event : Event) : Except Exc (Bool × Site) :=
  if Logged s event.id then .ok (false, s)
  else if 255 < event.id.length then .error .dataError
  else match s.webhookEvents.insert? ⟨event.id, event.type, .obj event.data⟩ with
    | none => .error .integrityError
    | some webhookEvents => .ok (true, { s with webhookEvents })

/-- `handle_stripe_event.delay(...)`. -/
def delay (s : Site) (brokerUp : Bool) (event : Event) : Except Exc Unit × Site :=
  if brokerUp then
    (.ok (), { s with
      queue := s.queue ++ [.handleStripeEvent event.id event.type (.obj event.data)] })
  else (.error .operationalError, s)

/-- The view. An exception that leaves it becomes a 500. -/
def post (cfg : StripeConfig) (s : Site) (payload sigHeader : String) (brokerUp : Bool) :
    Except Exc WebhookResponse × Site :=
  if cfg.webhookSecret = "" then (.ok ⟨500, [("error", "misconfigured")]⟩, s)
  else match cfg.constructEvent payload sigHeader cfg.webhookSecret with
    | .error .valueError => (.ok ⟨400, [("error", "invalid_payload")]⟩, s)
    | .error .signatureVerificationError => (.ok ⟨400, [("error", "invalid_signature")]⟩, s)
    | .ok event =>
        if event.type ∉ handledEvents then
          (.ok ⟨200, [("status", "ignored"), ("type", event.type)]⟩, s)
        else match getOrCreate s event with
          | .error e => (.error e, s)
          | .ok (false, s) => (.ok ⟨200, [("status", "duplicate")]⟩, s)
          | .ok (true, s) =>
              match delay s brokerUp event with
              | (.error e, s) => (.error e, s)
              | (.ok (), s) => (.ok ⟨200, [("status", "queued")]⟩, s)

/-- A 2xx answer. -/
def Acknowledges : Except Exc WebhookResponse → Prop
  | .ok response => 200 ≤ response.status ∧ response.status < 300
  | .error _ => False

/-! ## One delivery -/

/-- A delivery of a handled event with a valid signature. -/
structure Delivery (cfg : StripeConfig) where
  payload : String
  sigHeader : String
  brokerUp : Bool
  event : Event
  configured : cfg.webhookSecret ≠ ""
  signed : cfg.constructEvent payload sigHeader cfg.webhookSecret = .ok event
  handled : event.type ∈ handledEvents

/-- The event has been handed to the broker. -/
def Enqueued (s : Site) (id : String) : Prop :=
  ∃ eventType eventData, Task.handleStripeEvent id eventType eventData ∈ s.queue

section

variable {cfg : StripeConfig} {s s' : Site} {d : Delivery cfg} {id : String}

def deliver (s : Site) (d : Delivery cfg) : Except Exc WebhookResponse × Site :=
  post cfg s d.payload d.sigHeader d.brokerUp

/-- What the view does once the event is known to be genuine. -/
theorem deliver_eq : deliver s d =
    match getOrCreate s d.event with
    | .error e => (.error e, s)
    | .ok (false, s) => (.ok ⟨200, [("status", "duplicate")]⟩, s)
    | .ok (true, s) =>
        match delay s d.brokerUp d.event with
        | (.error e, s) => (.error e, s)
        | (.ok (), s) => (.ok ⟨200, [("status", "queued")]⟩, s) := by
  unfold deliver post
  rw [if_neg d.configured, d.signed]
  simp only [d.handled, not_true_eq_false, if_false]

theorem deliver_of_logged (h : Logged s d.event.id) :
    deliver s d = (.ok ⟨200, [("status", "duplicate")]⟩, s) := by
  have hget : getOrCreate s d.event = .ok (false, s) := if_pos h
  rw [deliver_eq, hget]

theorem logged_insert {event : Event}
    {webhookEvents : Table WebhookEvent (sameKey WebhookEvent.stripeEventId)}
    (h : s.webhookEvents.insert? ⟨event.id, event.type, .obj event.data⟩ = some webhookEvents) :
    Logged { s with webhookEvents } id ↔ Logged s id ∨ event.id = id := by
  unfold Logged
  rw [Table.any_iff, Table.any_iff]
  constructor
  · rintro ⟨row, hrow, hid⟩
    rcases (Table.mem_insert? h).mp hrow with hrow | rfl
    · exact Or.inl ⟨row, hrow, hid⟩
    · exact Or.inr (eq_of_beq hid)
  · rintro (⟨row, hrow, hid⟩ | hid)
    · exact ⟨row, (Table.mem_insert? h).mpr (Or.inl hrow), hid⟩
    · exact ⟨_, (Table.mem_insert? h).mpr (Or.inr rfl), beq_iff_eq.mpr hid⟩

/-- A new id of a length the key can hold is logged. -/
theorem getOrCreate_new {event : Event} (hnew : ¬ Logged s event.id)
    (hlength : event.id.length ≤ 255) :
    ∃ webhookEvents, getOrCreate s event = .ok (true, { s with webhookEvents })
      ∧ ∀ id, Logged { s with webhookEvents } id ↔ Logged s id ∨ event.id = id := by
  have hinsert : ∃ webhookEvents,
      s.webhookEvents.insert? ⟨event.id, event.type, .obj event.data⟩ = some webhookEvents :=
    Table.insert?_of_not_clash fun row hrow => by
      have := Table.any_eq_false.mp (Bool.not_eq_true _ ▸ hnew) row hrow
      simpa [sameKey] using this
  obtain ⟨webhookEvents, hinsert⟩ := hinsert
  refine ⟨webhookEvents, ?_, fun id => logged_insert hinsert⟩
  unfold getOrCreate
  rw [if_neg hnew, if_neg (Nat.not_lt.mpr hlength), hinsert]

theorem deliver_of_long (hnew : ¬ Logged s d.event.id) (hlength : 255 < d.event.id.length) :
    deliver s d = (.error .dataError, s) := by
  have hget : getOrCreate s d.event = .error .dataError := by
    unfold getOrCreate
    rw [if_neg hnew, if_pos hlength]
  rw [deliver_eq, hget]

/-- The broker answers: the event is logged and enqueued. -/
theorem deliver_of_queued (hnew : ¬ Logged s d.event.id) (hlength : d.event.id.length ≤ 255)
    (hup : d.brokerUp = true) :
    Acknowledges (deliver s d).1
      ∧ (deliver s d).2.queue
        = s.queue ++ [.handleStripeEvent d.event.id d.event.type (.obj d.event.data)]
      ∧ ∀ id, Logged (deliver s d).2 id ↔ Logged s id ∨ d.event.id = id := by
  obtain ⟨webhookEvents, hget, hlogged⟩ := getOrCreate_new hnew hlength
  have hdeliver : deliver s d = (.ok ⟨200, [("status", "queued")]⟩,
      { s with
        webhookEvents
        queue := s.queue
          ++ [.handleStripeEvent d.event.id d.event.type (.obj d.event.data)] }) := by
    rw [deliver_eq, hget]
    simp only [delay, hup, if_true]
  rw [hdeliver]
  exact ⟨⟨by decide, by decide⟩, rfl, hlogged⟩

/-- The broker does not answer: the event is logged all the same. -/
theorem deliver_of_failed (hnew : ¬ Logged s d.event.id) (hlength : d.event.id.length ≤ 255)
    (hdown : d.brokerUp = false) :
    ¬ Acknowledges (deliver s d).1 ∧ (deliver s d).2.queue = s.queue
      ∧ ∀ id, Logged (deliver s d).2 id ↔ Logged s id ∨ d.event.id = id := by
  obtain ⟨webhookEvents, hget, hlogged⟩ := getOrCreate_new hnew hlength
  have hdeliver : deliver s d = (.error .operationalError, { s with webhookEvents }) := by
    rw [deliver_eq, hget]
    simp only [delay, hdown]
    rfl
  rw [hdeliver]
  exact ⟨fun h => h, rfl, hlogged⟩

/-! ## Sequences of deliveries -/

def run (s : Site) (ds : List (Delivery cfg)) : Site :=
  ds.foldl (fun s d => (deliver s d).2) s

theorem run_snoc (ds : List (Delivery cfg)) : run s (ds ++ [d]) = (deliver (run s ds) d).2 := by
  simp [run, List.foldl_append]

theorem run_append (ds ds' : List (Delivery cfg)) : run s (ds ++ ds') = run (run s ds) ds' := by
  simp [run, List.foldl_append]

/-- The log and the broker agree. -/
def Settled (s : Site) : Prop :=
  ∀ id, Logged s id ↔ Enqueued s id

/-- What one delivery does to the log and the queue. -/
theorem deliver_cases (s : Site) (d : Delivery cfg) :
    (deliver s d).2 = s
      ∨ ¬ Logged s d.event.id
        ∧ (∀ id, Logged (deliver s d).2 id ↔ Logged s id ∨ d.event.id = id)
        ∧ ((∀ id, Enqueued (deliver s d).2 id ↔ Enqueued s id ∨ d.event.id = id)
          ∨ d.event.id.length ≤ 255 ∧ d.brokerUp = false
            ∧ ∀ id, Enqueued (deliver s d).2 id ↔ Enqueued s id) := by
  by_cases hlogged : Logged s d.event.id
  · exact Or.inl (congrArg Prod.snd (deliver_of_logged hlogged))
  · by_cases hlength : d.event.id.length ≤ 255
    · right
      cases hup : d.brokerUp with
      | true =>
          obtain ⟨-, hqueue, hlog⟩ := deliver_of_queued hlogged hlength hup
          refine ⟨hlogged, hlog, Or.inl fun id => ?_⟩
          simp only [Enqueued, hqueue, List.mem_append, List.mem_singleton,
            Task.handleStripeEvent.injEq]
          constructor
          · rintro ⟨t, data, hold | ⟨rfl, -, -⟩⟩
            · exact Or.inl ⟨t, data, hold⟩
            · exact Or.inr rfl
          · rintro (⟨t, data, hold⟩ | rfl)
            · exact ⟨t, data, Or.inl hold⟩
            · exact ⟨_, _, Or.inr ⟨rfl, rfl, rfl⟩⟩
      | false =>
          obtain ⟨-, hqueue, hlog⟩ := deliver_of_failed hlogged hlength hup
          refine ⟨hlogged, hlog, Or.inr ⟨hlength, rfl, fun id => ?_⟩⟩
          simp only [Enqueued, hqueue]
    · exact Or.inl (congrArg Prod.snd (deliver_of_long hlogged (Nat.not_le.mp hlength)))

/-- The fate of an id is settled with its row: no later delivery enqueues
it. -/
theorem fate_step (d : Delivery cfg) (h : Logged s id) :
    Logged (deliver s d).2 id ∧ (Enqueued (deliver s d).2 id ↔ Enqueued s id) := by
  rcases deliver_cases s d with hsame | ⟨hnew, hlogged, hqueue⟩
  · rw [hsame]
    exact ⟨h, Iff.rfl⟩
  · have hother : d.event.id ≠ id := fun heq => hnew (heq ▸ h)
    refine ⟨(hlogged id).mpr (Or.inl h), ?_⟩
    rcases hqueue with hadded | ⟨-, -, hkept⟩
    · rw [hadded id]
      exact or_iff_left hother
    · exact hkept id

theorem fate_run (ds : List (Delivery cfg)) (h : Logged s id) :
    Logged (run s ds) id ∧ (Enqueued (run s ds) id ↔ Enqueued s id) := by
  induction ds generalizing s with
  | nil => exact ⟨h, Iff.rfl⟩
  | cons d ds ih =>
      obtain ⟨hlogged, hqueue⟩ := fate_step d h
      obtain ⟨hlogged', hqueue'⟩ := ih hlogged
      exact ⟨hlogged', hqueue'.trans hqueue⟩

/-- Nothing is enqueued without being logged. -/
theorem logged_of_enqueued (hs : Settled s) (ds : List (Delivery cfg)) :
    ∀ id, Enqueued (run s ds) id → Logged (run s ds) id := by
  have hkept : ∀ (ds : List (Delivery cfg)) (s : Site), (∀ id, Enqueued s id → Logged s id) →
      ∀ id, Enqueued (run s ds) id → Logged (run s ds) id := by
    intro ds
    induction ds with
    | nil => exact fun _ hs => hs
    | cons d ds ih =>
        intro s hs
        refine ih (deliver s d).2 fun id hid => ?_
        rcases deliver_cases s d with hsame | ⟨-, hlogged, hqueue⟩
        · rw [hsame] at hid ⊢
          exact hs id hid
        · rcases hqueue with hadded | ⟨-, -, hsame⟩
          · exact (hlogged id).mpr (((hadded id).mp hid).imp_left (hs id))
          · exact (hlogged id).mpr (Or.inl (hs id ((hsame id).mp hid)))
  exact hkept ds s fun id => (hs id).mpr

/-- A logged id has been enqueued, or its first delivery met a broker that
did not answer. -/
theorem enqueued_or_lost (hs : Settled s) (ds : List (Delivery cfg)) :
    Logged (run s ds) id → Enqueued (run s ds) id
      ∨ ∃ pre d post, ds = pre ++ d :: post ∧ d.event.id = id ∧ ¬ Logged (run s pre) id
          ∧ d.event.id.length ≤ 255 ∧ d.brokerUp = false := by
  -- induction on the length of the sequence, its last delivery split off
  induction ds using List.reverseRecOn with
  | nil => exact fun h => Or.inl ((hs id).mp h)
  | append_singleton ds x ih =>
      intro h
      rw [run_snoc] at h ⊢
      by_cases hbefore : Logged (run s ds) id
      · rcases ih hbefore with hdone | ⟨pre, d, post, rfl, hid, hnew, hlength, hdown⟩
        · exact Or.inl ((fate_step x hbefore).2.mpr hdone)
        · exact Or.inr ⟨pre, d, post ++ [x], by simp, hid, hnew, hlength, hdown⟩
      · rcases deliver_cases (run s ds) x with hsame | ⟨-, hlogged, hqueue⟩
        · rw [hsame] at h
          exact absurd h hbefore
        · have hid : x.event.id = id := ((hlogged id).mp h).resolve_left hbefore
          rcases hqueue with hadded | ⟨hlength, hdown, -⟩
          · exact Or.inl ((hadded id).mpr (Or.inr hid))
          · exact Or.inr ⟨ds, x, [], rfl, hid, hbefore, hlength, hdown⟩

/-- An acknowledged delivery has had its event enqueued. -/
def Honest (s : Site) (ds : List (Delivery cfg)) : Prop :=
  ∀ pre d, pre ++ [d] <+: ds → Acknowledges (deliver (run s pre) d).1 →
    Enqueued (run s (pre ++ [d])) d.event.id

/-- Every acknowledged event has been enqueued exactly when no event whose
first delivery meets a broker that does not answer is delivered again. -/
theorem acknowledged_iff (hs : Settled s) (ds : List (Delivery cfg)) :
    Honest s ds
      ↔ ∀ pre d mid d', pre ++ d :: (mid ++ [d']) <+: ds → d'.event.id = d.event.id →
          ¬ Logged (run s pre) d.event.id → d.event.id.length ≤ 255 → d.brokerUp = true := by
  constructor
  · intro hhonest pre d mid d' hpre hid hnew hlength
    by_contra hdown
    obtain ⟨-, hqueue, hlogged⟩ := deliver_of_failed hnew hlength (Bool.not_eq_true _ ▸ hdown)
    have hlost : ¬ Enqueued (deliver (run s pre) d).2 d.event.id := by
      rintro ⟨t, data, hmem⟩
      rw [hqueue] at hmem
      exact hnew (logged_of_enqueued hs pre _ ⟨t, data, hmem⟩)
    have hfate := fun ds : List (Delivery cfg) =>
      fate_run ds ((hlogged d.event.id).mpr (Or.inr rfl))
    have hrun : ∀ ds, run s (pre ++ d :: ds) = run (deliver (run s pre) d).2 ds := fun ds =>
      run_append pre (d :: ds)
    have hagain : Logged (run s (pre ++ d :: mid)) d'.event.id := by
      rw [hid, hrun]
      exact (hfate mid).1
    have hack : Acknowledges (deliver (run s (pre ++ d :: mid)) d').1 := by
      rw [deliver_of_logged hagain]
      exact ⟨by decide, by decide⟩
    have henqueued := hhonest (pre ++ d :: mid) d' (by simpa using hpre) hack
    rw [List.append_assoc, List.cons_append, hrun, hid] at henqueued
    exact hlost ((hfate (mid ++ [d'])).2.mp henqueued)
  · intro hcond pre d hpre hack
    rw [run_snoc]
    by_cases hlogged : Logged (run s pre) d.event.id
    · rw [deliver_of_logged hlogged]
      refine (enqueued_or_lost hs pre hlogged).resolve_right ?_
      rintro ⟨front, x, back, rfl, hid, hnew, hlength, hdown⟩
      have hup := hcond front x back d (by simpa using hpre) hid.symm (hid ▸ hnew) hlength
      rw [hdown] at hup
      cases hup
    · by_cases hlength : d.event.id.length ≤ 255
      · cases hup : d.brokerUp with
        | true =>
            obtain ⟨-, hqueue, -⟩ := deliver_of_queued hlogged hlength hup
            exact ⟨d.event.type, .obj d.event.data, by rw [hqueue]; simp⟩
        | false => exact absurd hack (deliver_of_failed hlogged hlength hup).1
      · rw [deliver_of_long hlogged (Nat.not_le.mp hlength)] at hack
        cases hack

end

/-! ## One event -/

def failedPayment : Event :=
  ⟨"evt_1", "invoice.payment_failed", [("object", .obj [("subscription", .str "sub_1")])]⟩

def payload : String :=
  "\x7b\"id\": \"evt_1\", \"type\": \"invoice.payment_failed\", \"data\": "
    ++ "\x7b\"object\": \x7b\"subscription\": \"sub_1\"\x7d\x7d\x7d"

def sigHeader : String := "t=1700000000,v1=6ffbb59b"

/-- A deployment to which this one payload is sent under its signature. -/
def config : StripeConfig where
  webhookSecret := "whsec_test"
  constructEvent p sig secret :=
    if p ≠ payload then .error .valueError
    else if sig ≠ sigHeader ∨ secret ≠ "whsec_test" then .error .signatureVerificationError
    else .ok failedPayment

def delivery (brokerUp : Bool) : Delivery config :=
  ⟨payload, sigHeader, brokerUp, failedPayment, by decide, by simp [config], by decide⟩

theorem settled_start : Settled DemoSeed.site := fun _ =>
  ⟨fun h => (Bool.false_ne_true h).elim, fun ⟨_, _, h⟩ => (List.not_mem_nil h).elim⟩

/-- The broker answers the first delivery and not the second. -/
theorem acknowledged_when_up :
    Honest DemoSeed.site [delivery true, delivery false] := by
  refine (acknowledged_iff settled_start _).mpr fun pre d mid d' hpre _ _ _ => ?_
  have hlength := hpre.length_le
  cases pre with
  | nil =>
      obtain ⟨rfl, -⟩ := List.cons_prefix_cons.mp hpre
      rfl
  | cons x pre => simp at hlength; omega

/-- The broker does not answer, Stripe delivers again: acknowledged, and
never enqueued. -/
theorem acknowledged_lost :
    ¬ ∀ (cfg : StripeConfig) (s : Site) (ds : List (Delivery cfg)), Settled s → Honest s ds := by
  intro hall
  have hhonest := hall config DemoSeed.site [delivery false, delivery true] settled_start
  have hagain : Logged (run DemoSeed.site [delivery false]) "evt_1" := by decide
  have hack : Acknowledges (deliver (run DemoSeed.site [delivery false]) (delivery true)).1 := by
    rw [deliver_of_logged hagain]
    exact ⟨by decide, by decide⟩
  obtain ⟨t, data, hmem⟩ := hhonest [delivery false] (delivery true) List.prefix_rfl hack
  have hqueue : (run DemoSeed.site [delivery false, delivery true]).queue.length = 0 := by decide
  rw [List.length_eq_zero_iff] at hqueue
  have hmem' : _ ∈ (run DemoSeed.site [delivery false, delivery true]).queue := hmem
  rw [hqueue] at hmem'
  cases hmem'

end StripeWebhook

end SaasKit
