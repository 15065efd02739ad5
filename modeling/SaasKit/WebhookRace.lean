import SaasKit.StripeWebhook
import SaasKit.Lib.Interleave

/-!
# Webhook deliveries at the same time

Any number of deliveries, each access of `StripeWebhookView.post` by itself.
`get_or_create` is a read, an insert where the read found nothing and a
second read where the insert met a row that was not there before. The
primary key lets one insert through an event id, and only the delivery whose
insert went through calls `delay`, so nothing is enqueued twice
(`enqueued_once`). One delivery with nobody else running does what `post`
does (`solo_post`).
-/

namespace SaasKit

namespace WebhookRace

open StripeWebhook

/-- Where a delivery stands. -/
inductive Position where
  | start (payload sigHeader : String)
  /-- The event is genuine and handled; `get_or_create` has not read yet. -/
  | verified (event : Event)
  /-- The read found no row. -/
  | absent (event : Event)
  /-- The insert met a row. -/
  | clashed (event : Event)
  /-- The insert went through; `delay` is next. -/
  | created (event : Event)
  | done (answer : Except Exc WebhookResponse)

open Position

def queued : Except Exc WebhookResponse := .ok ⟨200, [("status", "queued")]⟩

def duplicate : Except Exc WebhookResponse := .ok ⟨200, [("status", "duplicate")]⟩

/-- The part of `post` before its first access. -/
def check (cfg : StripeConfig) (payload sigHeader : String) : Position :=
  if cfg.webhookSecret = "" then done (.ok ⟨500, [("error", "misconfigured")]⟩)
  else match cfg.constructEvent payload sigHeader cfg.webhookSecret with
    | .error .valueError => done (.ok ⟨400, [("error", "invalid_payload")]⟩)
    | .error .signatureVerificationError => done (.ok ⟨400, [("error", "invalid_signature")]⟩)
    | .ok event =>
        if event.type ∉ handledEvents then
          done (.ok ⟨200, [("status", "ignored"), ("type", event.type)]⟩)
        else verified event

/-- The row `get_or_create` inserts. -/
def row (event : Event) : WebhookEvent := ⟨event.id, event.type, .obj event.data⟩

/-- The task `delay` enqueues. -/
def task (event : Event) : Task := .handleStripeEvent event.id event.type (.obj event.data)

/-- The next access; the label says whether the broker answers. -/
def next (cfg : StripeConfig) (brokerUp : Bool) (s : Site) : Position → Option (Site × Position)
  | start payload sigHeader => some (s, check cfg payload sigHeader)
  | verified event =>
      if Logged s event.id then some (s, done duplicate) else some (s, absent event)
  | absent event =>
      if 255 < event.id.length then some (s, done (.error .dataError))
      else match s.webhookEvents.insert? (row event) with
        | none => some (s, clashed event)
        | some webhookEvents => some ({ s with webhookEvents }, created event)
  | clashed event =>
      if Logged s event.id then some (s, done duplicate)
      else some (s, done (.error .integrityError))
  | created event =>
      match delay s brokerUp event with
      | (.error e, s) => some (s, done (.error e))
      | (.ok (), s) => some (s, done queued)
  | done _ => none

/-! ## One access -/

/-- The event of a delivery that is past the checks. -/
def Position.event : Position → Option Event
  | verified event | absent event | clashed event | created event => some event
  | start .. | done _ => none

/-- What one access can do. -/
inductive Access (s : Site) : Position → Site → Position → Prop
  | quiet {p p' : Position} :
      (∀ event, p' ≠ created event) →
      (∀ event, p'.event = some event → p.event = some event ∨ event.type ∈ handledEvents) →
      Access s p s p'
  | insert {event : Event}
      {webhookEvents : Table WebhookEvent (sameKey WebhookEvent.stripeEventId)} :
      s.webhookEvents.insert? (row event) = some webhookEvents →
      Access s (absent event) { s with webhookEvents } (created event)
  | enqueue {event : Event} :
      Access s (created event) { s with queue := s.queue ++ [task event] } (done queued)

section

variable {cfg : StripeConfig} {brokerUp : Bool} {s s' : Site} {p p' : Position}

theorem check_handled {payload sigHeader : String} {event : Event}
    (h : (check cfg payload sigHeader).event = some event) : event.type ∈ handledEvents := by
  unfold check at h
  split at h
  · cases h
  · split at h
    · cases h
    · cases h
    · rename_i found hfound
      split at h
      · cases h
      · rename_i hhandled
        obtain rfl := Option.some.inj h
        exact not_not.mp hhandled

theorem check_ne_created (payload sigHeader : String) (event : Event) :
    check cfg payload sigHeader ≠ created event := by
  unfold check
  intro h
  split at h
  · cases h
  · split at h
    · cases h
    · cases h
    · split at h <;> cases h

/-- An access that leaves the database alone and ends the call. -/
theorem Access.ends (answer : Except Exc WebhookResponse) : Access s p s (done answer) := by
  refine .quiet (fun event h => ?_) fun event h => ?_
  · cases h
  · cases h

/-- An access that leaves the database alone and goes on with the event. -/
theorem Access.goes (hne : ∀ event, p' ≠ created event) (h : p'.event = p.event) :
    Access s p s p' :=
  .quiet hne fun _ hevent => Or.inl (h ▸ hevent)

theorem next_access (h : next cfg brokerUp s p = some (s', p')) : Access s p s' p' := by
  cases p with
  | start payload sigHeader =>
      obtain ⟨rfl, rfl⟩ := Prod.mk.inj (Option.some.inj h)
      exact .quiet (check_ne_created _ _) fun _ hevent => Or.inr (check_handled hevent)
  | verified event =>
      simp only [next] at h
      split at h
      · obtain ⟨rfl, rfl⟩ := Prod.mk.inj (Option.some.inj h)
        exact .ends _
      · obtain ⟨rfl, rfl⟩ := Prod.mk.inj (Option.some.inj h)
        exact .goes (fun _ heq => by cases heq) rfl
  | absent event =>
      simp only [next] at h
      split at h
      · obtain ⟨rfl, rfl⟩ := Prod.mk.inj (Option.some.inj h)
        exact .ends _
      · split at h
        · obtain ⟨rfl, rfl⟩ := Prod.mk.inj (Option.some.inj h)
          exact .goes (fun _ heq => by cases heq) rfl
        · rename_i hinsert
          obtain ⟨rfl, rfl⟩ := Prod.mk.inj (Option.some.inj h)
          exact .insert hinsert
  | clashed event =>
      simp only [next] at h
      split at h <;> obtain ⟨rfl, rfl⟩ := Prod.mk.inj (Option.some.inj h) <;> exact .ends _
  | created event =>
      cases brokerUp with
      | true =>
          obtain ⟨rfl, rfl⟩ := Prod.mk.inj (Option.some.inj h)
          exact .enqueue
      | false =>
          obtain ⟨rfl, rfl⟩ := Prod.mk.inj (Option.some.inj h)
          exact .ends _
  | done answer => cases h

end

/-! ## Every schedule -/

section

variable {ι : Type} {cfg : StripeConfig} {s₀ s s' : Site} {event : Event}
  {c₀ c c' : Threads.Conf ι Site Position} {ls : List (ι × Bool)}

abbrev Step (ι : Type) (cfg : StripeConfig) :=
  Threads.step (Threads.ofNext (ι := ι) (next cfg))

/-- The event got its row since `s₀`. -/
structure Claimed (s₀ s : Site) (event : Event) : Prop where
  new : ¬ Logged s₀ event.id
  handled : event.type ∈ handledEvents
  row : row event ∈ s.webhookEvents

/-- What has been enqueued since `s₀`, in order: no event id twice, and each
with its row. -/
structure Enqueues (s₀ s : Site) (events : List Event) : Prop where
  queue : s.queue = s₀.queue ++ events.map task
  once : (events.map (·.id)).Nodup
  claimed : ∀ event ∈ events, Claimed s₀ s event

/-- The state of the deployment between two accesses. -/
structure Shared (s₀ s : Site) : Prop where
  kept : ∀ r ∈ s₀.webhookEvents, r ∈ s.webhookEvents
  enqueues : ∃ events, Enqueues s₀ s events

/-- No task with this id has been enqueued since `s₀`. -/
def Unsent (s₀ s : Site) (id : String) : Prop :=
  ∀ eventType eventData,
    Task.handleStripeEvent id eventType eventData ∉ s.queue.drop s₀.queue.length

/-- What a delivery may rely on. -/
structure Own (s₀ s : Site) (p : Position) : Prop where
  handled : ∀ event, p.event = some event → event.type ∈ handledEvents
  won : ∀ event, p = created event → Claimed s₀ s event ∧ Unsent s₀ s event.id

/-- Two deliveries never stand between insert and `delay` with one id. -/
def Apart (p q : Position) : Prop :=
  ∀ event event', p = created event → q = created event' → event.id ≠ event'.id

theorem Apart.symm {p q : Position} (h : Apart p q) : Apart q p :=
  fun event event' hq hp => (h event' event hp hq).symm

theorem Apart.of_not {p q : Position} (h : ∀ event, p ≠ created event) : Apart p q :=
  fun event _ hp _ => absurd hp (h event)

theorem Claimed.mono (h : Claimed s₀ s event)
    (hrows : ∀ r ∈ s.webhookEvents, r ∈ s'.webhookEvents) : Claimed s₀ s' event :=
  ⟨h.new, h.handled, hrows _ h.row⟩

theorem Enqueues.unsent_iff {events : List Event} (h : Enqueues s₀ s events) {id : String} :
    Unsent s₀ s id ↔ id ∉ events.map (·.id) := by
  unfold Unsent
  rw [h.queue, List.drop_left]
  constructor
  · intro hunsent hmem
    obtain ⟨event, hevent, rfl⟩ := List.mem_map.mp hmem
    exact hunsent event.type (.obj event.data) (List.mem_map_of_mem hevent)
  · intro hnot eventType eventData hmem
    obtain ⟨event, hevent, htask⟩ := List.mem_map.mp hmem
    obtain ⟨rfl, -, -⟩ := Task.handleStripeEvent.inj htask
    exact hnot (List.mem_map_of_mem hevent)

/-- The key lets no second row with the id in. -/
theorem new_of_insert {webhookEvents : Table WebhookEvent (sameKey WebhookEvent.stripeEventId)}
    (h : s.webhookEvents.insert? (row event) = some webhookEvents) :
    ∀ r ∈ s.webhookEvents, r.stripeEventId ≠ event.id := by
  intro r hr hid
  have hclash := Table.not_clash_of_insert? h hr
  rw [Table.sameKey_iff.mpr hid] at hclash
  cases hclash

theorem Enqueues.mono {events : List Event} (h : Enqueues s₀ s events)
    (hqueue : s'.queue = s.queue) (hrows : ∀ r ∈ s.webhookEvents, r ∈ s'.webhookEvents) :
    Enqueues s₀ s' events :=
  ⟨hqueue.trans h.queue, h.once, fun event hevent => (h.claimed event hevent).mono hrows⟩

/-- The delivery whose insert went through enqueues. -/
theorem Enqueues.snoc {events : List Event} (h : Enqueues s₀ s events)
    (hclaimed : Claimed s₀ s event) (hunsent : Unsent s₀ s event.id) :
    Enqueues s₀ { s with queue := s.queue ++ [task event] } (events ++ [event]) := by
  refine ⟨?_, ?_, fun event' hevent' => ?_⟩
  · simp [h.queue]
  · rw [List.map_append, List.nodup_append]
    refine ⟨h.once, List.pairwise_singleton .., fun id hid id' hid' => ?_⟩
    obtain rfl := List.mem_singleton.mp hid'
    rintro rfl
    exact h.unsent_iff.mp hunsent hid
  · rcases List.mem_append.mp hevent' with hold | hnew
    · exact (h.claimed event' hold).mono fun _ hr => hr
    · obtain rfl := List.mem_singleton.mp hnew
      exact hclaimed.mono fun _ hr => hr

/-- A row that was let in is new since `s₀` too, and has no task. -/
theorem won_of_insert {webhookEvents : Table WebhookEvent (sameKey WebhookEvent.stripeEventId)}
    (hs : Shared s₀ s) (hhandled : event.type ∈ handledEvents)
    (h : s.webhookEvents.insert? (row event) = some webhookEvents) :
    Claimed s₀ { s with webhookEvents } event ∧ Unsent s₀ { s with webhookEvents } event.id := by
  have hnew := new_of_insert h
  obtain ⟨events, hevents⟩ := hs.enqueues
  refine ⟨⟨fun hlogged => ?_, hhandled, (Table.mem_insert? h).mpr (Or.inr rfl)⟩, ?_⟩
  · obtain ⟨r, hr, hid⟩ := Table.any_iff.mp hlogged
    exact hnew r (hs.kept r hr) (eq_of_beq hid)
  · refine hevents.unsent_iff.mpr fun hmem => ?_
    obtain ⟨event', hevent', hid⟩ := List.mem_map.mp hmem
    exact hnew _ (hevents.claimed event' hevent').row hid

theorem keeps : Threads.Keeps (Threads.ofNext (ι := ι) (next cfg)) (fun _ _ => True)
    (Shared s₀) (fun _ => Own s₀) (fun _ _ => Apart) where
  shared c i brokerUp s' p' hc _ hact := by
    have hs := hc.shared
    have hown := hc.own i
    have haccess := next_access hact
    generalize c.locals i = p at haccess hown
    generalize c.shared = s at haccess hown hs
    cases haccess with
    | quiet hne hevent =>
        refine ⟨hs, fun event hp' => ?_, fun event hp' => absurd hp' (hne event)⟩
        rcases hevent event hp' with hp | hhandled
        · exact hown.handled event hp
        · exact hhandled
    | @insert event webhookEvents hinsert =>
        have hhandled := hown.handled event rfl
        have hkept : ∀ r ∈ s.webhookEvents, r ∈ webhookEvents :=
          fun r hr => (Table.mem_insert? hinsert).mpr (Or.inl hr)
        obtain ⟨events, hevents⟩ := hs.enqueues
        refine ⟨⟨fun r hr => hkept r (hs.kept r hr), events, hevents.mono rfl hkept⟩,
          fun event' hp' => ?_, fun event' hp' => ?_⟩
        · obtain rfl := Option.some.inj hp'
          exact hhandled
        · obtain rfl := Position.created.inj hp'
          exact won_of_insert hs hhandled hinsert
    | @enqueue event =>
        obtain ⟨hclaimed, hunsent⟩ := hown.won event rfl
        obtain ⟨events, hevents⟩ := hs.enqueues
        refine ⟨⟨hs.kept, _, hevents.snoc hclaimed hunsent⟩, fun event' hp' => ?_,
          fun event' hp' => ?_⟩
        · cases hp'
        · cases hp'
  other c i brokerUp s' p' j hc _ hact hj := by
    have hs := hc.shared
    have hown := hc.own j
    have hpair := hc.pair i j hj.symm
    have haccess := next_access hact
    generalize c.locals i = p at haccess hpair
    generalize c.shared = s at haccess hown hs
    cases haccess with
    | quiet hne _ => exact ⟨hown, .of_not hne⟩
    | @insert event webhookEvents hinsert =>
        have hkept : ∀ r ∈ s.webhookEvents, r ∈ webhookEvents :=
          fun r hr => (Table.mem_insert? hinsert).mpr (Or.inl hr)
        refine ⟨⟨hown.handled, fun event' hq => ?_⟩, fun e event' hp' hq => ?_⟩
        · obtain ⟨hclaimed, hunsent⟩ := hown.won event' hq
          exact ⟨hclaimed.mono hkept, hunsent⟩
        · obtain rfl := Position.created.inj hp'
          exact fun hid => new_of_insert hinsert _ (hown.won event' hq).1.row hid.symm
    | @enqueue event =>
        refine ⟨⟨hown.handled, fun event' hq => ?_⟩, .of_not fun _ heq => by cases heq⟩
        obtain ⟨hclaimed, hunsent⟩ := hown.won event' hq
        refine ⟨hclaimed.mono fun _ hr => hr, fun eventType eventData hmem => ?_⟩
        obtain ⟨events, hevents⟩ := hs.enqueues
        rw [hevents.queue, List.append_assoc, List.drop_left] at hmem
        rcases List.mem_append.mp hmem with hold | hnew
        · refine hunsent eventType eventData ?_
          rw [hevents.queue, List.drop_left]
          exact hold
        · obtain ⟨hid, -, -⟩ := Task.handleStripeEvent.inj (List.mem_singleton.mp hnew)
          exact hpair event event' rfl hq hid.symm

/-- Whatever the schedule and whichever calls of `delay` raise: what the
deliveries have enqueued are handled events, no id among them twice, each
with the row that its delivery inserted, and none of them logged before. -/
theorem enqueued_once (hbegins : ∀ i, ∃ payload sigHeader, c₀.locals i = start payload sigHeader)
    (hrun : Lts.Run (Step ι cfg) c₀ ls c) :
    ∃ events : List Event, c.shared.queue = c₀.shared.queue ++ events.map task
      ∧ (events.map (·.id)).Nodup
      ∧ ∀ event ∈ events, event.type ∈ handledEvents ∧ ¬ Logged c₀.shared event.id
          ∧ ∃ r ∈ c.shared.webhookEvents,
              r.stripeEventId = event.id ∧ r.eventType = event.type := by
  have hinit : Threads.Coherent (Shared c₀.shared) (fun _ => Own c₀.shared) (fun _ _ => Apart)
      c₀ := by
    refine ⟨⟨fun _ hr => hr, [], by simp, List.nodup_nil, by simp⟩, fun i => ?_, fun i j _ => ?_⟩
    · obtain ⟨payload, sigHeader, hi⟩ := hbegins i
      rw [hi]
      refine ⟨fun event h => ?_, fun event h => ?_⟩ <;> cases h
    · obtain ⟨payload, sigHeader, hi⟩ := hbegins i
      rw [hi]
      exact .of_not fun _ h => by cases h
  have hguarded : Lts.Run (Lts.Guarded (Step ι cfg) fun _ _ => True) c₀ ls c :=
    hrun.mono fun _ _ _ hstep => ⟨hstep, trivial⟩
  have hfinal := Threads.Coherent.run (fun _ _ _ _ h => h.symm) keeps hguarded hinit
  obtain ⟨events, hevents⟩ := hfinal.shared.enqueues
  refine ⟨events, hevents.queue, hevents.once, fun event hevent => ?_⟩
  have hclaimed := hevents.claimed event hevent
  exact ⟨hclaimed.handled, hclaimed.new, row event, hclaimed.row, rfl, rfl⟩

/-! ## A delivery by itself -/

/-- The accesses of a delivery whose event is genuine and handled. -/
theorem solo_verified {i : ι} {r : Except Exc WebhookResponse} {brokerUp : Bool}
    (h : (match getOrCreate s event with
      | .error e => (.error e, s)
      | .ok (false, s) => (duplicate, s)
      | .ok (true, s) =>
          match delay s brokerUp event with
          | (.error e, s) => (.error e, s)
          | (.ok (), s) => (queued, s)) = (r, s')) :
    ∃ n, Lts.Run (Threads.solo (Threads.ofNext (next cfg)) i) (s, verified event)
      (List.replicate n brokerUp) (s', done r) := by
  by_cases hlogged : Logged s event.id
  · have hget : getOrCreate s event = .ok (false, s) := if_pos hlogged
    rw [hget] at h
    obtain ⟨rfl, rfl⟩ := Prod.mk.inj h
    exact ⟨1, .cons (Threads.solo_step (if_pos hlogged)) (.nil _)⟩
  · have hread : next cfg brokerUp s (verified event) = some (s, absent event) :=
      if_neg hlogged
    by_cases hlong : 255 < event.id.length
    · have hget : getOrCreate s event = .error .dataError := by
        unfold getOrCreate
        rw [if_neg hlogged, if_pos hlong]
      rw [hget] at h
      obtain ⟨rfl, rfl⟩ := Prod.mk.inj h
      exact ⟨2, .cons (Threads.solo_step hread)
        (.cons (Threads.solo_step (if_pos hlong)) (.nil _))⟩
    · obtain ⟨webhookEvents, hinsert⟩ : ∃ webhookEvents,
          s.webhookEvents.insert? (row event) = some webhookEvents :=
        Table.insert?_of_not_clash fun r hr => by
          have := Table.any_eq_false.mp (Bool.not_eq_true _ ▸ hlogged) r hr
          exact decide_eq_false (by simpa [row] using this)
      have hget : getOrCreate s event = .ok (true, { s with webhookEvents }) := by
        unfold getOrCreate
        rw [if_neg hlogged, if_neg hlong, show s.webhookEvents.insert?
          ⟨event.id, event.type, .obj event.data⟩ = some webhookEvents from hinsert]
      have hcreate : next cfg brokerUp s (absent event)
          = some ({ s with webhookEvents }, created event) := by
        simp only [next, if_neg hlong, hinsert]
      rw [hget] at h
      refine ⟨3, .cons (Threads.solo_step hread) (.cons (Threads.solo_step hcreate)
        (.cons (Threads.solo_step ?_) (.nil _)))⟩
      cases brokerUp with
      | true =>
          obtain ⟨rfl, rfl⟩ := Prod.mk.inj h
          rfl
      | false =>
          obtain ⟨rfl, rfl⟩ := Prod.mk.inj h
          rfl

/-- With nobody else running, a delivery does what `post` does. -/
theorem solo_post {i : ι} {payload sigHeader : String} {r : Except Exc WebhookResponse}
    {brokerUp : Bool} (h : post cfg s payload sigHeader brokerUp = (r, s')) :
    ∃ n, Lts.Run (Threads.solo (Threads.ofNext (next cfg)) i) (s, start payload sigHeader)
      (List.replicate n brokerUp) (s', done r) := by
  suffices hrest : ∃ n, Lts.Run (Threads.solo (Threads.ofNext (next cfg)) i)
      (s, check cfg payload sigHeader) (List.replicate n brokerUp) (s', done r) by
    obtain ⟨n, hrun⟩ := hrest
    exact ⟨n + 1, .cons (Threads.solo_step rfl) hrun⟩
  unfold post at h
  unfold check
  by_cases hsecret : cfg.webhookSecret = ""
  · rw [if_pos hsecret] at h ⊢
    obtain ⟨rfl, rfl⟩ := Prod.mk.inj h
    exact ⟨0, .nil _⟩
  · rw [if_neg hsecret] at h ⊢
    cases hevent : cfg.constructEvent payload sigHeader cfg.webhookSecret with
    | error e =>
        rw [hevent] at h
        cases e <;> obtain ⟨rfl, rfl⟩ := Prod.mk.inj h <;> exact ⟨0, .nil _⟩
    | ok event =>
        rw [hevent] at h
        simp only at h ⊢
        by_cases hhandled : event.type ∉ handledEvents
        · rw [if_pos hhandled] at h ⊢
          obtain ⟨rfl, rfl⟩ := Prod.mk.inj h
          exact ⟨0, .nil _⟩
        · rw [if_neg hhandled] at h ⊢
          exact solo_verified h

end

/-! ## One event, two deliveries -/

/-- The same payload delivered twice. -/
def twice : Threads.Conf Bool Site Position :=
  ⟨DemoSeed.site, fun _ => start payload sigHeader⟩

/-- Both read before either inserts. -/
def overlapping : List (Bool × Bool) :=
  [(true, true), (false, true), (true, true), (false, true), (true, true), (false, true),
    (true, true), (false, true)]

theorem enqueued_once_overlapping :
    ∃ c, Lts.Run (Step Bool config) twice overlapping c
      ∧ ∃ event : Event, c.shared.queue = DemoSeed.site.queue ++ [task event]
        ∧ event.type ∈ handledEvents ∧ ¬ Logged DemoSeed.site event.id
        ∧ ∃ r ∈ c.shared.webhookEvents,
            r.stripeEventId = event.id ∧ r.eventType = event.type := by
  have hexec : (Threads.exec (next config) (fun _ _ => True) twice overlapping).map
      (·.shared.queue.length) = some (DemoSeed.site.queue.length + 1) := by
    decide
  obtain ⟨c, hc, hlength⟩ := Option.map_eq_some_iff.mp hexec
  have hrun : Lts.Run (Step Bool config) twice overlapping c :=
    (Threads.run_of_exec hc).mono fun _ _ _ hstep => hstep.1
  obtain ⟨events, hqueue, -, hevents⟩ :=
    enqueued_once (fun _ => ⟨payload, sigHeader, rfl⟩) hrun
  have hone : events.length = 1 := by
    rw [hqueue, List.length_append, List.length_map] at hlength
    exact Nat.add_left_cancel hlength
  obtain ⟨event, rfl⟩ := List.length_eq_one_iff.mp hone
  exact ⟨c, hrun, event, hqueue, hevents event (List.mem_singleton_self event)⟩

end WebhookRace

end SaasKit
