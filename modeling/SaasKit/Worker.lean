import SaasKit.Lib.Broker
import SaasKit.Tasks

/-!
# The worker

The services hand tasks to the broker, a worker takes them in any order, a
task that asks for a retry goes back, and the broker may deliver a waiting
task twice. `next` is one such step, with requests changing the database in
between in any way that only adds to the queue.

- `books_kept`: every task handed over waits or has ended, and every mail
  goes back to a task that ended with it, so none is sent without a task and
  none twice for one delivery.
- `backlog_drains`: left alone, a worker is done with what waits after a
  number of attempts that is known beforehand, whatever comes of them.
- `mails_spaced`: the welcome mail of one user, and the mail of one
  notification, are at least a day apart.
- `none_withheld`: started with an empty cache, and as long as every account
  has an address, such a task that ends without an error has found nobody to
  mail, or its own mail is out.
-/

namespace SaasKit

/-- What the broker carries: the tasks the code hands over, and the two that
wait for a caller. -/
inductive Message where
  | task (t : Task)
  | sendTrialEndingEmail (tenantId : UUID) (daysRemaining : Int)
  | sendEmailNotification (notificationId : UUID)

def Message.task? : Message → Option Task
  | .task t => some t
  | _ => none

/-- How a message ends, with the value of the task. -/
inductive Outcome where
  | mailed (value : Option String)
  | quiet (value : Option String)
  | failed (e : TaskError)
  deriving DecidableEq, Repr

def Outcome.isMailed : Outcome → Bool
  | mailed _ => true
  | _ => false

/-- A mail the backend has taken. -/
structure Sent where
  message : Message
  time : Time
  mail : Mail

structure Worker where
  accounts : AccountSite
  cache : IdempotencyService.Cache String
  broker : Broker Message Outcome
  outbox : List Sent

/-- The exception of a retry ends the task if it was the last one, or if the
broker does not take it back. -/
def TaskResult.verdict (retryUp : Bool) : TaskResult → Broker.Verdict Outcome
  | .returned value (some _) => .done (.mailed value)
  | .returned value none => .done (.quiet value)
  | .raised e => .done (.failed e)
  | .retry e => if retryUp then .again (.failed e) else .done (.failed e)

namespace Worker

open Tasks

/-- `max_retries` of the tasks. -/
def maxRetries : Message → Nat
  | .task (.handleStripeEvent ..) => 5
  | _ => 3

/-! ## One attempt -/

theorem handleStripeEvent_site (str : Json → String) (a : Attempt) (s : Site)
    (eventId eventType : String) (eventData : Json) :
    (handleStripeEvent str a s eventId eventType eventData).2
      = (BillingService.processEvent str s ⟨a.now, a.brokerUp, eventType, eventData⟩).2 := by
  unfold handleStripeEvent
  split
  · rename_i h
    rw [h]
  · rename_i h
    rw [h]

theorem handleStripeEvent_users (str : Json → String) (a : Attempt) (s : Site)
    (eventId eventType : String) (eventData : Json) :
    (handleStripeEvent str a s eventId eventType eventData).2.users = s.users := by
  rw [handleStripeEvent_site]
  exact (BillingService.processEvent_frame ..).users

/-- The task a message stands for. -/
def perform (str : Json → String) (cfg : MailConfig) (a : Attempt) (s : AccountSite)
    (cache : IdempotencyService.Cache String) :
    Message → TaskResult × AccountSite × IdempotencyService.Cache String
  | .task (.sendInvitationEmail recipientEmail tenantName invitedByName role acceptUrl) =>
      (sendInvitationEmail cfg a recipientEmail tenantName invitedByName role acceptUrl, s, cache)
  | .task (.handleStripeEvent eventId eventType eventData) =>
      let called := handleStripeEvent str a s.toSite eventId eventType eventData
      (called.1, s.withSite called.2 (handleStripeEvent_users ..), cache)
  | .task (.sendDunningEmail tenantId) => (sendDunningEmail cfg a s.toSite tenantId, s, cache)
  | .task (.sendWelcomeEmail userId) =>
      let called := sendWelcomeEmail cfg a s.toSite cache userId
      (called.1, s, called.2)
  | .task (.sendPasswordResetEmail recipientEmail userName resetLink uid token hoursValid) =>
      (sendPasswordResetEmail cfg a recipientEmail userName resetLink uid token hoursValid, s,
        cache)
  | .sendTrialEndingEmail tenantId daysRemaining =>
      (sendTrialEndingEmail cfg a s.toSite tenantId daysRemaining, s, cache)
  | .sendEmailNotification notificationId =>
      let called := sendEmailNotification cfg a s cache notificationId
      (called.1, s, called.2)

/-- What has been handed to the broker between two states. -/
def handed (s s' : AccountSite) : List Message :=
  (s'.queue.drop s.queue.length).map .task

/-- An attempt at the message at `i`. -/
def attempt (str : Json → String) (cfg : MailConfig) (w : Worker) (i : Nat) (a : Attempt) :
    Worker :=
  match w.broker.pending[i]? with
  | none => w
  | some (m, _) =>
      let (result, accounts, cache) := perform str cfg a w.accounts w.cache m
      { accounts
        cache
        broker := (w.broker.settle maxRetries i (result.verdict a.retryUp)).publish
          (handed w.accounts accounts)
        outbox := w.outbox ++ result.mail.toList.map fun mail => ⟨m, a.now, mail⟩ }

/-! ## Steps -/

inductive Label where
  | request (accounts : AccountSite)
  | call (m : Message)
  | redeliver (i : Nat)
  | attempt (i : Nat) (a : Attempt)

def next (str : Json → String) (cfg : MailConfig) (w : Worker) : Label → Worker
  | .request accounts =>
      { w with accounts, broker := w.broker.publish (handed w.accounts accounts) }
  | .call m => { w with broker := w.broker.publish [m] }
  | .redeliver i => { w with broker := w.broker.redeliver i }
  | .attempt i a => w.attempt str cfg i a

/-- A request only adds to the queue, and what it adds is not called by hand
as well. -/
def Admissible (w : Worker) : Label → Prop
  | .request accounts => w.accounts.queue <+: accounts.queue
  | .call m => m.task? = none
  | .redeliver i | .attempt i _ => i < w.broker.pending.length

def Step (str : Json → String) (cfg : MailConfig) (w : Worker) (l : Label) (w' : Worker) : Prop :=
  Admissible w l ∧ next str cfg w l = w'

/-- Nothing but what is in the queue, none of it taken yet. -/
def start (accounts : AccountSite) (cache : IdempotencyService.Cache String) : Worker where
  accounts
  cache
  broker := .holding (accounts.queue.map .task)
  outbox := []

section

variable {str : Json → String} {cfg : MailConfig} {a : Attempt} {s s' : AccountSite}
  {cache : IdempotencyService.Cache String} {w w' : Worker} {m : Message} {i retries : Nat}

/-! ## What an attempt hands over -/

theorem processEvent_hands (str : Json → String) (s : Site) (e : StripeEvent) :
    (BillingService.processEvent str s e).2.queue = s.queue
      ∨ ∃ tenantId, (BillingService.processEvent str s e).2.queue
        = s.queue ++ [.sendDunningEmail tenantId] := by
  by_cases hkind : e.kind = some .paymentFailed
  · by_cases hknown : ∃ row ∈ s.subscriptions, SubscriptionLifecycle.Fails str row e
    · obtain ⟨row, hrow, hkind, stripeSubId, hinvoiced, hid⟩ := hknown
      rw [BillingService.processEvent_of_failed_eq hrow hid hkind hinvoiced]
      cases e.brokerUp with
      | true => exact Or.inr ⟨row.tenant, rfl⟩
      | false => exact Or.inl rfl
    · rcases BillingService.processEvent_rewrites str s e with hsame | ⟨row, row', hrewrites⟩
      · exact Or.inl (by rw [hsame])
      · have hfound := hrewrites.found
        simp only [BillingService.Finds, hkind] at hfound
        exact absurd ⟨row, hrewrites.stored, hkind, hfound⟩ hknown
  · exact Or.inl (BillingService.processEvent_queue hkind)

def isStripe : Message → Bool
  | .task (.handleStripeEvent ..) => true
  | _ => false

/-- Only an event hands anything over, and no more than one mail task. -/
theorem perform_hands (str : Json → String) (cfg : MailConfig) (a : Attempt) (s : AccountSite)
    (cache : IdempotencyService.Cache String) (m : Message) :
    (perform str cfg a s cache m).2.1.queue = s.queue
      ∨ isStripe m = true ∧ ∃ tenantId,
        (perform str cfg a s cache m).2.1.queue = s.queue ++ [.sendDunningEmail tenantId] := by
  cases m with
  | task t =>
      cases t with
      | handleStripeEvent eventId eventType eventData =>
          have hsite : (perform str cfg a s cache
              (.task (.handleStripeEvent eventId eventType eventData))).2.1.queue
              = (BillingService.processEvent str s.toSite
                ⟨a.now, a.brokerUp, eventType, eventData⟩).2.queue :=
            congrArg Site.queue (handleStripeEvent_site ..)
          rw [hsite]
          exact (processEvent_hands ..).imp_right fun h => ⟨rfl, h⟩
      | _ => exact Or.inl rfl
  | _ => exact Or.inl rfl

theorem handed_same (h : s'.queue = s.queue) : handed s s' = [] := by
  unfold handed
  rw [h, List.drop_length]
  rfl

theorem handed_append {tasks : List Task} (h : s'.queue = s.queue ++ tasks) :
    handed s s' = tasks.map .task := by
  unfold handed
  rw [h, List.drop_left]

/-! ## What requests hand over -/

theorem sendInvitation_extends (settings : Settings) (call : Call) (s : Site) (tenant : Tenant)
    (email role : String) (invitedBy : User) :
    s.queue <+: (InvitationService.sendInvitation settings call s tenant email role
      invitedBy).2.queue := by
  unfold InvitationService.sendInvitation
  simp only
  split
  · exact List.prefix_rfl
  · split
    · exact List.prefix_rfl
    · split
      · exact List.prefix_rfl
      · split
        · exact List.prefix_rfl
        · split
          · exact List.prefix_rfl
          · rename_i hcreate
            obtain ⟨invitations, -, rfl⟩ := InvitationService.createInvitation_ok hcreate
            unfold InvitationService.dispatchEmail
            cases call.brokerUp with
            | false => exact List.prefix_rfl
            | true => exact List.prefix_append ..

theorem acceptInvitation_queue (s : Site) (now : Time) (token : String) (user : User) :
    (InvitationService.acceptInvitation s now token user).2.queue = s.queue := by
  cases hgrants : InvitationService.grants? s now token user with
  | none =>
      rcases (InvitationService.acceptInvitation_of_not hgrants).2 with
        hsame | ⟨_, _, -, -, -, hsame⟩
      · rw [hsame]
      · rw [hsame]
        rfl
  | some inv =>
      obtain ⟨tenant, s₁, -, hassign, haccepted⟩ := InvitationService.acceptInvitation_eq hgrants
      obtain ⟨r, -, -, -, rfl⟩ := RBACService.assignRole_ok hassign
      rw [haccepted]
      rfl

theorem revokeInvitation_queue (s : Site) (invitationId : UUID) (tenant : Tenant)
    (revokedBy : User) :
    (InvitationService.revokeInvitation s invitationId tenant revokedBy).2.queue = s.queue := by
  unfold InvitationService.revokeInvitation
  split
  · rfl
  · split <;> rfl

theorem anonymize_queue (s : AccountSite) (user : User) (draw : Placeholder) :
    (GDPRService.anonymize s user draw).2.queue = s.queue := by
  unfold GDPRService.anonymize
  simp only
  split
  · rfl
  · rename_i hsave
    obtain ⟨users, hkeep, -, rfl⟩ := GDPRService.saveUser_ok hsave
    rfl

theorem confirmReset_queue (reset : ResetConfig) (s : AccountSite) (now : Time) (data : Json) :
    (PasswordResetConfirmView.post reset s now data).2.queue = s.queue := by
  rcases PasswordResetConfirmView.post_cases reset s now data with ⟨-, hsame⟩ | ⟨_, _, hdone⟩
  · rw [hsame]
  · rw [hdone]
    rfl

theorem prefix_of_eq {α : Type} {l l' : List α} (h : l' = l) : l <+: l' := by
  rw [h]

/-- The calls of the services are requests a worker can meet. -/
theorem services_admissible (services : AuditTrail.Backends) (w : Worker) (op : AuditTrail.Op) :
    Admissible w (.request (AuditTrail.perform services w.accounts op)) := by
  show w.accounts.queue <+: (AuditTrail.perform services w.accounts op).queue
  cases op with
  | sendInvitation call tenant email role invitedBy => exact sendInvitation_extends ..
  | acceptInvitation now token user => exact prefix_of_eq (acceptInvitation_queue ..)
  | revokeInvitation invitationId tenant revokedBy => exact prefix_of_eq (revokeInvitation_queue ..)
  | assignRole user tenant role assignedBy => exact prefix_of_eq RBACService.assignRole_frame.queue
  | revokeRole user tenant => exact prefix_of_eq RBACService.revokeRole_frame.queue
  | anonymize user draw => exact prefix_of_eq (anonymize_queue ..)
  | hardDelete user => exact List.prefix_rfl
  | confirmReset now data => exact prefix_of_eq (confirmReset_queue ..)
  | processEvent e =>
      rcases processEvent_hands services.str w.accounts.toSite e with hsame | ⟨tenantId, hone⟩
      · exact prefix_of_eq hsame
      · exact ⟨_, hone.symm⟩

theorem requestReset_admissible (reset : ResetLinkConfig) (w : Worker) (now : Time)
    (brokerUp : Bool) (email : String) (accounts : AccountSite)
    (h : accounts.toSite
      = (PasswordResetService.requestReset reset w.accounts.toSite now brokerUp email).2) :
    Admissible w (.request accounts) := by
  show w.accounts.queue <+: accounts.queue
  rw [h]
  unfold PasswordResetService.requestReset
  split
  · exact List.prefix_rfl
  · exact List.prefix_rfl
  · cases brokerUp with
    | false => exact List.prefix_rfl
    | true => exact List.prefix_append ..

theorem createUser_admissible (cfg : UserConfig) (w : Worker) (pk : UserId) (brokerUp : Bool)
    (data : CreateUserInput) (accounts : AccountSite)
    (h : accounts.toSite = (UserService.createUser cfg w.accounts.toSite pk brokerUp data).2) :
    Admissible w (.request accounts) := by
  show w.accounts.queue <+: accounts.queue
  rw [h]
  unfold UserService.createUser
  split
  · exact List.prefix_rfl
  · split
    · exact List.prefix_rfl
    · split
      · exact List.prefix_rfl
      · split
        · exact List.prefix_rfl
        · split
          · exact List.prefix_rfl
          · unfold UserService.enqueueWelcomeEmail
            cases brokerUp with
            | false => exact List.prefix_rfl
            | true => exact List.prefix_append ..

/-- An attempt at a message that waits. -/
theorem attempt_eq (h : w.broker.pending[i]? = some (m, retries)) :
    w.attempt str cfg i a =
      { accounts := (perform str cfg a w.accounts w.cache m).2.1
        cache := (perform str cfg a w.accounts w.cache m).2.2
        broker := (w.broker.settle maxRetries i
            ((perform str cfg a w.accounts w.cache m).1.verdict a.retryUp)).publish
          (handed w.accounts (perform str cfg a w.accounts w.cache m).2.1)
        outbox := w.outbox ++ (perform str cfg a w.accounts w.cache m).1.mail.toList.map
          fun mail => ⟨m, a.now, mail⟩ } := by
  unfold attempt
  rw [h]

theorem pending_of_lt (h : i < w.broker.pending.length) :
    ∃ m retries, w.broker.pending[i]? = some (m, retries) :=
  ⟨_, _, List.getElem?_eq_getElem h⟩

/-! ## The books -/

/-- The broker has what the queue has had, the messages that wait and those
that have ended are the ones that came in, and the mails are those of the
messages that ended with one. -/
structure Booked (w : Worker) : Prop where
  sound : w.broker.Sound maxRetries
  taken : w.broker.published.filterMap Message.task? = w.accounts.queue
  mails : w.outbox.map (·.message)
    = (w.broker.ended.filter fun e => e.result.isMailed).map (·.message)

theorem filterMap_tasks (tasks : List Task) :
    (tasks.map Message.task).filterMap Message.task? = tasks := by
  rw [List.filterMap_map]
  exact List.filterMap_some

theorem Booked.start (accounts : AccountSite) (cache : IdempotencyService.Cache String) :
    Booked (start accounts cache) where
  sound := .holding maxRetries _
  taken := filterMap_tasks accounts.queue
  mails := rfl

/-- What comes to the queue comes to the broker. -/
theorem taken_publish {b : Broker Message Outcome}
    (hb : b.published.filterMap Message.task? = s.queue) (hqueue : s.queue <+: s'.queue) :
    (b.publish (handed s s')).published.filterMap Message.task? = s'.queue := by
  obtain ⟨tasks, htasks⟩ := hqueue
  rw [handed_append htasks.symm]
  show (b.published ++ tasks.map Message.task).filterMap Message.task? = _
  rw [List.filterMap_append, hb, filterMap_tasks, htasks]

/-- A message ends with a mail exactly if its attempt has sent one. -/
theorem ended_mailed (h : w.broker.pending[i]? = some (m, retries)) (result : TaskResult)
    (retryUp : Bool) :
    ((w.broker.settle maxRetries i (result.verdict retryUp)).ended.filter
        fun e => e.result.isMailed).map (·.message)
      = ((w.broker.ended.filter fun e => e.result.isMailed).map (·.message))
        ++ result.mail.toList.map fun _ => m := by
  have hfinish : ∀ outcome : Outcome,
      ((w.broker.finish i m retries outcome).ended.filter fun e => e.result.isMailed).map
          (·.message)
        = ((w.broker.ended.filter fun e => e.result.isMailed).map (·.message))
          ++ if outcome.isMailed then [m] else [] := by
    intro outcome
    simp only [Broker.finish, List.filter_append, List.map_append]
    cases outcome <;> rfl
  unfold Broker.settle
  rw [h]
  cases result with
  | returned value mail =>
      cases mail with
      | none => exact hfinish (.quiet value)
      | some mail => exact hfinish (.mailed value)
  | raised e => exact hfinish (.failed e)
  | retry e =>
      cases retryUp with
      | false => exact hfinish (.failed e)
      | true =>
          simp only [TaskResult.verdict, if_true]
          split
          · exact (List.append_nil _).symm
          · exact hfinish (.failed e)

theorem perform_extends (str : Json → String) (cfg : MailConfig) (a : Attempt) (s : AccountSite)
    (cache : IdempotencyService.Cache String) (m : Message) :
    s.queue <+: (perform str cfg a s cache m).2.1.queue := by
  rcases perform_hands str cfg a s cache m with hsame | ⟨-, tenantId, hone⟩
  · rw [hsame]
  · rw [hone]
    exact List.prefix_append ..

theorem booked_step {l : Label} (hw : Booked w) (h : Step str cfg w l w') : Booked w' := by
  obtain ⟨hadmissible, rfl⟩ := h
  cases l with
  | request accounts =>
      exact ⟨hw.sound.publish _, taken_publish hw.taken hadmissible, hw.mails⟩
  | call m =>
      refine ⟨hw.sound.publish _, ?_, hw.mails⟩
      have hcalled : m.task? = none := hadmissible
      show (w.broker.published ++ [m]).filterMap Message.task? = _
      rw [List.filterMap_append, hw.taken, List.filterMap_cons_none hcalled]
      exact List.append_nil _
  | redeliver i =>
      refine ⟨hw.sound.redeliver i, ?_, ?_⟩
      · show (w.broker.redeliver i).published.filterMap _ = _
        rw [Broker.redeliver_published]
        exact hw.taken
      · show _ = ((w.broker.redeliver i).ended.filter _).map _
        rw [Broker.redeliver_ended]
        exact hw.mails
  | attempt i a =>
      obtain ⟨m, retries, hi⟩ := pending_of_lt hadmissible
      show Booked (w.attempt str cfg i a)
      rw [attempt_eq hi]
      refine ⟨(hw.sound.settle i _).publish _, ?_, ?_⟩
      · exact taken_publish (by rw [Broker.settle_published]; exact hw.taken) (perform_extends ..)
      · show (w.outbox ++ _).map _ = ((Broker.settle ..).ended.filter _).map _
        rw [ended_mailed hi, List.map_append, hw.mails, List.map_map]
        rfl

theorem booked_run {accounts : AccountSite} {cache : IdempotencyService.Cache String}
    {ls : List Label} (h : Lts.Run (Step str cfg) (start accounts cache) ls w) : Booked w :=
  h.invariant (fun _ _ _ hw hstep => booked_step hw hstep) (.start accounts cache)

/-- An attempt, and for an event the attempts of the mail it may hand over. -/
def cost (m : Message) : Nat := if isStripe m then 5 else 1

/-- What a message that waits can still cost. -/
def remaining (p : Message × Nat) : Nat := (maxRetries p.1 + 1 - p.2) * cost p.1

def backlog (b : Broker Message Outcome) : Nat := (b.pending.map remaining).sum

theorem cost_le_remaining (h : retries ≤ maxRetries m) : cost m ≤ remaining (m, retries) := by
  have hleft : 1 ≤ maxRetries m + 1 - retries := by omega
  exact Nat.le_mul_of_pos_left (cost m) hleft

theorem remaining_succ (h : retries < maxRetries m) :
    remaining (m, retries + 1) + cost m = remaining (m, retries) := by
  have hleft : maxRetries m + 1 - retries = maxRetries m + 1 - (retries + 1) + 1 := by omega
  show (maxRetries m + 1 - (retries + 1)) * cost m + cost m = (maxRetries m + 1 - retries) * cost m
  rw [hleft, Nat.succ_mul]

/-- An attempt pays for itself out of its message. -/
theorem backlog_settle {b : Broker Message Outcome} (hb : b.Sound maxRetries)
    (hi : b.pending[i]? = some (m, retries)) (verdict : Broker.Verdict Outcome) :
    backlog (b.settle maxRetries i verdict) + cost m ≤ backlog b := by
  have hout := Broker.sum_eraseIdx hi remaining
  have hlimit : retries ≤ maxRetries m := hb.pending_le _ (List.mem_of_getElem? hi)
  rcases Broker.settle_cases maxRetries hi verdict with
    ⟨result, hdone⟩ | ⟨hless, hagain⟩
  · have hcost := cost_le_remaining hlimit
    rw [hdone]
    show ((b.pending.eraseIdx i).map remaining).sum + cost m ≤ (b.pending.map remaining).sum
    omega
  · have hcost := remaining_succ hless
    rw [hagain]
    show ((b.pending.eraseIdx i ++ [(m, retries + 1)]).map remaining).sum + cost m
      ≤ (b.pending.map remaining).sum
    rw [List.map_append, List.sum_append, List.map_cons, List.map_nil, List.sum_cons, List.sum_nil]
    omega

theorem backlog_publish (b : Broker Message Outcome) (messages : List Message) :
    backlog (b.publish messages)
      = backlog b + (messages.map fun m => remaining (m, 0)).sum := by
  unfold backlog Broker.publish
  rw [List.map_append, List.sum_append, List.map_map]
  rfl

/-- What an attempt hands over costs less than the attempt has paid. -/
theorem handed_cost (str : Json → String) (cfg : MailConfig) (a : Attempt) (s : AccountSite)
    (cache : IdempotencyService.Cache String) (m : Message) :
    ((handed s (perform str cfg a s cache m).2.1).map fun m => remaining (m, 0)).sum + 1
      ≤ cost m := by
  rcases perform_hands str cfg a s cache m with hsame | ⟨hstripe, tenantId, hone⟩
  · have hnone : handed s (perform str cfg a s cache m).2.1 = [] :=
      handed_same hsame
    rw [hnone]
    unfold cost
    split <;> decide
  · rw [handed_append hone, cost, if_pos hstripe]
    exact Nat.le_refl 5

theorem backlog_attempt (hw : w.broker.Sound maxRetries) (hi : i < w.broker.pending.length) :
    backlog (w.attempt str cfg i a).broker + 1 ≤ backlog w.broker := by
  obtain ⟨m, retries, hi⟩ := pending_of_lt hi
  have hsettle := backlog_settle hw hi
    ((perform str cfg a w.accounts w.cache m).1.verdict a.retryUp)
  have hhanded := handed_cost str cfg a w.accounts w.cache m
  rw [attempt_eq hi]
  simp only [backlog_publish]
  omega

def Label.isAttempt : Label → Bool
  | .attempt .. => true
  | _ => false

/-- The key of a message that `IdempotencyService` guards. -/
def guardKey : Message → Option String
  | .task (.sendWelcomeEmail userId) => some (welcomeKey userId)
  | .sendEmailNotification notificationId => some (notificationKey notificationId)
  | _ => none

theorem buildKey_inj {taskName a b : String}
    (h : IdempotencyService.buildKey taskName a = IdempotencyService.buildKey taskName b) :
    a = b := by
  unfold IdempotencyService.buildKey at h
  exact (String.append_right_inj _).mp h

theorem cacheKey_inj {a b : String}
    (h : IdempotencyService.cacheKey a = IdempotencyService.cacheKey b) : a = b := by
  unfold IdempotencyService.cacheKey at h
  exact (String.append_right_inj _).mp h

theorem welcomeKey_ne (userId : UserId) (notificationId : UUID) :
    welcomeKey userId ≠ notificationKey notificationId := by
  intro h
  have hhead := congrArg (fun key => key.toList.head?) h
  simp [welcomeKey, notificationKey, IdempotencyService.buildKey] at hhead

/-- No two messages are guarded by one key. -/
theorem guardKey_inj {m m' : Message} {k : String} (h : guardKey m = some k)
    (h' : guardKey m' = some k) : m = m' := by
  unfold guardKey at h h'
  split at h
  · obtain rfl := Option.some.inj h
    split at h'
    · rw [toString_nat_inj (buildKey_inj (Option.some.inj h'))]
    · exact absurd (Option.some.inj h').symm (welcomeKey_ne _ _)
    · cases h'
  · obtain rfl := Option.some.inj h
    split at h'
    · exact absurd (Option.some.inj h') (welcomeKey_ne _ _)
    · rw [uuidStr_inj (buildKey_inj (Option.some.inj h'))]
    · cases h'
  · cases h

/-- A guarded attempt sends nothing and leaves the cache, or has found nothing
there and stores its result for a day. -/
theorem once_cases (cache : IdempotencyService.Cache String) (now : Time) (k : String)
    (operation : Except TaskError (String × Option Mail)) :
    ((IdempotencyService.once cache now k operation).1.mail = none
        ∧ (IdempotencyService.once cache now k operation).2 = cache)
      ∨ IdempotencyService.lookup cache now k = none
        ∧ ∃ value, (IdempotencyService.once cache now k operation).2
          = cache.set (IdempotencyService.cacheKey k) (some value)
            (now + seconds IdempotencyService.defaultTtlSeconds) := by
  unfold IdempotencyService.once
  cases hlookup : IdempotencyService.lookup cache now k with
  | some cached => exact Or.inl ⟨rfl, rfl⟩
  | none =>
      cases operation with
      | error e => exact Or.inl ⟨rfl, rfl⟩
      | ok result => exact Or.inr ⟨rfl, result.1, rfl⟩

theorem perform_guarded (str : Json → String) (cfg : MailConfig) (a : Attempt) (s : AccountSite)
    (cache : IdempotencyService.Cache String) {k : String} (hk : guardKey m = some k) :
    ((perform str cfg a s cache m).1.mail = none ∧ (perform str cfg a s cache m).2.2 = cache)
      ∨ IdempotencyService.lookup cache a.now k = none
        ∧ ∃ value, (perform str cfg a s cache m).2.2
          = cache.set (IdempotencyService.cacheKey k) (some value)
            (a.now + seconds IdempotencyService.defaultTtlSeconds) := by
  unfold guardKey at hk
  split at hk
  · obtain rfl := Option.some.inj hk
    exact once_cases ..
  · obtain rfl := Option.some.inj hk
    exact once_cases ..
  · cases hk

theorem perform_unguarded (hk : guardKey m = none) :
    (perform str cfg a s cache m).2.2 = cache := by
  cases m with
  | task t =>
      cases t with
      | sendWelcomeEmail userId => cases hk
      | _ => rfl
  | sendTrialEndingEmail tenantId daysRemaining => rfl
  | sendEmailNotification notificationId => cases hk

/-- The result of every guarded mail is in the cache for a day from its time,
and no mail comes within a day of another for the same message. -/
structure Spaced (w : Worker) : Prop where
  stored : ∀ x ∈ w.outbox, ∀ k, guardKey x.message = some k → ∃ value expires,
    w.cache.entries (IdempotencyService.cacheKey k) = some (some value, expires)
      ∧ x.time + seconds IdempotencyService.defaultTtlSeconds ≤ expires
  apart : w.outbox.Pairwise fun x y => (guardKey x.message).isSome = true →
    x.message = y.message → x.time + seconds IdempotencyService.defaultTtlSeconds ≤ y.time

/-- The clock of an attempt is not behind that of a mail already sent. -/
def OnTime (w : Worker) : Label → Prop
  | .attempt _ a => ∀ x ∈ w.outbox, x.time ≤ a.now
  | _ => True

theorem expired_of_lookup {now expires : Time} {k value : String}
    (hentry : cache.entries (IdempotencyService.cacheKey k) = some (some value, expires))
    (hlookup : IdempotencyService.lookup cache now k = none) : expires ≤ now := by
  by_contra hlive
  have hget : cache.get now (IdempotencyService.cacheKey k) = some (some value) :=
    TtlCache.get_some.mpr ⟨expires, hentry, lt_of_not_ge hlive⟩
  rw [IdempotencyService.lookup, hget] at hlookup
  cases hlookup

theorem pairwise_toList {α β : Type} (f : α → β) (o : Option α) (R : β → β → Prop) :
    (o.toList.map f).Pairwise R := by
  cases o with
  | none => exact .nil
  | some a => exact List.pairwise_singleton ..

/-- A mail for a message that has left its trace in the cache. -/
theorem Spaced.send (hw : Spaced w) {k value : String} {mail : Option Mail}
    (hk : guardKey m = some k) (hclock : ∀ x ∈ w.outbox, x.time ≤ a.now)
    (hlookup : IdempotencyService.lookup w.cache a.now k = none)
    (hcache : w'.cache = w.cache.set (IdempotencyService.cacheKey k) (some value)
      (a.now + seconds IdempotencyService.defaultTtlSeconds))
    (hbox : w'.outbox = w.outbox ++ mail.toList.map fun mail => ⟨m, a.now, mail⟩) : Spaced w' where
  stored x hx k' hk' := by
    rw [hbox] at hx
    rw [hcache]
    have hown : x.time ≤ a.now → ∃ value' expires,
        (w.cache.set (IdempotencyService.cacheKey k) (some value)
          (a.now + seconds IdempotencyService.defaultTtlSeconds)).entries
            (IdempotencyService.cacheKey k) = some (some value', expires)
          ∧ x.time + seconds IdempotencyService.defaultTtlSeconds ≤ expires :=
      fun htime => ⟨value, _, if_pos rfl, Int.add_le_add_right htime _⟩
    rcases List.mem_append.mp hx with hold | hnew
    · by_cases hsame : k' = k
      · subst hsame
        exact hown (hclock x hold)
      · obtain ⟨value', expires, hentry, hbound⟩ := hw.stored x hold k' hk'
        exact ⟨value', expires, (if_neg fun h => hsame (cacheKey_inj h)).trans hentry, hbound⟩
    · obtain ⟨mail, -, rfl⟩ := List.mem_map.mp hnew
      obtain rfl := Option.some.inj (hk.symm.trans hk')
      exact hown (Int.le_refl _)
  apart := by
    rw [hbox, List.pairwise_append]
    refine ⟨hw.apart, pairwise_toList .., fun x hx y hy hguarded hsame => ?_⟩
    obtain ⟨mail, -, rfl⟩ := List.mem_map.mp hy
    have hkey : guardKey x.message = some k := hsame ▸ hk
    obtain ⟨value', expires, hentry, hbound⟩ := hw.stored x hx k hkey
    exact Int.le_trans hbound (expired_of_lookup hentry hlookup)

/-- A mail for a message that nothing guards. -/
theorem Spaced.unguarded (hw : Spaced w) {mail : Option Mail} (hk : guardKey m = none)
    (hcache : w'.cache = w.cache)
    (hbox : w'.outbox = w.outbox ++ mail.toList.map fun mail => ⟨m, a.now, mail⟩) : Spaced w' where
  stored x hx k' hk' := by
    rw [hbox] at hx
    rw [hcache]
    rcases List.mem_append.mp hx with hold | hnew
    · exact hw.stored x hold k' hk'
    · obtain ⟨mail, -, rfl⟩ := List.mem_map.mp hnew
      rw [hk] at hk'
      cases hk'
  apart := by
    rw [hbox, List.pairwise_append]
    refine ⟨hw.apart, pairwise_toList .., fun x hx y hy hguarded hsame => ?_⟩
    obtain ⟨mail, -, rfl⟩ := List.mem_map.mp hy
    rw [hsame, hk] at hguarded
    cases hguarded

theorem spaced_attempt (hw : Spaced w) (hi : w.broker.pending[i]? = some (m, retries))
    (hclock : ∀ x ∈ w.outbox, x.time ≤ a.now) : Spaced (w.attempt str cfg i a) := by
  rw [attempt_eq hi]
  cases hk : guardKey m with
  | none => exact hw.unguarded hk (perform_unguarded hk) rfl
  | some k =>
      rcases perform_guarded str cfg a w.accounts w.cache hk
        with ⟨hquiet, hcache⟩ | ⟨hlookup, value, hcache⟩
      · have hbox : w.outbox ++ (perform str cfg a w.accounts w.cache m).1.mail.toList.map
            (fun mail => (⟨m, a.now, mail⟩ : Sent)) = w.outbox := by
          rw [hquiet]
          exact List.append_nil _
        refine ⟨fun x hx => ?_, ?_⟩
        · simp only [hbox, hcache] at hx ⊢
          exact hw.stored x hx
        · simp only [hbox]
          exact hw.apart
      · exact hw.send hk hclock hlookup hcache rfl

theorem spaced_step {l : Label} (hw : Spaced w) (h : Step str cfg w l w') (hclock : OnTime w l) :
    Spaced w' := by
  obtain ⟨hadmissible, rfl⟩ := h
  cases l with
  | attempt i a =>
      obtain ⟨m, retries, hi⟩ := pending_of_lt hadmissible
      exact spaced_attempt hw hi hclock
  | _ => exact ⟨hw.stored, hw.apart⟩

/-- What a guarded task returns when its user or its notification is gone. -/
def skipText : Message → String
  | .task (.sendWelcomeEmail userId) => "welcome_skipped:" ++ toString userId
  | .sendEmailNotification notificationId =>
      "email_notification_skipped:" ++ uuidStr notificationId
  | _ => ""

/-- A value a guarded task returns for a reason: there was nobody to mail, or
its mail is out. -/
def Reasoned (outbox : List Sent) (m : Message) (value : String) : Prop :=
  value = skipText m ∨ ∃ x ∈ outbox, x.message = m

theorem Reasoned.append {outbox : List Sent} {value : String} (h : Reasoned outbox m value)
    (more : List Sent) : Reasoned (outbox ++ more) m value :=
  h.imp_right fun ⟨x, hx, hm⟩ => ⟨x, List.mem_append_left _ hx, hm⟩

/-- No account has the address. -/
def Unowned (s : AccountSite) (addr : String) : Prop := ∀ u ∈ s.users, u.email ≠ addr

/-- The requests give the address to nobody. -/
def Spares (addr : String) (_ : Worker) : Label → Prop
  | .request accounts => Unowned accounts addr
  | _ => True

theorem perform_users (str : Json → String) (cfg : MailConfig) (a : Attempt) (s : AccountSite)
    (cache : IdempotencyService.Cache String) (m : Message) :
    (perform str cfg a s cache m).2.1.users = s.users := by
  cases m with
  | task t =>
      cases t with
      | handleStripeEvent eventId eventType eventData => exact handleStripeEvent_users ..
      | _ => rfl
  | _ => rfl

theorem unowned_step {addr : String} {l : Label} (hw : Unowned w.accounts addr)
    (h : Lts.Guarded (Step str cfg) (Spares addr) w l w') : Unowned w'.accounts addr := by
  obtain ⟨⟨hadmissible, rfl⟩, hspares⟩ := h
  cases l with
  | request accounts => exact hspares
  | attempt i a =>
      obtain ⟨m, retries, hi⟩ := pending_of_lt hadmissible
      show Unowned (w.attempt str cfg i a).accounts addr
      rw [attempt_eq hi]
      exact fun u hu => hw u (perform_users str cfg a w.accounts w.cache m ▸ hu)
  | _ => exact hw

/-- A mail to an account that has an address is sent. -/
theorem sent_to_user {user : User} {subject : String} {context : List (String × Json)}
    {templateHtml templateTxt fromEmail : Option String} {sent : Option Mail}
    (hs : Unowned s "") (huser : user ∈ s.users)
    (h : EmailService.send cfg a subject (.one user.email) templateHtml templateTxt context
      fromEmail = .ok sent) : sent.isSome = true := by
  rcases EmailService.send_cases h with ⟨mail, rfl, -⟩ | ⟨-, hnobody⟩
  · rfl
  · exact absurd (hnobody user.email List.mem_cons_self) (hs user huser)

theorem welcome_sends {userId : UserId} {value : String} {mail : Option Mail} (hs : Unowned s "")
    (h : welcome cfg a s.toSite userId = .ok (value, mail)) :
    value = skipText (.task (.sendWelcomeEmail userId)) ∨ mail.isSome = true := by
  unfold welcome at h
  split at h
  · rename_i result hsent
    obtain rfl := Except.ok.inj h
    unfold WelcomeEmailService.sendToUser at hsent
    split at hsent
    · cases hsent
    · rename_i user huser
      obtain ⟨sent, hsend, hdone⟩ := except_bind_ok.mp hsent
      obtain ⟨-, rfl⟩ := Prod.mk.inj (Except.ok.inj hdone)
      exact Or.inr (sent_to_user hs (Site.getUser_some huser).1 hsend)
  · cases h
    exact Or.inl rfl
  · cases h

theorem notify_sends {notificationId : UUID} {value : String} {mail : Option Mail}
    (hs : Unowned s "") (h : notify cfg a s notificationId = .ok (value, mail)) :
    value = skipText (.sendEmailNotification notificationId) ∨ mail.isSome = true := by
  unfold notify at h
  split at h
  · cases h
    exact Or.inl rfl
  · split at h
    · cases h
    · rename_i user huser
      obtain ⟨sent, hsend, hdone⟩ := except_bind_ok.mp h
      obtain ⟨-, rfl⟩ := Prod.mk.inj (Except.ok.inj hdone)
      exact Or.inr (sent_to_user hs (Site.getUser_some huser).1 hsend)

/-- A guarded attempt that returns has found its value in the cache, or stores
the value it comes to. -/
theorem once_returned {now : Time} {k : String}
    {operation : Except TaskError (String × Option Mail)} {value : Option String}
    {mail : Option Mail}
    (h : (IdempotencyService.once cache now k operation).1 = .returned value mail) :
    ∃ v, value = some v
      ∧ ((∃ expires, cache.entries (IdempotencyService.cacheKey k) = some (some v, expires))
        ∨ operation = .ok (v, mail)) := by
  unfold IdempotencyService.once at h
  split at h
  · rename_i cached hlookup
    cases h
    obtain ⟨expires, hentry, -⟩ := TtlCache.get_some.mp (Option.join_eq_some_iff.mp hlookup)
    exact ⟨cached, rfl, Or.inl ⟨expires, hentry⟩⟩
  · split at h
    · cases h
    · cases h
      exact ⟨_, rfl, Or.inr rfl⟩

/-- What a guarded attempt stores under its key is what its operation came to. -/
theorem once_stored {now : Time} {k v : String} {expires : Time}
    {operation : Except TaskError (String × Option Mail)}
    (h : (IdempotencyService.once cache now k operation).2.entries
      (IdempotencyService.cacheKey k) = some (some v, expires)) :
    cache.entries (IdempotencyService.cacheKey k) = some (some v, expires)
      ∨ ∃ mail, operation = .ok (v, mail)
        ∧ (IdempotencyService.once cache now k operation).1 = .returned (some v) mail := by
  unfold IdempotencyService.once at h ⊢
  split at h
  · exact Or.inl h
  · split at h
    · exact Or.inl h
    · obtain ⟨hv, -⟩ := Prod.mk.inj (Option.some.inj ((if_pos rfl).symm.trans h))
      obtain rfl := Option.some.inj hv
      exact Or.inr ⟨_, rfl, rfl⟩

theorem once_other {now : Time} {k k' : String}
    (operation : Except TaskError (String × Option Mail)) (hne : k' ≠ k) :
    (IdempotencyService.once cache now k operation).2.entries (IdempotencyService.cacheKey k')
      = cache.entries (IdempotencyService.cacheKey k') := by
  rcases once_cases cache now k operation with ⟨-, hsame⟩ | ⟨-, value, hstored⟩
  · rw [hsame]
  · rw [hstored]
    exact if_neg fun h => hne (cacheKey_inj h)

/-- A guarded attempt is a run of its operation under its key, which mails or
returns the text of a skip. -/
theorem perform_once (str : Json → String) (cfg : MailConfig) (a : Attempt)
    (cache : IdempotencyService.Cache String) {k : String} (hs : Unowned s "")
    (hk : guardKey m = some k) :
    ∃ operation, (perform str cfg a s cache m).1
        = (IdempotencyService.once cache a.now k operation).1
      ∧ (perform str cfg a s cache m).2.2
        = (IdempotencyService.once cache a.now k operation).2
      ∧ ∀ v mail, operation = .ok (v, mail) → v = skipText m ∨ mail.isSome = true := by
  unfold guardKey at hk
  split at hk
  · obtain rfl := Option.some.inj hk
    exact ⟨_, rfl, rfl, fun _ _ h => welcome_sends hs h⟩
  · obtain rfl := Option.some.inj hk
    exact ⟨_, rfl, rfl, fun _ _ h => notify_sends hs h⟩
  · cases hk

/-- What an attempt adds to the messages that have ended. -/
theorem ended_attempt (hi : w.broker.pending[i]? = some (m, retries)) (result : TaskResult)
    (retryUp : Bool) {e : Ended Message Outcome}
    (he : e ∈ (w.broker.settle maxRetries i (result.verdict retryUp)).ended) :
    e ∈ w.broker.ended ∨ e.message = m ∧ ((∃ err, e.result = .failed err)
      ∨ ∃ value mail, result = .returned value mail
        ∧ (e.result = .quiet value ∨ e.result = .mailed value)) := by
  have hfinish : ∀ outcome, e ∈ (w.broker.finish i m retries outcome).ended →
      e ∈ w.broker.ended ∨ e.message = m ∧ e.result = outcome := fun outcome h =>
    (List.mem_append.mp h).imp_right fun hnew => by
      rw [List.mem_singleton.mp hnew]
      exact ⟨rfl, rfl⟩
  unfold Broker.settle at he
  rw [hi] at he
  cases result with
  | returned value mail =>
      cases mail with
      | none =>
          exact (hfinish _ he).imp_right fun h => ⟨h.1, Or.inr ⟨_, _, rfl, Or.inl h.2⟩⟩
      | some mail =>
          exact (hfinish _ he).imp_right fun h => ⟨h.1, Or.inr ⟨_, _, rfl, Or.inr h.2⟩⟩
  | raised err => exact (hfinish _ he).imp_right fun h => ⟨h.1, Or.inl ⟨_, h.2⟩⟩
  | retry err =>
      cases retryUp with
      | false => exact (hfinish _ he).imp_right fun h => ⟨h.1, Or.inl ⟨_, h.2⟩⟩
      | true =>
          simp only [TaskResult.verdict, if_true] at he
          split at he
          · exact Or.inl he
          · exact (hfinish _ he).imp_right fun h => ⟨h.1, Or.inl ⟨_, h.2⟩⟩

/-- Every value in the cache has its reason, and every guarded task that ended
failed or returned such a value. -/
structure Accounted (w : Worker) : Prop where
  cached : ∀ m k, guardKey m = some k → ∀ v expires,
    w.cache.entries (IdempotencyService.cacheKey k) = some (some v, expires) →
      Reasoned w.outbox m v
  ended : ∀ e ∈ w.broker.ended, (guardKey e.message).isSome = true →
    (∃ err, e.result = .failed err)
      ∨ ∃ v, (e.result = .quiet (some v) ∨ e.result = .mailed (some v))
        ∧ Reasoned w.outbox e.message v

/-- The mail of an attempt is in the outbox after it. -/
theorem reasoned_new {mail : Option Mail} {v : String} {now : Time} (outbox : List Sent)
    (h : v = skipText m ∨ mail.isSome = true) :
    Reasoned (outbox ++ mail.toList.map fun mail => ⟨m, now, mail⟩) m v := by
  refine h.imp_right fun hsome => ?_
  obtain ⟨mail, rfl⟩ := Option.isSome_iff_exists.mp hsome
  exact ⟨⟨m, now, mail⟩, List.mem_append_right _ List.mem_cons_self, rfl⟩

theorem accounted_attempt (hw : Accounted w) (hs : Unowned w.accounts "")
    (hi : w.broker.pending[i]? = some (m, retries)) : Accounted (w.attempt str cfg i a) := by
  rw [attempt_eq hi]
  refine ⟨fun m' k' hk' v expires hentry => ?_, fun e he hguarded => ?_⟩
  · simp only at hentry ⊢
    cases hk : guardKey m with
    | none =>
        rw [perform_unguarded hk] at hentry
        exact (hw.cached m' k' hk' v expires hentry).append _
    | some k =>
        obtain ⟨operation, hresult, hcache, hmails⟩ :=
          perform_once str cfg a w.cache hs hk
        rw [hcache] at hentry
        by_cases hkey : k' = k
        · subst hkey
          obtain rfl := guardKey_inj hk hk'
          rcases once_stored hentry with hold | ⟨mail, hok, hreturned⟩
          · exact (hw.cached m k' hk v expires hold).append _
          · rw [hresult, hreturned]
            exact reasoned_new w.outbox (hmails v mail hok)
        · rw [once_other operation hkey] at hentry
          exact (hw.cached m' k' hk' v expires hentry).append _
  · simp only at he ⊢
    rcases ended_attempt hi _ _ he with hold | ⟨rfl, hfailed | ⟨value, mail, hreturned, hvalue⟩⟩
    · exact (hw.ended e hold hguarded).imp_right fun ⟨v, hv, hreason⟩ =>
        ⟨v, hv, hreason.append _⟩
    · exact Or.inl hfailed
    · obtain ⟨k, hk⟩ := Option.isSome_iff_exists.mp hguarded
      obtain ⟨operation, hresult, -, hmails⟩ := perform_once str cfg a w.cache hs hk
      obtain ⟨v, rfl, hentry | hok⟩ := once_returned (hresult.symm.trans hreturned)
      · obtain ⟨expires, hentry⟩ := hentry
        exact Or.inr ⟨v, hvalue, (hw.cached _ k hk v expires hentry).append _⟩
      · refine Or.inr ⟨v, hvalue, ?_⟩
        rw [hreturned]
        exact reasoned_new w.outbox (hmails v mail hok)

theorem accounted_step {l : Label} (hw : Accounted w) (hs : Unowned w.accounts "")
    (h : Step str cfg w l w') : Accounted w' := by
  obtain ⟨hadmissible, rfl⟩ := h
  cases l with
  | attempt i a =>
      obtain ⟨m, retries, hi⟩ := pending_of_lt hadmissible
      exact accounted_attempt hw hs hi
  | redeliver i =>
      refine ⟨hw.cached, ?_⟩
      show ∀ e ∈ (w.broker.redeliver i).ended, _
      rw [Broker.redeliver_ended]
      exact hw.ended
  | _ => exact ⟨hw.cached, hw.ended⟩

end

/-! ## A welcome delivered twice -/

def plainMail : MailConfig where
  renderToString template _ := .ok template
  strftime _ := "January 01, 1970"
  planName plan := plan.slug
  defaultFromEmail := "noreply@example.com"
  frontendUrl := "http://localhost:3000"
  billingPortalUrl := none

def attemptAt (now : Time) : Attempt := ⟨now, fun _ => .ok (), true, true⟩

/-- The demo data with the welcome of its admin on the way. -/
def greeting : AccountSite :=
  DemoSeed.accounts.withSite { DemoSeed.site with queue := [.sendWelcomeEmail DemoSeed.admin.pk] }
    rfl

/-- The broker delivers twice, and the second attempt finds the first one's
result. -/
def deliveries : List Label :=
  [.redeliver 0, .attempt 0 (attemptAt 0), .attempt 0 (attemptAt (seconds 5))]

def greeted : Worker :=
  deliveries.foldl (next (fun _ => "") plainMail) (start greeting .empty)

theorem deliveries_run :
    Lts.Run (Lts.Guarded (Step (fun _ => "") plainMail) fun w l => OnTime w l ∧ Spares "" w l)
      (start greeting .empty) deliveries greeted := by
  refine .cons ⟨⟨?_, rfl⟩, trivial, trivial⟩
    (.cons ⟨⟨?_, rfl⟩, ?_, trivial⟩ (.cons ⟨⟨?_, rfl⟩, ?_, trivial⟩ (.nil _)))
  · show 0 < List.length _
    decide
  · show 0 < List.length _
    decide
  · exact fun x hx => absurd hx List.not_mem_nil
  · show 0 < List.length _
    decide
  · show ∀ x ∈ Worker.outbox _, _ ≤ seconds 5
    decide

/-- One mail for two deliveries. -/
example : greeted.outbox.length = 1 ∧ greeted.broker.ended.length = 2 := by
  decide

end Worker

end SaasKit
