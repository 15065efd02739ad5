import Mathlib.Logic.Function.Basic
import SaasKit.WebsocketAuth

/-!
# Notifications over WebSockets

`NotificationService.create` stores a row and sends it to the group of its
user; `NotificationConsumer` joins the group of the user it authenticated
and forwards what arrives. The two build the name of the group apart from
each other. A message waits in the channel of a consumer until it is handled,
so the invariant speaks of what waits as of what was sent: all of it is of a
stored notification of the consumer's user (`notifications_isolated`).

`group_send` reaches the channels that are in the group, or raises when it
has reached some of them. A `group_add` or a `group_discard` can raise too,
before or after it has taken effect.
-/

namespace SaasKit

namespace NotificationChannel

/-- A notification with the time it was stored. -/
structure PostedNotification extends Notification where
  createdAt : Time
  deriving DecidableEq, Repr

def PostedNotification.pk (row : PostedNotification) : UUID := row.id

/-- What is sent to a group. -/
structure Event where
  type : String
  id : String
  title : String
  body : String
  createdAt : String
  deriving DecidableEq, Repr

inductive Phase where
  | connecting
  | accepted
  | closed
  deriving DecidableEq, Repr

/-- A consumer and its channel: the messages that wait in it, and the frames
it has sent to its client. `none` stands for an anonymous user. -/
structure Consumer where
  scopeUser : Option User
  phase : Phase
  groupName : Option String
  waiting : List Event
  frames : List Json

/-- The table, and the channel layer with the consumers by channel name. -/
structure Hub (ι : Type) where
  notifications : Table PostedNotification (sameKey PostedNotification.pk)
  groups : List (String × ι)
  consumers : ι → Option Consumer

variable {ι : Type}

def Hub.empty : Hub ι := ⟨∅, [], fun _ => none⟩

/-- `_notification_group`. -/
def notificationGroup (userPk : UserId) : String := "notifications_" ++ toString userPk

/-- The message of a notification. -/
def event (isoformat : Time → String) (row : PostedNotification) : Event :=
  { type := "notification.message"
    id := uuidStr row.id
    title := row.title
    body := row.body
    createdAt := isoformat row.createdAt }

/-- `notification_message`: the frame for a message. -/
def notificationMessage (e : Event) : Json :=
  .obj [("id", .str e.id), ("title", .str e.title), ("body", .str e.body),
    ("created_at", .str e.createdAt)]

/-- How a broadcast ends: with every channel of the group reached, without a
channel layer, or by an exception, when some have been reached. -/
inductive Broadcast (ι : Type) where
  | sent
  | noLayer
  | failed (reached : ι → Bool)

/-- Whether it reaches a channel of the group. -/
def Broadcast.reaches : Broadcast ι → ι → Bool
  | sent, _ => true
  | noLayer, _ => false
  | failed reached, i => reached i

/-- How a `group_add` or a `group_discard` ends. -/
inductive LayerCall where
  | returned
  | raised (e : Exc) (applied : Bool)

def LayerCall.applied : LayerCall → Bool
  | returned => true
  | raised _ applied => applied

def LayerCall.result : LayerCall → Except Exc Unit
  | returned => .ok ()
  | raised e _ => .error e

section

variable [DecidableEq ι]

def groupAdd (s : Hub ι) (group : String) (i : ι) (call : LayerCall) : Hub ι :=
  if call.applied then { s with groups := s.groups.insert (group, i) } else s

def groupDiscard (s : Hub ι) (group : String) (i : ι) (call : LayerCall) : Hub ι :=
  if call.applied then
    { s with groups := s.groups.filter fun member => member != (group, i) }
  else s

def groupSend (s : Hub ι) (group : String) (e : Event) (broadcast : Broadcast ι) : Hub ι :=
  { s with consumers := fun i => (s.consumers i).map fun c =>
      if (group, i) ∈ s.groups ∧ broadcast.reaches i = true then
        { c with waiting := c.waiting ++ [e] }
      else c }

def Hub.set (s : Hub ι) (i : ι) (c : Consumer) : Hub ι :=
  { s with consumers := Function.update s.consumers i (some c) }

/-- `NotificationService.create`. -/
def create (isoformat : Time → String) (s : Hub ι) (user : User) (title body : String)
    (now : Time) (uuid : UUID) (raises : Option Exc) (broadcast : Broadcast ι) :
    Hub ι × Except Exc (Option PostedNotification) :=
  let row : PostedNotification :=
    { id := uuid, user := user.pk, title, body, isRead := false, createdAt := now }
  match raises, s.notifications.insert? row with
  | some e, _ => (s, .error e)
  | none, none => (s, .error .integrityError)
  | none, some notifications =>
      -- whatever the broadcast raises is logged and dropped
      (groupSend { s with notifications } (notificationGroup user.pk) (event isoformat row)
        broadcast, .ok (some row))

/-- `connect`, up to its `accept()`, on a new channel. -/
def connect (s : Hub ι) (i : ι) (scopeUser : Option User) (add : LayerCall) :
    Hub ι × Except Exc (Option PostedNotification) :=
  match s.consumers i with
  | some _ => (s, .ok none)
  | none =>
      match WebsocketAuth.connect (.ok scopeUser) with
      | .accepted group =>
          let phase := match add with
            | .returned => .connecting
            | .raised .. => .closed
          ((groupAdd s group i add).set i ⟨scopeUser, phase, some group, [], []⟩,
            add.result.map fun _ => none)
      | .closed _ => (s.set i ⟨scopeUser, .closed, none, [], []⟩, .ok none)
      | .raised e => (s.set i ⟨scopeUser, .closed, none, [], []⟩, .error e)

/-- The `accept()` of `connect`. -/
def accept (s : Hub ι) (i : ι) : Hub ι × Except Exc (Option PostedNotification) :=
  match s.consumers i with
  | some c => (if c.phase = .connecting then s.set i { c with phase := .accepted } else s, .ok none)
  | none => (s, .ok none)

/-- `disconnect`, after which nothing is handled any more. -/
def disconnect (s : Hub ι) (i : ι) (discard : LayerCall) :
    Hub ι × Except Exc (Option PostedNotification) :=
  match s.consumers i with
  | none => (s, .ok none)
  | some c =>
      match c.phase, c.groupName with
      | .accepted, some group =>
          ((groupDiscard s group i discard).set i { c with phase := .closed },
            discard.result.map fun _ => none)
      | .accepted, none => (s.set i { c with phase := .closed }, .ok none)
      | _, _ => (s, .ok none)

/-- A consumer handles the next message of its channel. -/
def handle (s : Hub ι) (i : ι) : Hub ι × Except Exc (Option PostedNotification) :=
  match s.consumers i with
  | none => (s, .ok none)
  | some c =>
      match c.phase, c.waiting with
      | .accepted, e :: waiting =>
          (s.set i { c with waiting, frames := c.frames ++ [notificationMessage e] }, .ok none)
      | _, _ => (s, .ok none)

/-! ## Runs -/

inductive Op (ι : Type) where
  | create (user : User) (title body : String) (now : Time) (uuid : UUID) (raises : Option Exc)
      (broadcast : Broadcast ι)
  | connect (i : ι) (scopeUser : Option User) (add : LayerCall)
  | accept (i : ι)
  | disconnect (i : ι) (discard : LayerCall)
  | handle (i : ι)

def next (isoformat : Time → String) (s : Hub ι) :
    Op ι → Hub ι × Except Exc (Option PostedNotification)
  | .create user title body now uuid raises broadcast =>
      create isoformat s user title body now uuid raises broadcast
  | .connect i scopeUser add => connect s i scopeUser add
  | .accept i => accept s i
  | .disconnect i discard => disconnect s i discard
  | .handle i => handle s i

end

/-! ## Whose messages these are -/

theorem notificationGroup_inj {pk : UserId} {user : User}
    (h : notificationGroup pk = WebsocketAuth.groupName user) : pk = user.pk :=
  toString_nat_inj (String.append_right_inj _ |>.mp h)

/-- The message is of a stored notification of this user. -/
def OfUser (isoformat : Time → String) (s : Hub ι) (scopeUser : Option User) (e : Event) : Prop :=
  ∃ user, scopeUser = some user
    ∧ ∃ row ∈ s.notifications, row.user = user.pk ∧ e = event isoformat row

/-- A consumer has been sent, and has sent on, what is its user's. -/
structure Consumer.Own (isoformat : Time → String) (s : Hub ι) (c : Consumer) : Prop where
  waiting : ∀ e ∈ c.waiting, OfUser isoformat s c.scopeUser e
  frames : ∀ frame ∈ c.frames, ∃ e, OfUser isoformat s c.scopeUser e
    ∧ frame = notificationMessage e

/-- A channel is in a group for the user its consumer authenticated. -/
structure Hub.Isolated (isoformat : Time → String) (s : Hub ι) : Prop where
  groups : ∀ group i, (group, i) ∈ s.groups → ∃ c user, s.consumers i = some c
    ∧ c.scopeUser = some user ∧ group = WebsocketAuth.groupName user
  consumers : ∀ i c, s.consumers i = some c → c.Own isoformat s

theorem Hub.Isolated.empty (isoformat : Time → String) :
    (Hub.empty : Hub ι).Isolated isoformat :=
  ⟨fun _ _ h => absurd h List.not_mem_nil, fun _ _ h => by cases h⟩

section

variable {isoformat : Time → String} {s s' : Hub ι} {i : ι} {c : Consumer}

theorem OfUser.mono {scopeUser : Option User} {e : Event} (h : OfUser isoformat s scopeUser e)
    (hrows : ∀ row ∈ s.notifications, row ∈ s'.notifications) :
    OfUser isoformat s' scopeUser e := by
  obtain ⟨user, huser, row, hrow, hpk, he⟩ := h
  exact ⟨user, huser, row, hrows row hrow, hpk, he⟩

theorem Consumer.Own.mono (h : c.Own isoformat s)
    (hrows : ∀ row ∈ s.notifications, row ∈ s'.notifications) : c.Own isoformat s' := by
  refine ⟨fun e he => (h.waiting e he).mono hrows, fun frame hframe => ?_⟩
  obtain ⟨e, he, hsent⟩ := h.frames frame hframe
  exact ⟨e, he.mono hrows, hsent⟩

variable [DecidableEq ι]

/-! ## What a step does -/

/-- The effect of a step: none, a notification that is stored and sent, a
consumer on a new channel, or one that is not closed and has gone on. -/
inductive Effect (isoformat : Time → String) (s : Hub ι) : Hub ι → Prop
  | idle : Effect isoformat s s
  | stored (user : User) (row : PostedNotification)
      (notifications : Table PostedNotification (sameKey PostedNotification.pk))
      (broadcast : Broadcast ι) :
      s.notifications.insert? row = some notifications → row.user = user.pk →
      Effect isoformat s (groupSend { s with notifications } (notificationGroup user.pk)
        (event isoformat row) broadcast)
  | opened (groups : List (String × ι)) (i : ι) (c : Consumer) :
      s.consumers i = none → c.waiting = [] → c.frames = [] →
      (∀ group j, (group, j) ∈ groups → (group, j) ∈ s.groups
        ∨ j = i ∧ ∃ user, c.scopeUser = some user ∧ group = WebsocketAuth.groupName user) →
      Effect isoformat s (Hub.set { s with groups } i c)
  | moved (groups : List (String × ι)) (i : ι) (c c' : Consumer) :
      s.consumers i = some c → c.phase ≠ .closed → c'.scopeUser = c.scopeUser →
      (∀ e ∈ c'.waiting, e ∈ c.waiting) →
      (∀ frame ∈ c'.frames, frame ∈ c.frames ∨ ∃ e ∈ c.waiting, frame = notificationMessage e) →
      (∀ member ∈ groups, member ∈ s.groups) →
      Effect isoformat s (Hub.set { s with groups } i c')

/-- A `create` that returns has stored its row; one that raises has done nothing. -/
theorem create_cases (isoformat : Time → String) (s : Hub ι) (user : User) (title body : String)
    (now : Time) (uuid : UUID) (raises : Option Exc) (broadcast : Broadcast ι) :
    (∃ e, create isoformat s user title body now uuid raises broadcast = (s, .error e))
      ∨ ∃ (row : PostedNotification) (notifications : _),
        s.notifications.insert? row = some notifications
        ∧ row.user = user.pk ∧ row.title = title ∧ row.body = body
        ∧ create isoformat s user title body now uuid raises broadcast
          = (groupSend { s with notifications } (notificationGroup user.pk) (event isoformat row)
              broadcast, .ok (some row)) := by
  unfold create
  dsimp only
  split
  · exact Or.inl ⟨_, rfl⟩
  · exact Or.inl ⟨_, rfl⟩
  · rename_i notifications hinsert
    exact Or.inr ⟨_, notifications, hinsert, rfl, rfl, rfl, rfl⟩

theorem connect_effect (s : Hub ι) (i : ι) (scopeUser : Option User) (add : LayerCall) :
    Effect isoformat s (connect s i scopeUser add).1 := by
  unfold connect
  split
  · exact .idle
  · rename_i hnew
    cases scopeUser with
    | none => exact .opened s.groups i _ hnew rfl rfl fun _ _ hmember => Or.inl hmember
    | some user =>
        show Effect isoformat s ((groupAdd s (WebsocketAuth.groupName user) i add).set i _)
        unfold groupAdd
        split
        · refine .opened _ i _ hnew rfl rfl fun group j hmember => ?_
          rcases List.mem_insert_iff.mp hmember with hadded | hold
          · obtain ⟨rfl, rfl⟩ := Prod.mk.inj hadded
            exact Or.inr ⟨rfl, user, rfl, rfl⟩
          · exact Or.inl hold
        · exact .opened s.groups i _ hnew rfl rfl fun _ _ hmember => Or.inl hmember

theorem accept_effect (s : Hub ι) (i : ι) : Effect isoformat s (accept s i).1 := by
  unfold accept
  split
  · rename_i c hc
    dsimp only
    split
    · rename_i hphase
      exact .moved s.groups i c _ hc (by simp [hphase]) rfl (fun _ he => he)
        (fun _ hframe => Or.inl hframe) fun _ hmember => hmember
    · exact .idle
  · exact .idle

theorem disconnect_effect (s : Hub ι) (i : ι) (discard : LayerCall) :
    Effect isoformat s (disconnect s i discard).1 := by
  unfold disconnect
  split
  · exact .idle
  · rename_i c hc
    split
    · rename_i group hphase _
      dsimp only
      unfold groupDiscard
      split
      · exact .moved _ i c _ hc (by simp [hphase]) rfl (fun _ he => he)
          (fun _ hframe => Or.inl hframe) fun _ hmember => List.mem_of_mem_filter hmember
      · exact .moved s.groups i c _ hc (by simp [hphase]) rfl (fun _ he => he)
          (fun _ hframe => Or.inl hframe) fun _ hmember => hmember
    · rename_i hphase _
      exact .moved s.groups i c _ hc (by simp [hphase]) rfl (fun _ he => he)
        (fun _ hframe => Or.inl hframe) fun _ hmember => hmember
    · exact .idle

theorem handle_effect (s : Hub ι) (i : ι) : Effect isoformat s (handle s i).1 := by
  unfold handle
  split
  · exact .idle
  · rename_i c hc
    split
    · rename_i e waiting hphase hwaiting
      refine .moved s.groups i c _ hc (by simp [hphase]) rfl (fun e' he' => ?_)
        (fun frame hframe => ?_) fun _ hmember => hmember
      · exact hwaiting ▸ List.mem_cons_of_mem e he'
      · rcases List.mem_append.mp hframe with hsent | hlast
        · exact Or.inl hsent
        · exact Or.inr ⟨e, hwaiting ▸ List.mem_cons_self, List.mem_singleton.mp hlast⟩
    · exact .idle

theorem next_effect (s : Hub ι) (op : Op ι) : Effect isoformat s (next isoformat s op).1 := by
  cases op with
  | create user title body now uuid raises broadcast =>
      rcases create_cases isoformat s user title body now uuid raises broadcast with
        ⟨e, hraised⟩ | ⟨row, notifications, hinsert, hpk, -, -, hreturned⟩
      · rw [next, hraised]
        exact .idle
      · rw [next, hreturned]
        exact .stored user row notifications broadcast hinsert hpk
  | connect i scopeUser add => exact connect_effect s i scopeUser add
  | accept i => exact accept_effect s i
  | disconnect i discard => exact disconnect_effect s i discard
  | handle i => exact handle_effect s i

/-! ## What every step keeps -/

@[simp] theorem set_consumers_self (s : Hub ι) (i : ι) (c : Consumer) :
    (s.set i c).consumers i = some c := Function.update_self ..

theorem set_consumers_other {j : ι} (h : j ≠ i) (c : Consumer) :
    (s.set i c).consumers j = s.consumers j := Function.update_of_ne h ..

/-- What a send leaves a consumer with. -/
theorem groupSend_consumers {group : String} {e : Event} {broadcast : Broadcast ι}
    (h : (groupSend s group e broadcast).consumers i = some c) :
    ∃ old, s.consumers i = some old ∧ c.scopeUser = old.scopeUser ∧ c.frames = old.frames
      ∧ ∀ e' ∈ c.waiting, e' ∈ old.waiting ∨ e' = e ∧ (group, i) ∈ s.groups := by
  obtain ⟨old, hold, rfl⟩ := Option.map_eq_some_iff.mp h
  refine ⟨old, hold, ?_⟩
  split
  · rename_i hmember
    refine ⟨rfl, rfl, fun e' he' => ?_⟩
    rcases List.mem_append.mp he' with hwaits | hnew
    · exact Or.inl hwaits
    · exact Or.inr ⟨List.mem_singleton.mp hnew, hmember.1⟩
  · exact ⟨rfl, rfl, fun e' he' => Or.inl he'⟩

/-- A stored notification stays. -/
theorem Effect.mem {row : PostedNotification} (h : Effect isoformat s s')
    (hrow : row ∈ s.notifications) : row ∈ s'.notifications := by
  cases h with
  | idle => exact hrow
  | stored _ _ _ _ hinsert _ => exact (Table.mem_insert? hinsert).mpr (Or.inl hrow)
  | opened => exact hrow
  | moved => exact hrow

/-- A consumer is written for the user it had, if it is not new. -/
theorem Hub.Isolated.set (hs : s.Isolated isoformat) {groups : List (String × ι)}
    (hown : c.Own isoformat s)
    (hscope : ∀ old, s.consumers i = some old → c.scopeUser = old.scopeUser)
    (hgroups : ∀ group j, (group, j) ∈ groups → (group, j) ∈ s.groups
      ∨ j = i ∧ ∃ user, c.scopeUser = some user ∧ group = WebsocketAuth.groupName user) :
    (Hub.set { s with groups } i c).Isolated isoformat := by
  refine ⟨fun group j hmember => ?_, fun j found hfound => ?_⟩
  · rcases hgroups group j hmember with hold | ⟨rfl, user, huser, hgroup⟩
    · obtain ⟨old, user, hold, huser, hgroup⟩ := hs.groups group j hold
      by_cases hj : j = i
      · subst hj
        exact ⟨c, user, set_consumers_self .., (hscope old hold).trans huser, hgroup⟩
      · exact ⟨old, user, (set_consumers_other hj c).trans hold, huser, hgroup⟩
    · exact ⟨c, user, set_consumers_self .., huser, hgroup⟩
  · by_cases hj : j = i
    · subst hj
      rw [set_consumers_self] at hfound
      obtain rfl := Option.some.inj hfound
      exact hown.mono fun _ hrow => hrow
    · rw [set_consumers_other hj] at hfound
      exact (hs.consumers j found hfound).mono fun _ hrow => hrow

theorem Effect.isolated (h : Effect isoformat s s') (hs : s.Isolated isoformat) :
    s'.Isolated isoformat := by
  cases h with
  | idle => exact hs
  | stored user row notifications broadcast hinsert hpk =>
      have hold : ∀ old ∈ s.notifications, old ∈ notifications := fun old hmem =>
        (Table.mem_insert? hinsert).mpr (Or.inl hmem)
      have hrow : row ∈ notifications := (Table.mem_insert? hinsert).mpr (Or.inr rfl)
      refine ⟨fun group j hmember => ?_, fun j c hc => ?_⟩
      · obtain ⟨c, member, hc, huser, hgroup⟩ := hs.groups group j hmember
        refine ⟨_, member, Option.map_eq_some_iff.mpr ⟨c, hc, rfl⟩, ?_, hgroup⟩
        split <;> exact huser
      · obtain ⟨before, hbefore, hscope, hframes, hwaiting⟩ := groupSend_consumers hc
        have hown : before.Own isoformat { s with notifications } :=
          (hs.consumers j before hbefore).mono hold
        refine ⟨fun e he => ?_, fun frame hframe => ?_⟩
        · rw [hscope]
          rcases hwaiting e he with hwaits | ⟨rfl, hmember⟩
          · exact hown.waiting e hwaits
          · -- the channel is in the group, so the group is that of its user
            obtain ⟨found, member, hfound, huser, hgroup⟩ := hs.groups _ j hmember
            obtain rfl : found = before := Option.some.inj (hfound.symm.trans hbefore)
            exact ⟨member, huser, row, hrow, hpk.trans (notificationGroup_inj hgroup), rfl⟩
        · rw [hscope]
          rw [hframes] at hframe
          exact hown.frames frame hframe
  | opened groups i c hnew hwaiting hframes hgroups =>
      have hown : c.Own isoformat s := by
        refine ⟨fun e he => ?_, fun frame hframe => ?_⟩
        · rw [hwaiting] at he
          cases he
        · rw [hframes] at hframe
          cases hframe
      refine hs.set hown (fun old hold => ?_) hgroups
      rw [hnew] at hold
      cases hold
  | moved groups i c c' hc hopen hscope hwaiting hframes hgroups =>
      have hown := hs.consumers i c hc
      refine hs.set ⟨fun e he => ?_, fun frame hframe => ?_⟩ (fun old hold => ?_)
        fun group j hmember => Or.inl (hgroups _ hmember)
      · rw [hscope]
        exact hown.waiting e (hwaiting e he)
      · rw [hscope]
        rcases hframes frame hframe with hsent | ⟨e, he, hlast⟩
        · exact hown.frames frame hsent
        · exact ⟨e, hown.waiting e he, hlast⟩
      · obtain rfl := Option.some.inj (hc.symm.trans hold)
        exact hscope

/-- The channel is closed, and these are the frames it has sent. -/
def ClosedWith (s : Hub ι) (i : ι) (frames : List Json) : Prop :=
  ∃ c, s.consumers i = some c ∧ c.phase = .closed ∧ c.frames = frames

/-- A closed connection is sent nothing. -/
theorem Effect.closed {frames : List Json} (h : Effect isoformat s s')
    (hclosed : ClosedWith s i frames) : ClosedWith s' i frames := by
  obtain ⟨c, hc, hphase, hframes⟩ := hclosed
  cases h with
  | idle => exact ⟨c, hc, hphase, hframes⟩
  | stored =>
      refine ⟨_, Option.map_eq_some_iff.mpr ⟨c, hc, rfl⟩, ?_, ?_⟩
      · split <;> exact hphase
      · split <;> exact hframes
  | opened groups j c' hnew =>
      have hj : i ≠ j := by
        rintro rfl
        rw [hnew] at hc
        cases hc
      exact ⟨c, (set_consumers_other hj c').trans hc, hphase, hframes⟩
  | moved groups j old c' hold hopen =>
      have hj : i ≠ j := by
        rintro rfl
        obtain rfl := Option.some.inj (hc.symm.trans hold)
        exact hopen hphase
      exact ⟨c, (set_consumers_other hj c').trans hc, hphase, hframes⟩

/-! ## Along a run -/

theorem isolated_of_run {calls : List (Op ι × Except Exc (Option PostedNotification))}
    (h : Lts.Run (Lts.ofFn (next isoformat)) Hub.empty calls s) : s.Isolated isoformat :=
  h.invariant_fn (I := Hub.Isolated isoformat) (fun t op ht => (next_effect t op).isolated ht)
    (.empty isoformat)

/-- A row that a call of the run has returned is in the table at its end. -/
theorem mem_of_created {s₀ : Hub ι} {calls : List (Op ι × Except Exc (Option PostedNotification))}
    (h : Lts.Run (Lts.ofFn (next isoformat)) s₀ calls s) {user : User} {title body : String}
    {now : Time} {uuid : UUID} {raises : Option Exc} {broadcast : Broadcast ι}
    {row : PostedNotification}
    (hcall : (.create user title body now uuid raises broadcast, .ok (some row)) ∈ calls) :
    row ∈ s.notifications ∧ row.user = user.pk ∧ row.title = title ∧ row.body = body := by
  obtain ⟨pre, post, rfl⟩ := List.append_of_mem hcall
  obtain ⟨t, t', -, hstep, hpost⟩ := h.split
  have hcreate : create isoformat t user title body now uuid raises broadcast
      = (t', .ok (some row)) := hstep
  rcases create_cases isoformat t user title body now uuid raises broadcast with
    ⟨e, hraised⟩ | ⟨new, notifications, hinsert, hpk, htitle, hbody, hreturned⟩
  · rw [hraised] at hcreate
    cases hcreate
  · rw [hreturned] at hcreate
    obtain ⟨rfl, hrow⟩ := Prod.mk.inj hcreate
    obtain rfl : new = row := Option.some.inj (Except.ok.inj hrow)
    refine ⟨?_, hpk, htitle, hbody⟩
    exact hpost.invariant_fn (I := fun u => new ∈ u.notifications)
      (fun u op hu => (next_effect u op).mem hu) ((Table.mem_insert? hinsert).mpr (Or.inr rfl))

theorem closed_of_run {frames : List Json}
    {calls : List (Op ι × Except Exc (Option PostedNotification))}
    (hrun : Lts.Run (Lts.ofFn (next isoformat)) s calls s') (h : ClosedWith s i frames) :
    ClosedWith s' i frames :=
  hrun.invariant_fn (I := fun t => ClosedWith t i frames)
    (fun t op ht => (next_effect t op).closed ht) h

end

/-- Whatever is connected, closed, stored and handled, in whatever order: a
frame is of a stored notification of the user its connection authenticated,
an anonymous connection is in no group and is sent nothing, a closed one is
sent nothing more, and what a `create` returned is stored. -/
theorem notifications_isolated [DecidableEq ι] {isoformat : Time → String} {s : Hub ι}
    {calls : List (Op ι × Except Exc (Option PostedNotification))}
    (h : Lts.Run (Lts.ofFn (next isoformat)) Hub.empty calls s) :
    (∀ i c, s.consumers i = some c → ∀ frame ∈ c.frames,
        ∃ user, c.scopeUser = some user ∧ ∃ row ∈ s.notifications,
          row.user = user.pk ∧ frame = notificationMessage (event isoformat row))
      ∧ (∀ i c, s.consumers i = some c → c.scopeUser = none →
        c.frames = [] ∧ ∀ group, (group, i) ∉ s.groups)
      ∧ (∀ i c, s.consumers i = some c → c.phase = .closed →
        ∀ calls' s', Lts.Run (Lts.ofFn (next isoformat)) s calls' s' →
          ∃ c', s'.consumers i = some c' ∧ c'.frames = c.frames)
      ∧ (∀ user title body now uuid raises broadcast row,
        (.create user title body now uuid raises broadcast, .ok (some row)) ∈ calls →
          row ∈ s.notifications ∧ row.user = user.pk ∧ row.title = title ∧ row.body = body)
      ∧ ∀ user title body now uuid raises broadcast broadcast',
        (create isoformat s user title body now uuid raises broadcast).2
            = (create isoformat s user title body now uuid raises broadcast').2
          ∧ (create isoformat s user title body now uuid raises broadcast).1.notifications
            = (create isoformat s user title body now uuid raises broadcast').1.notifications := by
  have hs : s.Isolated isoformat := isolated_of_run h
  refine ⟨fun i c hc frame hframe => ?_, fun i c hc hanonymous => ⟨?_, fun group hmember => ?_⟩,
    fun i c hc hclosed calls' s' hrun => ?_, ?_, ?_⟩
  · obtain ⟨e, ⟨user, huser, row, hrow, hpk, rfl⟩, hsent⟩ :=
      (hs.consumers i c hc).frames frame hframe
    exact ⟨user, huser, row, hrow, hpk, hsent⟩
  · refine List.eq_nil_iff_forall_not_mem.mpr fun frame hframe => ?_
    obtain ⟨e, ⟨user, huser, -⟩, -⟩ := (hs.consumers i c hc).frames frame hframe
    rw [hanonymous] at huser
    cases huser
  · obtain ⟨found, user, hfound, huser, -⟩ := hs.groups group i hmember
    obtain rfl := Option.some.inj (hfound.symm.trans hc)
    rw [hanonymous] at huser
    cases huser
  · obtain ⟨c', hc', -, hframes⟩ := closed_of_run hrun ⟨c, hc, hclosed, rfl⟩
    exact ⟨c', hc', hframes⟩
  · intro user title body now uuid raises broadcast row hcall
    exact mem_of_created h hcall
  · intro user title body now uuid raises broadcast broadcast'
    unfold create
    dsimp only
    split <;> exact ⟨rfl, rfl⟩

/-! ## Two visitors -/

/-- `isoformat`, as far as the run asks for it. -/
def epochFormat (_ : Time) : String := "1970-01-01T00:00:00+00:00"

/-- The admin is connected for the first notification only; the other
visitor is anonymous throughout. -/
def visit : List (Op Bool) :=
  [.connect false (some DemoSeed.admin) .returned,
    .accept false,
    .connect true none .returned,
    .create DemoSeed.admin "Invoice" "Paid" 0 7 none .sent,
    .handle false,
    .disconnect false .returned,
    .create DemoSeed.admin "Plan" "Changed" 0 8 none (.failed fun _ => true)]

def paid : PostedNotification := ⟨⟨7, DemoSeed.admin.pk, "Invoice", "Paid", false⟩, 0⟩

theorem notifications_isolated_visit :
    (∃ user, some DemoSeed.admin = some user
        ∧ ∃ row ∈ (Lts.after (next epochFormat) Hub.empty visit).notifications,
          row.user = user.pk
            ∧ notificationMessage (event epochFormat paid)
              = notificationMessage (event epochFormat row))
      ∧ ∀ group, (group, true) ∉ (Lts.after (next epochFormat) Hub.empty visit).groups := by
  have hrun := Lts.Run.of_inputs (next epochFormat) visit Hub.empty
  obtain ⟨hframes, hanonymous, -⟩ := notifications_isolated hrun
  exact ⟨hframes false _ rfl _ List.mem_cons_self, (hanonymous true _ rfl rfl).2⟩

end NotificationChannel

end SaasKit
