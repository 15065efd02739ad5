import Mathlib.Data.List.Sort
import Mathlib.Logic.Function.Basic
import SaasKit.Lib.Run
import SaasKit.NotificationChannel

/-!
# The inbox: `NotificationService` and its views

A user is to see the notifications that were created for them, the newest
first, each one unread until they mark it. `Board` says so: posts, and the
ids that have been read. The service keeps rows, and `mark_read` reads a row
before it saves it, so other requests come in between. `runs_refine` is the
simulation: whatever the order of the accesses, the rows show a board, each
row is marked by its own user, and the lists and the refusals of `mark_read`
are those of the board.

The page that the paginator cuts out of a list is left out.
-/

namespace SaasKit

open NotificationChannel (PostedNotification)

abbrev NotificationTable := Table PostedNotification (sameKey PostedNotification.pk)

namespace NotificationService

/-- `ordering = ["-created_at"]`. -/
def newestFirst (rows : List PostedNotification) : List PostedNotification :=
  rows.insertionSort fun a b => b.createdAt ≤ a.createdAt

def listUnread (t : NotificationTable) (user : User) : List PostedNotification :=
  newestFirst (t.filter fun row => row.user == user.pk && !row.isRead)

def listAll (t : NotificationTable) (user : User) : List PostedNotification :=
  newestFirst (t.filter fun row => row.user == user.pk)

/-- `Notification.objects.get(pk=notification_id, user=user)`. -/
def find (t : NotificationTable) (notificationId : UUID) (user : User) :
    Except Exc PostedNotification :=
  match t.find? fun row => row.id == notificationId && row.user == user.pk with
  | none =>
      .error (.validationServiceError ("Notification " ++ uuidStr notificationId ++ " not found."))
  | some row => .ok row

def setRead : Table.Rewrite (sameKey PostedNotification.pk) :=
  ⟨fun row => { row with isRead := true }, fun _ _ => rfl, fun _ _ => rfl⟩

/-- `mark_read` after its `get`: a save that finds no row raises. -/
def saveRead (t : NotificationTable) (row : PostedNotification) :
    Except Exc PostedNotification × NotificationTable :=
  if row.isRead then (.ok row, t)
  else if t.any (·.id == row.id) then
    (.ok { row with isRead := true }, t.modify (·.id == row.id) setRead)
  else (.error .databaseError, t)

def markRead (t : NotificationTable) (notificationId : UUID) (user : User) :
    Except Exc PostedNotification × NotificationTable :=
  match find t notificationId user with
  | .error e => (.error e, t)
  | .ok row => saveRead t row

end NotificationService

namespace NotificationListView

/-- What `get` hands to the paginator. -/
def queryset (text : Text) (t : NotificationTable) (user : User) (unreadOnly : Option String) :
    List PostedNotification :=
  if text.lower (unreadOnly.getD "") == "true" then NotificationService.listUnread t user
  else NotificationService.listAll t user

end NotificationListView

namespace MarkNotificationReadView

/-- `NotificationSerializer`. -/
def data (isoformat : Time → String) (row : PostedNotification) : Json :=
  .obj [("id", .str (uuidStr row.id)), ("title", .str row.title), ("body", .str row.body),
    ("is_read", .bool row.isRead), ("created_at", .str (isoformat row.createdAt))]

/-- The status and the body, unless an exception goes on to the handler. -/
def patch (isoformat : Time → String) (t : NotificationTable) (pk : UUID) (user : User) :
    Except Exc (Nat × Json) × NotificationTable :=
  match NotificationService.markRead t pk user with
  | (.ok row, t) => (.ok (200, data isoformat row), t)
  | (.error (.validationServiceError text), t) =>
      (.ok (404, .obj [("error", .str "not_found"), ("message", .str text)]), t)
  | (.error e, t) => (.error e, t)

end MarkNotificationReadView

namespace Inbox

open NotificationService

/-! ## The board -/

/-- The posts of all users, the newest first, and what has been read. -/
structure Board where
  posts : List PostedNotification
  read : UUID → Bool

namespace Board

def empty : Board := ⟨[], fun _ => false⟩

def shown (b : Board) (p : PostedNotification) : PostedNotification :=
  { p with isRead := b.read p.id }

/-- What a user is to see. -/
def inbox (b : Board) (pk : UserId) : List PostedNotification :=
  (b.posts.filter (·.user == pk)).map b.shown

def unread (b : Board) (pk : UserId) : List PostedNotification :=
  (b.inbox pk).filter fun p => !p.isRead

inductive Op where
  | post (p : PostedNotification)
  | mark (reader : UserId) (id : UUID)
  | erase (pk : UserId)

/-- A post is new, unread and the newest of its user, and only its user marks
it. -/
def Allowed (b : Board) : Op → Prop
  | .post p => p.isRead = false ∧ b.read p.id = false
      ∧ ∀ q ∈ b.posts, q.id ≠ p.id ∧ (q.user = p.user → q.createdAt < p.createdAt)
  | .mark reader id => ∃ p ∈ b.posts, p.id = id ∧ p.user = reader
  | .erase _ => True

def apply (b : Board) : Op → Board
  | .post p => { b with posts := p :: b.posts }
  | .mark _ id => { b with read := Function.update b.read id true }
  | .erase pk => { b with posts := b.posts.filter fun p => p.user != pk }

def Step (b : Board) (op : Op) (b' : Board) : Prop := Allowed b op ∧ apply b op = b'

end Board

/-! ## The service -/

/-- `loaded` are the rows that a `mark_read` has read and not yet saved, with
its caller; `history` is what has been done to the board. -/
structure World where
  notifications : NotificationTable
  loaded : List (User × PostedNotification)
  history : List Board.Op

def World.empty : World := ⟨∅, [], []⟩

inductive Label where
  | create (user : User) (title body : String) (now : Time) (uuid : UUID)
  | find (notificationId : UUID) (user : User)
  | save (i : Nat)
  | erase (user : User)

def newRow (user : User) (title body : String) (now : Time) (uuid : UUID) : PostedNotification :=
  { id := uuid, user := user.pk, title, body, isRead := false, createdAt := now }

def World.record (w : World) (op : Board.Op) : World := { w with history := w.history ++ [op] }

def next (w : World) : Label → World
  | .create user title body now uuid =>
      match w.notifications.insert? (newRow user title body now uuid) with
      | none => w
      | some notifications =>
          World.record { w with notifications } (.post (newRow user title body now uuid))
  | .find notificationId user =>
      match NotificationService.find w.notifications notificationId user with
      | .error _ => w
      | .ok row => { w with loaded := w.loaded ++ [(user, row)] }
  | .save i =>
      match w.loaded[i]? with
      | none => w
      | some (user, row) =>
          let (answer, notifications) := saveRead w.notifications row
          let w := { w with notifications, loaded := w.loaded.eraseIdx i }
          if answer.isOk && !row.isRead then w.record (.mark user.pk row.id) else w
  | .erase user =>
      World.record { w with notifications := w.notifications.delete (·.user == user.pk) }
        (.erase user.pk)

/-- A post of the history has the id. -/
def Posted (w : World) (id : UUID) : Prop := ∃ p, .post p ∈ w.history ∧ p.id = id

/-- The clock moves on from one `create` for a user to the next, and no
`uuid4` is drawn twice. -/
def Admissible (w : World) : Label → Prop
  | .create user _ _ now uuid =>
      (∀ row ∈ w.notifications, row.user = user.pk → row.createdAt < now) ∧ ¬ Posted w uuid
  | .save i => i < w.loaded.length
  | .find .. | .erase _ => True

def Step (w : World) (l : Label) (w' : World) : Prop := Admissible w l ∧ next w l = w'

/-- `create` of the service does what the step does, whatever the broadcast
comes to. -/
theorem create_stores {ι : Type} [DecidableEq ι] (isoformat : Time → String)
    (s : NotificationChannel.Hub ι) (w : World) (hsame : w.notifications = s.notifications)
    (user : User) (title body : String) (now : Time) (uuid : UUID)
    (broadcast : NotificationChannel.Broadcast ι) :
    (NotificationChannel.create isoformat s user title body now uuid none
        broadcast).1.notifications
      = (next w (.create user title body now uuid)).notifications := by
  unfold NotificationChannel.create next newRow
  simp only [hsame]
  split
  · rename_i h
    cases h
  · rename_i h
    rw [h]
    exact hsame.symm
  · rename_i h
    rw [h]
    rfl

/-- A `mark_read` that nothing comes in between is its two steps. -/
theorem find_save (w : World) (notificationId : UUID) (user : User) (hidle : w.loaded = []) :
    (next (next w (.find notificationId user)) (.save 0)).notifications
      = (markRead w.notifications notificationId user).2 := by
  unfold next markRead
  cases hfind : NotificationService.find w.notifications notificationId user with
  | error e => simp only [hfind, hidle, List.getElem?_nil]
  | ok row =>
      simp only [hfind, hidle, List.nil_append, List.getElem?_cons_zero]
      split <;> rfl

/-! ## Lists -/

theorem newestFirst_sorted (rows : List PostedNotification) :
    (newestFirst rows).Pairwise fun a b => b.createdAt ≤ a.createdAt :=
  List.pairwise_insertionSort _ rows

/-- Rows with different times come in one order only. -/
theorem newestFirst_reverse {rows : List PostedNotification}
    (h : rows.Pairwise fun a b => b.createdAt < a.createdAt) : newestFirst rows.reverse = rows := by
  have hperm : (newestFirst rows.reverse).Perm rows :=
    (List.perm_insertionSort ..).trans (List.reverse_perm rows)
  have hnodup : (rows.map (·.createdAt)).Nodup :=
    List.pairwise_map.mpr (h.imp fun hlt heq => absurd heq.symm (ne_of_lt hlt))
  refine hperm.eq_of_pairwise (fun a b ha hb hab hba => ?_) (newestFirst_sorted rows.reverse)
    (h.imp Int.le_of_lt)
  exact List.inj_on_of_nodup_map hnodup (hperm.mem_iff.mp ha) hb (Int.le_antisymm hba hab)

section

variable {w w' : World} {b : Board} {t : NotificationTable} {user : User}

/-- The rows show the board, the oldest first. -/
def ShowsRows (t : NotificationTable) (b : Board) : Prop := t.rows = (b.posts.map b.shown).reverse

/-- The times of a user's posts go down. -/
def Board.Ordered (b : Board) : Prop :=
  b.posts.Pairwise fun p q => q.user = p.user → q.createdAt < p.createdAt

theorem filter_inbox (h : ShowsRows t b) (pk : UserId) :
    t.filter (·.user == pk) = (b.inbox pk).reverse := by
  show t.rows.filter _ = _
  rw [h, List.filter_reverse, List.filter_map]
  rfl

theorem inbox_ordered (h : b.Ordered) (pk : UserId) :
    (b.inbox pk).Pairwise fun p q => q.createdAt < p.createdAt := by
  refine List.pairwise_map.mpr ?_
  refine (h.filter _).imp_of_mem fun {p q} hp hq hlt => hlt ?_
  rw [eq_of_beq (List.mem_filter.mp hp).2, eq_of_beq (List.mem_filter.mp hq).2]

theorem listAll_eq (h : ShowsRows t b) (hb : b.Ordered) (user : User) :
    listAll t user = b.inbox user.pk := by
  rw [listAll, filter_inbox h, newestFirst_reverse (inbox_ordered hb user.pk)]

theorem listUnread_eq (h : ShowsRows t b) (hb : b.Ordered) (user : User) :
    listUnread t user = b.unread user.pk := by
  have hfilter : t.filter (fun row => row.user == user.pk && !row.isRead)
      = (b.unread user.pk).reverse := by
    show t.rows.filter _ = ((b.inbox user.pk).filter _).reverse
    rw [← List.filter_reverse, ← filter_inbox h]
    show _ = (t.rows.filter _).filter _
    rw [List.filter_filter]
    exact List.filter_congr fun row _ => Bool.and_comm ..
  rw [listUnread, hfilter]
  exact newestFirst_reverse ((inbox_ordered hb user.pk).filter _)

theorem mem_rows_iff (h : ShowsRows t b) {row : PostedNotification} :
    row ∈ t ↔ ∃ p ∈ b.posts, b.shown p = row := by
  rw [← Table.mem_rows, h, List.mem_reverse, List.mem_map]

/-- `get` finds what the board has for the user, and nothing else. -/
theorem find_ok_iff (h : ShowsRows t b) (notificationId : UUID) (user : User) :
    (find t notificationId user).isOk = true
      ↔ ∃ p ∈ b.posts, p.id = notificationId ∧ p.user = user.pk := by
  unfold find
  split
  · rename_i hnone
    refine iff_of_false Bool.false_ne_true ?_
    rintro ⟨p, hp, hid, hpk⟩
    have hmiss := Table.find?_none.mp hnone (b.shown p) ((mem_rows_iff h).mpr ⟨p, hp, rfl⟩)
    simp [Board.shown, hid, hpk] at hmiss
  · rename_i row hsome
    obtain ⟨hmem, hkey⟩ := Table.find?_some hsome
    obtain ⟨p, hp, rfl⟩ := (mem_rows_iff h).mp hmem
    simp only [Bool.and_eq_true, beq_iff_eq] at hkey
    exact iff_of_true rfl ⟨p, hp, hkey.1, hkey.2⟩

/-! ## The simulation -/

/-- Every row that was read is of its caller, and of nobody else on the board. -/
structure Shows (w : World) (b : Board) : Prop where
  rows : ShowsRows w.notifications b
  run : Lts.Run Board.Step .empty w.history b
  ordered : b.Ordered
  posted : ∀ p ∈ b.posts, Posted w p.id
  read : ∀ id, b.read id = true → Posted w id
  loaded : ∀ entry ∈ w.loaded, Posted w entry.2.id
    ∧ ∀ p ∈ b.posts, p.id = entry.2.id → p.user = entry.1.pk

theorem Posted.record {id : UUID} (h : Posted w id) (op : Board.Op) : Posted (w.record op) id := by
  obtain ⟨p, hp, hid⟩ := h
  exact ⟨p, List.mem_append_left _ hp, hid⟩

theorem shows_create {title body : String} {now : Time} {uuid : UUID} (h : Shows w b)
    (hadmissible : Admissible w (.create user title body now uuid)) :
    ∃ b', Shows (next w (.create user title body now uuid)) b' := by
  obtain ⟨hclock, hfresh⟩ := hadmissible
  unfold next
  simp only
  split
  · exact ⟨b, h⟩
  · rename_i notifications hinsert
    generalize hp : newRow user title body now uuid = p at *
    have hid : p.id = uuid := by rw [← hp]; rfl
    have hunread : b.read p.id = false :=
      Bool.eq_false_iff.mpr fun hread => hfresh (hid ▸ h.read _ hread)
    have hallowed : Board.Allowed b (.post p) := by
      refine ⟨by rw [← hp]; rfl, hunread, fun q hq => ⟨fun hsame => ?_, fun hpk => ?_⟩⟩
      · exact hfresh (hid ▸ hsame ▸ h.posted q hq)
      · have hrow : b.shown q ∈ w.notifications := (mem_rows_iff h.rows).mpr ⟨q, hq, rfl⟩
        subst hp
        exact hclock (b.shown q) hrow hpk
    have hnew : Posted (World.record { w with notifications } (.post p)) p.id :=
      ⟨p, List.mem_append_right _ List.mem_cons_self, rfl⟩
    refine ⟨b.apply (.post p), ?_, h.run.snoc ⟨hallowed, rfl⟩, ?_, ?_, ?_, ?_⟩
    · show notifications.rows = ((p :: b.posts).map b.shown).reverse
      have hshown : b.shown p = p := by
        subst hp
        unfold Board.shown
        rw [hunread]
        rfl
      rw [Table.insert?_rows hinsert, List.map_cons, List.reverse_cons, ← h.rows, hshown]
    · exact List.pairwise_cons.mpr ⟨fun q hq => (hallowed.2.2 q hq).2, h.ordered⟩
    · intro q hq
      rcases List.mem_cons.mp hq with rfl | hq
      · exact hnew
      · exact (h.posted q hq).record _
    · exact fun id hread => (h.read id hread).record _
    · intro entry hentry
      obtain ⟨hposted, hown⟩ := h.loaded entry hentry
      refine ⟨hposted.record _, fun q hq hsame => ?_⟩
      rcases List.mem_cons.mp hq with rfl | hq
      · exact absurd (hid ▸ hsame ▸ hposted) hfresh
      · exact hown q hq hsame

/-- Two posts of one id are one row. -/
theorem user_eq_of_id (h : ShowsRows t b) {p q : PostedNotification} (hp : p ∈ b.posts)
    (hq : q ∈ b.posts) (hid : p.id = q.id) : p.user = q.user := by
  have hsame : b.shown p = b.shown q :=
    Table.eq_of_clash Table.sameKey_symm ((mem_rows_iff h).mpr ⟨p, hp, rfl⟩)
      ((mem_rows_iff h).mpr ⟨q, hq, rfl⟩) (Table.sameKey_iff.mpr hid)
  have huser := congrArg (fun row : PostedNotification => row.user) hsame
  exact huser

theorem shows_find (h : Shows w b) (notificationId : UUID) (user : User) :
    Shows (next w (.find notificationId user)) b := by
  unfold next
  simp only
  split
  · exact h
  · rename_i row hfound
    refine ⟨h.rows, h.run, h.ordered, h.posted, h.read, fun entry hentry => ?_⟩
    rcases List.mem_append.mp hentry with hentry | hentry
    · exact h.loaded entry hentry
    · rw [List.mem_singleton.mp hentry]
      unfold NotificationService.find at hfound
      split at hfound
      · cases hfound
      · rename_i found hsome
        obtain rfl := Except.ok.inj hfound
        obtain ⟨hmem, hkey⟩ := Table.find?_some hsome
        obtain ⟨q, hq, rfl⟩ := (mem_rows_iff h.rows).mp hmem
        simp only [Bool.and_eq_true, beq_iff_eq] at hkey
        exact ⟨h.posted q hq, fun p hp hid => (user_eq_of_id h.rows hp hq hid).trans hkey.2⟩

/-- A request that is done leaves the board as it is. -/
theorem Shows.forget (h : Shows w b) (i : Nat) :
    Shows { w with loaded := w.loaded.eraseIdx i } b where
  rows := h.rows
  run := h.run
  ordered := h.ordered
  posted := h.posted
  read := h.read
  loaded entry hentry := h.loaded entry (List.mem_of_mem_eraseIdx hentry)

theorem shown_update (b : Board) (id : UUID) (p : PostedNotification) :
    (if p.id == id then setRead.apply (b.shown p) else b.shown p)
      = (b.apply (.mark p.user id)).shown p := by
  by_cases hid : p.id = id
  · rw [if_pos (beq_iff_eq.mpr hid)]
    simp [Board.apply, Board.shown, setRead, hid]
  · rw [if_neg (by simpa using hid)]
    simp [Board.apply, Board.shown, hid]

theorem shows_mark {row : PostedNotification} (h : Shows w b)
    (hloaded : (user, row) ∈ w.loaded) (hrow : w.notifications.any (·.id == row.id) = true) :
    Shows (World.record { w with notifications := w.notifications.modify (·.id == row.id) setRead }
      (.mark user.pk row.id)) (b.apply (.mark user.pk row.id)) := by
  obtain ⟨hposted, hown⟩ := h.loaded _ hloaded
  obtain ⟨found, hmem, hid⟩ := Table.any_iff.mp hrow
  obtain ⟨q, hq, rfl⟩ := (mem_rows_iff h.rows).mp hmem
  have hid : q.id = row.id := eq_of_beq hid
  refine ⟨?_, h.run.snoc ⟨⟨q, hq, hid, hown q hq hid⟩, rfl⟩, h.ordered,
    fun p hp => (h.posted p hp).record _, fun id hread => ?_,
    fun entry hentry => ⟨(h.loaded entry hentry).1.record _, (h.loaded entry hentry).2⟩⟩
  · show w.notifications.rows.map _ = (b.posts.map _).reverse
    rw [h.rows, List.map_reverse, List.map_map]
    refine congrArg List.reverse (List.map_congr_left fun p _ => ?_)
    exact shown_update b row.id p
  · by_cases hsame : id = row.id
    · exact hsame ▸ hposted.record _
    · have hread : Function.update b.read row.id true id = true := hread
      rw [Function.update_of_ne hsame] at hread
      exact (h.read id hread).record _

theorem shows_save {i : Nat} (h : Shows w b) (hi : i < w.loaded.length) :
    ∃ b', Shows (next w (.save i)) b' := by
  have hget : w.loaded[i]? = some w.loaded[i] := List.getElem?_eq_getElem hi
  generalize w.loaded[i] = entry at hget
  obtain ⟨user, row⟩ := entry
  have hmem : (user, row) ∈ w.loaded := List.mem_of_getElem? hget
  unfold next saveRead
  simp only [hget]
  cases hread : row.isRead with
  | true => exact ⟨b, h.forget i⟩
  | false =>
      cases hrow : w.notifications.any (·.id == row.id) with
      | true => exact ⟨_, (shows_mark h hmem hrow).forget i⟩
      | false => exact ⟨b, h.forget i⟩

theorem shows_erase (h : Shows w b) (user : User) :
    Shows (next w (.erase user)) (b.apply (.erase user.pk)) where
  rows := by
    show w.notifications.rows.filter _ = ((b.posts.filter _).map b.shown).reverse
    rw [h.rows, List.filter_reverse, List.filter_map]
    rfl
  run := h.run.snoc ⟨trivial, rfl⟩
  ordered := h.ordered.filter _
  posted p hp := (h.posted p (List.mem_of_mem_filter hp)).record _
  read id hread := (h.read id hread).record _
  loaded entry hentry := by
    obtain ⟨hposted, hown⟩ := h.loaded entry hentry
    exact ⟨hposted.record _, fun p hp => hown p (List.mem_of_mem_filter hp)⟩

theorem shows_step {l : Label} (h : Shows w b) (hstep : Step w l w') : ∃ b', Shows w' b' := by
  obtain ⟨hadmissible, rfl⟩ := hstep
  cases l with
  | create user title body now uuid => exact shows_create h hadmissible
  | find notificationId user => exact ⟨b, shows_find h notificationId user⟩
  | save i => exact shows_save h hadmissible
  | erase user => exact ⟨_, shows_erase h user⟩

theorem Shows.empty : Shows .empty .empty where
  rows := rfl
  run := .nil _
  ordered := .nil
  posted p hp := absurd hp List.not_mem_nil
  read id hread := by cases hread
  loaded entry hentry := absurd hentry List.not_mem_nil

/-- Every run is one of the board, in which posts are marked by their own
users; both lists are the board's, and `mark_read` is refused exactly for what
the board does not have for the user. -/
theorem runs_refine {ls : List Label} (h : Lts.Run Step .empty ls w) :
    ∃ b, Lts.Run Board.Step .empty w.history b
      ∧ (∀ user, listAll w.notifications user = b.inbox user.pk
        ∧ listUnread w.notifications user = b.unread user.pk)
      ∧ ∀ notificationId user, (find w.notifications notificationId user).isOk = true
        ↔ ∃ p ∈ b.inbox user.pk, p.id = notificationId := by
  obtain ⟨b, hb⟩ := h.invariant (I := fun w => ∃ b, Shows w b)
    (fun _ _ _ ⟨_, hshows⟩ hstep => shows_step hshows hstep) ⟨_, .empty⟩
  refine ⟨b, hb.run, fun user => ⟨listAll_eq hb.rows hb.ordered user,
    listUnread_eq hb.rows hb.ordered user⟩, fun notificationId user => ?_⟩
  rw [find_ok_iff hb.rows]
  constructor
  · rintro ⟨p, hp, hid, hpk⟩
    exact ⟨b.shown p, List.mem_map_of_mem (List.mem_filter.mpr ⟨hp, beq_iff_eq.mpr hpk⟩), hid⟩
  · rintro ⟨row, hrow, hid⟩
    obtain ⟨p, hp, rfl⟩ := List.mem_map.mp hrow
    obtain ⟨hmem, hpk⟩ := List.mem_filter.mp hp
    exact ⟨p, hmem, hid, eq_of_beq hpk⟩

end

/-! ## Two notifications -/

/-- The second comes in while the first is being marked. -/
def visit : List Label :=
  [.create DemoSeed.admin "Welcome" "Your workspace is ready." 0 7, .find 7 DemoSeed.admin,
    .create DemoSeed.admin "Invoice" "Your invoice is ready." 1 8, .save 0]

def visited : World := visit.foldl next .empty

theorem visit_run : Lts.Run Step .empty visit visited := by
  refine .cons ⟨⟨fun row hrow => absurd hrow List.not_mem_nil, ?_⟩, rfl⟩ (.cons ⟨trivial, rfl⟩
    (.cons ⟨⟨?_, ?_⟩, rfl⟩ (.cons ⟨?_, rfl⟩ (.nil _))))
  · rintro ⟨p, hp, -⟩
    cases hp
  · show ∀ row ∈ World.notifications _, _
    decide
  · rintro ⟨p, hp, hid⟩
    obtain rfl := Board.Op.post.inj (List.mem_singleton.mp hp)
    cases hid
  · show 0 < List.length _
    decide

theorem runs_refine_visit :
    ∃ b, Lts.Run Board.Step .empty visited.history b
      ∧ (∀ user, listAll visited.notifications user = b.inbox user.pk
        ∧ listUnread visited.notifications user = b.unread user.pk)
      ∧ ∀ notificationId user, (find visited.notifications notificationId user).isOk = true
        ↔ ∃ p ∈ b.inbox user.pk, p.id = notificationId :=
  runs_refine visit_run

/-- The newest first, and only the first one read. -/
example : (listAll visited.notifications DemoSeed.admin).map (fun row => (row.id, row.isRead))
    = [(8, false), (7, true)] := by
  decide

end Inbox

end SaasKit
