import Mathlib.Logic.Function.Basic
import SaasKit.Lib.Run
import SaasKit.Python

/-!
# Correlation ids

A request binds its id as `request_id`, a task the id it was published with
as `trace_id`, and a publication hands on whichever of the two is bound. So
a whole tree of tasks runs under the id of the request it grew from, at any
depth and on any workers. Both the middleware and the task hooks clear the
context variables of their thread before they bind, so whatever ran there
before, however it ended, a handler sees only what is its own
(`ids_propagate`).
-/

namespace SaasKit

namespace TraceContext

/-! ## Context variables -/

/-- The structlog context variables of a thread. -/
abbrev Context := String → Option String

abbrev Headers := String → Option String

def clearContextvars (_ : Context) : Context := fun _ => none

def bindContextvars (c : Context) (key value : String) : Context :=
  Function.update c key (some value)

/-- `a or b`, where a string can be empty. -/
def pyOr (a b : Option String) : Option String :=
  match a with
  | some text => if text != "" then some text else b
  | none => b

/-- `id or str(uuid.uuid4())`. -/
def orUuid (id : Option String) (uuid : Nat) : String :=
  (pyOr id none).getD (uuidStr uuid)

/-! ## The hooks -/

/-- `before_task_publish`. -/
def injectTraceId (c : Context) (headers : Headers) : Headers :=
  match pyOr (pyOr (c "request_id") (c "trace_id")) none with
  | some traceId => Function.update headers "trace_id" (some traceId)
  | none => headers

/-- `task_prerun`. -/
def bindTaskTraceId (uuid : Nat) (headers : Headers) (c : Context) : Context :=
  bindContextvars (clearContextvars c) "trace_id" (orUuid (headers "trace_id") uuid)

/-- `task_postrun`. -/
def clearTaskTraceId (c : Context) : Context := clearContextvars c

/-! ## Bodies of handlers and tasks -/

/-- What a body does that matters here. The ids are bound by the hooks alone;
a failed publication is a `raise`. -/
inductive Action where
  | publish (headers : Headers) (body : List Action)
  | bind (key value : String) (other : key ≠ "request_id" ∧ key ≠ "trace_id")
  | raise

/-- A published task: its headers, and what it will do. -/
structure Message where
  headers : Headers
  body : List Action

/-- The messages of a body that starts in this context. -/
def published : Context → List Action → List Message
  | _, [] => []
  | c, .publish headers body :: rest => ⟨injectTraceId c headers, body⟩ :: published c rest
  | c, .bind key value _ :: rest => published (bindContextvars c key value) rest
  | _, .raise :: _ => []

/-- The context when the body is over, also by an exception. -/
def contextAfter : Context → List Action → Context
  | c, [] => c
  | c, .publish _ _ :: rest => contextAfter c rest
  | c, .bind key value _ :: rest => contextAfter (bindContextvars c key value) rest
  | c, .raise :: _ => c

/-- `Spawned c body c' body'`: the body `body'` runs in the context `c'` in a
task that the body `body`, started in `c`, has published, or that a task it
has published has published, and so on. Any worker runs it, whatever is bound
there. -/
inductive Spawned (c : Context) (body : List Action) : Context → List Action → Prop
  | child {m : Message} (worker : Context) (uuid : Nat) : m ∈ published c body →
      Spawned c body (bindTaskTraceId uuid m.headers worker) m.body
  | grandchild {c' : Context} {body' : List Action} {m : Message} (worker : Context)
      (uuid : Nat) : Spawned c body c' body' → m ∈ published c' body' →
      Spawned c body (bindTaskTraceId uuid m.headers worker) m.body

/-! ## One thread -/

/-- What `TenantMiddleware` makes of a request. -/
inductive Tenancy where
  | exempt
  | resolved (tenantId : String)
  | refused

def Tenancy.enter (c : Context) : Tenancy → Option Context
  | exempt => some c
  | resolved tenantId => some (bindContextvars c "tenant_id" tenantId)
  | refused => none

inductive Job where
  | request (header : Option String) (uuid : Nat) (tenancy : Tenancy) (handler : List Action)
  | task (headers : Headers) (uuid : Nat) (body : List Action)

/-- `RequestContextMiddleware`, up to `get_response`. -/
def requestContext (header : Option String) (uuid : Nat) (c : Context) : Context :=
  bindContextvars (clearContextvars c) "request_id" (orUuid header uuid)

/-- The context a job leaves on its thread, and the one its body starts in,
if it comes to that. -/
def next (c : Context) : Job → Context × Option Context
  | .request header uuid tenancy handler =>
      match tenancy.enter (requestContext header uuid c) with
      | some start => (clearContextvars (contextAfter start handler), some start)
      | none => (clearContextvars (requestContext header uuid c), none)
  | .task headers uuid body =>
      let start := bindTaskTraceId uuid headers c
      (clearTaskTraceId (contextAfter start body), some start)

/-- The ids bound for a job. -/
def Own : Job → String → String → Prop
  | .request header uuid tenancy _, key, value =>
      key = "request_id" ∧ value = orUuid header uuid
        ∨ key = "tenant_id" ∧ tenancy = .resolved value
  | .task headers uuid _, key, value =>
      key = "trace_id" ∧ value = orUuid (headers "trace_id") uuid

/-! ## Ids are never empty -/

theorem uuidStr_ne (uuid : Nat) : uuidStr uuid ≠ "" := by
  intro hempty
  have hlist := congrArg String.toList hempty
  rw [uuidStr, String.toList_intercalate] at hlist
  simp at hlist

theorem pyOr_some {id : String} (h : id ≠ "") (b : Option String) : pyOr (some id) b = some id := by
  simp [pyOr, h]

theorem orUuid_some {id : String} (h : id ≠ "") (uuid : Nat) : orUuid (some id) uuid = id := by
  rw [orUuid, pyOr_some h, Option.getD_some]

theorem orUuid_ne (id : Option String) (uuid : Nat) : orUuid id uuid ≠ "" := by
  cases id with
  | none => exact uuidStr_ne uuid
  | some text =>
      by_cases htext : text = ""
      · subst htext
        exact uuidStr_ne uuid
      · rw [orUuid_some htext]
        exact htext

section

variable {c c' : Context} {body body' : List Action} {id : String} {m : Message}

@[simp] theorem bindContextvars_self (c : Context) (key value : String) :
    bindContextvars c key value key = some value := Function.update_self ..

theorem bindContextvars_other {key key' : String} (h : key' ≠ key) (value : String) :
    bindContextvars c key value key' = c key' := Function.update_of_ne h ..

/-! ## Down the tree -/

/-- The id that a publication from this context hands on. -/
def Carries (id : String) (c : Context) : Prop := pyOr (c "request_id") (c "trace_id") = some id

theorem injectTraceId_of_carries (hid : id ≠ "") (h : Carries id c) (headers : Headers) :
    injectTraceId c headers "trace_id" = some id := by
  unfold Carries at h
  rw [injectTraceId, h, pyOr_some hid]
  exact Function.update_self ..

theorem Carries.bind {key : String} (h : Carries id c)
    (hother : key ≠ "request_id" ∧ key ≠ "trace_id") (value : String) :
    Carries id (bindContextvars c key value) := by
  unfold Carries
  rw [bindContextvars_other hother.1.symm, bindContextvars_other hother.2.symm]
  exact h

/-- Wherever a body publishes, it hands on the id it started with. -/
theorem published_header (hid : id ≠ "") (hc : Carries id c) (hm : m ∈ published c body) :
    m.headers "trace_id" = some id := by
  induction body generalizing c with
  | nil => cases hm
  | cons action rest ih =>
      cases action with
      | publish headers inner =>
          rcases List.mem_cons.mp hm with rfl | hm
          · exact injectTraceId_of_carries hid hc headers
          · exact ih hc hm
      | bind key value hother => exact ih (hc.bind hother value) hm
      | raise => cases hm

theorem bindTaskTraceId_of_header (hid : id ≠ "") {headers : Headers}
    (h : headers "trace_id" = some id) (worker : Context) (uuid : Nat) :
    bindTaskTraceId uuid headers worker "trace_id" = some id
      ∧ Carries id (bindTaskTraceId uuid headers worker) := by
  have hbound : bindTaskTraceId uuid headers worker "trace_id" = some id := by
    rw [bindTaskTraceId, bindContextvars_self, h, orUuid_some hid]
  refine ⟨hbound, ?_⟩
  have hrequest : bindTaskTraceId uuid headers worker "request_id" = none :=
    bindContextvars_other (by decide) _
  rw [Carries, hrequest, hbound]
  rfl

/-- Every task of the tree runs with the id at its root. -/
theorem spawned_traceId (hid : id ≠ "") (hc : Carries id c) (h : Spawned c body c' body') :
    c' "trace_id" = some id ∧ Carries id c' := by
  induction h with
  | child worker uuid hm =>
      exact bindTaskTraceId_of_header hid (published_header hid hc hm) worker uuid
  | grandchild worker uuid _ hm ih =>
      exact bindTaskTraceId_of_header hid (published_header hid ih.2 hm) worker uuid

/-! ## Along a thread -/

theorem requestContext_eq_some {header : Option String} {uuid : Nat} {key value : String}
    (h : requestContext header uuid c key = some value) :
    key = "request_id" ∧ value = orUuid header uuid := by
  by_cases hkey : key = "request_id"
  · subst hkey
    rw [requestContext, bindContextvars_self] at h
    exact ⟨rfl, (Option.some.inj h).symm⟩
  · rw [requestContext, bindContextvars_other hkey] at h
    cases h

theorem enter_carries {header : Option String} {uuid : Nat} {tenancy : Tenancy}
    {start : Context} (h : tenancy.enter (requestContext header uuid c) = some start) :
    Carries (orUuid header uuid) start := by
  have hbound : Carries (orUuid header uuid) (requestContext header uuid c) := by
    rw [Carries, requestContext, bindContextvars_self, pyOr_some (orUuid_ne header uuid)]
  cases tenancy with
  | exempt =>
      obtain rfl := Option.some.inj h
      exact hbound
  | resolved tenantId =>
      obtain rfl := Option.some.inj h
      exact hbound.bind ⟨by decide, by decide⟩ tenantId
  | refused => cases h

/-- What a body sees at its start is bound for its job, whatever the thread
had bound before. -/
theorem next_own {job : Job} {start : Context} (h : (next c job).2 = some start)
    {key value : String} (hbound : start key = some value) : Own job key value := by
  cases job with
  | request header uuid tenancy handler =>
      cases tenancy with
      | exempt =>
          obtain rfl := Option.some.inj h
          exact Or.inl (requestContext_eq_some hbound)
      | resolved tenantId =>
          obtain rfl := Option.some.inj h
          by_cases hkey : key = "tenant_id"
          · subst hkey
            rw [bindContextvars_self] at hbound
            exact Or.inr ⟨rfl, congrArg Tenancy.resolved (Option.some.inj hbound)⟩
          · rw [bindContextvars_other hkey] at hbound
            exact Or.inl (requestContext_eq_some hbound)
      | refused => cases h
  | task headers uuid body =>
      obtain rfl := Option.some.inj h
      by_cases hkey : key = "trace_id"
      · subst hkey
        rw [bindTaskTraceId, bindContextvars_self] at hbound
        exact ⟨rfl, (Option.some.inj hbound).symm⟩
      · rw [bindTaskTraceId, bindContextvars_other hkey] at hbound
        cases hbound

end

/-- Every task in the tree of a request runs with the id of the request; and
on a thread that runs one job after the other a body starts with nothing
bound but what was bound for it. -/
theorem ids_propagate :
    (∀ (c start : Context) header uuid tenancy handler,
        (next c (.request header uuid tenancy handler)).2 = some start →
        ∀ c' body, Spawned start handler c' body →
          c' "trace_id" = some (orUuid header uuid))
      ∧ ∀ (c₀ : Context) (jobs : List Job) c job start,
        (c, job, some start) ∈ Lts.steps next c₀ jobs →
        ∀ key value, start key = some value → Own job key value := by
  refine ⟨fun c start header uuid tenancy handler hstart c' body hspawned => ?_,
    fun c₀ jobs c job start hmem key value hbound => ?_⟩
  · have henter : tenancy.enter (requestContext header uuid c) = some start := by
      simp only [next] at hstart
      split at hstart
      · rename_i entered henter
        obtain rfl := Option.some.inj hstart
        exact henter
      · cases hstart
    exact (spawned_traceId (orUuid_ne header uuid) (enter_carries henter) hspawned).1
  · exact next_own (Lts.steps_output hmem).symm hbound

/-! ## A task that publishes a task -/

def unbound : Context := fun _ => none

def nested : List Action := [.publish (fun _ => none) [.publish (fun _ => none) []]]

def request : Job := .request (some "req-1") 1 (.resolved "7") nested

/-- A task that nobody has given an id. -/
def orphan : Job := .task (fun _ => none) 2 []

theorem ids_propagate_nested :
    (∃ start c', (next unbound request).2 = some start ∧ Spawned start nested c' []
        ∧ c' "trace_id" = some "req-1")
      ∧ ∃ c start, (c, orphan, some start) ∈ Lts.steps next unbound [request, orphan]
        ∧ ∀ key value, start key = some value → Own orphan key value := by
  obtain ⟨htree, hthread⟩ := ids_propagate
  have hspawned (start : Context) : Spawned start nested _ [] :=
    .grandchild unbound 4 (.child unbound 3 (m := ⟨_, _⟩) List.mem_cons_self) (m := ⟨_, []⟩)
      List.mem_cons_self
  have hsecond : ((next unbound request).1, orphan,
        some (bindTaskTraceId 2 (fun _ => none) (next unbound request).1))
      ∈ Lts.steps next unbound [request, orphan] :=
    List.mem_cons_of_mem _ List.mem_cons_self
  have htrace := htree unbound _ (some "req-1") 1 (.resolved "7") nested rfl _ _ (hspawned _)
  rw [orUuid_some (by decide)] at htrace
  exact ⟨⟨_, _, rfl, hspawned _, htrace⟩, _, _, hsecond, hthread _ _ _ _ _ hsecond⟩

end TraceContext

end SaasKit
