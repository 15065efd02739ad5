import Mathlib.Data.List.Forall2
import SaasKit.DemoSeed
import SaasKit.InvitationService
import SaasKit.LogRedaction

/-!
# What the invitation flow logs

The service logs the address of an invitation under `email`, which is
redacted. The task logs it under `recipient`, which is not. So two runs that
differ only in the address are logged alike exactly if no task gets as far as
sending a mail (`logs_iff`).
-/

namespace SaasKit

namespace InvitationLogs

open LogRedaction Nested

/-! ## The log statements -/

/-- The log statements of the flow, without the address. -/
inductive LogCall where
  | sent (tenantId role : String)
  | membersExceeded (tenantId : String) (current maxMembers : Nat) (plan : String)
  | writeFailed (action : String)
  | accepted (tenantId userId : String)
  | revoked (invitationId : String)
  | emailSent (tenant : String)
  | emailFailed (exc : String)
  deriving DecidableEq

def LogCall.level : LogCall → String
  | .sent _ _ | .accepted _ _ | .revoked _ | .emailSent _ => "info"
  | .membersExceeded _ _ _ _ | .emailFailed _ => "warning"
  | .writeFailed _ => "error"

def number (n : Nat) : Value := .leaf (.num n)

/-- The keyword arguments, and the name of the event. -/
def LogCall.event (address : String) : LogCall → Event
  | .sent tenantId role =>
      [(.str "tenant_id", text tenantId), (.str "email", text address), (.str "role", text role),
        (.str "event", text "invitation.sent")]
  | .membersExceeded tenantId current maxMembers plan =>
      [(.str "tenant_id", text tenantId), (.str "current", number current),
        (.str "max_members", number maxMembers), (.str "plan", text plan),
        (.str "event", text "plan_limit.members_exceeded")]
  | .writeFailed action =>
      -- `log.exception`
      [(.str "action", text action), (.str "exc_info", number 1),
        (.str "event", text "audit.write_failed")]
  | .accepted tenantId userId =>
      [(.str "tenant_id", text tenantId), (.str "user_id", text userId),
        (.str "event", text "invitation.accepted")]
  | .revoked invitationId =>
      [(.str "invitation_id", text invitationId), (.str "event", text "invitation.revoked")]
  | .emailSent tenant =>
      [(.str "recipient", text address), (.str "tenant", text tenant),
        (.str "event", text "invitation.email_sent")]
  | .emailFailed exc =>
      [(.str "recipient", text address), (.str "exc", text exc),
        (.str "event", text "invitation.email_failed")]

/-! ## The processors -/

/-- What is around a log statement: the context variables, the logger and the
clock. -/
structure Ambient where
  context : Event
  logger : Option String
  timestamp : String

def setDefault (key : Scalar) (value : Value) (event : Event) : Event :=
  if (event.lookup key).isSome then event else event ++ [(key, value)]

/-- `merge_contextvars`: the keys of the event come first. -/
def mergeContextvars (context event : Event) : Event :=
  context.foldl (fun merged field => setDefault field.1 field.2 merged) event

/-- `_safe_add_logger_name`. -/
def safeAddLoggerName (logger : Option String) (event : Event) : Event :=
  match logger with
  | some name => if name = "" then event else assign (.str "logger") (text name) event
  | none => event

/-- `shared_processors`. Those for positional arguments, stack traces and
bytes find nothing to do here. -/
def sharedProcessors (ambient : Ambient) (level : String) (event : Event) : Event :=
  let merged := mergeContextvars ambient.context event
  let named := safeAddLoggerName ambient.logger (assign (.str "level") (text level) merged)
  redactSensitiveFields (assign (.str "timestamp") (text ambient.timestamp) named)

/-! ## The steps of the flow -/

/-- How a call of `send_invitation` ends, as far as it is logged. -/
inductive SendWay where
  | sent
  | exceeded (current maxMembers : Nat) (plan : String)
  | raised
  deriving DecidableEq

def sendWay (cfg : Settings) (call : Call) (s : Site) (tenant : Tenant) (email role : String)
    (invitedBy : User) : SendWay :=
  match (InvitationService.sendInvitation cfg call s tenant email role invitedBy).1 with
  | .ok _ => .sent
  | .error (.planLimitExceededError _) =>
      match PlanLimitService.getPlan s tenant with
      | some plan => .exceeded (PlanLimitService.getMemberCount s tenant) plan.maxMembers plan.slug
      | none => .raised
  | .error _ => .raised

/-- The tenant joined, unless the call raises. -/
def acceptWay (s : Site) (now : Time) (token : String) (user : User) : Option UUID :=
  match (InvitationService.acceptInvitation s now token user).1 with
  | .ok inv => some inv.tenant
  | .error _ => none

/-- The invitation revoked, unless the call raises. -/
def revokeWay (s : Site) (invitationId : UUID) (tenant : Tenant) (revokedBy : User) :
    Option UUID :=
  match (InvitationService.revokeInvitation s invitationId tenant revokedBy).1 with
  | .ok inv => some inv.id
  | .error _ => none

/-- An attempt of the task: the template does not render, or `send_mail`
returns or raises. -/
inductive Attempt where
  | notRendered
  | delivered
  | failed (exc : String)

def maxRetries : Nat := 3

/-- The task with so many retries left. -/
def taskCalls (tenantName : String) : Nat → List Attempt → List LogCall
  | _, [] => []
  | _, .notRendered :: _ => []
  | _, .delivered :: _ => [.emailSent tenantName]
  | 0, .failed exc :: _ => [.emailFailed exc]
  | retries + 1, .failed exc :: rest => .emailFailed exc :: taskCalls tenantName retries rest

/-- A step of the flow, in whatever state the site is by then. The entries of
the audit log whose write fails are given by their action. -/
inductive Step where
  | send (call : Call) (s : Site) (tenant : Tenant) (role : String) (invitedBy : User)
  | accept (s : Site) (now : Time) (token : String) (user : User) (fails : String → Bool)
  | revoke (s : Site) (invitationId : UUID) (tenant : Tenant) (revokedBy : User)
      (fails : String → Bool)
  | task (tenantName : String) (attempts : List Attempt)

/-- What `AuditService.log` logs. -/
def audit (fails : String → Bool) (action : String) : List LogCall :=
  if fails action then [.writeFailed action] else []

def sendCalls (tenant : Tenant) (role : String) : SendWay → List LogCall
  | .sent => [.sent (uuidStr tenant.id) role]
  | .exceeded current maxMembers plan =>
      [.membersExceeded (uuidStr tenant.id) current maxMembers plan]
  | .raised => []

def acceptCalls (user : User) (fails : String → Bool) : Option UUID → List LogCall
  | some tenantId => audit fails "role_assigned" ++ audit fails "invitation_accepted"
      ++ [.accepted (uuidStr tenantId) (toString user.pk)]
  | none => []

def revokeCalls (fails : String → Bool) : Option UUID → List LogCall
  | some id => audit fails "invitation_revoked" ++ [.revoked (uuidStr id)]
  | none => []

/-- The log statements a step reaches. -/
def calls (cfg : Settings) (address : String) : Step → List LogCall
  | .send call s tenant role invitedBy =>
      sendCalls tenant role (sendWay cfg call s tenant address role invitedBy)
  | .accept s now token user fails => acceptCalls user fails (acceptWay s now token user)
  | .revoke s invitationId tenant revokedBy fails =>
      revokeCalls fails (revokeWay s invitationId tenant revokedBy)
  | .task tenantName attempts => taskCalls tenantName maxRetries attempts

/-- The address as the service stores it and hands it to the task. -/
def stored (cfg : Settings) (address : String) : String := cfg.lower (strip address)

/-- The events of a run, each with what is around it. -/
def logs (ambient : Nat → Ambient) (cfg : Settings) (address : String) (run : List Step) :
    List Event :=
  (run.flatMap (calls cfg address)).zipIdx.map fun c =>
    sharedProcessors (ambient c.2) c.1.level (c.1.event (stored cfg address))

/-! ## Two runs -/

/-- Steps that differ only in the address: the same call, and it ends alike. -/
inductive Alike (cfg : Settings) (a b : String) : Step → Step → Prop
  | send {call : Call} {s s' : Site} {tenant : Tenant} {role : String} {invitedBy : User} :
      sendWay cfg call s tenant a role invitedBy = sendWay cfg call s' tenant b role invitedBy →
      Alike cfg a b (.send call s tenant role invitedBy) (.send call s' tenant role invitedBy)
  | accept {s s' : Site} {now : Time} {token : String} {user : User} {fails : String → Bool} :
      acceptWay s now token user = acceptWay s' now token user →
      Alike cfg a b (.accept s now token user fails) (.accept s' now token user fails)
  | revoke {s s' : Site} {invitationId : UUID} {tenant : Tenant} {revokedBy : User}
      {fails : String → Bool} :
      revokeWay s invitationId tenant revokedBy = revokeWay s' invitationId tenant revokedBy →
      Alike cfg a b (.revoke s invitationId tenant revokedBy fails)
        (.revoke s' invitationId tenant revokedBy fails)
  | task {tenantName : String} {attempts : List Attempt} :
      Alike cfg a b (.task tenantName attempts) (.task tenantName attempts)

/-- The same dicts, in the same order. -/
def SameLogs (l l' : List Event) : Prop :=
  List.Forall₂ (fun e e' => Same (.dict e) (.dict e')) l l'

/-- A task that renders its template and sends a mail, or tries to. -/
def Mails : Step → Prop
  | .task _ (.delivered :: _) | .task _ (.failed _ :: _) => True
  | _ => False

/-- A log statement of the task. -/
def LogCall.mails : LogCall → Bool
  | .emailSent _ | .emailFailed _ => true
  | _ => false

section

variable {cfg : Settings} {ambient : Ambient} {a b level : String} {e e' : Event}
  {key k : Scalar} {v w : Value}

/-- The task is handed the address as it is stored. -/
theorem sendInvitation_recipient {call : Call} {s s' : Site} {tenant : Tenant}
    {address role : String} {invitedBy : User} {inv : TenantInvitation}
    (h : InvitationService.sendInvitation cfg call s tenant address role invitedBy
      = (.ok inv, s')) :
    ∃ invitedByName roleValue acceptUrl, s'.queue = s.queue
      ++ [.sendInvitationEmail (stored cfg address) tenant.name invitedByName roleValue
        acceptUrl] := by
  unfold InvitationService.sendInvitation at h
  simp only at h
  split at h
  · cases (Prod.mk.inj h).1
  · split at h
    · cases (Prod.mk.inj h).1
    · split at h
      · cases (Prod.mk.inj h).1
      · split at h
        · cases (Prod.mk.inj h).1
        · split at h
          · cases (Prod.mk.inj h).1
          · rename_i s₁ hcreate
            obtain ⟨invitations, -, rfl⟩ := InvitationService.createInvitation_ok hcreate
            unfold InvitationService.dispatchEmail at h
            simp only at h
            split at h
            · cases (Prod.mk.inj h).1
            · rename_i hsent
              split at hsent
              · obtain ⟨-, rfl⟩ := Prod.mk.inj hsent
                obtain ⟨-, rfl⟩ := Prod.mk.inj h
                exact ⟨_, _, _, rfl⟩
              · cases (Prod.mk.inj hsent).1

/-! ## Events that agree -/

/-- The same keys, with the same values but for sensitive ones. -/
structure Agree (e e' : Event) : Prop where
  keys : ∀ k, (e.lookup k).isSome = (e'.lookup k).isSome
  others : ∀ k, ¬ Sensitive k → e.lookup k = e'.lookup k

theorem Agree.refl (e : Event) : Agree e e := ⟨fun _ => rfl, fun _ _ => rfl⟩

theorem Agree.field (hvw : Sensitive key ∨ v = w) (h : Agree e e') :
    Agree ((key, v) :: e) ((key, w) :: e') where
  keys k := by
    rw [lookup_field, lookup_field]
    by_cases hk : k = key
    · rw [if_pos hk, if_pos hk]
      rfl
    · rw [if_neg hk, if_neg hk, h.keys]
  others k hother := by
    rw [lookup_field, lookup_field]
    by_cases hk : k = key
    · rw [if_pos hk, if_pos hk, hvw.resolve_left (hk ▸ hother)]
    · rw [if_neg hk, if_neg hk, h.others k hother]

theorem Agree.assign (h : Agree e e') : Agree (assign key v e) (assign key v e') where
  keys k := by rw [lookup_assign, lookup_assign, apply_ite Option.isSome, apply_ite Option.isSome,
    h.keys]
  others k hother := by rw [lookup_assign, lookup_assign, h.others k hother]

theorem lookup_setDefault (key k : Scalar) (v : Value) (e : Event) :
    (setDefault key v e).lookup k = (e.lookup k).or (if k = key then some v else none) := by
  unfold setDefault
  split
  · rename_i hset
    by_cases hk : k = key
    · obtain ⟨x, hx⟩ := Option.isSome_iff_exists.mp hset
      rw [hk, hx, Option.some_or]
    · rw [if_neg hk, Option.or_none]
  · rw [List.lookup_append, lookup_field]
    rfl

theorem Agree.setDefault (h : Agree e e') : Agree (setDefault key v e) (setDefault key v e') where
  keys k := by
    rw [lookup_setDefault, lookup_setDefault, Option.isSome_or, Option.isSome_or, h.keys]
  others k hother := by rw [lookup_setDefault, lookup_setDefault, h.others k hother]

theorem Agree.merge (context : Event) (h : Agree e e') :
    Agree (mergeContextvars context e) (mergeContextvars context e') := by
  unfold mergeContextvars
  induction context generalizing e e' with
  | nil => exact h
  | cons field rest ih => exact ih h.setDefault

theorem Agree.name (logger : Option String) (h : Agree e e') :
    Agree (safeAddLoggerName logger e) (safeAddLoggerName logger e') := by
  cases logger with
  | none => exact h
  | some name =>
      unfold safeAddLoggerName
      by_cases hname : name = ""
      · simpa [hname] using h
      · simpa [hname] using h.assign

/-- After the redaction nothing is left of what they do not agree in. -/
theorem Agree.redact (h : Agree e e') :
    Same (.dict (redactSensitiveFields e)) (.dict (redactSensitiveFields e')) := by
  have hvalue : ∀ k x y, ¬ Sensitive k → e.lookup k = some x → e'.lookup k = some y → x = y :=
    fun k x y hk hx hy => Option.some.inj (hx.symm.trans ((h.others k hk).trans hy))
  have hequal : EqualBut Sensitive (.dict e) (.dict e') :=
    equalBut_dict.mpr ⟨h.keys, fun k x y hk hx hy => hvalue k x y hk hx hy ▸ .refl _ x⟩
  exact (redact_same_iff hequal).mpr fun k x y hk hx hy => hvalue k x y hk hx hy ▸ .refl _ x

theorem Agree.processed (h : Agree e e') :
    Same (.dict (sharedProcessors ambient level e)) (.dict (sharedProcessors ambient level e')) :=
  (((h.merge ambient.context).assign.name ambient.logger).assign).redact

/-! ## One log statement -/

/-- The service's own statements have the address under a sensitive key only. -/
theorem event_agree {c : LogCall} (h : c.mails = false) (a b : String) :
    Agree (c.event a) (c.event b) := by
  have hemail : Sensitive (.str "email") := by decide
  cases c with
  | sent tenantId role => exact .field (Or.inr rfl) (.field (Or.inl hemail) (.refl _))
  | membersExceeded tenantId current maxMembers plan => exact .refl _
  | writeFailed action => exact .refl _
  | accepted tenantId userId => exact .refl _
  | revoked invitationId => exact .refl _
  | emailSent tenant => cases h
  | emailFailed exc => cases h

theorem lookup_merge {context : Event} (h : e.lookup k = some v) :
    (mergeContextvars context e).lookup k = some v := by
  unfold mergeContextvars
  induction context generalizing e with
  | nil => exact h
  | cons field rest ih =>
      refine ih ?_
      rw [lookup_setDefault, h, Option.some_or]

/-- What an event has under `recipient` comes out as it is. -/
theorem lookup_recipient (h : e.lookup (.str "recipient") = some v) :
    (sharedProcessors ambient level e).lookup (.str "recipient") = some v := by
  have hmerged : (mergeContextvars ambient.context e).lookup (.str "recipient") = some v :=
    lookup_merge h
  unfold sharedProcessors safeAddLoggerName
  simp only
  rw [lookup_of_not (by decide), lookup_assign, if_neg (by decide)]
  split
  · split
    · rw [lookup_assign, if_neg (by decide), hmerged]
    · rw [lookup_assign, if_neg (by decide), lookup_assign, if_neg (by decide), hmerged]
  · rw [lookup_assign, if_neg (by decide), hmerged]

/-- A log statement does not tell two addresses apart unless it is one of the
task's. -/
theorem call_same_iff (c : LogCall) :
    Same (.dict (sharedProcessors ambient level (c.event a)))
        (.dict (sharedProcessors ambient level (c.event b))) ↔ a = b ∨ c.mails = false := by
  constructor
  · intro hsame
    cases hmails : c.mails with
    | false => exact Or.inr rfl
    | true =>
        have hrecipient : ∀ address, (c.event address).lookup (.str "recipient")
            = some (text address) := by
          cases c with
          | emailSent tenant => exact fun _ => rfl
          | emailFailed exc => exact fun _ => rfl
          | _ => cases hmails
        have hleaf : Same (text a) (text b) := (equalBut_dict.mp hsame).2 (.str "recipient") _ _
          not_false (lookup_recipient (hrecipient a)) (lookup_recipient (hrecipient b))
        exact Or.inl (Scalar.str.inj hleaf.leaf_eq)
  · rintro (rfl | hmails)
    · exact .refl _ _
    · exact (event_agree hmails a b).processed

/-! ## The run -/

/-- Steps that differ only in the address reach the same log statements. -/
theorem calls_eq {x y : Step} (h : Alike cfg a b x y) : calls cfg a x = calls cfg b y := by
  cases h with
  | send hway => rw [calls, calls, hway]
  | accept hway => rw [calls, calls, hway]
  | revoke hway => rw [calls, calls, hway]
  | task => rfl

theorem run_calls_eq {xs ys : List Step} (h : List.Forall₂ (Alike cfg a b) xs ys) :
    xs.flatMap (calls cfg a) = ys.flatMap (calls cfg b) := by
  induction h with
  | nil => rfl
  | cons hstep _ ih => rw [List.flatMap_cons, List.flatMap_cons, calls_eq hstep, ih]

theorem audit_mails {fails : String → Bool} {action : String} {c : LogCall}
    (h : c ∈ audit fails action) : c.mails = false := by
  unfold audit at h
  split at h
  · obtain rfl := List.mem_singleton.mp h
    rfl
  · cases h

theorem sendCalls_mails {tenant : Tenant} {role : String} {way : SendWay} {c : LogCall}
    (h : c ∈ sendCalls tenant role way) : c.mails = false := by
  cases way with
  | sent => obtain rfl := List.mem_singleton.mp h; rfl
  | exceeded current maxMembers plan => obtain rfl := List.mem_singleton.mp h; rfl
  | raised => cases h

theorem acceptCalls_mails {user : User} {fails : String → Bool} {way : Option UUID} {c : LogCall}
    (h : c ∈ acceptCalls user fails way) : c.mails = false := by
  cases way with
  | none => cases h
  | some tenantId =>
      rcases List.mem_append.mp h with h | h
      · exact (List.mem_append.mp h).elim audit_mails audit_mails
      · obtain rfl := List.mem_singleton.mp h
        rfl

theorem revokeCalls_mails {fails : String → Bool} {way : Option UUID} {c : LogCall}
    (h : c ∈ revokeCalls fails way) : c.mails = false := by
  cases way with
  | none => cases h
  | some id =>
      rcases List.mem_append.mp h with h | h
      · exact audit_mails h
      · obtain rfl := List.mem_singleton.mp h
        rfl

/-- Only a task that gets as far as the mail has a statement of its own. -/
theorem calls_mails_iff (x : Step) : (∀ c ∈ calls cfg a x, c.mails = false) ↔ ¬ Mails x := by
  cases x with
  | send call s tenant role invitedBy =>
      exact iff_of_true (fun c hc => sendCalls_mails hc) not_false
  | accept s now token user fails =>
      exact iff_of_true (fun c hc => acceptCalls_mails hc) not_false
  | revoke s invitationId tenant revokedBy fails =>
      exact iff_of_true (fun c hc => revokeCalls_mails hc) not_false
  | task tenantName attempts =>
      cases attempts with
      | nil => exact iff_of_true (fun c hc => (List.not_mem_nil hc).elim) not_false
      | cons attempt rest =>
          cases attempt with
          | notRendered => exact iff_of_true (fun c hc => (List.not_mem_nil hc).elim) not_false
          | delivered =>
              refine iff_of_false (fun hnone => ?_) (not_not_intro trivial)
              cases hnone (.emailSent tenantName) List.mem_cons_self
          | failed exc =>
              refine iff_of_false (fun hnone => ?_) (not_not_intro trivial)
              cases hnone (.emailFailed exc) List.mem_cons_self

/-- Two runs that differ only in the address are logged alike exactly if the
service stores the same address in both, or no mail is tried in them. -/
theorem logs_iff (ambient : Nat → Ambient) {xs ys : List Step}
    (h : List.Forall₂ (Alike cfg a b) xs ys) :
    SameLogs (logs ambient cfg a xs) (logs ambient cfg b ys) ↔
      stored cfg a = stored cfg b ∨ ∀ x ∈ xs, ¬ Mails x := by
  have hmails : (∀ c ∈ xs.flatMap (calls cfg a), c.mails = false) ↔ ∀ x ∈ xs, ¬ Mails x := by
    rw [List.forall_mem_flatMap]
    exact forall₂_congr fun x _ => calls_mails_iff x
  have hcalls : SameLogs (logs ambient cfg a xs) (logs ambient cfg b ys) ↔
      ∀ c ∈ xs.flatMap (calls cfg a), stored cfg a = stored cfg b ∨ c.mails = false := by
    unfold SameLogs logs
    rw [← run_calls_eq h, List.forall₂_map_left_iff, List.forall₂_map_right_iff, List.forall₂_same]
    simp only [call_same_iff]
    conv_rhs => rw [← List.zipIdx_map_fst 0 (xs.flatMap (calls cfg a))]
    rw [List.forall_mem_map]
  rw [hcalls, ← hmails]
  exact ⟨fun hall => or_iff_not_imp_left.mpr fun hne c hc => (hall c hc).resolve_left hne,
    fun hcond c hc => hcond.imp_right fun hall => hall c hc⟩

end

/-! ## A delivery -/

def worker (_ : Nat) : Ambient := ⟨[], some "apps.invitations.tasks", "2026-01-01T00:00:00Z"⟩

def invited : List Step :=
  [.send (DemoSeed.callAt 0 7) DemoSeed.site DemoSeed.tenant1 "member" DemoSeed.admin]

/-- Without the task, the address is nowhere in the logs. -/
theorem logs_invited :
    SameLogs (logs worker DemoSeed.settings "ada@example.com" invited)
      (logs worker DemoSeed.settings "bob@example.com" invited) := by
  have halike : List.Forall₂ (Alike DemoSeed.settings "ada@example.com" "bob@example.com")
      invited invited := .cons (.send (by decide)) .nil
  have hquiet : ∀ x ∈ invited, ¬ Mails x := by simp [invited, Mails]
  exact (logs_iff worker halike).mpr (Or.inr hquiet)

def delivery : List Step := [.task "Tenant One" [.delivered]]

/-- The task logs whom it has written to. -/
theorem logs_delivery :
    List.Forall₂ (Alike DemoSeed.settings "ada@example.com" "bob@example.com") delivery delivery
      ∧ ¬ SameLogs (logs worker DemoSeed.settings "ada@example.com" delivery)
        (logs worker DemoSeed.settings "bob@example.com" delivery) := by
  refine ⟨.cons .task .nil, fun hsame => ?_⟩
  obtain ⟨hevent, -⟩ := List.forall₂_cons.mp hsame
  rcases (call_same_iff (.emailSent "Tenant One")).mp hevent with hstored | hmails
  · revert hstored
    decide
  · cases hmails

end InvitationLogs

end SaasKit
