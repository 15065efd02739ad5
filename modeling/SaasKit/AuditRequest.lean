import Mathlib.Data.List.TakeWhile
import SaasKit.DemoSeed
import SaasKit.Throttling

/-!
# Audit entries of requests: `AuditService.log` and `_get_client_ip`

With a request at hand, an entry carries the client's address, and that is the
first part of `X-Forwarded-For`, as the client sent it. The column takes
addresses only, and the entry is written inside a `try` that swallows every
exception. So a client can keep an entry from being written
(`writes_alike_iff`), or have one written with an address of its choice
(`genuine_iff`): nginx puts the true one last.
-/

namespace SaasKit

/-- What `log` reads of a request; `user` is an authenticated one. -/
structure AuditRequest where
  headers : Throttling.Meta
  userAgent : Option String
  user : Option User

/-- The other arguments of `log`. -/
structure AuditCall where
  action : AuditAction
  tenant : Option Tenant
  actor : Option User
  resourceType : String
  resourceId : String
  metadata : List (String × Json)

namespace AuditService

/-- `s.split(",")[0]`. -/
def firstPart (s : String) : String := String.ofList (s.toList.takeWhile (· ≠ ','))

def getClientIp (m : Throttling.Meta) : Option String :=
  let remoteAddr := if m.remoteAddr = "" then none else some m.remoteAddr
  match m.httpXForwardedFor with
  | some forwardedFor =>
      if forwardedFor = "" then remoteAddr else some (strip (firstPart forwardedFor))
  | none => remoteAddr

/-- Saving a `GenericIPAddressField`: `inet` is what the column keeps of an
address, `none` for any other text, which raises. -/
def ipColumn (inet : String → Option String) : Option String → Except Unit (Option String)
  | none => .ok none
  | some value =>
      if value = "" then .ok none
      else
        match inet value with
        | some kept => .ok (some kept)
        | none => .error ()

def resolvedActor (call : AuditCall) (request : Option AuditRequest) : Option User :=
  match call.actor with
  | some actor => some actor
  | none => request.bind (·.user)

/-- The widths and foreign keys of the other columns. -/
def storable (s : Site) (call : AuditCall) (actor : Option User) : Bool :=
  !tooLong 254 (actor.map (·.email)) && !tooLong 100 (some call.resourceType)
    && !tooLong 255 (some call.resourceId) && call.tenant.all (fun t => (s.getTenant t.id).isSome)
    && actor.all fun u => (s.getUser u.pk).isSome

def entry (call : AuditCall) (request : Option AuditRequest) (ipAddress : Option String) :
    AuditLog :=
  let actor := resolvedActor call request
  { tenant := call.tenant.map (·.id)
    actor := actor.map (·.pk)
    actorEmail := (actor.map (·.email)).getD ""
    action := call.action
    resourceType := call.resourceType
    resourceId := call.resourceId
    metadata := call.metadata
    ipAddress
    userAgent := (request.bind (·.userAgent)).getD "" }

/-- `AuditService.log` with a request. -/
def logRequest (inet : String → Option String) (s : Site) (call : AuditCall)
    (request : Option AuditRequest) : Site :=
  match ipColumn inet (request.bind fun r => getClientIp r.headers) with
  | .error () => s
  | .ok ipAddress =>
      if storable s call (resolvedActor call request) then
        { s with auditLogs := s.auditLogs ++ [entry call request ipAddress] }
      else s

section

variable {inet : String → Option String} {s : Site} {call : AuditCall}
  {request : Option AuditRequest} {row : AuditLog}

/-- Without a request it is the log of the services. -/
theorem logRequest_none (h : storable s call call.actor = true) :
    logRequest inet s call none
      = log s call.action call.tenant call.actor call.resourceType call.resourceId
        call.metadata := by
  have hactor : resolvedActor call none = call.actor := by
    unfold resolvedActor
    cases call.actor with
    | none => rfl
    | some actor => rfl
  simp only [logRequest, Option.bind_none, ipColumn, hactor, h, if_true, log, entry]
  rfl

/-- Saving goes through for null, the empty string and addresses. -/
theorem ipColumn_ok {ip kept : Option String} : ipColumn inet ip = .ok kept ↔
    (ip = none ∨ ip = some "") ∧ kept = none
      ∨ ∃ value address, ip = some value ∧ value ≠ "" ∧ inet value = some address
        ∧ kept = some address := by
  unfold ipColumn
  cases ip with
  | none => simp [eq_comm]
  | some value =>
      by_cases hempty : value = ""
      · simp [hempty, eq_comm]
      · cases hinet : inet value with
        | none => simp [hempty, hinet]
        | some address => simp [hempty, hinet, eq_comm]

/-- What the column keeps can only be `a` if the text is not empty and no other
address. -/
theorem ipColumn_only {value a : String} :
    (∀ kept, ipColumn inet (some value) = .ok kept → kept = some a) ↔
      value ≠ "" ∧ ∀ address, inet value = some address → address = a := by
  constructor
  · intro h
    have hne : value ≠ "" := by
      rintro rfl
      cases h none (ipColumn_ok.mpr (Or.inl ⟨Or.inr rfl, rfl⟩))
    refine ⟨hne, fun address haddress => ?_⟩
    exact Option.some.inj (h _ (ipColumn_ok.mpr (Or.inr ⟨value, address, rfl, hne, haddress, rfl⟩)))
  · rintro ⟨hne, hall⟩ kept hkept
    rcases ipColumn_ok.mp hkept with ⟨hblank, -⟩ | ⟨given, address, hgiven, -, haddress, rfl⟩
    · rcases hblank with hnone | hempty
      · cases hnone
      · exact absurd (Option.some.inj hempty) hne
    · obtain rfl := Option.some.inj hgiven
      rw [hall address haddress]

/-- An entry is written if the address and the other columns can be stored. -/
theorem logRequest_writes :
    (logRequest inet s call request).auditLogs = s.auditLogs ++ [row] ↔
      storable s call (resolvedActor call request) = true
        ∧ ∃ ipAddress, ipColumn inet (request.bind fun r => getClientIp r.headers) = .ok ipAddress
          ∧ row = entry call request ipAddress := by
  unfold logRequest
  cases hip : ipColumn inet (request.bind fun r => getClientIp r.headers) with
  | error e =>
      refine iff_of_false (fun h => by simp at h) fun h => ?_
      obtain ⟨-, ip, hok, -⟩ := h
      cases hok
  | ok ipAddress =>
      cases hfits : storable s call (resolvedActor call request) with
      | false => exact iff_of_false (fun h => by simp at h) fun h => Bool.noConfusion h.1
      | true => simp [eq_comm]

end

end AuditService

namespace AuditRequests

open AuditService Throttling

/-! ## What a client can suppress -/

/-- The headers that the client chooses. -/
structure ClientHeaders where
  forwardedFor : Option String
  userAgent : Option String

def withHeaders (r : AuditRequest) (h : ClientHeaders) : AuditRequest :=
  { r with
    headers := { r.headers with httpXForwardedFor := h.forwardedFor }
    userAgent := h.userAgent }

/-- One more entry. -/
def Writes (s s' : Site) : Prop := ∃ row, s'.auditLogs = s.auditLogs ++ [row]

/-- What `_get_client_ip` makes of the headers is nothing, empty or an
address. -/
def Recordable (inet : String → Option String) (m : Meta) : Prop :=
  ∀ value, getClientIp m = some value → value ≠ "" → ∃ address, inet value = some address

section

variable {inet : String → Option String} {s : Site} {call : AuditCall} {r : AuditRequest}

theorem recordable_iff {m : Meta} :
    Recordable inet m ↔ ∃ kept, ipColumn inet (getClientIp m) = .ok kept := by
  simp only [ipColumn_ok]
  constructor
  · intro h
    cases hip : getClientIp m with
    | none => exact ⟨none, Or.inl ⟨Or.inl rfl, rfl⟩⟩
    | some value =>
        by_cases hempty : value = ""
        · exact ⟨none, Or.inl ⟨Or.inr (by rw [hempty]), rfl⟩⟩
        · obtain ⟨address, haddress⟩ := h value hip hempty
          exact ⟨some address, Or.inr ⟨value, address, rfl, hempty, haddress, rfl⟩⟩
  · rintro ⟨kept, ⟨hblank, -⟩ | ⟨value, address, hip, -, haddress, -⟩⟩ given hgiven hne
    · rcases hblank with hnone | hempty
      · rw [hnone] at hgiven
        cases hgiven
      · rw [hempty] at hgiven
        exact absurd (Option.some.inj hgiven).symm hne
    · rw [hip] at hgiven
      obtain rfl := Option.some.inj hgiven
      exact ⟨address, haddress⟩

theorem writes_iff : Writes s (logRequest inet s call (some r)) ↔
    storable s call (resolvedActor call (some r)) = true ∧ Recordable inet r.headers := by
  rw [recordable_iff]
  constructor
  · rintro ⟨row, hrow⟩
    obtain ⟨hfits, ip, hip, -⟩ := logRequest_writes.mp hrow
    exact ⟨hfits, ip, hip⟩
  · rintro ⟨hfits, ip, hip⟩
    exact ⟨_, logRequest_writes.mpr ⟨hfits, ip, hip, rfl⟩⟩

/-- Two requests that differ in the client's headers both write an entry or
both do not, exactly if both sets of headers are recordable or both are not,
or nothing could be stored anyway. -/
theorem writes_alike_iff (inet : String → Option String) (s : Site) (call : AuditCall)
    (r : AuditRequest) (h h' : ClientHeaders) :
    (Writes s (logRequest inet s call (some (withHeaders r h)))
        ↔ Writes s (logRequest inet s call (some (withHeaders r h'))))
      ↔ (storable s call (resolvedActor call (some r)) = true →
          (Recordable inet (withHeaders r h).headers
            ↔ Recordable inet (withHeaders r h').headers)) := by
  have hactor : ∀ h, resolvedActor call (some (withHeaders r h)) = resolvedActor call (some r) :=
    fun _ => rfl
  rw [writes_iff, writes_iff, hactor, hactor]
  constructor
  · intro halike hfits
    simpa only [hfits, true_and] using halike
  · intro halike
    exact and_congr_right halike

/-! ## What a client can forge -/

/-- Whatever entry is written for a request through nginx has the address of
its peer. -/
def Genuine (inet : String → Option String) (s : Site) (call : AuditCall) (proxy : String)
    (r : Incoming) (userAgent : Option String) : Prop :=
  ∀ row, (logRequest inet s call (some ⟨nginx proxy r, userAgent, r.user⟩)).auditLogs
      = s.auditLogs ++ [row] →
    row.ipAddress = some r.peer.text

/-- The first part of what the client sent, if it sent anything, is its own
address, or none at all. -/
def Honest (inet : String → Option String) (r : Incoming) : Prop :=
  ∀ sent, r.forwardedFor = some sent → strip (firstPart sent) ≠ ""
    ∧ ∀ address, inet (strip (firstPart sent)) = some address → address = r.peer.text

/-- nginx puts the peer last, so the first part is the client's own where it
sends the header. -/
theorem getClientIp_nginx (proxy : String) (r : Incoming) :
    getClientIp (nginx proxy r) = some (match r.forwardedFor with
      | none => r.peer.text
      | some sent => strip (firstPart sent)) := by
  have hpeer := r.peer.text_ne
  unfold getClientIp nginx proxyAddXForwardedFor
  cases r.forwardedFor with
  | none =>
      have hwhole : firstPart r.peer.text = r.peer.text := by
        rw [firstPart, List.takeWhile_eq_self_iff.mpr fun c hc => by
          simpa using (r.peer.plain c hc).2, String.ofList_toList]
      simp only [hpeer, if_false, hwhole, strip_plain fun c hc => (r.peer.plain c hc).1]
  | some sent =>
      have hne : sent ++ ", " ++ r.peer.text ≠ "" :=
        fun hempty => hpeer (String.append_eq_empty_iff.mp hempty).2
      have hcomma : (sent ++ ", " ++ r.peer.text).toList
          = sent.toList ++ ',' :: ' ' :: r.peer.text.toList := by
        simp [String.toList_append]
      have hfirst : firstPart (sent ++ ", " ++ r.peer.text) = firstPart sent := by
        rw [firstPart, hcomma, takeWhile_separator]
        rfl
      simp only [hne, if_false, hfirst]

/-- Entries of requests through nginx have the peer's address exactly if the
client has sent no other one, or nothing could be stored anyway. Assumed of the
column: it keeps a peer's address as nginx writes it. -/
theorem genuine_iff {proxy : String} {r : Incoming} {userAgent : Option String}
    (hpeer : inet r.peer.text = some r.peer.text) :
    Genuine inet s call proxy r userAgent ↔
      (storable s call (resolvedActor call (some ⟨nginx proxy r, userAgent, r.user⟩)) = true →
        Honest inet r) := by
  have hwritten : Genuine inet s call proxy r userAgent ↔
      (storable s call (resolvedActor call (some ⟨nginx proxy r, userAgent, r.user⟩)) = true →
        ∀ kept, ipColumn inet (getClientIp (nginx proxy r)) = .ok kept →
          kept = some r.peer.text) := by
    constructor
    · intro h hfits kept hkept
      exact h _ (logRequest_writes.mpr ⟨hfits, kept, hkept, rfl⟩)
    · intro h row hrow
      obtain ⟨hfits, kept, hkept, rfl⟩ := logRequest_writes.mp hrow
      exact h hfits kept hkept
  rw [hwritten]
  refine imp_congr_right fun _ => ?_
  rw [getClientIp_nginx, ipColumn_only]
  unfold Honest
  cases r.forwardedFor with
  | none =>
      refine iff_of_true ⟨r.peer.text_ne, fun address haddress => ?_⟩ nofun
      rw [hpeer] at haddress
      exact (Option.some.inj haddress).symm
  | some sent =>
      constructor
      · intro h sent' hsent
        obtain rfl := Option.some.inj hsent
        exact h
      · exact fun h => h sent rfl

end

/-! ## Two headers -/

/-- An IPv4 address, as the column takes it. -/
def dottedQuad (s : String) : Option String :=
  let parts := s.toList.splitOn '.'
  let octet := fun digits : List Char => !digits.isEmpty && digits.all Char.isDigit
    && decide (Nat.ofDigitChars 10 digits 0 ≤ 255)
  if parts.length = 4 ∧ parts.all octet = true then some s else none

/-- A registration, which has neither tenant nor actor. -/
def registered : AuditCall := ⟨.userRegistered, none, none, "User", "2", []⟩

def fromClient : AuditRequest := ⟨⟨none, "203.0.113.7"⟩, none, none⟩

/-- A header that is no address keeps the entry out. -/
theorem header_suppresses :
    ¬ ∀ (inet : String → Option String) (s : Site) (call : AuditCall) (r : AuditRequest)
      (h h' : ClientHeaders),
      Writes s (logRequest inet s call (some (withHeaders r h)))
        ↔ Writes s (logRequest inet s call (some (withHeaders r h'))) := by
  intro hall
  have halike := hall dottedQuad DemoSeed.site registered fromClient ⟨none, none⟩
    ⟨some "unknown", none⟩
  rw [writes_iff, writes_iff, recordable_iff, recordable_iff] at halike
  obtain ⟨-, kept, hkept⟩ := halike.mp ⟨by decide, some "203.0.113.7", by decide +kernel⟩
  have hraised : ipColumn dottedQuad
      (getClientIp (withHeaders fromClient ⟨some "unknown", none⟩).headers) = .error () := by
    decide +kernel
  rw [hraised] at hkept
  cases hkept

/-- The client makes up an address. -/
def forged : Incoming := ⟨client, some "198.51.100.1", none⟩

theorem genuine_forged :
    Genuine dottedQuad DemoSeed.site registered "172.18.0.5" forged none ↔
      (storable DemoSeed.site registered
          (resolvedActor registered (some ⟨nginx "172.18.0.5" forged, none, none⟩)) = true →
        Honest dottedQuad forged) :=
  genuine_iff (by decide +kernel)

/-- The address that the client makes up is recorded. -/
theorem header_forges :
    ¬ Genuine dottedQuad DemoSeed.site registered "172.18.0.5" forged none := by
  intro h
  have hrow := h _ (logRequest_writes.mpr ⟨by decide, some "198.51.100.1", by decide +kernel, rfl⟩)
  exact absurd hrow (by decide)

end AuditRequests

end SaasKit
