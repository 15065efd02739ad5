import SaasKit.RbacService

/-!
# Billing: `BillingService`

The handlers behind the Stripe webhook. A payload is whatever JSON Stripe
sent: a missing field has the default the handler gives it, a field of the
wrong type raises what Python or the column would raise. Each handler does
its reads and its write in one transaction under a row lock, so a call of
`process_event` is one step, and an exception inside the transaction leaves
the database as it was. The audit entry and the dunning task come after the
commit.

`processEvent_changed` is the inversion of that step: what a call can have
made of a subscription. `processEvent_of_deleted` and
`processEvent_of_failed` are the two directions forward that the lifecycle
needs.
-/

namespace SaasKit

/-- The events the service has a handler for. -/
inductive EventType where
  | subscriptionCreated
  | subscriptionUpdated
  | subscriptionDeleted
  | paymentSucceeded
  | paymentFailed
  | trialWillEnd
  deriving DecidableEq, Repr

namespace EventType

def value : EventType → String
  | subscriptionCreated => "customer.subscription.created"
  | subscriptionUpdated => "customer.subscription.updated"
  | subscriptionDeleted => "customer.subscription.deleted"
  | paymentSucceeded => "invoice.payment_succeeded"
  | paymentFailed => "invoice.payment_failed"
  | trialWillEnd => "customer.subscription.trial_will_end"

def all : List EventType :=
  [subscriptionCreated, subscriptionUpdated, subscriptionDeleted, paymentSucceeded,
    paymentFailed, trialWillEnd]

/-- `handlers.get(event_type)`. -/
def ofValue? (eventType : String) : Option EventType :=
  all.find? fun t => t.value == eventType

theorem ofValue?_value (t : EventType) : ofValue? t.value = some t := by
  cases t <;> rfl

theorem ofValue?_eq_some {eventType : String} {t : EventType} :
    ofValue? eventType = some t ↔ eventType = t.value := by
  constructor
  · intro h
    have := List.find?_some h
    exact (eq_of_beq this).symm
  · rintro rfl
    exact ofValue?_value t

end EventType

/-- What one call of `process_event` is given, with the clock and whether
the broker answers. -/
structure StripeEvent where
  now : Time
  brokerUp : Bool
  eventType : String
  eventData : Json

namespace BillingService

def gracePeriodDays : Int := 7

/-! ## Column values -/

section

variable (str : Json → String)

/-- What a `BooleanField` passes to the database. -/
def booleanField : Json → Except Exc (Option Bool)
  | .null => .ok none
  | .bool b => .ok (some b)
  | .num 1 => .ok (some true)
  | .num 0 => .ok (some false)
  | .str v =>
      if v ∈ ["t", "True", "1"] then .ok (some true)
      else if v ∈ ["f", "False", "0"] then .ok (some false)
      else .error .djangoValidationError
  | _ => .error .djangoValidationError

/-- `datetime.fromtimestamp(ts, tz=UTC)`: a `datetime` has the years 1 to 9999, `gmtime`
counts years in 32 bits, `time_t` seconds in 64. -/
def fromTimestamp : Json → Except Exc Time
  | .num n =>
      if -62135596800 ≤ n ∧ n ≤ 253402300799 then .ok (seconds n)
      else if -67768040609740800 ≤ n ∧ n ≤ 67768036191676799 then .error .valueError
      else if -9223372036854775808 ≤ n ∧ n ≤ 9223372036854775807 then .error .osError
      else .error .overflowError
  | .bool b => .ok (seconds (if b then 1 else 0))
  | _ => .error .typeError

/-- A period field: a falsy timestamp keeps what is there. -/
def periodField (current : Option Time) (ts : Json) : Except Exc (Option Time) :=
  if ts.truthy then (fromTimestamp ts).map some else .ok current

def applyPeriod (sub : Subscription) (obj : Json) : Except Exc Subscription := do
  let startTs ← obj.get "current_period_start" .null
  let endTs ← obj.get "current_period_end" .null
  let trialEndTs ← obj.get "trial_end" .null
  let currentPeriodStart ← periodField sub.currentPeriodStart startTs
  let currentPeriodEnd ← periodField sub.currentPeriodEnd endTs
  let trialEnd ← periodField sub.trialEnd trialEndTs
  return { sub with currentPeriodStart, currentPeriodEnd, trialEnd }

/-- `(obj.get("items", {}).get("data") or [{}])[0].get("price", {}).get("id", "")`. -/
def priceId (obj : Json) : Except Exc Json := do
  let items ← obj.get "items" (.obj [])
  let data ← items.get "data" .null
  let first ← if data.truthy then data.first else .ok (.obj [])
  let price ← first.get "price" (.obj [])
  price.get "id" (.str "")

/-! ## Reads and writes of the subscription table -/

/-- `get(stripe_subscription_id=...)`, `none` where it does not exist. `NULL`
is no key: several rows may have it. -/
def getBySubscriptionId (s : Site) (stripeSubId : Option String) :
    Except Exc (Option Subscription) :=
  match s.subscriptions.filter (·.stripeSubscriptionId == stripeSubId) with
  | [] => .ok none
  | [sub] => .ok (some sub)
  | _ => .error .multipleObjectsReturned

/-- `sub.save()`, with the values assigned to its text columns and its flag. -/
def save (s : Site) (sub : Subscription) (stripeSubId stripePriceId status : Option String)
    (cancelAtPeriodEnd : Option Bool) : Except Exc (Subscription × Site) :=
  if tooLong 255 stripeSubId || tooLong 255 stripePriceId || tooLong 20 status then
    .error .dataError
  else match stripePriceId, status, cancelAtPeriodEnd with
    | some stripePriceId, some status, some cancelAtPeriodEnd =>
        let sub' := { sub with
          stripeSubscriptionId := stripeSubId, stripePriceId, status, cancelAtPeriodEnd }
        match s.subscriptions.update? (·.id == sub.id) fun _ => sub' with
        | none => .error .integrityError
        | some subscriptions => .ok (sub', { s with subscriptions })
    | _, _, _ => .error .integrityError

/-- `save(update_fields=["status", "grace_period_end"])`. -/
def setStanding (status : String) (gracePeriodEnd : Option Time) :
    Table.Rewrite Subscription.clash :=
  ⟨fun sub => { sub with status, gracePeriodEnd }, fun _ _ => rfl, fun _ _ => rfl⟩

/-- The transaction of the three handlers that load a subscription by its
Stripe id and write its status and grace period. -/
def saveStanding (s : Site) (stripeSubId : Option String) (status : String)
    (gracePeriodEnd : Option Time) : Except Exc (Option (Subscription × Site)) :=
  match getBySubscriptionId s stripeSubId with
  | .error e => .error e
  | .ok none => .ok none
  | .ok (some sub) =>
      .ok (some ((setStanding status gracePeriodEnd).apply sub,
        { s with
          subscriptions :=
            s.subscriptions.modify (·.id == sub.id) (setStanding status gracePeriodEnd) }))

/-! ## Handlers -/

/-- Run a transaction: what follows its commit is `after`; an exception rolls
it back, and `none` is an early return. -/
def atomic (s : Site) (txn : Except Exc (Option (Subscription × Site)))
    (after : Subscription → Site → Except Exc Unit × Site) : Except Exc Unit × Site :=
  match txn with
  | .error e => (.error e, s)
  | .ok none => (.ok (), s)
  | .ok (some (sub, s')) => after sub s'

/-- The entry the handlers leave, on behalf of nobody. -/
def audit (s : Site) (action : AuditAction) (sub : Subscription)
    (metadata : List (String × Json)) : Site :=
  AuditService.log s action (s.getTenant sub.tenant) none "Subscription" (uuidStr sub.id) metadata

def onSubscriptionCreated (s : Site) (data : Json) : Except Exc Unit × Site :=
  let fields : Except Exc (Json × Json × Json × Json) := do
    let obj ← data.get "object" (.obj [])
    return (obj, ← obj.get "id" (.str ""), ← obj.get "customer" (.str ""),
      ← obj.get "status" (.str "active"))
  match fields with
  | .error e => (.error e, s)
  | .ok (obj, stripeSubId, customerId, status) =>
      let txn : Except Exc (Option (Subscription × Site)) :=
        match s.subscriptions.find? fun sub =>
            some sub.stripeCustomerId == charField str customerId with
        | none => .ok none
        | some sub => do
            let price ← priceId obj
            let sub ← applyPeriod sub obj
            some <$> save s sub (charField str stripeSubId) (charField str price)
              (charField str status) (some sub.cancelAtPeriodEnd)
      atomic s txn fun sub s =>
        (.ok (), audit s .subscriptionCreated sub
          [("status", status), ("stripe_sub_id", stripeSubId)])

def onSubscriptionUpdated (s : Site) (data : Json) : Except Exc Unit × Site :=
  let fields : Except Exc (Json × Json × Json) := do
    let obj ← data.get "object" (.obj [])
    return (obj, ← obj.get "id" (.str ""), ← obj.get "status" (.str "active"))
  match fields with
  | .error e => (.error e, s)
  | .ok (obj, stripeSubId, status) =>
      let txn : Except Exc (Option (Subscription × Site)) :=
        match getBySubscriptionId s (charField str stripeSubId) with
        | .error e => .error e
        | .ok none => .ok none
        | .ok (some sub) => do
            let cancelAtPeriodEnd ← obj.get "cancel_at_period_end" (.bool false)
            let sub ← applyPeriod sub obj
            let flag ← booleanField cancelAtPeriodEnd
            some <$> save s sub sub.stripeSubscriptionId (some sub.stripePriceId)
              (charField str status) flag
      atomic s txn fun _ s => (.ok (), s)

def onSubscriptionCanceled (s : Site) (data : Json) : Except Exc Unit × Site :=
  let fields : Except Exc Json := do
    let obj ← data.get "object" (.obj [])
    obj.get "id" (.str "")
  match fields with
  | .error e => (.error e, s)
  | .ok stripeSubId =>
      atomic s (saveStanding s (charField str stripeSubId) Subscription.canceled none)
        fun sub s => (.ok (), audit s .subscriptionCanceled sub [])

def onPaymentSucceeded (s : Site) (data : Json) : Except Exc Unit × Site :=
  let fields : Except Exc Json := do
    let obj ← data.get "object" (.obj [])
    obj.get "subscription" (.str "")
  match fields with
  | .error e => (.error e, s)
  | .ok stripeSubId =>
      if stripeSubId.truthy then
        atomic s (saveStanding s (charField str stripeSubId) Subscription.active none)
          fun _ s => (.ok (), s)
      else (.ok (), s)

def onPaymentFailed (now : Time) (brokerUp : Bool) (s : Site) (data : Json) :
    Except Exc Unit × Site :=
  let fields : Except Exc Json := do
    let obj ← data.get "object" (.obj [])
    obj.get "subscription" (.str "")
  match fields with
  | .error e => (.error e, s)
  | .ok stripeSubId =>
      if stripeSubId.truthy then
        atomic s (saveStanding s (charField str stripeSubId) Subscription.pastDue
            (some (now + days gracePeriodDays)))
          fun sub s =>
            if brokerUp then (.ok (), { s with queue := s.queue ++ [.sendDunningEmail sub.tenant] })
            else (.error .operationalError, s)
      else (.ok (), s)

def onTrialEnding (s : Site) (data : Json) : Except Exc Unit × Site :=
  let fields : Except Exc Json := do
    let obj ← data.get "object" (.obj [])
    obj.get "id" .null
  match fields with
  | .error e => (.error e, s)
  | .ok _ => (.ok (), s)

def processEvent (s : Site) (e : StripeEvent) : Except Exc Unit × Site :=
  match EventType.ofValue? e.eventType with
  | some .subscriptionCreated => onSubscriptionCreated str s e.eventData
  | some .subscriptionUpdated => onSubscriptionUpdated str s e.eventData
  | some .subscriptionDeleted => onSubscriptionCanceled str s e.eventData
  | some .paymentSucceeded => onPaymentSucceeded str s e.eventData
  | some .paymentFailed => onPaymentFailed str e.now e.brokerUp s e.eventData
  | some .trialWillEnd => onTrialEnding s e.eventData
  | none => (.ok (), s)

/-! ## What an event says -/

end

end BillingService

namespace StripeEvent

def kind (e : StripeEvent) : Option EventType := EventType.ofValue? e.eventType

/-- The value a handler reads as `obj.get(key, default)` and compares with or
stores in a text column; `none` also where the payload has no such field. -/
def column (str : Json → String) (e : StripeEvent) (key default : String) : Option String :=
  match e.eventData.get "object" (.obj []) with
  | .error _ => none
  | .ok obj =>
      match obj.get key (.str default) with
      | .error _ => none
      | .ok v => charField str v

/-- The subscription an invoice event is about: a falsy value is none. -/
def invoiced (str : Json → String) (e : StripeEvent) : Option String :=
  match e.eventData.get "object" (.obj []) with
  | .error _ => none
  | .ok obj =>
      match obj.get "subscription" (.str "") with
      | .error _ => none
      | .ok v => if v.truthy then charField str v else none

theorem column_eq {str : Json → String} {e : StripeEvent} {key default : String} {obj v : Json}
    (hobj : e.eventData.get "object" (.obj []) = .ok obj)
    (hv : obj.get key (.str default) = .ok v) :
    e.column str key default = charField str v := by
  simp [column, hobj, hv]

theorem invoiced_eq {str : Json → String} {e : StripeEvent} {obj v : Json}
    (hobj : e.eventData.get "object" (.obj []) = .ok obj)
    (hv : obj.get "subscription" (.str "") = .ok v) (htruthy : v.truthy = true) :
    ∃ stripeSubId, e.invoiced str = some stripeSubId
      ∧ charField str v = some stripeSubId := by
  have heq : e.invoiced str = charField str v := by
    simp [invoiced, hobj, hv, htruthy]
  cases v with
  | null => cases htruthy
  | _ => exact ⟨_, heq, rfl⟩

theorem invoiced_some {str : Json → String} {e : StripeEvent} {stripeSubId : String}
    (h : e.invoiced str = some stripeSubId) :
    ∃ obj v, e.eventData.get "object" (.obj []) = .ok obj
      ∧ obj.get "subscription" (.str "") = .ok v ∧ v.truthy = true
      ∧ charField str v = some stripeSubId := by
  unfold invoiced at h
  split at h
  · cases h
  · rename_i obj hobj
    split at h
    · cases h
    · rename_i v hv
      split at h
      · rename_i htruthy
        exact ⟨obj, v, hobj, hv, htruthy, h⟩
      · cases h

theorem column_some {str : Json → String} {e : StripeEvent} {key default v : String}
    (h : e.column str key default = some v) :
    ∃ obj w, e.eventData.get "object" (.obj []) = .ok obj ∧ obj.get key (.str default) = .ok w
      ∧ charField str w = some v := by
  unfold column at h
  split at h
  · cases h
  · rename_i obj hobj
    split at h
    · cases h
    · rename_i w hw
      exact ⟨obj, w, hobj, hw, h⟩

end StripeEvent

namespace BillingService

/-- What an event can make of one subscription. -/
inductive Change (str : Json → String) (e : StripeEvent) (row : Subscription) :
    Subscription → Prop
  | kept : Change str e row row
  | created (row' : Subscription) :
      e.kind = some .subscriptionCreated →
      e.column str "customer" "" = some row.stripeCustomerId →
      row'.id = row.id → row'.stripeCustomerId = row.stripeCustomerId →
      row'.stripeSubscriptionId = e.column str "id" "" →
      e.column str "status" "active" = some row'.status →
      row'.gracePeriodEnd = row.gracePeriodEnd → Change str e row row'
  | updated (row' : Subscription) :
      e.kind = some .subscriptionUpdated →
      e.column str "id" "" = row.stripeSubscriptionId →
      row'.id = row.id → row'.stripeCustomerId = row.stripeCustomerId →
      row'.stripeSubscriptionId = row.stripeSubscriptionId →
      e.column str "status" "active" = some row'.status →
      row'.gracePeriodEnd = row.gracePeriodEnd → Change str e row row'
  | canceled :
      e.kind = some .subscriptionDeleted →
      e.column str "id" "" = row.stripeSubscriptionId →
      Change str e row ((setStanding Subscription.canceled none).apply row)
  | paid (stripeSubId : String) :
      e.kind = some .paymentSucceeded → e.invoiced str = some stripeSubId →
      row.stripeSubscriptionId = some stripeSubId →
      Change str e row ((setStanding Subscription.active none).apply row)
  | failed (stripeSubId : String) :
      e.kind = some .paymentFailed → e.invoiced str = some stripeSubId →
      row.stripeSubscriptionId = some stripeSubId →
      Change str e row ((setStanding Subscription.pastDue
        (some (e.now + days gracePeriodDays))).apply row)

theorem Change.id_eq {str : Json → String} {e : StripeEvent} {row row' : Subscription}
    (h : Change str e row row') : row'.id = row.id := by
  cases h with
  | created _ _ _ hid => exact hid
  | updated _ _ _ hid => exact hid
  | _ => rfl

/-- Every subscription afterwards is one from before, changed as the event
says. -/
def Changed (str : Json → String) (e : StripeEvent) (s s' : Site) : Prop :=
  ∀ row' ∈ s'.subscriptions, ∃ row ∈ s.subscriptions, Change str e row row'

theorem Changed.refl (str : Json → String) (e : StripeEvent) (s : Site) : Changed str e s s :=
  fun row hrow => ⟨row, hrow, .kept⟩

theorem Changed.congr {str : Json → String} {e : StripeEvent} {s s₁ s₂ : Site}
    (h : Changed str e s s₁) (heq : s₂.subscriptions = s₁.subscriptions) : Changed str e s s₂ := by
  unfold Changed
  rw [heq]
  exact h

theorem subscription_eq_of_id {s : Site} {a b : Subscription} (ha : a ∈ s.subscriptions)
    (hb : b ∈ s.subscriptions) (h : a.id = b.id) : a = b :=
  Table.eq_of_clash Site.subscription_clash_symm ha hb (by simp [Subscription.clash, h])

/-! ## The transactions -/

section

variable {str : Json → String} {s s' : Site} {e : StripeEvent} {sub sub' : Subscription}

theorem getBySubscriptionId_some {stripeSubId : Option String}
    (h : getBySubscriptionId s stripeSubId = .ok (some sub)) :
    sub ∈ s.subscriptions ∧ sub.stripeSubscriptionId = stripeSubId := by
  unfold getBySubscriptionId at h
  split at h
  · cases h
  · rename_i found hfilter
    obtain rfl := Option.some.inj (Except.ok.inj h)
    have hmem := Table.mem_filter.mp (hfilter ▸ List.mem_singleton_self found)
    exact ⟨hmem.1, eq_of_beq hmem.2⟩
  · cases h

/-- The unique column finds the one row that carries the id. -/
theorem getBySubscriptionId_of_mem {stripeSubId : String} (hsub : sub ∈ s.subscriptions)
    (hid : sub.stripeSubscriptionId = some stripeSubId) :
    getBySubscriptionId s (some stripeSubId) = .ok (some sub) := by
  have hfilter : s.subscriptions.filter (·.stripeSubscriptionId == some stripeSubId) = [sub] :=
    Table.filter_eq_singleton hsub (by simp [hid]) fun x y hx hy => by
      simp only [beq_iff_eq] at hx hy
      simp [Subscription.clash, hx, hy]
  simp only [getBySubscriptionId, hfilter]

theorem saveStanding_some {stripeSubId : Option String} {status : String} {grace : Option Time}
    (h : saveStanding s stripeSubId status grace = .ok (some (sub', s'))) :
    ∃ sub ∈ s.subscriptions, sub.stripeSubscriptionId = stripeSubId
      ∧ s'.subscriptions = s.subscriptions.modify (·.id == sub.id) (setStanding status grace) := by
  unfold saveStanding at h
  split at h
  · cases h
  · cases h
  · rename_i sub hget
    obtain ⟨-, rfl⟩ := Prod.mk.inj (Option.some.inj (Except.ok.inj h))
    obtain ⟨hmem, hid⟩ := getBySubscriptionId_some hget
    exact ⟨sub, hmem, hid, rfl⟩

theorem save_ok {stripeSubId price status : Option String} {flag : Option Bool}
    (h : save s sub stripeSubId price status flag = .ok (sub', s')) :
    some sub'.status = status ∧ sub'.id = sub.id
      ∧ sub'.stripeCustomerId = sub.stripeCustomerId ∧ sub'.stripeSubscriptionId = stripeSubId
      ∧ sub'.gracePeriodEnd = sub.gracePeriodEnd
      ∧ s.subscriptions.update? (·.id == sub.id) (fun _ => sub') = some s'.subscriptions := by
  unfold save at h
  split at h
  · cases h
  · split at h
    · simp only at h
      split at h
      · cases h
      · rename_i hupdate
        obtain ⟨rfl, rfl⟩ := Prod.mk.inj (Except.ok.inj h)
        exact ⟨rfl, rfl, rfl, rfl, rfl, hupdate⟩
    · cases h

theorem applyPeriod_ok {obj : Json} (h : applyPeriod sub obj = .ok sub') :
    ∃ start stop trial, sub' = { sub with
      currentPeriodStart := start, currentPeriodEnd := stop, trialEnd := trial } := by
  unfold applyPeriod at h
  obtain ⟨_, -, h⟩ := except_bind_ok.mp h
  obtain ⟨_, -, h⟩ := except_bind_ok.mp h
  obtain ⟨_, -, h⟩ := except_bind_ok.mp h
  obtain ⟨start, -, h⟩ := except_bind_ok.mp h
  obtain ⟨stop, -, h⟩ := except_bind_ok.mp h
  obtain ⟨trial, -, h⟩ := except_bind_ok.mp h
  exact ⟨start, stop, trial, (Except.ok.inj h).symm⟩

theorem atomic_cases {txn : Except Exc (Option (Subscription × Site))}
    {after : Subscription → Site → Except Exc Unit × Site}
    (hafter : ∀ sub s, (after sub s).2.subscriptions = s.subscriptions) :
    (atomic s txn after).2.subscriptions = s.subscriptions
      ∨ ∃ sub s', txn = .ok (some (sub, s'))
        ∧ (atomic s txn after).2.subscriptions = s'.subscriptions := by
  match txn with
  | .error _ => exact Or.inl rfl
  | .ok none => exact Or.inl rfl
  | .ok (some (sub, s')) => exact Or.inr ⟨sub, s', rfl, hafter sub s'⟩

/-- A transaction on one row, with the change its event stands for. -/
theorem atomic_changed {txn : Except Exc (Option (Subscription × Site))}
    {after : Subscription → Site → Except Exc Unit × Site}
    (hafter : ∀ sub s, (after sub s).2.subscriptions = s.subscriptions)
    (htxn : ∀ sub s', txn = .ok (some (sub, s')) → Changed str e s s') :
    Changed str e s (atomic s txn after).2 := by
  rcases @atomic_cases s txn after hafter with hkept | ⟨sub, s', hok, hsame⟩
  · exact (Changed.refl str e s).congr hkept
  · exact (htxn sub s' hok).congr hsame

theorem changed_of_standing {stripeSubId : Option String} {status : String}
    {grace : Option Time}
    (hchange : ∀ row, row.stripeSubscriptionId = stripeSubId →
      Change str e row ((setStanding status grace).apply row))
    (h : saveStanding s stripeSubId status grace = .ok (some (sub', s'))) :
    Changed str e s s' := by
  obtain ⟨sub, hsub, hid, hrows⟩ := saveStanding_some h
  intro row' hrow'
  rw [hrows] at hrow'
  obtain ⟨row, hrow, rfl⟩ := Table.mem_modify.mp hrow'
  refine ⟨row, hrow, ?_⟩
  split
  · rename_i heq
    obtain rfl := subscription_eq_of_id hrow hsub (eq_of_beq heq)
    exact hchange row hid
  · exact .kept

theorem changed_of_update (hsub : sub ∈ s.subscriptions) (hchange : Change str e sub sub')
    (h : s.subscriptions.update? (·.id == sub.id) (fun _ => sub') = some s'.subscriptions) :
    Changed str e s s' := by
  intro row' hrow'
  obtain ⟨row, hrow, rfl⟩ := (Table.mem_update? h).mp hrow'
  refine ⟨row, hrow, ?_⟩
  split
  · rename_i heq
    obtain rfl := subscription_eq_of_id hrow hsub (eq_of_beq heq)
    exact hchange
  · exact .kept

/-! ## The handlers -/

theorem onSubscriptionCreated_changed (hkind : e.kind = some .subscriptionCreated) :
    Changed str e s (onSubscriptionCreated str s e.eventData).2 := by
  unfold onSubscriptionCreated
  simp only
  split
  · exact .refl str e s
  · rename_i obj stripeSubId customerId status hfields
    obtain ⟨obj', hobj, hfields⟩ := except_bind_ok.mp hfields
    obtain ⟨_, hsubId, hfields⟩ := except_bind_ok.mp hfields
    obtain ⟨_, hcustomer, hfields⟩ := except_bind_ok.mp hfields
    obtain ⟨_, hstatus, hfields⟩ := except_bind_ok.mp hfields
    cases hfields
    refine atomic_changed (fun _ _ => rfl) fun sub' s' htxn => ?_
    split at htxn
    · cases htxn
    · rename_i sub hfind
      obtain ⟨hsub, hmatch⟩ := Table.find?_some hfind
      obtain ⟨price, -, htxn⟩ := except_bind_ok.mp htxn
      obtain ⟨loaded, hperiod, htxn⟩ := except_bind_ok.mp htxn
      obtain ⟨start, stop, trial, rfl⟩ := applyPeriod_ok hperiod
      obtain ⟨saved, hsaved, hsome⟩ := except_map_ok.mp htxn
      obtain rfl := Option.some.inj hsome
      obtain ⟨hst, hid, hcus, hsid, hgrace, hupdate⟩ := save_ok hsaved
      refine changed_of_update hsub (.created sub' hkind ?_ hid hcus ?_ ?_ hgrace) hupdate
      · rw [StripeEvent.column_eq hobj hcustomer]
        exact (eq_of_beq hmatch).symm
      · rw [StripeEvent.column_eq hobj hsubId]
        exact hsid
      · rw [StripeEvent.column_eq hobj hstatus]
        exact hst.symm

theorem onSubscriptionUpdated_changed (hkind : e.kind = some .subscriptionUpdated) :
    Changed str e s (onSubscriptionUpdated str s e.eventData).2 := by
  unfold onSubscriptionUpdated
  simp only
  split
  · exact .refl str e s
  · rename_i obj stripeSubId status hfields
    obtain ⟨obj', hobj, hfields⟩ := except_bind_ok.mp hfields
    obtain ⟨_, hsubId, hfields⟩ := except_bind_ok.mp hfields
    obtain ⟨_, hstatus, hfields⟩ := except_bind_ok.mp hfields
    cases hfields
    refine atomic_changed (fun _ _ => rfl) fun sub' s' htxn => ?_
    split at htxn
    · cases htxn
    · cases htxn
    · rename_i sub hget
      obtain ⟨hsub, hmatch⟩ := getBySubscriptionId_some hget
      obtain ⟨cancelAtPeriodEnd, -, htxn⟩ := except_bind_ok.mp htxn
      obtain ⟨loaded, hperiod, htxn⟩ := except_bind_ok.mp htxn
      obtain ⟨start, stop, trial, rfl⟩ := applyPeriod_ok hperiod
      obtain ⟨flag, -, htxn⟩ := except_bind_ok.mp htxn
      obtain ⟨saved, hsaved, hsome⟩ := except_map_ok.mp htxn
      obtain rfl := Option.some.inj hsome
      obtain ⟨hst, hid, hcus, hsid, hgrace, hupdate⟩ := save_ok hsaved
      refine changed_of_update hsub (.updated sub' hkind ?_ hid hcus hsid ?_ hgrace) hupdate
      · rw [StripeEvent.column_eq hobj hsubId]
        exact hmatch.symm
      · rw [StripeEvent.column_eq hobj hstatus]
        exact hst.symm

theorem onSubscriptionCanceled_changed (hkind : e.kind = some .subscriptionDeleted) :
    Changed str e s (onSubscriptionCanceled str s e.eventData).2 := by
  unfold onSubscriptionCanceled
  simp only
  split
  · exact .refl str e s
  · rename_i stripeSubId hfields
    obtain ⟨obj, hobj, hsubId⟩ := except_bind_ok.mp hfields
    refine atomic_changed (fun _ _ => rfl) fun sub' s' htxn => ?_
    refine changed_of_standing (fun row hrow => .canceled hkind ?_) htxn
    rw [StripeEvent.column_eq hobj hsubId, hrow]

theorem onPaymentSucceeded_changed (hkind : e.kind = some .paymentSucceeded) :
    Changed str e s (onPaymentSucceeded str s e.eventData).2 := by
  unfold onPaymentSucceeded
  simp only
  split
  · exact .refl str e s
  · rename_i stripeSubId hfields
    obtain ⟨obj, hobj, hsubId⟩ := except_bind_ok.mp hfields
    split
    · rename_i htruthy
      obtain ⟨sid, hinvoiced, hchar⟩ := StripeEvent.invoiced_eq hobj hsubId htruthy
      refine atomic_changed (fun _ _ => rfl) fun sub' s' htxn => ?_
      exact changed_of_standing
        (fun row hrow => .paid sid hkind hinvoiced (hrow.trans hchar)) htxn
    · exact .refl str e s

theorem onPaymentFailed_changed (hkind : e.kind = some .paymentFailed) :
    Changed str e s (onPaymentFailed str e.now e.brokerUp s e.eventData).2 := by
  unfold onPaymentFailed
  simp only
  split
  · exact .refl str e s
  · rename_i stripeSubId hfields
    obtain ⟨obj, hobj, hsubId⟩ := except_bind_ok.mp hfields
    split
    · rename_i htruthy
      obtain ⟨sid, hinvoiced, hchar⟩ := StripeEvent.invoiced_eq hobj hsubId htruthy
      refine atomic_changed (fun _ _ => ?_) fun sub' s' htxn => ?_
      · split <;> rfl
      · exact changed_of_standing
          (fun row hrow => .failed sid hkind hinvoiced (hrow.trans hchar)) htxn
    · exact .refl str e s

theorem onTrialEnding_subscriptions (data : Json) :
    (onTrialEnding s data).2.subscriptions = s.subscriptions := by
  unfold onTrialEnding
  simp only
  split <;> rfl

variable (str s e)

/-- The inversion of a call: it changes rows as its event says, and no
others. -/
theorem processEvent_changed : Changed str e s (processEvent str s e).2 := by
  unfold processEvent
  cases hkind : EventType.ofValue? e.eventType with
  | none => exact .refl str e s
  | some kind =>
      cases kind with
      | subscriptionCreated => exact onSubscriptionCreated_changed hkind
      | subscriptionUpdated => exact onSubscriptionUpdated_changed hkind
      | subscriptionDeleted => exact onSubscriptionCanceled_changed hkind
      | paymentSucceeded => exact onPaymentSucceeded_changed hkind
      | paymentFailed => exact onPaymentFailed_changed hkind
      | trialWillEnd => exact (Changed.refl str e s).congr (onTrialEnding_subscriptions _)

variable {str s e}

/-- A deletion of a known subscription cancels it. -/
theorem processEvent_of_deleted {stripeSubId : String} (hsub : sub ∈ s.subscriptions)
    (hid : sub.stripeSubscriptionId = some stripeSubId)
    (hkind : e.kind = some .subscriptionDeleted)
    (hnames : e.column str "id" "" = some stripeSubId) :
    (processEvent str s e).2.subscriptions
      = s.subscriptions.modify (·.id == sub.id) (setStanding Subscription.canceled none) := by
  obtain ⟨obj, v, hobj, hv, hchar⟩ := StripeEvent.column_some hnames
  have hfields : (e.eventData.get "object" (.obj []) >>= fun obj => obj.get "id" (.str ""))
      = .ok v := except_bind_ok.mpr ⟨obj, hobj, hv⟩
  have hget := getBySubscriptionId_of_mem hsub hid
  unfold processEvent onSubscriptionCanceled
  rw [show EventType.ofValue? e.eventType = some .subscriptionDeleted from hkind]
  simp only [hfields, saveStanding, hchar, hget, atomic, audit, AuditService.log_subscriptions]

/-- A failed payment of a known subscription makes it past due, for seven
more days; the dunning task is queued if the broker answers. -/
theorem processEvent_of_failed_eq {stripeSubId : String} (hsub : sub ∈ s.subscriptions)
    (hid : sub.stripeSubscriptionId = some stripeSubId)
    (hkind : e.kind = some .paymentFailed) (hnames : e.invoiced str = some stripeSubId) :
    (processEvent str s e).2 =
      { s with
        subscriptions := s.subscriptions.modify (·.id == sub.id)
          (setStanding Subscription.pastDue (some (e.now + days gracePeriodDays)))
        queue := if e.brokerUp then s.queue ++ [.sendDunningEmail sub.tenant] else s.queue } := by
  obtain ⟨obj, v, hobj, hv, htruthy, hchar⟩ := StripeEvent.invoiced_some hnames
  have hfields : (e.eventData.get "object" (.obj []) >>= fun obj =>
      obj.get "subscription" (.str "")) = .ok v := except_bind_ok.mpr ⟨obj, hobj, hv⟩
  have hget := getBySubscriptionId_of_mem hsub hid
  unfold processEvent onPaymentFailed
  rw [show EventType.ofValue? e.eventType = some .paymentFailed from hkind]
  simp only [hfields, htruthy, if_true, saveStanding, hchar, hget, atomic]
  cases e.brokerUp <;> rfl

/-- Its row does not depend on whether the task gets through. -/
theorem processEvent_of_failed {stripeSubId : String} (hsub : sub ∈ s.subscriptions)
    (hid : sub.stripeSubscriptionId = some stripeSubId)
    (hkind : e.kind = some .paymentFailed) (hnames : e.invoiced str = some stripeSubId) :
    (processEvent str s e).2.subscriptions
      = s.subscriptions.modify (·.id == sub.id)
          (setStanding Subscription.pastDue (some (e.now + days gracePeriodDays))) := by
  rw [processEvent_of_failed_eq hsub hid hkind hnames]

end

end BillingService

end SaasKit
