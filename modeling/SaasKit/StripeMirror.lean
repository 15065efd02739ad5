import SaasKit.SubscriptionLifecycle
import SaasKit.SubscriptionObject

/-!
# The row and the subscription object

Both handlers of a subscription object copy its status, one of them the
price and the other the pending cancellation, and the helper they share
skips every timestamp that is null or zero. What they do not copy is the
row's own, so the row mirrors the object exactly when it agreed there
before (`mirrored_iff`).
-/

namespace SaasKit

namespace StripeMirror

open BillingService SubscriptionLifecycle

/-- What a Stripe subscription object says about the six columns. -/
structure StripeFields where
  status : String
  priceId : String
  cancelAtPeriodEnd : Bool
  currentPeriodStart : Int
  currentPeriodEnd : Int
  trialEnd : Option Int

def timestamp : Option Int → Json
  | none => .null
  | some ts => .num ts

/-- The object has these fields, the price on its first item. -/
structure Carries (obj : Json) (f : StripeFields) : Prop where
  status : obj.item "status" = .ok (.str f.status)
  price : ∃ items first rest price, obj.item "items" = .ok items
    ∧ items.item "data" = .ok (.arr (first :: rest))
    ∧ first.item "price" = .ok price ∧ price.item "id" = .ok (.str f.priceId)
  cancel : obj.item "cancel_at_period_end" = .ok (.bool f.cancelAtPeriodEnd)
  start : obj.item "current_period_start" = .ok (.num f.currentPeriodStart)
  stop : obj.item "current_period_end" = .ok (.num f.currentPeriodEnd)
  trial : obj.item "trial_end" = .ok (timestamp f.trialEnd)

abbrev Columns :=
  String × String × Bool × Option Time × Option Time × Option Time

/-- The six columns of a row. -/
def columns (row : Subscription) : Columns :=
  (row.status, row.stripePriceId, row.cancelAtPeriodEnd, row.currentPeriodStart,
    row.currentPeriodEnd, row.trialEnd)

/-- The six columns as the object has them. -/
def StripeFields.columns (f : StripeFields) : Columns :=
  (f.status, f.priceId, f.cancelAtPeriodEnd, some (seconds f.currentPeriodStart),
    some (seconds f.currentPeriodEnd), f.trialEnd.map seconds)

/-- What `_apply_period` leaves in a column. -/
def taken (current : Option Time) (ts : Option Int) : Option Time :=
  match ts with
  | none => current
  | some ts => if ts = 0 then current else some (seconds ts)

/-- The event finds this row, by the customer or by the subscription id. -/
def Matches (str : Json → String) (row : Subscription) (e : StripeEvent) : Prop :=
  e.kind = some .subscriptionCreated ∧ e.column str "customer" "" = some row.stripeCustomerId
    ∨ e.kind = some .subscriptionUpdated
      ∧ ∃ stripeSubId, e.column str "id" "" = some stripeSubId
        ∧ row.stripeSubscriptionId = some stripeSubId

/-- The event carries the object, finds `row`, is processed and leaves
`row'`. -/
structure Processes (str : Json → String) (s : Site) (e : StripeEvent) (obj : Json)
    (row row' : Subscription) : Prop where
  object : e.eventData.get "object" (.obj []) = .ok obj
  stored : row ∈ s.subscriptions
  found : Matches str row e
  ok : (processEvent str s e).1 = .ok ()
  left : row' ∈ (processEvent str s e).2.subscriptions
  same : row'.id = row.id

section

variable {str : Json → String} {s : Site} {e : StripeEvent} {obj : Json} {f : StripeFields}
  {row row' : Subscription}

/-! ## Reading the object -/

theorem get_of_item {key : String} {default v : Json} (h : obj.item key = .ok v) :
    obj.get key default = .ok v := by
  unfold Json.item at h
  split at h
  · split at h
    · rename_i hlookup
      obtain rfl := Except.ok.inj h
      simp [Json.get, hlookup]
    · cases h
  · cases h

theorem priceId_of (h : Carries obj f) : priceId obj = .ok (.str f.priceId) := by
  obtain ⟨items, first, rest, price, hitems, hdata, hprice, hid⟩ := h.price
  unfold priceId
  simp only [get_of_item hitems, get_of_item hdata, get_of_item hprice, get_of_item hid,
    Json.truthy, Json.first, List.isEmpty_cons, Bool.not_false, if_true, bind, Except.bind]

theorem fromTimestamp_num {n : Int} {t : Time} (h : fromTimestamp (.num n) = .ok t) :
    t = seconds n := by
  simp only [fromTimestamp] at h
  split_ifs at h
  exact (Except.ok.inj h).symm

theorem periodField_num {current v : Option Time} {ts : Option Int}
    (h : periodField current (timestamp ts) = .ok v) : v = taken current ts := by
  unfold periodField at h
  cases ts with
  | none =>
      simp only [timestamp, Json.truthy, Bool.false_eq_true, if_false] at h
      exact (Except.ok.inj h).symm
  | some ts =>
      simp only [timestamp, Json.truthy, bne_iff_ne, ne_eq] at h
      by_cases hzero : ts = 0
      · rw [if_neg (not_not.mpr hzero)] at h
        simp only [taken, if_pos hzero]
        exact (Except.ok.inj h).symm
      · rw [if_pos hzero] at h
        simp only [taken, if_neg hzero]
        cases ht : fromTimestamp (.num ts) with
        | error e =>
            rw [ht] at h
            cases h
        | ok t =>
            rw [ht] at h
            rw [← fromTimestamp_num ht]
            exact (Except.ok.inj h).symm

theorem applyPeriod_of (h : Carries obj f) {loaded : Subscription}
    (hperiod : applyPeriod row obj = .ok loaded) :
    loaded = { row with
      currentPeriodStart := taken row.currentPeriodStart (some f.currentPeriodStart)
      currentPeriodEnd := taken row.currentPeriodEnd (some f.currentPeriodEnd)
      trialEnd := taken row.trialEnd f.trialEnd } := by
  obtain ⟨_, _, _, start, stop, trial, hs, he, ht, hstart, hstop, htrial, rfl⟩ :=
    applyPeriod_ok_iff.mp hperiod
  rw [get_of_item h.start] at hs
  rw [get_of_item h.stop] at he
  rw [get_of_item h.trial] at ht
  obtain rfl := Except.ok.inj hs
  obtain rfl := Except.ok.inj he
  obtain rfl := Except.ok.inj ht
  have hstart' := @periodField_num _ _ (some f.currentPeriodStart) hstart
  have hstop' := @periodField_num _ _ (some f.currentPeriodEnd) hstop
  rw [hstart', hstop', periodField_num htrial]

/-! ## The row that is left -/

theorem found_by_customer {customerId : Json} {sub : Subscription} (hrow : row ∈ s.subscriptions)
    (hmatch : charField str customerId = some row.stripeCustomerId)
    (hfind : (s.subscriptions.find? fun x => some x.stripeCustomerId == charField str customerId)
      = some sub) : sub = row := by
  obtain ⟨hsub, hkey⟩ := Table.find?_some hfind
  have hsame : some sub.stripeCustomerId = some row.stripeCustomerId :=
    (eq_of_beq hkey).trans hmatch
  exact Table.eq_of_clash Site.subscription_clash_symm hsub hrow
    (by simp [Subscription.clash, Option.some.inj hsame])

/-- The saved row is the only one with its key. -/
theorem left_eq_saved {s' : Site} {loaded saved : Subscription}
    {stripeSubId price status : Option String} {flag : Option Bool}
    (hsave : save s loaded stripeSubId price status flag = .ok (saved, s'))
    (hloaded : ∃ x ∈ s.subscriptions, x.id = loaded.id) (hleft : row' ∈ s'.subscriptions)
    (hid : row'.id = loaded.id) : row' = saved := by
  obtain ⟨-, -, -, _, _, _, -, -, -, hsaved, -⟩ := save_ok_iff.mp hsave
  have hsame : saved.id = loaded.id := by rw [hsaved]
  exact subscription_eq_of_id hleft (saved_mem hsave hloaded) (hid.trans hsame.symm)

/-- What `created` leaves: the flag is not copied. -/
theorem columns_of_created (h : Carries obj f) (hp : Processes str s e obj row row')
    (hkind : e.kind = some .subscriptionCreated) :
    columns row' = (f.status, f.priceId, row.cancelAtPeriodEnd,
      taken row.currentPeriodStart (some f.currentPeriodStart),
      taken row.currentPeriodEnd (some f.currentPeriodEnd), taken row.trialEnd f.trialEnd) := by
  have hcustomer : e.column str "customer" "" = some row.stripeCustomerId := by
    rcases hp.found with ⟨-, hcustomer⟩ | ⟨hother, -⟩
    · exact hcustomer
    · rw [hkind] at hother
      cases hother
  have hcall : processEvent str s e = onSubscriptionCreated str s e.eventData := by
    unfold processEvent
    rw [show EventType.ofValue? e.eventType = some .subscriptionCreated from hkind]
  have hok := hp.ok
  have hleft := hp.left
  rw [hcall] at hok hleft
  rcases onSubscriptionCreated_cases str s e.eventData with
    ⟨err, hraised⟩ | ⟨-, _, customerId, hobject, hcus, hnone⟩
      | ⟨object, sub, saved, s', _, customerId, status, price, loaded, hcreates⟩
  · rw [hraised] at hok
    cases hok
  · rw [StripeEvent.column_eq hobject hcus] at hcustomer
    exact absurd hcustomer.symm (hnone row hp.stored)
  · obtain rfl : object = obj := Except.ok.inj (hcreates.object_eq.symm.trans hp.object)
    rw [StripeEvent.column_eq hcreates.object_eq hcreates.customer_eq] at hcustomer
    obtain rfl := found_by_customer hp.stored hcustomer hcreates.found
    have hloaded := applyPeriod_of h hcreates.period
    have hprice : price = .str f.priceId :=
      Except.ok.inj (hcreates.price_eq.symm.trans (priceId_of h))
    have hstatus : status = .str f.status :=
      Except.ok.inj (hcreates.status_eq.symm.trans (get_of_item h.status))
    rw [onSubscriptionCreated_of hcreates] at hleft
    have hsame := left_eq_saved hcreates.save_eq ⟨sub, hp.stored, by rw [hloaded]⟩ hleft
      (by rw [hp.same, hloaded])
    obtain ⟨-, -, -, _, _, _, hp', hs', hf', hsaved, -⟩ := save_ok_iff.mp hcreates.save_eq
    rw [hprice] at hp'
    rw [hstatus] at hs'
    rw [hsame, hsaved, ← Option.some.inj hp', ← Option.some.inj hs', ← Option.some.inj hf',
      hloaded]
    rfl

/-- What `updated` leaves: the price is not copied. -/
theorem columns_of_updated (h : Carries obj f) (hp : Processes str s e obj row row')
    (hkind : e.kind = some .subscriptionUpdated) :
    columns row' = (f.status, row.stripePriceId, f.cancelAtPeriodEnd,
      taken row.currentPeriodStart (some f.currentPeriodStart),
      taken row.currentPeriodEnd (some f.currentPeriodEnd), taken row.trialEnd f.trialEnd) := by
  obtain ⟨stripeSubId, hid, hrowId⟩ : ∃ stripeSubId, e.column str "id" "" = some stripeSubId
      ∧ row.stripeSubscriptionId = some stripeSubId := by
    rcases hp.found with ⟨hother, -⟩ | ⟨-, hid⟩
    · rw [hkind] at hother
      cases hother
    · exact hid
  have hget := getBySubscriptionId_of_mem hp.stored hrowId
  have hcall : processEvent str s e = onSubscriptionUpdated str s e.eventData := by
    unfold processEvent
    rw [show EventType.ofValue? e.eventType = some .subscriptionUpdated from hkind]
  have hok := hp.ok
  have hleft := hp.left
  rw [hcall] at hok hleft
  rcases onSubscriptionUpdated_cases str s e.eventData with
    ⟨err, hraised⟩ | ⟨-, _, _, hobject, hread, hnone⟩
      | ⟨object, sub, saved, s', _, status, cancel, loaded, flag, hupdates⟩
  · rw [hraised] at hok
    cases hok
  · rw [← StripeEvent.column_eq hobject hread, hid, hget] at hnone
    cases hnone
  · obtain rfl : object = obj := Except.ok.inj (hupdates.object_eq.symm.trans hp.object)
    have hfound := hupdates.found
    rw [← StripeEvent.column_eq hupdates.object_eq hupdates.id_eq, hid, hget] at hfound
    obtain rfl := Option.some.inj (Except.ok.inj hfound)
    have hloaded := applyPeriod_of h hupdates.period
    have hstatus : status = .str f.status :=
      Except.ok.inj (hupdates.status_eq.symm.trans (get_of_item h.status))
    have hcancel : cancel = .bool f.cancelAtPeriodEnd :=
      Except.ok.inj (hupdates.cancel_eq.symm.trans (get_of_item h.cancel))
    have hflag : some f.cancelAtPeriodEnd = flag := by
      have hread := hupdates.flag_eq
      rw [hcancel] at hread
      exact Except.ok.inj hread
    rw [onSubscriptionUpdated_of hupdates] at hleft
    have hsame := left_eq_saved hupdates.save_eq ⟨row, hp.stored, by rw [hloaded]⟩ hleft
      (by rw [hp.same, hloaded])
    obtain ⟨-, -, -, _, _, _, hp', hs', hf', hsaved, -⟩ := save_ok_iff.mp hupdates.save_eq
    rw [hstatus] at hs'
    rw [← hflag] at hf'
    rw [hsame, hsaved, ← Option.some.inj hp', ← Option.some.inj hs', ← Option.some.inj hf',
      hloaded]
    rfl

/-! ## Agreement -/

/-- A period column has the object's value already, where the helper skips
it. -/
def Skipped (current : Option Time) (ts : Option Int) : Prop :=
  (ts = none → current = none) ∧ (ts = some 0 → current = some 0)

/-- Where the handler of this event does not copy, the row agrees. -/
structure Agrees (e : StripeEvent) (row : Subscription) (f : StripeFields) : Prop where
  cancel : e.kind = some .subscriptionCreated → row.cancelAtPeriodEnd = f.cancelAtPeriodEnd
  price : e.kind = some .subscriptionUpdated → row.stripePriceId = f.priceId
  start : Skipped row.currentPeriodStart (some f.currentPeriodStart)
  stop : Skipped row.currentPeriodEnd (some f.currentPeriodEnd)
  trial : Skipped row.trialEnd f.trialEnd

theorem taken_eq_iff {current : Option Time} {ts : Option Int} :
    taken current ts = ts.map seconds ↔ Skipped current ts := by
  unfold taken Skipped
  cases ts with
  | none => simp
  | some ts =>
      by_cases hzero : ts = 0
      · subst hzero
        simp [seconds]
      · simp [hzero]

theorem StripeFields.columns_eq_iff {status price : String} {cancel : Bool}
    {start stop trial : Option Time} :
    (status, price, cancel, taken start (some f.currentPeriodStart),
        taken stop (some f.currentPeriodEnd), taken trial f.trialEnd) = f.columns
      ↔ status = f.status ∧ price = f.priceId ∧ cancel = f.cancelAtPeriodEnd
        ∧ Skipped start (some f.currentPeriodStart) ∧ Skipped stop (some f.currentPeriodEnd)
        ∧ Skipped trial f.trialEnd := by
  simp only [StripeFields.columns, Prod.mk.injEq]
  rw [← taken_eq_iff, ← taken_eq_iff, ← taken_eq_iff]
  rfl

/-- A processed object is mirrored exactly where the row agreed with it on
what the handler does not copy, and the two handlers leave the same columns
exactly where it agreed on both. -/
theorem mirrored_iff (h : Carries obj f) :
    (∀ e row', Processes str s e obj row row' → (columns row' = f.columns ↔ Agrees e row f))
      ∧ ∀ created updated rowC rowU, created.kind = some .subscriptionCreated →
          updated.kind = some .subscriptionUpdated → Processes str s created obj row rowC →
          Processes str s updated obj row rowU →
          (columns rowC = columns rowU ↔ row.cancelAtPeriodEnd = f.cancelAtPeriodEnd
            ∧ row.stripePriceId = f.priceId) := by
  refine ⟨fun e row' hp => ?_, fun created updated rowC rowU hkindC hkindU hpC hpU => ?_⟩
  · rcases hp.found with ⟨hkind, -⟩ | ⟨hkind, -⟩
    · rw [columns_of_created h hp hkind, StripeFields.columns_eq_iff]
      constructor
      · rintro ⟨-, -, hcancel, hstart, hstop, htrial⟩
        refine ⟨fun _ => hcancel, fun hother => ?_, hstart, hstop, htrial⟩
        rw [hkind] at hother
        cases hother
      · intro hagrees
        exact ⟨rfl, rfl, hagrees.cancel hkind, hagrees.start, hagrees.stop, hagrees.trial⟩
    · rw [columns_of_updated h hp hkind, StripeFields.columns_eq_iff]
      constructor
      · rintro ⟨-, hprice, -, hstart, hstop, htrial⟩
        refine ⟨fun hother => ?_, fun _ => hprice, hstart, hstop, htrial⟩
        rw [hkind] at hother
        cases hother
      · intro hagrees
        exact ⟨rfl, hagrees.price hkind, rfl, hagrees.start, hagrees.stop, hagrees.trial⟩
  · rw [columns_of_created h hpC hkindC, columns_of_updated h hpU hkindU]
    simp only [Prod.mk.injEq, true_and, and_true]
    exact ⟨fun ⟨hprice, hcancel⟩ => ⟨hcancel, hprice.symm⟩,
      fun ⟨hcancel, hprice⟩ => ⟨hprice.symm, hcancel⟩⟩

end

/-! ## One object -/

def fields : StripeFields := ⟨"active", "price_2", false, 1700000000, 1702592000, none⟩

/-- The running subscription after a change of plan. -/
def object : Json :=
  .obj [("id", .str "sub_1"), ("customer", .str "cus_1"), ("status", .str "active"),
    ("items", .obj [("data", .arr [.obj [("price", .obj [("id", .str "price_2")])]])]),
    ("cancel_at_period_end", .bool false), ("current_period_start", .num 1700000000),
    ("current_period_end", .num 1702592000), ("trial_end", .null)]

def event (type : EventType) : StripeEvent := ⟨0, true, type.value, .obj [("object", object)]⟩

theorem carries : Carries object fields :=
  ⟨rfl, ⟨_, _, _, _, rfl, rfl, rfl, rfl⟩, rfl, rfl, rfl, rfl⟩

/-- The row with the object's period, and this price. -/
def renewed (stripePriceId : String) : Subscription :=
  { subscription with
    stripePriceId
    currentPeriodStart := some (seconds 1700000000)
    currentPeriodEnd := some (seconds 1702592000) }

theorem created_processed : Processes str subscribed (event .subscriptionCreated) object
    subscription (renewed "price_2") :=
  ⟨rfl, List.mem_singleton_self _, Or.inl ⟨by decide, by decide⟩, rfl, by decide, rfl⟩

theorem updated_processed : Processes str subscribed (event .subscriptionUpdated) object
    subscription (renewed "") :=
  ⟨rfl, List.mem_singleton_self _, Or.inr ⟨by decide, "sub_1", by decide, by decide⟩, rfl,
    by decide, rfl⟩

theorem mirrored_created : columns (renewed "price_2") = fields.columns := by
  refine ((mirrored_iff carries).1 _ _ created_processed).mpr
    ⟨fun _ => rfl, fun h => ?_, ⟨?_, by decide⟩, ⟨?_, by decide⟩, fun _ => rfl, by decide⟩
  · exact absurd h (by decide)
  · intro h
    cases h
  · intro h
    cases h

/-- A change of plan that arrives as an update: the row keeps its price. -/
theorem update_misses_price :
    ¬ ∀ (str : Json → String) (s : Site) (e : StripeEvent) (obj : Json) (f : StripeFields)
      (row row' : Subscription), Carries obj f → Processes str s e obj row row' →
      columns row' = f.columns := by
  intro hall
  have hcolumns := hall str subscribed _ object fields subscription _ carries updated_processed
  exact absurd hcolumns (by decide)

end StripeMirror

end SaasKit
