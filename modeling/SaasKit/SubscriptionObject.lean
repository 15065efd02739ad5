import SaasKit.BillingService

/-!
# What a subscription object writes

The two handlers that copy a Stripe subscription object into its row, with
the row they leave spelled out. `Creates` and `Updates` are the accepted
calls; `onSubscriptionCreated_cases` and `onSubscriptionUpdated_cases` say
that every other call leaves the database alone, and
`onSubscriptionCreated_again`, `onSubscriptionUpdated_again` that an accepted
call finds its own row and writes it once more.
-/

namespace SaasKit

namespace BillingService

/-! ## Periods -/

theorem periodField_again {current v : Option Time} {ts : Json}
    (h : periodField current ts = .ok v) : periodField v ts = .ok v := by
  unfold periodField at h ⊢
  split
  · rename_i htruthy
    rwa [if_pos htruthy] at h
  · rfl

theorem applyPeriod_ok_iff {sub sub' : Subscription} {obj : Json} :
    applyPeriod sub obj = .ok sub' ↔ ∃ startTs endTs trialEndTs start stop trial,
      obj.get "current_period_start" .null = .ok startTs
      ∧ obj.get "current_period_end" .null = .ok endTs
      ∧ obj.get "trial_end" .null = .ok trialEndTs
      ∧ periodField sub.currentPeriodStart startTs = .ok start
      ∧ periodField sub.currentPeriodEnd endTs = .ok stop
      ∧ periodField sub.trialEnd trialEndTs = .ok trial
      ∧ sub' = { sub with
          currentPeriodStart := start, currentPeriodEnd := stop, trialEnd := trial } := by
  unfold applyPeriod
  simp only [except_bind_ok]
  constructor
  · rintro ⟨startTs, hs, endTs, he, trialEndTs, ht, start, hstart, stop, hstop, trial, htrial, h⟩
    exact ⟨startTs, endTs, trialEndTs, start, stop, trial, hs, he, ht, hstart, hstop, htrial,
      (Except.ok.inj h).symm⟩
  · rintro ⟨startTs, endTs, trialEndTs, start, stop, trial, hs, he, ht, hstart, hstop, htrial, rfl⟩
    exact ⟨startTs, hs, endTs, he, trialEndTs, ht, start, hstart, stop, hstop, trial, htrial, rfl⟩

/-- The periods of an object that a row already has. -/
theorem applyPeriod_again {sub loaded saved : Subscription} {obj : Json}
    (h : applyPeriod sub obj = .ok loaded)
    (hstart : saved.currentPeriodStart = loaded.currentPeriodStart)
    (hend : saved.currentPeriodEnd = loaded.currentPeriodEnd)
    (htrial : saved.trialEnd = loaded.trialEnd) : applyPeriod saved obj = .ok saved := by
  obtain ⟨startTs, endTs, trialEndTs, start, stop, trial, hs, he, ht, hstart', hstop', htrial',
    rfl⟩ := applyPeriod_ok_iff.mp h
  refine applyPeriod_ok_iff.mpr ⟨startTs, endTs, trialEndTs, start, stop, trial, hs, he, ht,
    ?_, ?_, ?_, ?_⟩
  · rw [hstart]
    exact periodField_again hstart'
  · rw [hend]
    exact periodField_again hstop'
  · rw [htrial]
    exact periodField_again htrial'
  · simp only at hstart hend htrial
    rw [← hstart, ← hend, ← htrial]

/-! ## Look-ups -/

theorem getBySubscriptionId_eq_some {s : Site} {stripeSubId : Option String}
    {sub : Subscription} : getBySubscriptionId s stripeSubId = .ok (some sub) ↔
      s.subscriptions.filter (·.stripeSubscriptionId == stripeSubId) = [sub] := by
  unfold getBySubscriptionId
  constructor
  · intro h
    split at h
    · cases h
    · rename_i found hfilter
      obtain rfl := Option.some.inj (Except.ok.inj h)
      exact hfilter
    · cases h
  · intro h
    simp only [h]

/-- A write that keeps the id of the row it finds is found again. -/
theorem getBySubscriptionId_rewritten {s s₂ : Site} {stripeSubId : Option String}
    {sub : Subscription} {f : Subscription → Subscription}
    (h : getBySubscriptionId s stripeSubId = .ok (some sub))
    (hrows : s₂.subscriptions.rows
      = s.subscriptions.rows.map fun row => if row.id == sub.id then f row else row)
    (hid : (f sub).stripeSubscriptionId = sub.stripeSubscriptionId) :
    getBySubscriptionId s₂ stripeSubId = .ok (some (f sub)) := by
  obtain ⟨hsub, -⟩ := getBySubscriptionId_some h
  have hfilter : s₂.subscriptions.rows.filter (·.stripeSubscriptionId == stripeSubId)
      = (s.subscriptions.rows.filter (·.stripeSubscriptionId == stripeSubId)).map
          fun row => if row.id == sub.id then f row else row := by
    rw [hrows]
    refine Table.filter_map_inside fun row hrow hpk => ?_
    obtain rfl := subscription_eq_of_id hrow hsub (eq_of_beq hpk)
    rw [hid]
  have hone : s.subscriptions.rows.filter (·.stripeSubscriptionId == stripeSubId) = [sub] :=
    getBySubscriptionId_eq_some.mp h
  rw [hone] at hfilter
  refine getBySubscriptionId_eq_some.mpr (hfilter.trans ?_)
  simp

/-! ## Saves -/

section

variable {s s' : Site} {sub saved : Subscription} {stripeSubId price status : Option String}
  {flag : Option Bool}

/-- An accepted save, with the row it leaves. -/
theorem save_ok_iff : save s sub stripeSubId price status flag = .ok (saved, s') ↔
    tooLong 255 stripeSubId = false ∧ tooLong 255 price = false ∧ tooLong 20 status = false
    ∧ ∃ stripePriceId statusValue cancelAtPeriodEnd, price = some stripePriceId
      ∧ status = some statusValue ∧ flag = some cancelAtPeriodEnd
      ∧ saved = { sub with
          stripeSubscriptionId := stripeSubId, stripePriceId, status := statusValue,
          cancelAtPeriodEnd }
      ∧ ∃ subscriptions, s.subscriptions.update? (·.id == sub.id) (fun _ => saved)
          = some subscriptions ∧ s' = { s with subscriptions } := by
  unfold save
  constructor
  · intro h
    split at h
    · cases h
    · rename_i hlong
      simp only [Bool.or_eq_true, not_or, Bool.not_eq_true] at hlong
      refine ⟨hlong.1.1, hlong.1.2, hlong.2, ?_⟩
      split at h
      · rename_i stripePriceId statusValue cancelAtPeriodEnd
        simp only at h
        split at h
        · cases h
        · rename_i subscriptions hupdate
          obtain ⟨rfl, rfl⟩ := Prod.mk.inj (Except.ok.inj h)
          exact ⟨stripePriceId, statusValue, cancelAtPeriodEnd, rfl, rfl, rfl, rfl,
            subscriptions, hupdate, rfl⟩
      · cases h
  · rintro ⟨hid, hprice, hstatus, stripePriceId, statusValue, cancelAtPeriodEnd, rfl, rfl, rfl,
      rfl, subscriptions, hupdate, rfl⟩
    simp only [hid, hprice, hstatus, Bool.or_self, Bool.false_eq_true, if_false, hupdate]

/-- Saving a row that is there, with the columns it has, changes nothing. -/
theorem save_again (h : save s sub stripeSubId price status flag = .ok (saved, s'))
    {s₂ : Site} (hrows : s₂.subscriptions = s'.subscriptions) :
    save s₂ saved stripeSubId price status flag = .ok (saved, s₂) := by
  obtain ⟨hid, hprice, hstatus, stripePriceId, statusValue, cancelAtPeriodEnd, rfl, rfl, rfl,
    hsaved, subscriptions, hupdate, rfl⟩ := save_ok_iff.mp h
  refine save_ok_iff.mpr ⟨hid, hprice, hstatus, stripePriceId, statusValue, cancelAtPeriodEnd,
    rfl, rfl, rfl, ?_, s₂.subscriptions, Table.update?_eq_self fun row hrow hpk => ?_, rfl⟩
  · rw [hsaved]
  · rw [hrows] at hrow
    obtain ⟨old, hold, hrow'⟩ := (Table.mem_update? hupdate).mp hrow
    have hpk : row.id = saved.id := eq_of_beq hpk
    split at hrow'
    · exact hrow'.symm
    · rename_i hne
      rw [hrow', hsaved] at hpk
      exact absurd (beq_iff_eq.mpr hpk) hne

theorem saved_mem (h : save s sub stripeSubId price status flag = .ok (saved, s'))
    (hsub : ∃ row ∈ s.subscriptions, row.id = sub.id) : saved ∈ s'.subscriptions := by
  obtain ⟨-, -, -, _, _, _, -, -, -, -, subscriptions, hupdate, rfl⟩ := save_ok_iff.mp h
  obtain ⟨row, hrow, hid⟩ := hsub
  exact (Table.mem_update? hupdate).mpr ⟨row, hrow, by simp [hid]⟩

end

/-! ## Accepted calls -/

/-- `customer.subscription.created` with this object finds `sub` and leaves
`saved`. -/
structure Creates (str : Json → String) (s : Site) (data obj : Json) (sub saved : Subscription)
    (s' : Site) (stripeSubId customerId status price : Json) (loaded : Subscription) : Prop where
  object_eq : data.get "object" (.obj []) = .ok obj
  id_eq : obj.get "id" (.str "") = .ok stripeSubId
  customer_eq : obj.get "customer" (.str "") = .ok customerId
  status_eq : obj.get "status" (.str "active") = .ok status
  found : (s.subscriptions.find? fun row =>
    some row.stripeCustomerId == charField str customerId) = some sub
  price_eq : priceId obj = .ok price
  period : applyPeriod sub obj = .ok loaded
  save_eq : save s loaded (charField str stripeSubId) (charField str price) (charField str status)
    (some loaded.cancelAtPeriodEnd) = .ok (saved, s')

/-- `customer.subscription.updated` with this object finds `sub` and leaves
`saved`. -/
structure Updates (str : Json → String) (s : Site) (data obj : Json) (sub saved : Subscription)
    (s' : Site) (stripeSubId status cancelAtPeriodEnd : Json) (loaded : Subscription)
    (flag : Option Bool) : Prop where
  object_eq : data.get "object" (.obj []) = .ok obj
  id_eq : obj.get "id" (.str "") = .ok stripeSubId
  status_eq : obj.get "status" (.str "active") = .ok status
  found : getBySubscriptionId s (charField str stripeSubId) = .ok (some sub)
  cancel_eq : obj.get "cancel_at_period_end" (.bool false) = .ok cancelAtPeriodEnd
  period : applyPeriod sub obj = .ok loaded
  flag_eq : booleanField cancelAtPeriodEnd = .ok flag
  save_eq : save s loaded loaded.stripeSubscriptionId (some loaded.stripePriceId)
    (charField str status) flag = .ok (saved, s')

section

variable {str : Json → String} {s s' : Site} {data obj : Json} {sub saved loaded : Subscription}
  {stripeSubId customerId status price cancelAtPeriodEnd : Json} {flag : Option Bool}

theorem onSubscriptionCreated_of (h : Creates str s data obj sub saved s' stripeSubId customerId
    status price loaded) : onSubscriptionCreated str s data
      = (.ok (), audit s' .subscriptionCreated saved
          [("status", status), ("stripe_sub_id", stripeSubId)]) := by
  unfold onSubscriptionCreated
  simp only [h.object_eq, h.id_eq, h.customer_eq, h.status_eq, h.found, h.price_eq, h.period,
    h.save_eq, atomic, bind, Except.bind, pure, Except.pure, Functor.map, Except.map]

theorem onSubscriptionUpdated_of (h : Updates str s data obj sub saved s' stripeSubId status
    cancelAtPeriodEnd loaded flag) : onSubscriptionUpdated str s data = (.ok (), s') := by
  unfold onSubscriptionUpdated
  simp only [h.object_eq, h.id_eq, h.status_eq, h.found, h.cancel_eq, h.period, h.flag_eq,
    h.save_eq, atomic, bind, Except.bind, pure, Except.pure, Functor.map, Except.map]

/-- A call raises, or finds no row, or is accepted. -/
theorem onSubscriptionCreated_cases (str : Json → String) (s : Site) (data : Json) :
    (∃ e, onSubscriptionCreated str s data = (.error e, s))
      ∨ onSubscriptionCreated str s data = (.ok (), s)
        ∧ (∃ obj customerId, data.get "object" (.obj []) = .ok obj
          ∧ obj.get "customer" (.str "") = .ok customerId
          ∧ ∀ row ∈ s.subscriptions, some row.stripeCustomerId ≠ charField str customerId)
      ∨ ∃ obj sub saved s' stripeSubId customerId status price loaded,
          Creates str s data obj sub saved s' stripeSubId customerId status price loaded := by
  unfold onSubscriptionCreated
  simp only
  split
  · exact Or.inl ⟨_, rfl⟩
  · rename_i obj stripeSubId customerId status hfields
    obtain ⟨_, hobj, hfields⟩ := except_bind_ok.mp hfields
    obtain ⟨_, hid, hfields⟩ := except_bind_ok.mp hfields
    obtain ⟨_, hcustomer, hfields⟩ := except_bind_ok.mp hfields
    obtain ⟨_, hstatus, hfields⟩ := except_bind_ok.mp hfields
    cases hfields
    split
    · rename_i hfind
      refine Or.inr (Or.inl ⟨rfl, obj, customerId, hobj, hcustomer, fun row hrow heq => ?_⟩)
      have hnone := Table.find?_none.mp hfind row hrow
      rw [beq_iff_eq.mpr heq] at hnone
      cases hnone
    · rename_i sub hfind
      generalize htxn : (do
        let price ← priceId obj
        let sub ← applyPeriod sub obj
        some <$> save s sub (charField str stripeSubId) (charField str price)
          (charField str status) (some sub.cancelAtPeriodEnd)) = txn
      match txn with
      | .error e => exact Or.inl ⟨e, rfl⟩
      | .ok found =>
          obtain ⟨price, hprice, htxn⟩ := except_bind_ok.mp htxn
          obtain ⟨loaded, hperiod, htxn⟩ := except_bind_ok.mp htxn
          obtain ⟨⟨saved, s'⟩, hsaved, -⟩ := except_map_ok.mp htxn
          exact Or.inr (Or.inr ⟨obj, sub, saved, s', stripeSubId, customerId, status, price,
            loaded, hobj, hid, hcustomer, hstatus, hfind, hprice, hperiod, hsaved⟩)

theorem onSubscriptionUpdated_cases (str : Json → String) (s : Site) (data : Json) :
    (∃ e, onSubscriptionUpdated str s data = (.error e, s))
      ∨ onSubscriptionUpdated str s data = (.ok (), s)
        ∧ (∃ obj stripeSubId, data.get "object" (.obj []) = .ok obj
          ∧ obj.get "id" (.str "") = .ok stripeSubId
          ∧ getBySubscriptionId s (charField str stripeSubId) = .ok none)
      ∨ ∃ obj sub saved s' stripeSubId status cancelAtPeriodEnd loaded flag,
          Updates str s data obj sub saved s' stripeSubId status cancelAtPeriodEnd loaded
            flag := by
  unfold onSubscriptionUpdated
  simp only
  split
  · exact Or.inl ⟨_, rfl⟩
  · rename_i obj stripeSubId status hfields
    obtain ⟨_, hobj, hfields⟩ := except_bind_ok.mp hfields
    obtain ⟨_, hid, hfields⟩ := except_bind_ok.mp hfields
    obtain ⟨_, hstatus, hfields⟩ := except_bind_ok.mp hfields
    cases hfields
    split
    · exact Or.inl ⟨_, rfl⟩
    · rename_i hget
      exact Or.inr (Or.inl ⟨rfl, obj, stripeSubId, hobj, hid, hget⟩)
    · rename_i sub hget
      generalize htxn : (do
        let cancelAtPeriodEnd ← obj.get "cancel_at_period_end" (.bool false)
        let sub ← applyPeriod sub obj
        let flag ← booleanField cancelAtPeriodEnd
        some <$> save s sub sub.stripeSubscriptionId (some sub.stripePriceId)
          (charField str status) flag) = txn
      match txn with
      | .error e => exact Or.inl ⟨e, rfl⟩
      | .ok found =>
          obtain ⟨cancelAtPeriodEnd, hcancel, htxn⟩ := except_bind_ok.mp htxn
          obtain ⟨loaded, hperiod, htxn⟩ := except_bind_ok.mp htxn
          obtain ⟨flag, hflag, htxn⟩ := except_bind_ok.mp htxn
          obtain ⟨⟨saved, s'⟩, hsaved, -⟩ := except_map_ok.mp htxn
          exact Or.inr (Or.inr ⟨obj, sub, saved, s', stripeSubId, status, cancelAtPeriodEnd,
            loaded, flag, hobj, hid, hstatus, hget, hcancel, hperiod, hflag, hsaved⟩)

/-! ## Once more -/

/-- The row an accepted `created` leaves is the one it finds and leaves the
next time. -/
theorem Creates.again (h : Creates str s data obj sub saved s' stripeSubId customerId status
    price loaded) {s₂ : Site} (hrows : s₂.subscriptions = s'.subscriptions) :
    Creates str s₂ data obj saved saved s₂ stripeSubId customerId status price saved := by
  obtain ⟨hsub, hmatch⟩ := Table.find?_some h.found
  obtain ⟨_, _, _, hloaded⟩ := applyPeriod_ok h.period
  obtain ⟨-, -, -, _, _, _, hprice, hstatus, hflag, hsaved, -⟩ := save_ok_iff.mp h.save_eq
  have hcancel : saved.cancelAtPeriodEnd = loaded.cancelAtPeriodEnd := by
    rw [hsaved, ← Option.some.inj hflag]
  have hmem : saved ∈ s₂.subscriptions := by
    rw [hrows]
    exact saved_mem h.save_eq ⟨sub, hsub, by rw [hloaded]⟩
  have hcustomer : saved.stripeCustomerId = sub.stripeCustomerId := by
    rw [hsaved, hloaded]
  refine ⟨h.object_eq, h.id_eq, h.customer_eq, h.status_eq, ?_, h.price_eq,
    applyPeriod_again h.period (by rw [hsaved]) (by rw [hsaved]) (by rw [hsaved]), ?_⟩
  · refine Table.find?_eq_of_mem Site.subscription_clash_symm hmem ?_ fun x hx => ?_
    · rw [hcustomer]
      exact hmatch
    · have hsame : some x.stripeCustomerId = some saved.stripeCustomerId := by
        rw [hcustomer]
        exact (eq_of_beq hx).trans (eq_of_beq hmatch).symm
      simp [Subscription.clash, Option.some.inj hsame]
  · rw [hcancel]
    exact save_again h.save_eq hrows

/-- So is the row an accepted `updated` leaves. -/
theorem Updates.again (h : Updates str s data obj sub saved s' stripeSubId status
    cancelAtPeriodEnd loaded flag) {s₂ : Site} (hrows : s₂.subscriptions = s'.subscriptions) :
    Updates str s₂ data obj saved saved s₂ stripeSubId status cancelAtPeriodEnd saved flag := by
  obtain ⟨hsub, hid⟩ := getBySubscriptionId_some h.found
  obtain ⟨_, _, _, hloaded⟩ := applyPeriod_ok h.period
  obtain ⟨-, -, -, _, _, _, hprice, hstatus, hflag, hsaved, subscriptions, hupdate, rfl⟩ :=
    save_ok_iff.mp h.save_eq
  have hsid : saved.stripeSubscriptionId = sub.stripeSubscriptionId := by
    rw [hsaved, hloaded]
  have hprice' : saved.stripePriceId = loaded.stripePriceId := by
    rw [hsaved, ← Option.some.inj hprice]
  refine ⟨h.object_eq, h.id_eq, h.status_eq, ?_, h.cancel_eq,
    applyPeriod_again h.period (by rw [hsaved]) (by rw [hsaved]) (by rw [hsaved]), h.flag_eq, ?_⟩
  · refine getBySubscriptionId_rewritten (f := fun _ => saved) h.found ?_ hsid
    rw [hrows, Table.update?_rows hupdate, hloaded]
  · rw [hprice', show saved.stripeSubscriptionId = loaded.stripeSubscriptionId by rw [hsaved]]
    exact save_again h.save_eq hrows

end

end BillingService

end SaasKit
