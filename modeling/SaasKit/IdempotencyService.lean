import Mathlib.Data.Fintype.Basic
import SaasKit.Models
import SaasKit.Lib.Interleave
import SaasKit.Lib.TtlCache

/-!
# `IdempotencyService.run`

The cache keeps the result of an operation under the call's key, and `None`
is both a result and the answer of `cache.get` for a key without an entry.
`run` is the whole call; `next` is the same call with any number of others
in between, one access to the cache or one execution of the operation at a
time.

Nothing reserves the key while the operation runs. `Alone` is what a
reservation would provide: when an operation completes, no result is stored
under the key and none is about to be. Under it the operation completes at
most once in a ttl and every call returns that execution's result
(`executed_once`).
-/

namespace SaasKit

namespace IdempotencyService

def keyPrefix : String := "celery:idempotent"

def cacheKey (idempotencyKey : String) : String := keyPrefix ++ ":" ++ idempotencyKey

section

variable {α : Type}

/-- Results by full key; a result may be `None`. -/
abbrev Cache (α : Type) := TtlCache String Time (Option α)

/-- `cache.get(full_key)`, where `None` is either of two things. -/
def lookup (cache : Cache α) (now : Time) (idempotencyKey : String) : Option α :=
  (cache.get now (cacheKey idempotencyKey)).join

/-- One call, with the outcome of its operation, at one time. -/
def run (cache : Cache α) (now : Time) (idempotencyKey : String)
    (operation : Except Exc (Option α)) (ttlSeconds : Int) : Except Exc (Option α) × Cache α :=
  match lookup cache now idempotencyKey with
  | some cached => (.ok (some cached), cache)
  | none =>
      match operation with
      | .error e => (.error e, cache)
      | .ok result =>
          (.ok result, cache.set (cacheKey idempotencyKey) result (now + seconds ttlSeconds))

/-! ## Calls side by side -/

/-- Where a call stands; a call that returned knows whether it executed the
operation. -/
inductive Position (α : Type) where
  | start
  | missed
  | completed (result : Option α)
  | returned (result : Option α) (executed : Bool)
  | raised (e : Exc)

open Position

/-- The result of the call's own execution of the operation. -/
def execution : Position α → Option (Option α)
  | completed result => some result
  | returned result true => some result
  | _ => none

/-- One access of a call, at a time and with the outcome its operation has
if this is the one that executes it. -/
def next (idempotencyKey : String) (ttlSeconds : Int) (l : Time × Except Exc (Option α))
    (cache : Cache α) : Position α → Option (Cache α × Position α)
  | start =>
      match lookup cache l.1 idempotencyKey with
      | some cached => some (cache, returned (some cached) false)
      | none => some (cache, missed)
  | missed =>
      match l.2 with
      | .error e => some (cache, raised e)
      | .ok result => some (cache, completed result)
  | completed result =>
      some (cache.set (cacheKey idempotencyKey) result (l.1 + seconds ttlSeconds),
        returned result true)
  | returned .. | raised _ => none

variable {ι : Type}

abbrev Conf (ι α : Type) := Threads.Conf ι (Cache α) (Position α)

abbrev Label (ι α : Type) := ι × Time × Except Exc (Option α)

abbrev Step (idempotencyKey : String) (ttlSeconds : Int) :
    Conf ι α → Label ι α → Conf ι α → Prop :=
  Threads.step (Threads.ofNext (next idempotencyKey ttlSeconds))

/-- How a call ends. -/
def ending : Except Exc (Option α) → Bool → Position α
  | .error e, _ => raised e
  | .ok result, executed => returned result executed

/-- A call nobody interrupts is `run`. -/
theorem run_alone (i : ι) (cache : Cache α) (now : Time) (idempotencyKey : String)
    (operation : Except Exc (Option α)) (ttlSeconds : Int) :
    ∃ ls executed, Lts.Run (Threads.solo (Threads.ofNext (next idempotencyKey ttlSeconds)) i)
      (cache, start) ls ((run cache now idempotencyKey operation ttlSeconds).2,
        ending (run cache now idempotencyKey operation ttlSeconds).1 executed) := by
  unfold run
  cases hlookup : lookup cache now idempotencyKey with
  | some cached =>
      have hget : next idempotencyKey ttlSeconds (now, operation) cache start
          = some (cache, returned (some cached) false) := by simp only [next, hlookup]
      exact ⟨[_], false, .cons (Threads.solo_step hget) (.nil _)⟩
  | none =>
      have hget : next idempotencyKey ttlSeconds (now, operation) cache start
          = some (cache, missed) := by simp only [next, hlookup]
      cases operation with
      | error e =>
          have hraise : next idempotencyKey ttlSeconds (now, .error e) cache missed
              = some (cache, raised e) := rfl
          exact ⟨[_, _], false,
            .cons (Threads.solo_step hget) (.cons (Threads.solo_step hraise) (.nil _))⟩
      | ok result =>
          have hrun : next idempotencyKey ttlSeconds (now, .ok result) cache missed
              = some (cache, completed result) := rfl
          have hset : next idempotencyKey ttlSeconds (now, .ok result) cache (completed result)
              = some (cache.set (cacheKey idempotencyKey) result (now + seconds ttlSeconds),
                returned result true) := rfl
          exact ⟨[_, _, _], true, .cons (Threads.solo_step hget)
            (.cons (Threads.solo_step hrun) (.cons (Threads.solo_step hset) (.nil _)))⟩

/-! ## At most one execution -/

/-- What is promised of a run from `c₀` to `c`: one execution, whose result
every call returns, and a raising operation leaves the cache as it was. -/
structure Idempotent (idempotencyKey : String) (ttlSeconds : Int) (c₀ : Conf ι α)
    (ls : List (Label ι α)) (c : Conf ι α) : Prop where
  once : ∀ i j result result', execution (c.locals i) = some result →
    execution (c.locals j) = some result' → i = j
  returns : ∀ i result executed, c.locals i = returned result executed →
    ∃ j, execution (c.locals j) = some result
  raises : ∀ pre i now e post, ls = pre ++ (i, now, .error e) :: post →
    ∃ c₁ c₂, Lts.Run (Step idempotencyKey ttlSeconds) c₀ pre c₁
      ∧ Step idempotencyKey ttlSeconds c₁ (i, now, .error e) c₂
      ∧ Lts.Run (Step idempotencyKey ttlSeconds) c₂ post c
      ∧ (c₁.locals i = missed → c₂.shared = c₁.shared ∧ c₂.locals i = raised e)

/-- The step completes the operation. -/
def completes : Position α → Except Exc (Option α) → Bool
  | missed, .ok _ => true
  | _, _ => false

/-- The call has completed the operation and not stored the result. -/
def storing : Position α → Bool
  | completed _ => true
  | _ => false

/-- An operation completes while the key has no entry, not even one that
holds `None`, and nobody is about to store one. -/
def Alone (idempotencyKey : String) (c : Conf ι α) (l : Label ι α) : Prop :=
  completes (c.locals l.1) l.2.2 = true →
    c.shared.get l.2.1 (cacheKey idempotencyKey) = none ∧ ∀ j, storing (c.locals j) = false

instance [Fintype ι] (idempotencyKey : String) (c : Conf ι α) (l : Label ι α) :
    Decidable (Alone idempotencyKey c l) :=
  inferInstanceAs (Decidable (_ → _))

/-- Executions, live entry and answers belong together from `start₀` on, and
no entry that is stored ends before `bound`. -/
structure Invariant (idempotencyKey : String) (start₀ bound : Time) (c : Conf ι α) : Prop where
  once : ∀ i j result result', execution (c.locals i) = some result →
    execution (c.locals j) = some result' → i = j
  entry : ∀ result expires, c.shared.entries (cacheKey idempotencyKey) = some (result, expires) →
    start₀ < expires → ∃ i, c.locals i = returned result true
  stored : ∀ i result, c.locals i = returned result true →
    ∃ expires, c.shared.entries (cacheKey idempotencyKey) = some (result, expires)
      ∧ bound ≤ expires
  hit : ∀ i result, c.locals i = returned result false → ∃ j, c.locals j = returned result true

variable {idempotencyKey : String} {ttlSeconds : Int} {start₀ bound : Time} {c c' c₀ : Conf ι α}
  {l : Label ι α} {ls : List (Label ι α)} {i : ι} {now : Time}

/-- A step that leaves the cache alone and ends in no execution of its own. -/
theorem Invariant.of_quiet (hc : Invariant idempotencyKey start₀ bound c)
    (hshared : c'.shared = c.shared) (hrest : ∀ j, j ≠ i → c'.locals j = c.locals j)
    (hbefore : execution (c.locals i) = none) (hafter : execution (c'.locals i) = none)
    (hhit : ∀ result, c'.locals i = returned result false →
      ∃ j, c.locals j = returned result true) :
    Invariant idempotencyKey start₀ bound c' := by
  have hexecution : ∀ j, execution (c'.locals j) = execution (c.locals j) :=
    Threads.forall_locals (P := fun j p => execution p = execution (c.locals j)) hrest
      (hafter.trans hbefore.symm) fun _ _ => rfl
  have hreturned : ∀ j result, c'.locals j = returned result true ↔
      c.locals j = returned result true := by
    intro j result
    by_cases hj : j = i
    · subst hj
      constructor
      · intro h
        rw [h] at hafter
        cases hafter
      · intro h
        rw [h] at hbefore
        cases hbefore
    · rw [hrest j hj]
  refine ⟨fun j k result result' hj hk => ?_, fun result expires hentry hlive => ?_,
    fun j result hj => ?_, fun j result hj => ?_⟩
  · rw [hexecution] at hj hk
    exact hc.once j k result result' hj hk
  · rw [hshared] at hentry
    obtain ⟨j, hj⟩ := hc.entry result expires hentry hlive
    exact ⟨j, (hreturned j result).mpr hj⟩
  · rw [hshared]
    exact hc.stored j result ((hreturned j result).mp hj)
  · by_cases hji : j = i
    · subst hji
      obtain ⟨k, hk⟩ := hhit result hj
      exact ⟨k, (hreturned k result).mpr hk⟩
    · rw [hrest j hji] at hj
      obtain ⟨k, hk⟩ := hc.hit j result hj
      exact ⟨k, (hreturned k result).mpr hk⟩

theorem lookup_some {cache : Cache α} {cached : α}
    (h : lookup cache now idempotencyKey = some cached) :
    ∃ expires, cache.entries (cacheKey idempotencyKey) = some (some cached, expires)
      ∧ now < expires :=
  TtlCache.get_some.mp (Option.join_eq_some_iff.mp h)

/-- Nobody has executed the operation where `Alone` lets one complete. -/
theorem Invariant.unexecuted (hc : Invariant idempotencyKey start₀ bound c)
    (hnow : now < bound) (hmiss : c.shared.get now (cacheKey idempotencyKey) = none)
    (hstoring : ∀ j, storing (c.locals j) = false) (j : ι) : execution (c.locals j) = none := by
  cases hj : c.locals j with
  | completed result =>
      have hnot := hstoring j
      rw [hj] at hnot
      cases hnot
  | returned result executed =>
      cases executed with
      | false => rfl
      | true =>
          obtain ⟨expires, hentry, hbound⟩ := hc.stored j result hj
          have hlive : now < expires := lt_of_lt_of_le hnow hbound
          rw [TtlCache.get_some.mpr ⟨expires, hentry, hlive⟩] at hmiss
          cases hmiss
  | start => rfl
  | missed => rfl
  | raised e => rfl

/-- The operation completes where nobody has executed it. -/
theorem Invariant.complete (hc : Invariant idempotencyKey start₀ bound c)
    (hshared : c'.shared = c.shared) (hrest : ∀ j, j ≠ i → c'.locals j = c.locals j)
    (hnone : ∀ j, execution (c.locals j) = none) {result : Option α}
    (hi : c'.locals i = completed result) : Invariant idempotencyKey start₀ bound c' := by
  have hnobody : ∀ j r, c.locals j ≠ returned r true := by
    intro j r hj
    have hexecuted := hnone j
    rw [hj] at hexecuted
    cases hexecuted
  have honly : ∀ j, ∀ r, execution (c'.locals j) = some r → j = i :=
    Threads.forall_locals (P := fun j p => ∀ r, execution p = some r → j = i) hrest
      (fun _ _ => rfl) fun j _ r hj => by rw [hnone j] at hj; cases hj
  have hanswers : ∀ j, ∀ r b, c'.locals j ≠ returned r b :=
    Threads.forall_locals (P := fun _ p => ∀ r b, p ≠ returned r b) hrest
      (fun r b h => by rw [hi] at h; cases h) fun j _ r b hj => by
        cases b with
        | true => exact hnobody j r hj
        | false =>
            obtain ⟨k, hk⟩ := hc.hit j r hj
            exact hnobody k r hk
  refine ⟨fun j k r r' hj hk => (honly j r hj).trans (honly k r' hk).symm,
    fun r expires hentry hlive => ?_, fun j r hj => absurd hj (hanswers j r true),
    fun j r hj => absurd hj (hanswers j r false)⟩
  rw [hshared] at hentry
  obtain ⟨j, hj⟩ := hc.entry r expires hentry hlive
  exact absurd hj (hnobody j r)

/-- The call that has executed the operation stores its result. -/
theorem Invariant.store (hc : Invariant idempotencyKey start₀ bound c) {result : Option α}
    (hbefore : c.locals i = completed result) (hrest : ∀ j, j ≠ i → c'.locals j = c.locals j)
    {expires : Time} (hbound : bound ≤ expires)
    (hshared : c'.shared = c.shared.set (cacheKey idempotencyKey) result expires)
    (hi : c'.locals i = returned result true) : Invariant idempotencyKey start₀ bound c' := by
  have hexecution : execution (c.locals i) = some result := by rw [hbefore]; rfl
  have honly : ∀ j r, execution (c.locals j) = some r → j = i :=
    fun j r hj => hc.once j i r result hj hexecution
  have honly' : ∀ j, ∀ r, execution (c'.locals j) = some r → j = i :=
    Threads.forall_locals (P := fun j p => ∀ r, execution p = some r → j = i) hrest
      (fun _ _ => rfl) fun j _ r hj => honly j r hj
  have hnobody : ∀ j r, c.locals j ≠ returned r true := by
    intro j r hj
    have hji := honly j r (by rw [hj]; rfl)
    rw [hji, hbefore] at hj
    cases hj
  have hentries : c'.shared.entries (cacheKey idempotencyKey) = some (result, expires) := by
    rw [hshared]
    simp [TtlCache.set]
  have hanswers : ∀ j, ∀ r b, c'.locals j = returned r b → b = true ∧ r = result :=
    Threads.forall_locals (P := fun _ p => ∀ r b, p = returned r b → b = true ∧ r = result) hrest
      (fun r b h => by
        obtain ⟨rfl, rfl⟩ := returned.inj (hi.symm.trans h)
        exact ⟨rfl, rfl⟩)
      fun j _ r b hj => by
        cases b with
        | true => exact absurd hj (hnobody j r)
        | false =>
            obtain ⟨k, hk⟩ := hc.hit j r hj
            exact absurd hk (hnobody k r)
  refine ⟨fun j k r r' hj hk => (honly' j r hj).trans (honly' k r' hk).symm,
    fun r expires' hentry _ => ?_, fun j r hj => ?_, fun j r hj => ?_⟩
  · rw [hentries] at hentry
    obtain ⟨rfl, rfl⟩ := Prod.mk.inj (Option.some.inj hentry)
    exact ⟨i, hi⟩
  · obtain ⟨-, rfl⟩ := hanswers j r true hj
    exact ⟨expires, hentries, hbound⟩
  · obtain ⟨hfalse, -⟩ := hanswers j r false hj
    cases hfalse

theorem invariant_step (hc : Invariant idempotencyKey start₀ bound c)
    (hstart : start₀ ≤ l.2.1) (hfrom : bound ≤ l.2.1 + seconds ttlSeconds)
    (hbefore : l.2.1 < bound)
    (h : Lts.Guarded (Step idempotencyKey ttlSeconds) (Alone idempotencyKey) c l c') :
    Invariant idempotencyKey start₀ bound c' := by
  obtain ⟨i, now, operation⟩ := l
  obtain ⟨⟨hact, hrest⟩, halone⟩ := h
  have hnext : next idempotencyKey ttlSeconds (now, operation) c.shared (c.locals i)
      = some (c'.shared, c'.locals i) := hact
  unfold Alone at halone
  simp only at hrest halone hstart hfrom hbefore
  cases hp : c.locals i with
  | start =>
      rw [hp] at hnext
      simp only [next] at hnext
      split at hnext
      · rename_i cached hlookup
        obtain ⟨hshared, hlocal⟩ := Prod.mk.inj (Option.some.inj hnext)
        refine hc.of_quiet hshared.symm hrest (by rw [hp]; rfl) (by rw [← hlocal]; rfl)
          fun result hresult => ?_
        rw [← hlocal] at hresult
        obtain ⟨rfl, -⟩ := returned.inj hresult
        obtain ⟨expires, hentry, hlive⟩ := lookup_some hlookup
        exact hc.entry _ expires hentry (lt_of_le_of_lt hstart hlive)
      · obtain ⟨hshared, hlocal⟩ := Prod.mk.inj (Option.some.inj hnext)
        refine hc.of_quiet hshared.symm hrest (by rw [hp]; rfl) (by rw [← hlocal]; rfl)
          fun result hresult => ?_
        rw [← hlocal] at hresult
        cases hresult
  | missed =>
      rw [hp] at hnext halone
      cases operation with
      | error e =>
          obtain ⟨hshared, hlocal⟩ := Prod.mk.inj (Option.some.inj hnext)
          refine hc.of_quiet hshared.symm hrest (by rw [hp]; rfl) (by rw [← hlocal]; rfl)
            fun result hresult => ?_
          rw [← hlocal] at hresult
          cases hresult
      | ok result =>
          obtain ⟨hshared, hlocal⟩ := Prod.mk.inj (Option.some.inj hnext)
          obtain ⟨hmiss, hstoring⟩ := halone rfl
          exact hc.complete hshared.symm hrest (hc.unexecuted hbefore hmiss hstoring) hlocal.symm
  | completed result =>
      rw [hp] at hnext
      obtain ⟨hshared, hlocal⟩ := Prod.mk.inj (Option.some.inj hnext)
      exact hc.store hp hrest hfrom hshared.symm hlocal.symm
  | returned result executed =>
      rw [hp] at hnext
      cases hnext
  | raised e =>
      rw [hp] at hnext
      cases hnext

/-- In every schedule of calls within one ttl in which operations complete
alone, the operation completes at most once, every call that returns
returns its result, and raising operations leave the cache as it was. -/
theorem executed_once (hbegins : ∀ i, c₀.locals i = start)
    (hempty : c₀.shared.get start₀ (cacheKey idempotencyKey) = none)
    (hwithin : ∀ l ∈ ls, start₀ ≤ l.2.1 ∧ l.2.1 < start₀ + seconds ttlSeconds)
    (hrun : Lts.Run (Lts.Guarded (Step idempotencyKey ttlSeconds) (Alone idempotencyKey))
      c₀ ls c) : Idempotent idempotencyKey ttlSeconds c₀ ls c := by
  have hinit : Invariant idempotencyKey start₀ (start₀ + seconds ttlSeconds) c₀ := by
    refine ⟨fun i j r r' hi _ => ?_, fun r expires hentry hlive => ?_, fun i r hi => ?_,
      fun i r hi => ?_⟩
    · rw [hbegins i] at hi; cases hi
    · rw [TtlCache.get_some.mpr ⟨expires, hentry, hlive⟩] at hempty; cases hempty
    · rw [hbegins i] at hi; cases hi
    · rw [hbegins i] at hi; cases hi
  have hinv : Invariant idempotencyKey start₀ (start₀ + seconds ttlSeconds) c := by
    refine (hrun.restrict hwithin).invariant (fun d l d' hd hstep => ?_) hinit
    obtain ⟨hguarded, hfrom, hbefore⟩ := hstep
    exact invariant_step hd hfrom (Int.add_le_add_right hfrom _) hbefore hguarded
  refine ⟨hinv.once, fun i result executed hi => ?_, fun pre i now e post hls => ?_⟩
  · cases executed with
    | true => exact ⟨i, by rw [hi]; rfl⟩
    | false =>
        obtain ⟨j, hj⟩ := hinv.hit i result hi
        exact ⟨j, by rw [hj]; rfl⟩
  · subst hls
    obtain ⟨c₁, c₂, hpre, hstep, hpost⟩ := hrun.split
    refine ⟨c₁, c₂, hpre.mono fun _ _ _ h => h.1, hstep.1, hpost.mono fun _ _ _ h => h.1,
      fun hmissed => ?_⟩
    have hnext : next idempotencyKey ttlSeconds (now, .error e) c₁.shared (c₁.locals i)
        = some (c₂.shared, c₂.locals i) := hstep.1.1
    rw [hmissed] at hnext
    obtain ⟨hshared, hlocal⟩ := Prod.mk.inj (Option.some.inj hnext)
    exact ⟨hshared.symm, hlocal.symm⟩

end

/-! ## A task delivered twice -/

def welcomeKey : String := "welcome_email:1"

/-- Twenty-four hours. -/
def defaultTtlSeconds : Int := 60 * 60 * 24

/-- Two deliveries of the welcome task, nothing stored. -/
def delivered : Conf Bool String := ⟨.empty, fun _ => .start⟩

def sent : Except Exc (Option String) := .ok (some "welcome_sent:1")

/-- The second delivery comes after the first has stored its result. -/
def inTurn : List (Label Bool String) :=
  [(true, 0, sent), (true, 0, sent), (true, 1, sent), (false, 2, sent)]

theorem executed_once_in_turn :
    ∃ c, Lts.Run (Lts.Guarded (Step welcomeKey defaultTtlSeconds) (Alone welcomeKey)) delivered
        inTurn c
      ∧ Idempotent welcomeKey defaultTtlSeconds delivered inTurn c := by
  have hexec : (Threads.exec (next welcomeKey defaultTtlSeconds) (Alone welcomeKey) delivered
      inTurn).isSome = true := by decide
  have hwithin : ∀ l ∈ inTurn, (0 : Time) ≤ l.2.1 ∧ l.2.1 < 0 + seconds defaultTtlSeconds := by
    decide
  obtain ⟨c, hc⟩ := Option.isSome_iff_exists.mp hexec
  exact ⟨c, Threads.run_of_exec hc,
    executed_once (fun _ => rfl) rfl hwithin (Threads.run_of_exec hc)⟩

/-- Both deliveries look for a result before either has one. -/
def overlapping : List (Label Bool String) :=
  [(true, 0, sent), (false, 0, sent), (true, 1, sent), (false, 1, sent)]

/-- Both deliveries send the email. -/
theorem executed_twice :
    ¬ ∀ (idempotencyKey : String) (ttlSeconds : Int) (start₀ : Time) (c₀ c : Conf Bool String)
      (ls : List (Label Bool String)), (∀ i, c₀.locals i = .start) →
      c₀.shared.get start₀ (cacheKey idempotencyKey) = none →
      (∀ l ∈ ls, start₀ ≤ l.2.1 ∧ l.2.1 < start₀ + seconds ttlSeconds) →
      Lts.Run (Step idempotencyKey ttlSeconds) c₀ ls c →
      Idempotent idempotencyKey ttlSeconds c₀ ls c := by
  intro hall
  have hexec : (Threads.exec (next welcomeKey defaultTtlSeconds) (fun _ _ => True) delivered
      overlapping).map (fun c => (execution (c.locals true), execution (c.locals false)))
      = some (some (some "welcome_sent:1"), some (some "welcome_sent:1")) := by decide
  obtain ⟨c, hc, hboth⟩ := Option.map_eq_some_iff.mp hexec
  obtain ⟨htrue, hfalse⟩ := Prod.mk.inj hboth
  have hrun := (Threads.run_of_exec hc).mono fun _ _ _ hstep => hstep.1
  have honce := (hall welcomeKey defaultTtlSeconds 0 delivered c overlapping (fun _ => rfl) rfl
    (by decide) hrun).once
  cases honce true false _ _ htrue hfalse

end IdempotencyService

end SaasKit
