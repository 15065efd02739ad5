import Mathlib.Algebra.GroupWithZero.Nat
import Mathlib.Algebra.Order.BigOperators.Group.List
import Mathlib.Algebra.Order.Group.Nat

/-!
# A broker with retries

Messages wait until a worker takes one of them, in whatever order. An attempt
ends its message or puts it back with one more retry behind it, up to a limit
that depends on the message; and a message that waits may be delivered a
second time. What has come in and what has ended are kept as histories, so
that the books can be checked:

- `Sound.balanced`: every message that came in waits or has ended;
- `Sound.attempts_le`: what came in bounds the number of attempts, whatever
  they come to.
-/

/-- A message that is dealt with, the retries behind it and what it came to. -/
structure Ended (μ ρ : Type) where
  message : μ
  retries : Nat
  result : ρ

/-- What waits is kept with its retries; `redelivered` are the second copies. -/
structure Broker (μ ρ : Type) where
  pending : List (μ × Nat)
  published : List μ
  redelivered : List μ
  ended : List (Ended μ ρ)
  attempts : Nat

namespace Broker

variable {μ ρ : Type}

/-- Nothing but fresh messages. -/
def holding (messages : List μ) : Broker μ ρ where
  pending := messages.map fun m => (m, 0)
  published := messages
  redelivered := []
  ended := []
  attempts := 0

def publish (b : Broker μ ρ) (messages : List μ) : Broker μ ρ :=
  { b with
    pending := b.pending ++ messages.map fun m => (m, 0)
    published := b.published ++ messages }

/-- A second copy of the message at `i`. -/
def redeliver (b : Broker μ ρ) (i : Nat) : Broker μ ρ :=
  match b.pending[i]? with
  | none => b
  | some (m, retries) =>
      { b with
        pending := b.pending ++ [(m, retries)]
        redelivered := b.redelivered ++ [m] }

/-- What an attempt comes to: the message is done with, or it is to be tried
again, unless that was the last time. -/
inductive Verdict (ρ : Type) where
  | done (result : ρ)
  | again (giveUp : ρ)

def finish (b : Broker μ ρ) (i : Nat) (m : μ) (retries : Nat) (result : ρ) : Broker μ ρ :=
  { b with
    pending := b.pending.eraseIdx i
    ended := b.ended ++ [⟨m, retries, result⟩]
    attempts := b.attempts + 1 }

def postpone (b : Broker μ ρ) (i : Nat) (m : μ) (retries : Nat) : Broker μ ρ :=
  { b with
    pending := b.pending.eraseIdx i ++ [(m, retries + 1)]
    attempts := b.attempts + 1 }

/-- After an attempt at the message at `i`. -/
def settle (maxRetries : μ → Nat) (b : Broker μ ρ) (i : Nat) (verdict : Verdict ρ) :
    Broker μ ρ :=
  match b.pending[i]? with
  | none => b
  | some (m, retries) =>
      match verdict with
      | .done result => b.finish i m retries result
      | .again giveUp =>
          if retries < maxRetries m then b.postpone i m retries else b.finish i m retries giveUp

/-- An attempt ends its message or postpones it, within the limit. -/
theorem settle_cases (maxRetries : μ → Nat) {b : Broker μ ρ} {i : Nat} {m : μ} {retries : Nat}
    (h : b.pending[i]? = some (m, retries)) (verdict : Verdict ρ) :
    (∃ result, b.settle maxRetries i verdict = b.finish i m retries result)
      ∨ retries < maxRetries m ∧ b.settle maxRetries i verdict = b.postpone i m retries := by
  unfold settle
  rw [h]
  cases verdict with
  | done result => exact Or.inl ⟨result, rfl⟩
  | again giveUp =>
      by_cases hlimit : retries < maxRetries m
      · exact Or.inr ⟨hlimit, if_pos hlimit⟩
      · exact Or.inl ⟨giveUp, if_neg hlimit⟩

@[simp] theorem settle_published (maxRetries : μ → Nat) (b : Broker μ ρ) (i : Nat)
    (verdict : Verdict ρ) : (b.settle maxRetries i verdict).published = b.published := by
  cases hi : b.pending[i]? with
  | none =>
      unfold settle
      rw [hi]
  | some p =>
      rcases settle_cases maxRetries hi verdict with ⟨_, hdone⟩ | ⟨-, hagain⟩
      · rw [hdone]
        rfl
      · rw [hagain]
        rfl

@[simp] theorem redeliver_published (b : Broker μ ρ) (i : Nat) :
    (b.redeliver i).published = b.published := by
  unfold redeliver
  split <;> rfl

@[simp] theorem redeliver_ended (b : Broker μ ρ) (i : Nat) : (b.redeliver i).ended = b.ended := by
  unfold redeliver
  split <;> rfl

/-! ## What holds of all that waits -/

def All (P : μ → Prop) (b : Broker μ ρ) : Prop := ∀ p ∈ b.pending, P p.1

section

variable {P Q : μ → Prop} {b : Broker μ ρ}

theorem All.mono (hb : All P b) (h : ∀ m, P m → Q m) : All Q b := fun p hp => h p.1 (hb p hp)

theorem All.holding {messages : List μ} (h : ∀ m ∈ messages, P m) :
    All P (Broker.holding messages : Broker μ ρ) := by
  intro p hp
  obtain ⟨m, hm, rfl⟩ := List.mem_map.mp hp
  exact h m hm

theorem All.publish {messages : List μ} (hb : All P b) (h : ∀ m ∈ messages, P m) :
    All P (b.publish messages) := by
  intro p hp
  rcases List.mem_append.mp hp with hp | hp
  · exact hb p hp
  · obtain ⟨m, hm, rfl⟩ := List.mem_map.mp hp
    exact h m hm

theorem All.redeliver (hb : All P b) (i : Nat) : All P (b.redeliver i) := by
  unfold Broker.redeliver
  split
  · exact hb
  · rename_i m retries hi
    intro p hp
    rcases List.mem_append.mp hp with hp | hp
    · exact hb p hp
    · obtain rfl := List.mem_singleton.mp hp
      exact hb (m, retries) (List.mem_of_getElem? hi)

theorem All.settle (hb : All P b) (maxRetries : μ → Nat) (i : Nat) (verdict : Verdict ρ) :
    All P (b.settle maxRetries i verdict) := by
  cases hi : b.pending[i]? with
  | none =>
      unfold Broker.settle
      rw [hi]
      exact hb
  | some p =>
      obtain ⟨m, retries⟩ := p
      have hm : P m := hb (m, retries) (List.mem_of_getElem? hi)
      rcases settle_cases maxRetries hi verdict with ⟨_, hdone⟩ | ⟨-, hagain⟩
      · rw [hdone]
        exact fun p hp => hb p (List.mem_of_mem_eraseIdx hp)
      · rw [hagain]
        intro p hp
        rcases List.mem_append.mp hp with hp | hp
        · exact hb p (List.mem_of_mem_eraseIdx hp)
        · obtain rfl := List.mem_singleton.mp hp
          exact hm

end

/-! ## The books -/

section

variable {α : Type} {l l' l₁ l₂ m : List α} {i : Nat} {x : α}

/-- A message taken out, and what is left. -/
theorem eraseIdx_perm (h : l[i]? = some x) : (x :: l.eraseIdx i).Perm l := by
  obtain ⟨hi, rfl⟩ := List.getElem?_eq_some_iff.mp h
  exact List.getElem_cons_eraseIdx_perm hi

theorem append_right_perm (l₁ l₂ m : List α) : (l₁ ++ m ++ l₂).Perm (l₁ ++ l₂ ++ m) := by
  rw [List.append_assoc, List.append_assoc]
  exact List.perm_append_comm.append_left l₁

/-- The same is added to both sides, somewhere. -/
theorem balance_add (h : (l₁ ++ l₂).Perm (l ++ l')) (m : List α) :
    (l₁ ++ m ++ l₂).Perm (l ++ m ++ l') :=
  (append_right_perm l₁ l₂ m).trans ((h.append_right m).trans (append_right_perm l l' m).symm)

end

structure Sound (maxRetries : μ → Nat) (b : Broker μ ρ) : Prop where
  balanced : (b.pending.map (·.1) ++ b.ended.map (·.message)).Perm (b.published ++ b.redelivered)
  pending_le : ∀ p ∈ b.pending, p.2 ≤ maxRetries p.1
  ended_le : ∀ e ∈ b.ended, e.retries ≤ maxRetries e.message
  spent : b.attempts
    ≤ (b.pending.map fun p => p.2).sum + (b.ended.map fun e => e.retries + 1).sum

section

variable {maxRetries : μ → Nat} {b : Broker μ ρ} {i : Nat} {m : μ} {retries : Nat}

theorem Sound.holding (maxRetries : μ → Nat) (messages : List μ) :
    Sound maxRetries (Broker.holding messages : Broker μ ρ) where
  balanced := by
    simp only [Broker.holding, List.map_map, List.map_nil, List.append_nil]
    exact .of_eq (List.map_id messages)
  pending_le p hp := by
    obtain ⟨m, -, rfl⟩ := List.mem_map.mp hp
    exact Nat.zero_le _
  ended_le e he := by cases he
  spent := Nat.zero_le _

theorem Sound.publish (hb : Sound maxRetries b) (messages : List μ) :
    Sound maxRetries (b.publish messages) where
  balanced := by
    have hfresh : (messages.map fun m => (m, 0)).map (fun p => p.1) = messages :=
      List.map_map.trans (List.map_id messages)
    simp only [Broker.publish, List.map_append, hfresh]
    exact balance_add hb.balanced messages
  pending_le p hp := by
    rcases List.mem_append.mp hp with hp | hp
    · exact hb.pending_le p hp
    · obtain ⟨m, -, rfl⟩ := List.mem_map.mp hp
      exact Nat.zero_le _
  ended_le := hb.ended_le
  spent := by
    have hspent := hb.spent
    simp only [Broker.publish, List.map_append, List.sum_append]
    omega

theorem Sound.redeliver (hb : Sound maxRetries b) (i : Nat) :
    Sound maxRetries (b.redeliver i) := by
  unfold Broker.redeliver
  split
  · exact hb
  · rename_i m retries hi
    refine ⟨?_, fun p hp => ?_, hb.ended_le, ?_⟩
    · simp only [List.map_append, List.map_cons, List.map_nil]
      rw [← List.append_assoc]
      exact (append_right_perm ..).trans (hb.balanced.append_right [m])
    · rcases List.mem_append.mp hp with hp | hp
      · exact hb.pending_le p hp
      · rw [List.mem_singleton.mp hp]
        exact hb.pending_le _ (List.mem_of_getElem? hi)
    · have hspent := hb.spent
      simp only [List.map_append, List.sum_append, List.map_cons, List.map_nil, List.sum_cons,
        List.sum_nil]
      omega

/-- An attempt leaves its message with those that wait or those that have
ended. -/
theorem balanced_attempt (hi : b.pending[i]? = some (m, retries)) :
    ((b.pending.eraseIdx i).map (·.1) ++ [m] ++ b.ended.map (·.message)).Perm
      (b.pending.map (·.1) ++ b.ended.map (·.message)) := by
  have hout : (m :: (b.pending.eraseIdx i).map (·.1)).Perm (b.pending.map (·.1)) :=
    (eraseIdx_perm hi).map Prod.fst
  exact (List.perm_append_comm.trans hout).append_right _

theorem sum_eraseIdx (hi : b.pending[i]? = some (m, retries)) (weight : μ × Nat → Nat) :
    weight (m, retries) + ((b.pending.eraseIdx i).map weight).sum = (b.pending.map weight).sum :=
  ((eraseIdx_perm hi).map weight).sum_eq

theorem Sound.finish (hb : Sound maxRetries b) (hi : b.pending[i]? = some (m, retries))
    (result : ρ) : Sound maxRetries (b.finish i m retries result) where
  balanced := by
    simp only [Broker.finish, List.map_append, List.map_cons, List.map_nil]
    rw [← List.append_assoc]
    exact (append_right_perm ..).symm.trans ((balanced_attempt hi).trans hb.balanced)
  pending_le p hp := hb.pending_le p (List.mem_of_mem_eraseIdx hp)
  ended_le e he := by
    rcases List.mem_append.mp he with he | he
    · exact hb.ended_le e he
    · rw [List.mem_singleton.mp he]
      exact hb.pending_le _ (List.mem_of_getElem? hi)
  spent := by
    have hspent := hb.spent
    have hout : retries + _ = _ := sum_eraseIdx hi fun p => p.2
    simp only [Broker.finish, List.map_append, List.sum_append, List.map_cons, List.map_nil,
      List.sum_cons, List.sum_nil]
    omega

theorem Sound.postpone (hb : Sound maxRetries b) (hi : b.pending[i]? = some (m, retries))
    (hlimit : retries < maxRetries m) : Sound maxRetries (b.postpone i m retries) where
  balanced := by
    simp only [Broker.postpone, List.map_append, List.map_cons, List.map_nil]
    exact (balanced_attempt hi).trans hb.balanced
  pending_le p hp := by
    rcases List.mem_append.mp hp with hp | hp
    · exact hb.pending_le p (List.mem_of_mem_eraseIdx hp)
    · rw [List.mem_singleton.mp hp]
      exact hlimit
  ended_le := hb.ended_le
  spent := by
    have hspent := hb.spent
    have hout : retries + _ = _ := sum_eraseIdx hi fun p => p.2
    simp only [Broker.postpone, List.map_append, List.sum_append, List.map_cons, List.map_nil,
      List.sum_cons, List.sum_nil]
    omega

theorem Sound.settle (hb : Sound maxRetries b) (i : Nat) (verdict : Verdict ρ) :
    Sound maxRetries (b.settle maxRetries i verdict) := by
  cases hi : b.pending[i]? with
  | none =>
      unfold Broker.settle
      rw [hi]
      exact hb
  | some p =>
      rcases settle_cases maxRetries hi verdict with ⟨result, hdone⟩ | ⟨hlimit, hagain⟩
      · rw [hdone]
        exact hb.finish hi result
      · rw [hagain]
        exact hb.postpone hi hlimit

/-- Every message that came in costs its retries and one more, at most. -/
theorem Sound.attempts_le (hb : Sound maxRetries b) :
    b.attempts ≤ ((b.published ++ b.redelivered).map fun m => maxRetries m + 1).sum := by
  have hpending : (b.pending.map fun p => p.2).sum
      ≤ (b.pending.map fun p => maxRetries p.1 + 1).sum :=
    List.sum_le_sum fun p hp => Nat.le_succ_of_le (hb.pending_le p hp)
  have hended : (b.ended.map fun e => e.retries + 1).sum
      ≤ (b.ended.map fun e => maxRetries e.message + 1).sum :=
    List.sum_le_sum fun e he => Nat.succ_le_succ (hb.ended_le e he)
  have hall := (hb.balanced.map fun m => maxRetries m + 1).sum_eq
  rw [List.map_append, List.sum_append, List.map_map, List.map_map] at hall
  calc b.attempts
      ≤ (b.pending.map fun p => p.2).sum + (b.ended.map fun e => e.retries + 1).sum := hb.spent
    _ ≤ (b.pending.map fun p => maxRetries p.1 + 1).sum
        + (b.ended.map fun e => maxRetries e.message + 1).sum := Nat.add_le_add hpending hended
    _ = _ := hall

end

end Broker
