import Mathlib.Logic.Function.Basic
import SaasKit.Lib.Run

/-!
# Interleaved threads over a shared state

Any number of threads (indexed by any type) run one atomic action at a
time on a shared state; a run is a schedule. The proof rule is the
assertional one: an invariant of the shared state, an assertion for each
thread about its own position, and a symmetric relation between the
positions of any two threads (mutual exclusion and the like). One action
has to keep its own thread's assertion, must not disturb the others', and
must leave its new position related to theirs; `Coherent.run` lifts that
to every schedule.
-/

namespace Threads

variable {ι σ τ ε : Type}

/-- The shared state and every thread's position. -/
structure Conf (ι σ τ : Type) where
  shared : σ
  locals : ι → τ

/-- Thread `l.1` performs the action labelled `l.2`; the others stand
still. `act i s p e s' p'` says what thread `i` does at position `p`. -/
def step (act : ι → σ → τ → ε → σ → τ → Prop) :
    Conf ι σ τ → ι × ε → Conf ι σ τ → Prop :=
  fun c l c' =>
    act l.1 c.shared (c.locals l.1) l.2 c'.shared (c'.locals l.1)
      ∧ ∀ j, j ≠ l.1 → c'.locals j = c.locals j

/-- What an action of thread `i` leads to. -/
theorem step_update [DecidableEq ι] {act : ι → σ → τ → ε → σ → τ → Prop} {i : ι} {s s' : σ}
    {locals : ι → τ} {e : ε} {p' : τ} (h : act i s (locals i) e s' p') :
    step act ⟨s, locals⟩ (i, e) ⟨s', Function.update locals i p'⟩ := by
  refine ⟨?_, fun j hj => Function.update_of_ne hj _ _⟩
  simpa [Function.update_self] using h

/-- What holds of the thread that moved and held of every other thread
holds of all threads. -/
theorem forall_locals {c c' : Conf ι σ τ} {i : ι} {P : ι → τ → Prop}
    (hrest : ∀ j, j ≠ i → c'.locals j = c.locals j) (hi : P i (c'.locals i))
    (hothers : ∀ j, j ≠ i → P j (c.locals j)) (j : ι) : P j (c'.locals j) := by
  by_cases hj : j = i
  · subst hj
    exact hi
  · rw [hrest j hj]
    exact hothers j hj

/-- The steps of thread `i` with nobody else running. -/
def solo (act : ι → σ → τ → ε → σ → τ → Prop) (i : ι) : σ × τ → ε → σ × τ → Prop :=
  fun x e y => act i x.1 x.2 e y.1 y.2

/-- What a thread does by itself is one of the schedules. -/
theorem run_solo [DecidableEq ι] {act : ι → σ → τ → ε → σ → τ → Prop} {i : ι} {x y : σ × τ}
    {es : List ε} (h : Lts.Run (solo act i) x es y) {locals : ι → τ} (hx : locals i = x.2) :
    Lts.Run (step act) ⟨x.1, locals⟩ (es.map fun e => (i, e))
      ⟨y.1, Function.update locals i y.2⟩ := by
  induction h generalizing locals with
  | nil x =>
      rw [← hx, Function.update_eq_self]
      exact .nil _
  | @cons x y z e es hact hrun ih =>
      have hrest := ih (Function.update_self i y.2 locals)
      rw [Function.update_idem] at hrest
      exact .cons (step_update (by rw [hx]; exact hact)) hrest

/-! ## Functional actions -/

/-- The action relation of a partial step function. -/
def ofNext (next : ε → σ → τ → Option (σ × τ)) (_ : ι) (s : σ) (p : τ) (e : ε) (s' : σ)
    (p' : τ) : Prop :=
  next e s p = some (s', p')

theorem solo_step {next : ε → σ → τ → Option (σ × τ)} {i : ι} {s s' : σ} {p p' : τ} {e : ε}
    (h : next e s p = some (s', p')) : solo (ofNext next) i (s, p) e (s', p') := h

/-- Thread `i`, running by itself, gets to a state and a position of which `R`
holds. -/
def Alone (next : ε → σ → τ → Option (σ × τ)) (i : ι) (s : σ) (p : τ) (R : σ → τ → Prop) : Prop :=
  ∃ es s' p', Lts.Run (solo (ofNext next) i) (s, p) es (s', p') ∧ R s' p'

section

variable {next : ε → σ → τ → Option (σ × τ)} {i : ι} {s t : σ} {p q : τ} {e : ε}
  {R : σ → τ → Prop}

theorem Alone.done (h : R s p) : Alone next i s p R := ⟨[], s, p, .nil _, h⟩

theorem Alone.cons (h : next e s p = some (t, q)) (hrest : Alone next i t q R) :
    Alone next i s p R := by
  obtain ⟨es, s', p', hrun, hR⟩ := hrest
  exact ⟨e :: es, s', p', .cons (solo_step h) hrun, hR⟩

end

/-- Run a schedule; `none` when a thread cannot take its turn or the
condition is not met. -/
def exec [DecidableEq ι] (next : ε → σ → τ → Option (σ × τ)) (ok : Conf ι σ τ → ι × ε → Prop)
    [∀ c l, Decidable (ok c l)] (c : Conf ι σ τ) : List (ι × ε) → Option (Conf ι σ τ)
  | [] => some c
  | (i, e) :: ls =>
      if ok c (i, e) then
        (next e c.shared (c.locals i)).bind fun x =>
          exec next ok ⟨x.1, Function.update c.locals i x.2⟩ ls
      else none

theorem run_of_exec [DecidableEq ι] {next : ε → σ → τ → Option (σ × τ)}
    {ok : Conf ι σ τ → ι × ε → Prop} [∀ c l, Decidable (ok c l)] :
    ∀ {ls : List (ι × ε)} {c c' : Conf ι σ τ}, exec next ok c ls = some c' →
      Lts.Run (Lts.Guarded (step (ofNext next)) ok) c ls c'
  | [], c, c', h => by
      obtain rfl := Option.some.inj h
      exact .nil c
  | (i, e) :: ls, c, c', h => by
      unfold exec at h
      split at h
      · rename_i hok
        obtain ⟨x, hx, hrest⟩ := Option.bind_eq_some_iff.mp h
        exact .cons ⟨step_update hx, hok⟩ (run_of_exec hrest)
      · cases h

/-! ## The invariant rule -/

/-- The three layers of a concurrent invariant. -/
structure Coherent (I : σ → Prop) (A : ι → σ → τ → Prop) (B : ι → ι → τ → τ → Prop)
    (c : Conf ι σ τ) : Prop where
  shared : I c.shared
  own : ∀ i, A i c.shared (c.locals i)
  pair : ∀ i j, i ≠ j → B i j (c.locals i) (c.locals j)

variable {I : σ → Prop} {A : ι → σ → τ → Prop} {B : ι → ι → τ → τ → Prop}
  {act : ι → σ → τ → ε → σ → τ → Prop} {ok : Conf ι σ τ → ι × ε → Prop}

/-- The obligations on one action of thread `i`, with every other thread
`j` standing at a position the invariant allows. -/
structure Keeps (act : ι → σ → τ → ε → σ → τ → Prop) (ok : Conf ι σ τ → ι × ε → Prop)
    (I : σ → Prop) (A : ι → σ → τ → Prop) (B : ι → ι → τ → τ → Prop) : Prop where
  shared : ∀ c i e s' p', Coherent I A B c → ok c (i, e) →
    act i c.shared (c.locals i) e s' p' → I s' ∧ A i s' p'
  other : ∀ c i e s' p' j, Coherent I A B c → ok c (i, e) →
    act i c.shared (c.locals i) e s' p' → j ≠ i →
    A j s' (c.locals j) ∧ B i j p' (c.locals j)

theorem Coherent.step (hB : ∀ i j p q, B i j p q → B j i q p)
    (hk : Keeps act ok I A B) {c c' : Conf ι σ τ} {l : ι × ε}
    (hc : Coherent I A B c) (h : Lts.Guarded (Threads.step act) ok c l c') :
    Coherent I A B c' := by
  obtain ⟨i, e⟩ := l
  obtain ⟨⟨hact, hrest⟩, hok⟩ := h
  obtain ⟨hI, hA⟩ := hk.shared c i e _ _ hc hok hact
  have hother := fun j hj => hk.other c i e _ _ j hc hok hact hj
  refine ⟨hI, fun j => ?_, fun j k hjk => ?_⟩
  · by_cases hj : j = i
    · subst hj; exact hA
    · rw [hrest j hj]; exact (hother j hj).1
  · by_cases hj : j = i
    · subst hj
      rw [hrest k (Ne.symm hjk)]
      exact (hother k (Ne.symm hjk)).2
    · by_cases hki : k = i
      · subst hki
        rw [hrest j hj]
        exact hB _ _ _ _ (hother j hj).2
      · rw [hrest j hj, hrest k hki]; exact hc.pair j k hjk

/-- Every schedule whose actions meet the condition keeps the invariant. -/
theorem Coherent.run (hB : ∀ i j p q, B i j p q → B j i q p)
    (hk : Keeps act ok I A B) {c c' : Conf ι σ τ} {ls : List (ι × ε)}
    (h : Lts.Run (Lts.Guarded (Threads.step act) ok) c ls c')
    (hc : Coherent I A B c) : Coherent I A B c' :=
  h.invariant (fun _ _ _ hs hstep => hs.step hB hk hstep) hc

end Threads
