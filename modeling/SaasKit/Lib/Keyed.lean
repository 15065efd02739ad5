import Mathlib.Logic.Function.Basic
import SaasKit.Lib.Run

/-!
# Operations on one entry each

A shared store, and operations each of which reads and writes the entry under
its own key, if it has one. `Local` is this property of a step function;
`answers_filter` is what it is for: the answers under one key are the same
whatever is done under the others.
-/

namespace Keyed

variable {κ ν ε ρ : Type*} {f : (κ → ν) → ε → (κ → ν) × ρ} {key : ε → Option κ} {e : ε} {k : κ}

/-- An operation without a key leaves the store alone, and one with a key
depends on the entry there and changes no other. -/
structure Local (f : (κ → ν) → ε → (κ → ν) × ρ) (key : ε → Option κ) : Prop where
  idle : ∀ e, key e = none → ∀ c, (f c e).1 = c
  frame : ∀ e k, key e = some k → ∀ c k', k' ≠ k → (f c e).1 k' = c k'
  own : ∀ e k, key e = some k → ∀ c c', c k = c' k →
    (f c e).2 = (f c' e).2 ∧ (f c e).1 k = (f c' e).1 k

/-- What is done under another key, or none, leaves the entry alone. -/
theorem Local.other (h : Local f key) (he : key e ≠ some k) (c : κ → ν) : (f c e).1 k = c k := by
  cases hkey : key e with
  | none => rw [h.idle e hkey]
  | some k' =>
      refine h.frame e k' hkey c k fun hk => he ?_
      rw [hkey, hk]

/-- The operations of a run with their answers. -/
def answers (f : (κ → ν) → ε → (κ → ν) × ρ) (c : κ → ν) (es : List ε) : List (ε × ρ) :=
  (Lts.steps f c es).map fun call => call.2

@[simp] theorem answers_nil (c : κ → ν) : answers f c [] = [] := rfl

@[simp] theorem answers_cons (c : κ → ν) (es : List ε) :
    answers f c (e :: es) = (e, (f c e).2) :: answers f (f c e).1 es := rfl

/-- The answers under one key are those of the operations under that key alone. -/
theorem answers_filter [DecidableEq κ] (h : Local f key) (k : κ) (es : List ε) {c c' : κ → ν}
    (hc : c k = c' k) :
    (answers f c es).filter (fun a => decide (key a.1 = some k))
      = answers f c' (es.filter fun e => decide (key e = some k)) := by
  induction es generalizing c c' with
  | nil => rfl
  | cons e es ih =>
      rw [answers_cons, List.filter_cons, List.filter_cons]
      by_cases he : key e = some k
      · obtain ⟨hanswer, hentry⟩ := h.own e k he c c' hc
        simp only [he, decide_true, if_true, answers_cons]
        rw [hanswer, ih hentry]
      · simp only [he, decide_false, Bool.false_eq_true, if_false]
        exact ih ((h.other he c).trans hc)

end Keyed
