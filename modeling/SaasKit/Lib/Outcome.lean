import Mathlib.Logic.Basic

/-!
# Outcomes of computations that may fail

`Ends P Q x` says that `x` returns a value with `P` or fails with an error
in `Q`. It is computed along the program, one equation for each way to build
one, so the condition under which a program ends well falls out of its text.
-/

namespace Outcome

variable {ε α β : Type}

/-- A value in `P` or an error in `Q`. -/
def Ends (P : α → Prop) (Q : ε → Prop) : Except ε α → Prop
  | .ok a => P a
  | .error e => Q e

variable {P : α → Prop} {Q : ε → Prop} {x : Except ε α}

@[simp] theorem ends_ok {a : α} : Ends P Q (.ok a) ↔ P a := Iff.rfl

@[simp] theorem ends_error {e : ε} : Ends P Q (.error e) ↔ Q e := Iff.rfl

@[simp] theorem ends_pure {a : α} : Ends P Q (pure a : Except ε α) ↔ P a := Iff.rfl

@[simp] theorem ends_bind {R : β → Prop} {f : α → Except ε β} :
    Ends R Q (x >>= f) ↔ Ends (fun a => Ends R Q (f a)) Q x := by
  cases x with
  | ok a => rfl
  | error e => rfl

theorem ends_ite {c : Prop} [Decidable c] {y : Except ε α} :
    Ends P Q (if c then x else y) ↔ (c → Ends P Q x) ∧ (¬ c → Ends P Q y) := by
  by_cases hc : c
  · simp [hc]
  · simp [hc]

/-- Ending well at all, and with which values. -/
theorem ends_iff : Ends P Q x ↔ Ends (fun _ => True) Q x ∧ ∀ a, x = .ok a → P a := by
  cases x with
  | ok a => simp
  | error e => simp

end Outcome
