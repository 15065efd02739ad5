import Mathlib.Logic.Function.Iterate

/-!
# While loops

`Ends cond body s t` says that `while cond: body` started in `s` stops, and in
`t`. An invariant of the body holds where the loop stops (`Ends.rule`), which
says nothing of a loop that goes on for ever. That it stops is shown by a
number of rounds after which the condition fails (`ends_of_iterate`).
-/

namespace Loop

variable {σ : Type}

inductive Ends (cond : σ → Bool) (body : σ → σ) : σ → σ → Prop
  | stop {s : σ} : cond s = false → Ends cond body s s
  | again {s t : σ} : cond s = true → Ends cond body (body s) t → Ends cond body s t

variable {cond : σ → Bool} {body : σ → σ} {s t u : σ}

/-- A loop stops in one state only. -/
theorem Ends.unique (ht : Ends cond body s t) (hu : Ends cond body s u) : u = t := by
  induction ht with
  | stop hstop =>
      cases hu with
      | stop _ => rfl
      | again hagain _ => rw [hstop] at hagain; cases hagain
  | again hagain _ ih =>
      cases hu with
      | stop hstop => rw [hstop] at hagain; cases hagain
      | again _ hrest => exact ih hrest

/-- What each round keeps holds at the end, where the condition fails. -/
theorem Ends.rule {I : σ → Prop} (h : Ends cond body s t)
    (hround : ∀ s, I s → cond s = true → I (body s)) (hs : I s) : I t ∧ cond t = false := by
  induction h with
  | stop hstop => exact ⟨hs, hstop⟩
  | again hagain _ ih => exact ih (hround _ hs hagain)

/-- A loop stops, if after some number of rounds its condition would fail. -/
theorem ends_of_iterate : ∀ {n : Nat} {s : σ}, cond (body^[n] s) = false →
    ∃ t, Ends cond body s t
  | 0, s, h => ⟨s, .stop h⟩
  | n + 1, s, h => by
      cases hcond : cond s with
      | false => exact ⟨s, .stop hcond⟩
      | true =>
          obtain ⟨t, ht⟩ := ends_of_iterate (n := n) (s := body s) h
          exact ⟨t, .again hcond ht⟩

end Loop
