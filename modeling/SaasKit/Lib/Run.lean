import Mathlib.Data.List.Basic
import Mathlib.Data.List.Induction

/-!
# Runs of a labelled transition relation

A system is a relation `step s e t` ("from `s` the label `e` can lead to
`t`"), a run is a list of labels threaded through it. Three rules carry
every safety argument over runs:

- `Run.invariant` packages the induction once: what each step keeps,
  every run keeps;
- `Run.history` is the same for a property of the labels so far and the state;
- `Guarded` restricts a relation to the steps that meet a condition, so
  "in every run whose steps all meet the condition" is a run of the
  guarded relation and the same rule applies to it; `Run.holds_iff_guarded`
  is its converse, for what no later step repairs.

The functional form, a step function with an output, embeds by `ofFn`.
-/

namespace Lts

variable {σ ε ρ : Type*}

/-- `Run step s es t`: the labels `es` lead from `s` to `t`. -/
inductive Run (step : σ → ε → σ → Prop) : σ → List ε → σ → Prop
  | nil (s : σ) : Run step s [] s
  | cons {s t u : σ} {e : ε} {es : List ε} :
      step s e t → Run step t es u → Run step s (e :: es) u

/-- The steps of `step` that meet the condition `ok` on the state before
the step and the label. -/
def Guarded (step : σ → ε → σ → Prop) (ok : σ → ε → Prop) : σ → ε → σ → Prop :=
  fun s e t => step s e t ∧ ok s e

/-- A step function with an output, as a relation whose labels are the
inputs paired with their outputs. -/
def ofFn (f : σ → ε → σ × ρ) : σ → ε × ρ → σ → Prop :=
  fun s l t => f s l.1 = (t, l.2)

/-- What a step function does on a list of inputs: at each of them the
state before it, the input and the output. -/
def steps (f : σ → ε → σ × ρ) : σ → List ε → List (σ × ε × ρ)
  | _, [] => []
  | s, e :: es => (s, e, (f s e).2) :: steps f (f s e).1 es

/-- Where a step function leads on a list of inputs. -/
def after (f : σ → ε → σ × ρ) : σ → List ε → σ
  | s, [] => s
  | s, e :: es => after f (f s e).1 es

theorem steps_output {f : σ → ε → σ × ρ} {s : σ} {e : ε} {r : ρ} :
    ∀ {es : List ε} {s₀ : σ}, (s, e, r) ∈ steps f s₀ es → r = (f s e).2
  | e₀ :: es, s₀, h => by
      rcases List.mem_cons.mp h with heq | h
      · obtain ⟨rfl, rfl, rfl⟩ : s = s₀ ∧ e = e₀ ∧ r = (f s₀ e₀).2 := by simpa using heq
        rfl
      · exact steps_output h

theorem steps_input {f : σ → ε → σ × ρ} {s : σ} {e : ε} {r : ρ} :
    ∀ {es : List ε} {s₀ : σ}, (s, e, r) ∈ steps f s₀ es → e ∈ es
  | e₀ :: es, s₀, h => by
      rcases List.mem_cons.mp h with heq | h
      · obtain ⟨-, rfl, -⟩ : s = s₀ ∧ e = e₀ ∧ r = (f s₀ e₀).2 := by simpa using heq
        exact List.mem_cons_self
      · exact List.mem_cons_of_mem _ (steps_input h)

/-- Where a condition on the input decides whether a step keeps `I`, the lists of
inputs after whose every prefix it holds are those that meet it all along. -/
theorem after_prefix_iff {f : σ → ε → σ × ρ} {I : σ → Prop} {P : ε → Prop}
    (hstep : ∀ s e, I s → (I (f s e).1 ↔ P e)) (es : List ε) :
    ∀ s : σ, I s → ((∀ pre, pre <+: es → I (after f s pre)) ↔ ∀ e ∈ es, P e) := by
  induction es with
  | nil =>
      intro s hs
      refine ⟨fun _ e he => (List.not_mem_nil he).elim, fun _ pre hpre => ?_⟩
      obtain rfl := List.prefix_nil.mp hpre
      exact hs
  | cons e es ih =>
      intro s hs
      constructor
      · intro hall
        have hnext : I (f s e).1 := hall [e] (List.prefix_append [e] es)
        refine List.forall_mem_cons.mpr ⟨(hstep s e hs).mp hnext, (ih _ hnext).mp ?_⟩
        intro pre hpre
        exact hall (e :: pre) (List.prefix_cons_inj e |>.mpr hpre)
      · intro hP pre hpre
        obtain ⟨he, hes⟩ := List.forall_mem_cons.mp hP
        have hnext : I (f s e).1 := (hstep s e hs).mpr he
        rcases List.prefix_cons_iff.mp hpre with rfl | ⟨rest, rfl, hrest⟩
        · exact hs
        · exact (ih _ hnext).mpr hes rest hrest

/-- What cannot happen any more once it has happened: where a step that `p`
picks out leads to a state that is `done`, which every step keeps and no step
that `p` picks out starts from, `p` picks out one step at most. -/
theorem countP_steps_le_one {f : σ → ε → σ × ρ} {p : σ × ε × ρ → Bool} {done : σ → Prop}
    (hdone : ∀ s e, p (s, e, (f s e).2) = true → done (f s e).1)
    (hkeep : ∀ s e, done s → done (f s e).1)
    (hno : ∀ s e r, done s → p (s, e, r) = false) (es : List ε) :
    ∀ s : σ, (steps f s es).countP p ≤ 1 := by
  have hzero : ∀ (es : List ε) (s : σ), done s → (steps f s es).countP p = 0 := by
    intro es
    induction es with
    | nil => exact fun _ _ => rfl
    | cons e es ih =>
        intro s hs
        rw [steps, List.countP_cons, ih _ (hkeep s e hs), hno s e _ hs]
        rfl
  induction es with
  | nil => exact fun _ => Nat.zero_le 1
  | cons e es ih =>
      intro s
      rw [steps, List.countP_cons]
      cases hp : p (s, e, (f s e).2) with
      | true => rw [hzero es _ (hdone s e hp)]; exact Nat.le_refl 1
      | false => exact ih _

namespace Run

variable {step : σ → ε → σ → Prop}

/-- The invariant rule: what every step keeps, every run keeps. -/
theorem invariant {I : σ → Prop} (hstep : ∀ s e t, I s → step s e t → I t)
    {s t : σ} {es : List ε} (h : Run step s es t) (hs : I s) : I t := by
  induction h with
  | nil s => exact hs
  | cons he _ ih => exact ih (hstep _ _ _ hs he)

/-- The rule for what two states of a run have in common: a reflexive and
transitive relation every step establishes, under an invariant. -/
theorem relates {I : σ → Prop} {R : σ → σ → Prop} (hrefl : ∀ s, R s s)
    (htrans : ∀ s t u, R s t → R t u → R s u)
    (hstep : ∀ s e t, I s → step s e t → I t ∧ R s t)
    {s t : σ} {es : List ε} (h : Run step s es t) (hs : I s) : I t ∧ R s t := by
  induction h with
  | nil s => exact ⟨hs, hrefl s⟩
  | cons he _ ih =>
      obtain ⟨hI, hR⟩ := hstep _ _ _ hs he
      obtain ⟨hI', hR'⟩ := ih hI
      exact ⟨hI', htrans _ _ _ hR hR'⟩

/-- The run of a step function on a list of inputs. -/
theorem of_inputs (f : σ → ε → σ × ρ) :
    ∀ (es : List ε) (s : σ),
      Run (ofFn f) s ((steps f s es).map fun call => (call.2.1, call.2.2)) (after f s es)
  | [], s => .nil s
  | _ :: es, _ => .cons rfl (of_inputs f es _)

/-- A run and one step more. -/
theorem snoc {s t u : σ} {e : ε} {es : List ε} (h : Run step s es t) (hstep : step t e u) :
    Run step s (es ++ [e]) u := by
  induction h with
  | nil s => exact .cons hstep (.nil u)
  | cons he _ ih => exact .cons he (ih hstep)

theorem mono {step' : σ → ε → σ → Prop} (hle : ∀ s e t, step s e t → step' s e t)
    {s t : σ} {es : List ε} (h : Run step s es t) : Run step' s es t := by
  induction h with
  | nil s => exact .nil s
  | cons he _ ih => exact .cons (hle _ _ _ he) ih

/-- What every label of a run satisfies, every step of it meets. -/
theorem restrict {P : ε → Prop} {s t : σ} {es : List ε} (h : Run step s es t)
    (hall : ∀ e ∈ es, P e) : Run (Guarded step fun _ e => P e) s es t := by
  induction h with
  | nil s => exact .nil s
  | cons he _ ih =>
      exact .cons ⟨he, hall _ List.mem_cons_self⟩
        (ih fun e hmem => hall e (List.mem_cons_of_mem _ hmem))

/-- The invariant rule for a step function, on inputs that satisfy `P`. -/
theorem invariant_on {f : σ → ε → σ × ρ} {P : ε → Prop} {I : σ → Prop}
    (hstep : ∀ s e, P e → I s → I (f s e).1) {s t : σ} {calls : List (ε × ρ)}
    (h : Run (ofFn f) s calls t) (hall : ∀ call ∈ calls, P call.1) (hs : I s) : I t := by
  refine (h.restrict (P := fun call => P call.1) hall).invariant (fun u call u' hu hcall => ?_) hs
  have hnext : (f u call.1).1 = u' := congrArg Prod.fst hcall.1
  rw [← hnext]
  exact hstep u call.1 hcall.2 hu

/-- The invariant rule for a step function. -/
theorem invariant_fn {f : σ → ε → σ × ρ} {I : σ → Prop} (hstep : ∀ s e, I s → I (f s e).1)
    {s t : σ} {calls : List (ε × ρ)} (h : Run (ofFn f) s calls t) (hs : I s) : I t :=
  h.invariant_on (P := fun _ => True) (fun s e _ => hstep s e) (fun _ _ => trivial) hs

/-- What a step never repairs, held all along if it holds at the end. -/
theorem at_start {I : σ → Prop} (hback : ∀ s e t, step s e t → I t → I s)
    {s t : σ} {es : List ε} (h : Run step s es t) (ht : I t) : I s := by
  induction h with
  | nil s => exact ht
  | cons he _ ih => exact hback _ _ _ he (ih ht)

/-- Where a condition decides whether a step keeps `I`, and no step repairs
it, the runs that keep `I` are those whose steps all meet the condition. -/
theorem holds_iff_guarded {I : σ → Prop} {ok : σ → ε → Prop}
    (hstep : ∀ s e t, I s → step s e t → (I t ↔ ok s e))
    (hback : ∀ s e t, step s e t → I t → I s)
    {s t : σ} {es : List ε} (h : Run step s es t) (hs : I s) :
    I t ↔ Run (Guarded step ok) s es t := by
  constructor
  · intro ht
    induction h with
    | nil s => exact .nil s
    | cons he hrest ih =>
        have hmid := hrest.at_start hback ht
        exact .cons ⟨he, (hstep _ _ _ hs he).mp hmid⟩ (ih hmid ht)
  · intro hguarded
    exact hguarded.invariant (fun s e t hI he => (hstep s e t hI he.1).mpr he.2) hs

/-- A run at one of its steps. -/
theorem split {u : σ} {e : ε} {post : List ε} :
    ∀ {pre : List ε} {s : σ}, Run step s (pre ++ e :: post) u →
      ∃ t t', Run step s pre t ∧ step t e t' ∧ Run step t' post u
  | [], s, .cons he hrest => ⟨s, _, .nil s, he, hrest⟩
  | _ :: _, _, .cons he hrest => by
      obtain ⟨t, t', hpre, hstep, hpost⟩ := split hrest
      exact ⟨t, t', .cons he hpre, hstep, hpost⟩

/-- The invariant rule for what depends on the labels so far. -/
theorem history {I : List ε → σ → Prop} {s : σ} (hnil : I [] s)
    (hstep : ∀ es t e u, Run step s es t → step t e u → I es t → I (es ++ [e]) u) {t : σ}
    {es : List ε} (h : Run step s es t) : I es t := by
  induction es using List.reverseRecOn generalizing t with
  | nil => cases h; exact hnil
  | append_singleton es e ih =>
      obtain ⟨u, _, hrun, he, hlast⟩ := split h
      cases hlast
      exact hstep es u e _ hrun he (ih hrun)

end Run

end Lts
