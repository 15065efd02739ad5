import SaasKit.Lib.Run

/-!
# The last write wins

A partial map that a sequence of events writes. `writes e k` is what the
event `e` does to the entry of `k`: nothing (`none`), clear it (`some none`)
or set it (`some (some v)`), and `replay` folds a sequence over a map.

`replay_eq_some` reads an entry off the sequence: what the last event that
wrote it has set. `Lts.Run.replays` is the refinement rule: a system whose
steps do to what it shows under each key what `writes` says shows, after any
run, the replay of the run's labels.
-/

namespace LastWrite

variable {ε κ ν : Type*}

def replay (writes : ε → κ → Option (Option ν)) (m : κ → Option ν) (es : List ε) :
    κ → Option ν :=
  es.foldl (fun m e k => (writes e k).getD (m k)) m

variable {writes : ε → κ → Option (Option ν)} {m : κ → Option ν} {es : List ε} {k : κ} {v : ν}

@[simp] theorem replay_cons {e : ε} :
    replay writes m (e :: es) = replay writes (fun k => (writes e k).getD (m k)) es := rfl

theorem replay_singleton {e : ε} : replay writes m [e] k = (writes e k).getD (m k) := rfl

/-- An entry is what the last event that wrote it has set. -/
theorem replay_eq_some : replay writes m es k = some v ↔
    (∃ pre e post, es = pre ++ e :: post ∧ writes e k = some (some v)
        ∧ ∀ later ∈ post, writes later k = none)
      ∨ m k = some v ∧ ∀ e ∈ es, writes e k = none := by
  induction es generalizing m with
  | nil => simp [replay]
  | cons e es ih =>
      rw [replay_cons, ih]
      constructor
      · rintro (⟨pre, e', post, rfl, hset, hquiet⟩ | ⟨hheld, hquiet⟩)
        · exact Or.inl ⟨e :: pre, e', post, rfl, hset, hquiet⟩
        · cases hw : writes e k with
          | none =>
              rw [hw, Option.getD_none] at hheld
              refine Or.inr ⟨hheld, fun e' he' => ?_⟩
              rcases List.mem_cons.mp he' with rfl | he'
              · exact hw
              · exact hquiet e' he'
          | some w =>
              rw [hw, Option.getD_some] at hheld
              exact Or.inl ⟨[], e, es, rfl, by rw [hw, hheld], hquiet⟩
      · rintro (⟨pre, e', post, heq, hset, hquiet⟩ | ⟨hheld, hquiet⟩)
        · cases pre with
          | nil =>
              obtain ⟨rfl, rfl⟩ := List.cons.inj heq
              exact Or.inr ⟨by rw [hset, Option.getD_some], hquiet⟩
          | cons e₀ pre =>
              obtain ⟨rfl, rfl⟩ := List.cons.inj heq
              exact Or.inl ⟨pre, e', post, rfl, hset, hquiet⟩
        · refine Or.inr ⟨?_, fun e' he' => hquiet e' (List.mem_cons_of_mem _ he')⟩
          rw [hquiet e List.mem_cons_self, Option.getD_none]
          exact hheld

/-- What nothing writes stays. -/
theorem replay_quiet (h : ∀ e ∈ es, writes e k = none) : replay writes m es k = m k := by
  induction es generalizing m with
  | nil => rfl
  | cons e es ih =>
      rw [replay_cons, ih fun e' he' => h e' (List.mem_cons_of_mem _ he'),
        h e List.mem_cons_self, Option.getD_none]

theorem replay_append {es' : List ε} :
    replay writes m (es ++ es') = replay writes (replay writes m es) es' :=
  List.foldl_append

/-- An entry of the replay is made of the entry before it. -/
theorem replay_congr {m' : κ → Option ν} (h : m k = m' k) :
    replay writes m es k = replay writes m' es k := by
  induction es generalizing m m' with
  | nil => exact h
  | cons e es ih => exact ih (congrArg ((writes e k).getD) h)

/-- Events may be rewritten if they still write the same. -/
theorem replay_map {f : ε → ε} (h : ∀ e, writes (f e) = writes e) :
    replay writes m (es.map f) = replay writes m es := by
  unfold replay
  rw [List.foldl_map]
  simp only [h]

/-- Events that leave an entry alone need not be replayed for it. -/
theorem replay_filter {p : ε → Bool} (h : ∀ e ∈ es, p e = false → writes e k = none) :
    replay writes m (es.filter p) k = replay writes m es k := by
  induction es generalizing m with
  | nil => rfl
  | cons e es ih =>
      have hrest := fun m => ih (m := m) fun e' he' => h e' (List.mem_cons_of_mem _ he')
      rw [List.filter_cons, replay_cons]
      split
      · exact hrest _
      · rename_i hp
        rw [hrest]
        refine replay_congr ?_
        rw [h e List.mem_cons_self (Bool.eq_false_iff.mpr hp), Option.getD_none]

/-- Where all that write agree, it does not matter which of them is the last. -/
theorem replay_agreed {w : Option ν} (h : ∀ e ∈ es, writes e k = none ∨ writes e k = some w)
    (hex : ∃ e ∈ es, writes e k = some w) : replay writes m es k = w := by
  induction es generalizing m with
  | nil =>
      obtain ⟨e, he, -⟩ := hex
      cases he
  | cons e es ih =>
      have hrest : ∀ e' ∈ es, writes e' k = none ∨ writes e' k = some w := fun e' he' =>
        h e' (List.mem_cons_of_mem _ he')
      rw [replay_cons]
      by_cases hlater : ∃ e' ∈ es, writes e' k = some w
      · exact ih hrest hlater
      · have hquiet : ∀ e' ∈ es, writes e' k = none := fun e' he' =>
          (hrest e' he').resolve_right fun hw => hlater ⟨e', he', hw⟩
        obtain ⟨e', he', hw⟩ := hex
        rcases List.mem_cons.mp he' with rfl | he'
        · rw [replay_quiet hquiet, hw, Option.getD_some]
        · exact absurd ⟨e', he', hw⟩ hlater

end LastWrite

/-- A system that does to each entry what `writes` says refines the map. -/
theorem Lts.Run.replays {σ ε κ ν : Type*} {step : σ → ε → σ → Prop}
    {writes : ε → κ → Option (Option ν)} {read : σ → κ → Option ν}
    (hstep : ∀ s e t, step s e t → ∀ k, read t k = (writes e k).getD (read s k))
    {s t : σ} {es : List ε} (h : Lts.Run step s es t) :
    read t = LastWrite.replay writes (read s) es := by
  induction h with
  | nil s => rfl
  | cons he _ ih => rw [ih, LastWrite.replay_cons, funext (hstep _ _ _ he)]
