import Mathlib.Order.Lattice

/-!
# A key-value cache with expiry

Entries carry the time they expire. `get` answers only with live entries,
so the passage of time can only turn answers into misses
(`get_of_later`); a write is seen by its own key until it expires and by
no other key (`get_set`, `get_set_ne`).
-/

/-- Values with their expiry times, by key. -/
structure TtlCache (κ τ ν : Type) where
  entries : κ → Option (ν × τ)

namespace TtlCache

variable {κ τ ν : Type} [LinearOrder τ]

def empty : TtlCache κ τ ν := ⟨fun _ => none⟩

/-- The live entry for `k`, if there is one at `now`. -/
def get (c : TtlCache κ τ ν) (now : τ) (k : κ) : Option ν :=
  match c.entries k with
  | some (v, expires) => if now < expires then some v else none
  | none => none

theorem get_some {c : TtlCache κ τ ν} {now : τ} {k : κ} {v : ν} :
    c.get now k = some v ↔ ∃ expires, c.entries k = some (v, expires) ∧ now < expires := by
  unfold get
  constructor
  · intro h
    split at h
    · rename_i w expires heq
      split at h
      · rename_i hlt
        exact ⟨expires, by rw [heq, Option.some.inj h], hlt⟩
      · cases h
    · cases h
  · rintro ⟨expires, heq, hlt⟩
    rw [heq]
    exact if_pos hlt

/-- An entry that is live is live at every earlier time. -/
theorem get_of_later {c : TtlCache κ τ ν} {now later : τ} {k : κ} {v : ν}
    (h : c.get later k = some v) (hle : now ≤ later) : c.get now k = some v := by
  unfold get at h ⊢
  split at h
  · rename_i w expires heq
    split at h
    · rename_i hlt
      simpa [heq, lt_of_le_of_lt hle hlt] using h
    · cases h
  · cases h

variable [DecidableEq κ]

/-- Store `v` under `k` until `expires`. -/
def set (c : TtlCache κ τ ν) (k : κ) (v : ν) (expires : τ) : TtlCache κ τ ν :=
  ⟨fun k' => if k' = k then some (v, expires) else c.entries k'⟩

/-- Drop the entry for `k`. -/
def delete (c : TtlCache κ τ ν) (k : κ) : TtlCache κ τ ν :=
  ⟨fun k' => if k' = k then none else c.entries k'⟩

theorem get_set (c : TtlCache κ τ ν) (now : τ) (k : κ) (v : ν) (expires : τ) :
    (c.set k v expires).get now k = if now < expires then some v else none := by
  simp [get, set]

theorem get_set_ne (c : TtlCache κ τ ν) (now : τ) {k k' : κ} (v : ν) (expires : τ)
    (h : k' ≠ k) : (c.set k v expires).get now k' = c.get now k' := by
  simp [get, set, h]

/-- What a key answers after a write: the value written, or what the key
answered before. -/
theorem get_set_some {c : TtlCache κ τ ν} {now : τ} {k k' : κ} {v w : ν} {expires : τ}
    (h : (c.set k v expires).get now k' = some w) :
    (k' = k ∧ w = v) ∨ (k' ≠ k ∧ c.get now k' = some w) := by
  by_cases hk : k' = k
  · subst hk
    rw [get_set] at h
    split at h
    · exact Or.inl ⟨rfl, (Option.some.inj h).symm⟩
    · cases h
  · exact Or.inr ⟨hk, by rwa [get_set_ne c now v expires hk] at h⟩

end TtlCache
