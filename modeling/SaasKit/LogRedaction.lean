import SaasKit.Lib.Nested

/-!
# Redaction of log events: `redact_sensitive_fields`

The last of the shared log processors replaces the value of every blocked
field of an event. It goes over the fields of the event itself. A dict that
is logged as a value keeps its own fields, so what stands under a blocked name
in there is logged: two events that differ in it are told apart
(`redacts_iff`).
-/

namespace SaasKit

namespace LogRedaction

open Nested

inductive Scalar where
  | null
  | num (q : Rat)
  | str (s : String)
  deriving DecidableEq

abbrev Value := Nested Scalar Scalar

/-- The dict of a log event. -/
abbrev Event := List (Scalar × Value)

def sensitiveFields : List String :=
  ["password", "new_password", "old_password", "confirm_password", "token", "access_token",
    "refresh_token", "reset_token", "id_token", "authorization", "email", "secret", "api_key",
    "secret_key", "credit_card", "ssn"]

def redacted : Value := .leaf (.str "[REDACTED]")

/-- The body of the loop: `if field in event_dict: event_dict[field] = _REDACTED`. -/
def redactField (event : Event) (field : String) : Event :=
  if (event.lookup (.str field)).isSome then assign (.str field) redacted event else event

def redactSensitiveFields (event : Event) : Event := sensitiveFields.foldl redactField event

/-- A key whose value is to be redacted. -/
def Sensitive (k : Scalar) : Prop := ∃ field ∈ sensitiveFields, k = .str field

instance : DecidablePred Sensitive :=
  fun k => inferInstanceAs (Decidable (∃ field ∈ sensitiveFields, k = .str field))

/-- The two events are redacted to the same, and what each has under other
keys is still there. -/
structure Redacts (e e' : Event) : Prop where
  same : Same (.dict (redactSensitiveFields e)) (.dict (redactSensitiveFields e'))
  kept : ∀ p v, p ≠ [] → (At Sensitive (.dict (redactSensitiveFields e)) p v
    ↔ At Sensitive (.dict e) p v)
  kept' : ∀ p v, p ≠ [] → (At Sensitive (.dict (redactSensitiveFields e')) p v
    ↔ At Sensitive (.dict e') p v)

/-- Inside the values of the two events, the same is stored under sensitive
keys. -/
def AlikeInside (e e' : Event) : Prop :=
  ∀ p k v w, p ≠ [] → Sensitive k → Stores Sensitive (.dict e) p k v →
    Stores Sensitive (.dict e') p k w → Same v w

section

variable {e e' : Event} {k : Scalar}

theorem lookup_redactField (e : Event) (field : String) (k : Scalar) :
    (redactField e field).lookup k
      = if k = .str field then (e.lookup k).map (fun _ => redacted) else e.lookup k := by
  unfold redactField
  by_cases hk : k = .str field
  · subst hk
    rw [if_pos rfl]
    cases hfound : e.lookup (.str field) with
    | none => simpa using hfound
    | some v => simp [lookup_assign]
  · rw [if_neg hk]
    split
    · rw [lookup_assign, if_neg hk]
    · rfl

/-- Whatever the order of the fields. -/
theorem lookup_redactFields (k : Scalar) (fields : List String) (e : Event) :
    (fields.foldl redactField e).lookup k
      = if ∃ field ∈ fields, k = .str field then (e.lookup k).map (fun _ => redacted)
        else e.lookup k := by
  induction fields generalizing e with
  | nil => simp
  | cons field rest ih =>
      rw [List.foldl_cons, ih, lookup_redactField]
      simp only [List.exists_mem_cons_iff]
      by_cases hk : k = .str field
      · simp only [hk, if_true, true_or, Option.map_map]
        split <;> rfl
      · simp only [hk, if_false, false_or]

theorem lookup_of_sensitive (hk : Sensitive k) (e : Event) :
    (redactSensitiveFields e).lookup k = (e.lookup k).map fun _ => redacted :=
  (lookup_redactFields k sensitiveFields e).trans (if_pos hk)

theorem lookup_of_not (hk : ¬ Sensitive k) (e : Event) :
    (redactSensitiveFields e).lookup k = e.lookup k :=
  (lookup_redactFields k sensitiveFields e).trans (if_neg hk)

/-- No entry under other keys is lost or changed, at any depth. -/
theorem redact_kept (e : Event) {p : List (Step Scalar)} {v : Value} (hp : p ≠ []) :
    At Sensitive (.dict (redactSensitiveFields e)) p v ↔ At Sensitive (.dict e) p v := by
  rw [at_dict hp, at_dict hp]
  constructor
  · rintro ⟨k, x, rest, rfl, hk, hx, hrest⟩
    exact ⟨k, x, rest, rfl, hk, lookup_of_not hk e ▸ hx, hrest⟩
  · rintro ⟨k, x, rest, rfl, hk, hx, hrest⟩
    exact ⟨k, x, rest, rfl, hk, (lookup_of_not hk e).trans hx, hrest⟩

/-- What is left to compare are the values under other keys. -/
theorem redact_same_iff (h : EqualBut Sensitive (.dict e) (.dict e')) :
    Same (.dict (redactSensitiveFields e)) (.dict (redactSensitiveFields e')) ↔
      ∀ k x y, ¬ Sensitive k → e.lookup k = some x → e'.lookup k = some y → Same x y := by
  obtain ⟨hkeys, -⟩ := equalBut_dict.mp h
  rw [Same, equalBut_dict]
  constructor
  · rintro ⟨-, hvalues⟩ k x y hk hx hy
    exact hvalues k x y not_false ((lookup_of_not hk e).trans hx) ((lookup_of_not hk e').trans hy)
  · intro hothers
    refine ⟨fun k => ?_, fun k x y _ hx hy => ?_⟩
    · by_cases hk : Sensitive k
      · rw [lookup_of_sensitive hk, lookup_of_sensitive hk, Option.isSome_map, Option.isSome_map,
          hkeys]
      · rw [lookup_of_not hk, lookup_of_not hk, hkeys]
    · by_cases hk : Sensitive k
      · rw [lookup_of_sensitive hk] at hx hy
        obtain ⟨-, -, rfl⟩ := Option.map_eq_some_iff.mp hx
        obtain ⟨-, -, rfl⟩ := Option.map_eq_some_iff.mp hy
        exact .refl _ _
      · rw [lookup_of_not hk] at hx hy
        exact hothers k x y hk hx hy

/-- Values under other keys are the same exactly if they are alike inside. -/
theorem others_same_iff (h : EqualBut Sensitive (.dict e) (.dict e')) :
    (∀ k x y, ¬ Sensitive k → e.lookup k = some x → e'.lookup k = some y → Same x y) ↔
      AlikeInside e e' := by
  constructor
  · rintro hothers p k v w hp hk ⟨fs, hfs, hv⟩ ⟨gs, hgs, hw⟩
    obtain ⟨key, x, rest, rfl, hkey, hx, hfs⟩ := (at_dict hp).mp hfs
    obtain ⟨key', y, rest', hpath, -, hy, hgs⟩ := (at_dict hp).mp hgs
    obtain ⟨hsame, rfl⟩ := List.cons.inj hpath
    obtain rfl := Step.key.inj hsame
    exact (hothers key x y hkey hx hy).stores ⟨fs, hfs, hv⟩ ⟨gs, hgs, hw⟩
  · intro halike k x y hk hx hy
    refine (same_iff ((equalBut_dict.mp h).2 k x y hk hx hy)).mpr ?_
    rintro p k' v w hk' ⟨fs, hfs, hv⟩ ⟨gs, hgs, hw⟩
    exact halike (.key k :: p) k' v w (List.cons_ne_nil _ _) hk'
      ⟨fs, .key hk hx hfs, hv⟩ ⟨gs, .key hk hy hgs, hw⟩

/-- Events that are equal but for sensitive keys are redacted to the same
exactly if they do not differ in a sensitive key inside a value. -/
theorem redacts_iff (h : EqualBut Sensitive (.dict e) (.dict e')) :
    Redacts e e' ↔ AlikeInside e e' := by
  rw [← others_same_iff h, ← redact_same_iff h]
  exact ⟨fun hredacts => hredacts.same,
    fun hsame => ⟨hsame, fun _ _ => redact_kept e, fun _ _ => redact_kept e'⟩⟩

end

/-! ## A header -/

def text (s : String) : Value := .leaf (.str s)

/-- A request's headers, logged as a value. -/
def headersLogged (authorization : String) : Event :=
  [(.str "event", text "webhook.received"),
    (.str "headers", .dict [(.str "authorization", text authorization)])]

theorem headersLogged_equalBut (a b : String) :
    EqualBut Sensitive (.dict (headersLogged a)) (.dict (headersLogged b)) := by
  have hheaders : EqualBut Sensitive (.dict [(.str "authorization", text a)])
      (.dict [(.str "authorization", text b)]) :=
    .cons (Or.inl (by decide)) (.refl _ _)
  exact .cons (Or.inr (.refl _ _)) (.cons (Or.inr hheaders) (.refl _ _))

theorem redacts_headers :
    Redacts (headersLogged "Bearer a") (headersLogged "Bearer b") ↔
      AlikeInside (headersLogged "Bearer a") (headersLogged "Bearer b") :=
  redacts_iff (headersLogged_equalBut _ _)

/-- The credentials are still in what is logged. -/
theorem headers_told_apart :
    ¬ ∀ e e' : Event, EqualBut Sensitive (.dict e) (.dict e') → Redacts e e' := by
  intro hall
  have hlogged := headersLogged_equalBut "Bearer a" "Bearer b"
  have hheaders : Same (.dict [(.str "authorization", text "Bearer a")])
      (.dict [(.str "authorization", text "Bearer b")]) :=
    (redact_same_iff hlogged).mp (hall _ _ hlogged).same (.str "headers") _ _ (by decide) rfl rfl
  have hcredentials : Same (text "Bearer a") (text "Bearer b") :=
    (equalBut_dict.mp hheaders).2 (.str "authorization") _ _ not_false rfl rfl
  exact absurd hcredentials.leaf_eq (by decide)

end LogRedaction

end SaasKit
