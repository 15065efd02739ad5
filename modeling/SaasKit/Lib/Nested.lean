import Mathlib.Data.List.Basic

/-!
# Nested documents

Lists and dicts around leaves, to any depth. A dict is the list of its
fields, read by `lookup`, so two dicts can be the same with their fields in
another order.

- `map` changes the leaves: the shape stays (`shape_map`), and the leaves
  come out in their places (`leaves_map`);
- `EqualBut hidden` relates documents that differ at most in what is stored
  under hidden keys, and `Same` is the case in which none is hidden. What is
  left between the two is what both store under a hidden key (`same_iff`).
-/

/-- A document with keys in `κ` and leaves in `α`. -/
inductive Nested (κ α : Type) where
  | leaf (a : α)
  | list (items : List (Nested κ α))
  | dict (fields : List (κ × Nested κ α))

namespace Nested

variable {κ α β γ : Type}

/-- A document has what its leaves have, and what a list or a dict has if its
entries have. -/
@[elab_as_elim] theorem induct {motive : Nested κ α → Prop}
    (leaf : ∀ a, motive (.leaf a))
    (list : ∀ items, (∀ x ∈ items, motive x) → motive (.list items))
    (dict : ∀ fields, (∀ f ∈ fields, motive f.2) → motive (.dict fields))
    (d : Nested κ α) : motive d := by
  refine @Nested.rec κ α motive (fun items => ∀ x ∈ items, motive x)
    (fun fields => ∀ f ∈ fields, motive f.2) (fun f => motive f.2) leaf list dict
    ?_ ?_ ?_ ?_ (fun _ _ h => h) d
  · exact fun x hx => (List.not_mem_nil hx).elim
  · exact fun item rest hitem hrest => List.forall_mem_cons.mpr ⟨hitem, hrest⟩
  · exact fun f hf => (List.not_mem_nil hf).elim
  · exact fun field rest hfield hrest => List.forall_mem_cons.mpr ⟨hfield, hrest⟩

/-! ## Leaves -/

mutual

def map (f : α → β) : Nested κ α → Nested κ β
  | .leaf a => .leaf (f a)
  | .list items => .list (mapItems f items)
  | .dict fields => .dict (mapFields f fields)

def mapItems (f : α → β) : List (Nested κ α) → List (Nested κ β)
  | [] => []
  | item :: rest => map f item :: mapItems f rest

def mapFields (f : α → β) : List (κ × Nested κ α) → List (κ × Nested κ β)
  | [] => []
  | (key, value) :: rest => (key, map f value) :: mapFields f rest

end

mutual

/-- The leaves from left to right. -/
def leaves : Nested κ α → List α
  | .leaf a => [a]
  | .list items => leavesItems items
  | .dict fields => leavesFields fields

def leavesItems : List (Nested κ α) → List α
  | [] => []
  | item :: rest => leaves item ++ leavesItems rest

def leavesFields : List (κ × Nested κ α) → List α
  | [] => []
  | (_, value) :: rest => leaves value ++ leavesFields rest

end

/-- The lengths of the lists and the keys of the dicts, in order. -/
def shape (d : Nested κ α) : Nested κ Unit := d.map fun _ => ()

mutual

theorem map_map (f : α → β) (g : β → γ) : ∀ d : Nested κ α, (d.map f).map g = d.map (g ∘ f)
  | .leaf _ => rfl
  | .list items => congrArg Nested.list (mapItems_mapItems f g items)
  | .dict fields => congrArg Nested.dict (mapFields_mapFields f g fields)

theorem mapItems_mapItems (f : α → β) (g : β → γ) : ∀ items : List (Nested κ α),
    mapItems g (mapItems f items) = mapItems (g ∘ f) items
  | [] => rfl
  | item :: rest => by rw [mapItems, mapItems, mapItems, map_map f g item, mapItems_mapItems]

theorem mapFields_mapFields (f : α → β) (g : β → γ) : ∀ fields : List (κ × Nested κ α),
    mapFields g (mapFields f fields) = mapFields (g ∘ f) fields
  | [] => rfl
  | (key, value) :: rest => by
      rw [mapFields, mapFields, mapFields, map_map f g value, mapFields_mapFields]

end

mutual

theorem leaves_map (f : α → β) : ∀ d : Nested κ α, (d.map f).leaves = d.leaves.map f
  | .leaf _ => rfl
  | .list items => leavesItems_mapItems f items
  | .dict fields => leavesFields_mapFields f fields

theorem leavesItems_mapItems (f : α → β) : ∀ items : List (Nested κ α),
    leavesItems (mapItems f items) = (leavesItems items).map f
  | [] => rfl
  | item :: rest => by
      rw [mapItems, leavesItems, leavesItems, List.map_append, leaves_map f item,
        leavesItems_mapItems]

theorem leavesFields_mapFields (f : α → β) : ∀ fields : List (κ × Nested κ α),
    leavesFields (mapFields f fields) = (leavesFields fields).map f
  | [] => rfl
  | (key, value) :: rest => by
      rw [mapFields, leavesFields, leavesFields, List.map_append, leaves_map f value,
        leavesFields_mapFields]

end

theorem shape_map (f : α → β) (d : Nested κ α) : (d.map f).shape = d.shape := map_map f _ d

/-- Changing the leaves twice, where once is enough. -/
theorem map_idem {f : α → α} (h : ∀ a, f (f a) = f a) (d : Nested κ α) :
    (d.map f).map f = d.map f := by
  have hf : f ∘ f = f := funext h
  rw [map_map, hf]

/-! ## Places -/

/-- A step into a list or a dict. -/
inductive Step (κ : Type) where
  | item (i : Nat)
  | key (k : κ)

section

variable [DecidableEq κ] {hidden : κ → Prop} {a b v w : Nested κ α} {p : List (Step κ)} {k : κ}

/-- Along the path stands this document, and no key of the path is hidden. -/
inductive At (hidden : κ → Prop) : Nested κ α → List (Step κ) → Nested κ α → Prop
  | here (d : Nested κ α) : At hidden d [] d
  | item {items : List (Nested κ α)} {i : Nat} {x v : Nested κ α} {p : List (Step κ)} :
      items[i]? = some x → At hidden x p v → At hidden (.list items) (.item i :: p) v
  | key {fields : List (κ × Nested κ α)} {k : κ} {x v : Nested κ α} {p : List (Step κ)} :
      ¬ hidden k → fields.lookup k = some x → At hidden x p v →
      At hidden (.dict fields) (.key k :: p) v

/-- A dict at the end of the path stores `v` under the key. -/
def Stores (hidden : κ → Prop) (d : Nested κ α) (p : List (Step κ)) (k : κ) (v : Nested κ α) :
    Prop :=
  ∃ fields, At hidden d p (.dict fields) ∧ fields.lookup k = some v

/-- Equal but for what is stored under hidden keys. -/
inductive EqualBut (hidden : κ → Prop) : Nested κ α → Nested κ α → Prop
  | leaf (a : α) : EqualBut hidden (.leaf a) (.leaf a)
  | list {xs ys : List (Nested κ α)} : xs.length = ys.length →
      (∀ (i : Nat) x y, xs[i]? = some x → ys[i]? = some y → EqualBut hidden x y) →
      EqualBut hidden (.list xs) (.list ys)
  | dict {fs gs : List (κ × Nested κ α)} :
      (∀ k, (fs.lookup k).isSome = (gs.lookup k).isSome) →
      (∀ k x y, ¬ hidden k → fs.lookup k = some x → gs.lookup k = some y →
        EqualBut hidden x y) →
      EqualBut hidden (.dict fs) (.dict gs)

/-- Equal, whatever the order of the fields. -/
def Same (a b : Nested κ α) : Prop := EqualBut (fun _ => False) a b

theorem lookup_field (k key : κ) (v : Nested κ α) (rest : List (κ × Nested κ α)) :
    ((key, v) :: rest).lookup k = if k = key then some v else rest.lookup k := by
  by_cases hk : k = key
  · rw [hk, List.lookup_cons_self, if_pos rfl]
  · rw [List.lookup_cons, beq_false_of_ne hk, if_neg hk]

theorem mem_of_lookup {fields : List (κ × Nested κ α)} (h : fields.lookup k = some v) :
    (k, v) ∈ fields := by
  obtain ⟨pre, post, rfl, -⟩ := List.lookup_eq_some_iff.mp h
  exact List.mem_append_right pre List.mem_cons_self

theorem EqualBut.leaf_eq {a b : α} (h : EqualBut hidden (.leaf a) (.leaf b)) : a = b := by
  cases h
  rfl

theorem equalBut_dict {fs gs : List (κ × Nested κ α)} :
    EqualBut hidden (.dict fs) (.dict gs) ↔ (∀ k, (fs.lookup k).isSome = (gs.lookup k).isSome) ∧
      ∀ k x y, ¬ hidden k → fs.lookup k = some x → gs.lookup k = some y →
        EqualBut hidden x y := by
  constructor
  · rintro ⟨⟩
    exact ⟨‹_›, ‹_›⟩
  · rintro ⟨hkeys, hvalues⟩
    exact .dict hkeys hvalues

/-- Below a dict, a path starts with one of its keys. -/
theorem at_dict {fields : List (κ × Nested κ α)} (hp : p ≠ []) : At hidden (.dict fields) p v ↔
    ∃ k x rest, p = .key k :: rest ∧ ¬ hidden k ∧ fields.lookup k = some x
      ∧ At hidden x rest v := by
  constructor
  · intro h
    cases h with
    | here => exact absurd rfl hp
    | key hk hx hrest => exact ⟨_, _, _, rfl, hk, hx, hrest⟩
  · rintro ⟨k, x, rest, rfl, hk, hx, hrest⟩
    exact .key hk hx hrest

theorem EqualBut.refl (hidden : κ → Prop) (d : Nested κ α) : EqualBut hidden d d := by
  induction d using Nested.induct with
  | leaf a => exact .leaf a
  | list items ih =>
      refine .list rfl fun i x y hx hy => ?_
      obtain rfl : x = y := Option.some.inj (hx.symm.trans hy)
      exact ih x (List.mem_of_getElem? hx)
  | dict fields ih =>
      refine .dict (fun _ => rfl) fun k x y _ hx hy => ?_
      obtain rfl : x = y := Option.some.inj (hx.symm.trans hy)
      exact ih (k, x) (mem_of_lookup hx)

theorem EqualBut.cons {fs gs : List (κ × Nested κ α)} (hvw : hidden k ∨ EqualBut hidden v w)
    (hrest : EqualBut hidden (.dict fs) (.dict gs)) :
    EqualBut hidden (.dict ((k, v) :: fs)) (.dict ((k, w) :: gs)) := by
  obtain ⟨hkeys, hvalues⟩ := equalBut_dict.mp hrest
  refine .dict (fun k' => ?_) fun k' x y hk' hx hy => ?_
  · rw [lookup_field, lookup_field]
    split
    · rfl
    · exact hkeys k'
  · rw [lookup_field] at hx hy
    by_cases hk : k' = k
    · rw [if_pos hk] at hx hy
      obtain rfl := Option.some.inj hx
      obtain rfl := Option.some.inj hy
      exact hvw.resolve_left (hk ▸ hk')
    · rw [if_neg hk] at hx hy
      exact hvalues k' x y hk' hx hy

/-- What stands at one place in two documents that are the same. -/
theorem Same.at (h : Same a b) (ha : At hidden a p v) (hb : At hidden b p w) : Same v w := by
  induction ha generalizing b with
  | here d =>
      cases hb
      exact h
  | item hx _ ih =>
      cases hb with
      | item hy hrest =>
          cases h with
          | list _ hitems => exact ih (hitems _ _ _ hx hy) hrest
  | key _ hx _ ih =>
      cases hb with
      | key _ hy hrest =>
          cases h with
          | dict _ hfields => exact ih (hfields _ _ _ not_false hx hy) hrest

theorem Same.stores (h : Same a b) (ha : Stores hidden a p k v) (hb : Stores hidden b p k w) :
    Same v w := by
  obtain ⟨fs, hfs, hv⟩ := ha
  obtain ⟨gs, hgs, hw⟩ := hb
  exact (equalBut_dict.mp (h.at hfs hgs)).2 k v w not_false hv hw

/-- Documents that are equal but for hidden keys are the same if and only if
they store the same under hidden keys. -/
theorem same_iff (h : EqualBut hidden a b) : Same a b ↔
    ∀ p k v w, hidden k → Stores hidden a p k v → Stores hidden b p k w → Same v w := by
  refine ⟨fun hsame p k v w _ => hsame.stores, ?_⟩
  induction h with
  | leaf a => exact fun _ => .leaf a
  | list hlength _ ih =>
      intro hstored
      refine .list hlength fun i x y hx hy => ih i x y hx hy fun p k v w hk hv hw => ?_
      obtain ⟨fs, hfs, hv⟩ := hv
      obtain ⟨gs, hgs, hw⟩ := hw
      exact hstored (.item i :: p) k v w hk ⟨fs, .item hx hfs, hv⟩ ⟨gs, .item hy hgs, hw⟩
  | @dict fs gs hkeys _ ih =>
      intro hstored
      refine .dict hkeys fun k x y _ hx hy => ?_
      by_cases hk : hidden k
      · exact hstored [] k x y hk ⟨fs, .here _, hx⟩ ⟨gs, .here _, hy⟩
      · refine ih k x y hk hx hy fun p k' v w hk' hv hw => ?_
        obtain ⟨fs', hfs, hv⟩ := hv
        obtain ⟨gs', hgs, hw⟩ := hw
        exact hstored (.key k :: p) k' v w hk' ⟨fs', .key hk hx hfs, hv⟩
          ⟨gs', .key hk hy hgs, hw⟩

end

/-! ## Assignment -/

section

variable [DecidableEq κ]

/-- `d[key] = value`. -/
def assign (key : κ) (value : Nested κ α) : List (κ × Nested κ α) → List (κ × Nested κ α)
  | [] => [(key, value)]
  | (k, v) :: rest => if k = key then (k, value) :: rest else (k, v) :: assign key value rest

theorem lookup_assign (key k : κ) (value : Nested κ α) (fields : List (κ × Nested κ α)) :
    (assign key value fields).lookup k = if k = key then some value else fields.lookup k := by
  induction fields with
  | nil => exact lookup_field k key value []
  | cons field rest ih =>
      obtain ⟨key', v⟩ := field
      by_cases hkey : key' = key
      · rw [assign, if_pos hkey, lookup_field, lookup_field, hkey]
        split <;> rfl
      · rw [assign, if_neg hkey, lookup_field, lookup_field, ih]
        by_cases hk : k = key'
        · rw [if_pos hk, if_pos hk, if_neg fun h => hkey (hk ▸ h)]
        · rw [if_neg hk, if_neg hk]

end

end Nested
