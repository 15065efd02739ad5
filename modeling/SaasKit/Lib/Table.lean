import Mathlib.Data.List.Pairwise

/-!
# Tables with unique constraints

A table is a list of rows together with the proof that no two of them
clash under the table's unique constraints, so a state that violates a
constraint cannot be built. `clash` is any decidable relation between
rows: equality of a key (`sameKey`), or a disjunction over several unique
columns.

Reads are `List` reads on `rows`. Writes come in two kinds. `insert?` and
`update?` re-check the constraints, as a database does, and answer `none`
where it would raise an integrity error. `delete`, `modify` (by a
`Rewrite`, which leaves the constrained columns alone) and `put` (insert or replace
under a key) cannot fail.
-/

/-- Rows no two of which clash. -/
structure Table (ρ : Type) (clash : ρ → ρ → Bool) where
  rows : List ρ
  ok : rows.Pairwise fun a b => clash a b = false

/-- The constraint of a single unique key. -/
def sameKey {ρ κ : Type} [DecidableEq κ] (key : ρ → κ) (a b : ρ) : Bool :=
  decide (key a = key b)

namespace Table

variable {ρ : Type} {clash : ρ → ρ → Bool}

theorem ext_rows {t t' : Table ρ clash} (h : t.rows = t'.rows) : t = t' := by
  cases t; cases t'; cases h; rfl

instance [DecidableEq ρ] : DecidableEq (Table ρ clash) := fun t t' =>
  decidable_of_iff (t.rows = t'.rows) ⟨ext_rows, fun h => h ▸ rfl⟩

instance : Membership ρ (Table ρ clash) := ⟨fun t r => r ∈ t.rows⟩

instance : EmptyCollection (Table ρ clash) := ⟨⟨[], .nil⟩⟩

theorem mem_rows {t : Table ρ clash} {r : ρ} : r ∈ t.rows ↔ r ∈ t := Iff.rfl

@[simp] theorem not_mem_empty (r : ρ) : r ∉ (∅ : Table ρ clash) :=
  List.not_mem_nil

instance [DecidableEq ρ] (r : ρ) (t : Table ρ clash) : Decidable (r ∈ t) :=
  inferInstanceAs (Decidable (r ∈ t.rows))

instance {t : Table ρ clash} {p : ρ → Prop} [DecidablePred p] : Decidable (∀ r ∈ t, p r) :=
  inferInstanceAs (Decidable (∀ r ∈ t.rows, p r))

instance {t : Table ρ clash} {p : ρ → Prop} [DecidablePred p] : Decidable (∃ r ∈ t, p r) :=
  inferInstanceAs (Decidable (∃ r ∈ t.rows, p r))

/-- The table with these rows, if they satisfy the constraints. -/
def ofRows? (l : List ρ) : Option (Table ρ clash) :=
  if h : l.Pairwise fun a b => clash a b = false then some ⟨l, h⟩ else none

theorem ofRows?_eq_some {l : List ρ} {t : Table ρ clash} (h : ofRows? l = some t) :
    t.rows = l := by
  unfold ofRows? at h
  split at h
  · obtain rfl := Option.some.inj h; rfl
  · cases h

/-! ## Reads -/

/-- The first row satisfying `p`, if any. -/
def find? (t : Table ρ clash) (p : ρ → Bool) : Option ρ := t.rows.find? p

/-- Some row satisfies `p`. -/
def any (t : Table ρ clash) (p : ρ → Bool) : Bool := t.rows.any p

/-- The rows satisfying `p`, in table order. -/
def filter (t : Table ρ clash) (p : ρ → Bool) : List ρ := t.rows.filter p

/-- How many rows satisfy `p`. -/
def count (t : Table ρ clash) (p : ρ → Bool) : Nat := t.rows.countP p

theorem find?_some {t : Table ρ clash} {p : ρ → Bool} {r : ρ}
    (h : t.find? p = some r) : r ∈ t ∧ p r = true :=
  ⟨List.mem_of_find?_eq_some h, List.find?_some h⟩

theorem find?_none {t : Table ρ clash} {p : ρ → Bool} :
    t.find? p = none ↔ ∀ r ∈ t, p r = false := by
  simp [find?, List.find?_eq_none, ← mem_rows]

theorem any_iff {t : Table ρ clash} {p : ρ → Bool} :
    t.any p = true ↔ ∃ r ∈ t, p r = true :=
  List.any_eq_true

theorem any_eq_false {t : Table ρ clash} {p : ρ → Bool} :
    t.any p = false ↔ ∀ r ∈ t, p r = false := by
  simp [any, ← mem_rows]

theorem mem_filter {t : Table ρ clash} {p : ρ → Bool} {r : ρ} :
    r ∈ t.filter p ↔ r ∈ t ∧ p r = true :=
  List.mem_filter

/-! What is read through `p` is decided by the rows `q` lets through, if `p`
asks for `q`. -/

theorem filter_congr {t t' : Table ρ clash} {p q : ρ → Bool} (hpq : ∀ x, p x = true → q x = true)
    (h : t'.filter q = t.filter q) : t'.filter p = t.filter p := by
  have hinside : ∀ t : Table ρ clash, t.filter p = (t.filter q).filter p := by
    intro t
    unfold filter
    rw [List.filter_filter]
    refine List.filter_congr fun x _ => ?_
    cases hp : p x with
    | true => simp [hpq x hp]
    | false => rfl
  rw [hinside, h, ← hinside]

theorem find?_congr {t t' : Table ρ clash} {p q : ρ → Bool} (hpq : ∀ x, p x = true → q x = true)
    (h : t'.filter q = t.filter q) : t'.find? p = t.find? p := by
  have hhead : ∀ t : Table ρ clash, t.find? p = (t.filter p).head? := fun t =>
    List.head?_filter.symm
  rw [hhead, hhead, filter_congr hpq h]

theorem any_congr {t t' : Table ρ clash} {p q : ρ → Bool} (hpq : ∀ x, p x = true → q x = true)
    (h : t'.filter q = t.filter q) : t'.any p = t.any p := by
  have hsome : ∀ t : Table ρ clash, t.any p = (t.find? p).isSome := fun t =>
    List.isSome_find?.symm
  rw [hsome, hsome, find?_congr hpq h]

/-- Two rows that clash are the same row. -/
theorem eq_of_clash {t : Table ρ clash} (hsymm : ∀ a b, clash a b = clash b a)
    {a b : ρ} (ha : a ∈ t) (hb : b ∈ t) (h : clash a b = true) : a = b := by
  by_contra hne
  have : Std.Symm fun a b => clash a b = false := ⟨fun x y hxy => (hsymm y x).trans hxy⟩
  have hclash := t.ok.forall ha hb hne
  rw [h] at hclash
  cases hclash

/-- A row is the answer to a lookup that singles it out. -/
theorem find?_eq_of_mem {t : Table ρ clash} (hsymm : ∀ a b, clash a b = clash b a)
    {p : ρ → Bool} {r : ρ} (hr : r ∈ t) (hp : p r = true)
    (huniq : ∀ x, p x = true → clash x r = true) : t.find? p = some r := by
  cases h : t.find? p with
  | none => simp [find?_none.mp h r hr] at hp
  | some x =>
      obtain ⟨hx, hpx⟩ := find?_some h
      rw [eq_of_clash hsymm hx hr (huniq x hpx)]

/-- The rows a key singles out. -/
theorem filter_eq_singleton {t : Table ρ clash} {p : ρ → Bool} {r : ρ} (hr : r ∈ t)
    (hp : p r = true) (huniq : ∀ x y, p x = true → p y = true → clash x y = true) :
    t.filter p = [r] := by
  have hmem : r ∈ t.filter p := mem_filter.mpr ⟨hr, hp⟩
  have hpairwise : (t.filter p).Pairwise fun a b => clash a b = false :=
    t.ok.sublist List.filter_sublist
  have hall : ∀ x ∈ t.filter p, p x = true := fun x hx => (mem_filter.mp hx).2
  generalize t.filter p = rows at hmem hpairwise hall
  match rows with
  | [] => cases hmem
  | [x] => rw [List.mem_singleton.mp hmem]
  | x :: y :: _ =>
      have hno := List.rel_of_pairwise_cons hpairwise List.mem_cons_self
      rw [huniq x y (hall x List.mem_cons_self)
        (hall y (List.mem_cons_of_mem _ List.mem_cons_self))] at hno
      cases hno

/-! ## Writes that re-check the constraints -/

/-- Add a row; `none` is the integrity error. -/
def insert? (t : Table ρ clash) (r : ρ) : Option (Table ρ clash) :=
  ofRows? (t.rows ++ [r])

/-- Rewrite the rows satisfying `p`; `none` is the integrity error. -/
def update? (t : Table ρ clash) (p : ρ → Bool) (f : ρ → ρ) : Option (Table ρ clash) :=
  ofRows? (t.rows.map fun x => if p x then f x else x)

theorem insert?_rows {t t' : Table ρ clash} {r : ρ} (h : t.insert? r = some t') :
    t'.rows = t.rows ++ [r] := ofRows?_eq_some h

/-- A row that was added clashes with none. -/
theorem not_clash_of_insert? {t t' : Table ρ clash} {r x : ρ} (h : t.insert? r = some t')
    (hx : x ∈ t) : clash x r = false := by
  have hok := t'.ok
  rw [insert?_rows h, List.pairwise_append] at hok
  exact hok.2.2 x hx r (List.mem_singleton_self r)

/-- A row that clashes with none can be added. -/
theorem insert?_of_not_clash {t : Table ρ clash} {r : ρ} (h : ∀ x ∈ t, clash x r = false) :
    ∃ t', t.insert? r = some t' := by
  have hok : (t.rows ++ [r]).Pairwise fun a b => clash a b = false := by
    rw [List.pairwise_append]
    refine ⟨t.ok, List.pairwise_singleton .., fun x hx y hy => ?_⟩
    obtain rfl := List.mem_singleton.mp hy
    exact h x hx
  exact ⟨⟨_, hok⟩, dif_pos hok⟩

theorem mem_insert? {t t' : Table ρ clash} {r x : ρ} (h : t.insert? r = some t') :
    x ∈ t' ↔ x ∈ t ∨ x = r := by
  rw [← mem_rows, insert?_rows h]; simp [← mem_rows]

theorem update?_rows {t t' : Table ρ clash} {p : ρ → Bool} {f : ρ → ρ}
    (h : t.update? p f = some t') :
    t'.rows = t.rows.map fun x => if p x then f x else x := ofRows?_eq_some h

theorem mem_update? {t t' : Table ρ clash} {p : ρ → Bool} {f : ρ → ρ} {x : ρ}
    (h : t.update? p f = some t') :
    x ∈ t' ↔ ∃ y ∈ t, x = if p y then f y else y := by
  rw [← mem_rows, update?_rows h]
  simp only [List.mem_map, ← mem_rows, eq_comm]

/-- A new row outside `p` is not seen through `p`. -/
theorem filter_insert? {t t' : Table ρ clash} {r : ρ} {p : ρ → Bool}
    (h : t.insert? r = some t') (hr : p r = false) : t'.filter p = t.filter p := by
  simp [filter, insert?_rows h, hr]

/-! ## Writes that cannot fail -/

/-- Remove the rows satisfying `p`. -/
def delete (t : Table ρ clash) (p : ρ → Bool) : Table ρ clash :=
  ⟨t.rows.filter fun x => !p x, t.ok.sublist List.filter_sublist⟩

theorem mem_delete {t : Table ρ clash} {p : ρ → Bool} {x : ρ} :
    x ∈ t.delete p ↔ x ∈ t ∧ p x = false := by
  simp [delete, ← mem_rows]

/-- The rows left and the rows deleted are all there were. -/
theorem length_delete (t : Table ρ clash) (p : ρ → Bool) :
    (t.delete p).rows.length + t.count p = t.rows.length := by
  have hcount := List.length_eq_countP_add_countP p (l := t.rows)
  simp only [Bool.not_eq_true, Bool.decide_eq_false] at hcount
  simp only [delete, count, ← List.countP_eq_length_filter]
  omega

theorem count_eq_zero {t : Table ρ clash} {p : ρ → Bool} (h : ∀ r ∈ t, p r = false) :
    t.count p = 0 :=
  List.countP_eq_zero.mpr fun r hr => Bool.eq_false_iff.mp (h r hr)

@[simp] theorem delete_delete (t : Table ρ clash) (p : ρ → Bool) :
    (t.delete p).delete p = t.delete p := by
  refine ext_rows ?_
  simp only [delete, List.filter_filter, Bool.and_self]

/-- A rewriting of rows that leaves the constrained columns alone. -/
structure Rewrite (clash : ρ → ρ → Bool) where
  apply : ρ → ρ
  left : ∀ a b, clash (apply a) b = clash a b
  right : ∀ a b, clash a (apply b) = clash a b

/-- Rewrite the rows satisfying `p`. -/
def modify (t : Table ρ clash) (p : ρ → Bool) (f : Rewrite clash) : Table ρ clash :=
  ⟨t.rows.map fun x => if p x then f.apply x else x, by
    rw [List.pairwise_map]
    refine t.ok.imp fun {a b} h => ?_
    split <;> split <;> simpa [f.left, f.right] using h⟩

theorem mem_modify {t : Table ρ clash} {p : ρ → Bool} {f : Rewrite clash} {x : ρ} :
    x ∈ t.modify p f ↔ ∃ y ∈ t, x = if p y then f.apply y else y := by
  simp only [modify, ← mem_rows, List.mem_map, eq_comm]

/-- Removing rows outside `p` is not seen through `p`. -/
theorem filter_delete {t : Table ρ clash} {p q : ρ → Bool}
    (h : ∀ x ∈ t, q x = true → p x = false) : (t.delete q).filter p = t.filter p := by
  simp only [filter, delete, List.filter_filter]
  refine List.filter_congr fun x hx => ?_
  cases hq : q x with
  | true => simp [h x hx hq]
  | false => simp

/-- Rewriting rows that are and stay outside `p` is not seen through `p`. -/
theorem filter_map_outside {p q : ρ → Bool} {f : ρ → ρ} {rows : List ρ}
    (h : ∀ x ∈ rows, q x = true → p x = false ∧ p (f x) = false) :
    (rows.map fun x => if q x then f x else x).filter p = rows.filter p := by
  induction rows with
  | nil => rfl
  | cons x rows ih =>
      have ih := ih fun y hy => h y (List.mem_cons_of_mem _ hy)
      rw [List.map_cons, List.filter_cons, List.filter_cons, ih]
      by_cases hq : q x = true
      · obtain ⟨hx, hfx⟩ := h x List.mem_cons_self hq
        simp [hq, hx, hfx]
      · simp [hq]

theorem filter_modify {t : Table ρ clash} {p q : ρ → Bool} {f : Rewrite clash}
    (h : ∀ x ∈ t, q x = true → p x = false ∧ p (f.apply x) = false) :
    (t.modify q f).filter p = t.filter p :=
  filter_map_outside h

/-- A rewriting that `p` does not tell apart, seen through `p`. -/
theorem filter_map_inside {p q : ρ → Bool} {f : ρ → ρ} {rows : List ρ}
    (h : ∀ x ∈ rows, q x = true → p (f x) = p x) :
    (rows.map fun x => if q x then f x else x).filter p
      = (rows.filter p).map fun x => if q x then f x else x := by
  rw [List.filter_map]
  refine congrArg _ (List.filter_congr fun x hx => ?_)
  simp only [Function.comp_apply]
  split
  · rename_i hq
    exact h x hx hq
  · rfl

/-- A rewriting that leaves its rows as they are. -/
theorem update?_eq_self {t : Table ρ clash} {p : ρ → Bool} {f : ρ → ρ}
    (h : ∀ x ∈ t, p x = true → f x = x) : t.update? p f = some t := by
  have hrows : (t.rows.map fun x => if p x then f x else x) = t.rows := by
    refine (List.map_congr_left fun x hx => ?_).trans (List.map_id t.rows)
    split
    · rename_i hp
      exact h x hx hp
    · rfl
  unfold update? ofRows?
  simp only [hrows]
  exact dif_pos t.ok

/-- A rewriting that leaves the constrained columns alone goes through. -/
theorem update?_rewrite (t : Table ρ clash) (p : ρ → Bool) (f : Rewrite clash) :
    t.update? p f.apply = some (t.modify p f) := dif_pos (t.modify p f).ok

/-- The later of two rewritings of the same rows wins if it overwrites what
the earlier one wrote. -/
theorem modify_modify {t : Table ρ clash} {p : ρ → Bool} {f g : Rewrite clash}
    (hp : ∀ x ∈ t, p x = true → p (f.apply x) = true)
    (hfg : ∀ x ∈ t, p x = true → g.apply (f.apply x) = g.apply x) :
    (t.modify p f).modify p g = t.modify p g := by
  refine ext_rows ?_
  simp only [modify, List.map_map]
  refine List.map_congr_left fun x hx => ?_
  simp only [Function.comp_apply]
  by_cases hx' : p x = true
  · simp only [hx', if_true, hp x hx hx', hfg x hx hx']
  · simp only [if_neg hx']

/-! ## Rewrite or add -/

/-- Rewrite the rows satisfying `p`, or add `r` if there is none; `none` is
the integrity error. -/
def upsert? (t : Table ρ clash) (p : ρ → Bool) (f : ρ → ρ) (r : ρ) : Option (Table ρ clash) :=
  if t.any p then t.update? p f else t.insert? r

theorem mem_upsert? {t t' : Table ρ clash} {p : ρ → Bool} {f : ρ → ρ} {r x : ρ}
    (h : t.upsert? p f r = some t') :
    x ∈ t' ↔ (∃ y ∈ t, x = if p y then f y else y) ∨ t.any p = false ∧ x = r := by
  unfold upsert? at h
  cases hany : t.any p with
  | true =>
      rw [hany, if_pos rfl] at h
      rw [mem_update? h]
      simp
  | false =>
      rw [hany, if_neg Bool.false_ne_true] at h
      rw [mem_insert? h]
      have hsame : ∀ y ∈ t, (if p y then f y else y) = y := fun y hy =>
        if_neg (Bool.eq_false_iff.mp (any_eq_false.mp hany y hy))
      constructor
      · rintro (hx | rfl)
        · exact Or.inl ⟨x, hx, (hsame x hx).symm⟩
        · exact Or.inr ⟨rfl, rfl⟩
      · rintro (⟨y, hy, rfl⟩ | ⟨-, rfl⟩)
        · rw [hsame y hy]
          exact Or.inl hy
        · exact Or.inr rfl

/-- Rows outside `p` come through, and nothing else comes to be outside it. -/
theorem mem_upsert?_outside {t t' : Table ρ clash} {p : ρ → Bool} {f : ρ → ρ} {r x : ρ}
    (h : t.upsert? p f r = some t') (hf : ∀ y, p y = true → p (f y) = true) (hr : p r = true)
    (hx : p x = false) : x ∈ t' ↔ x ∈ t := by
  rw [mem_upsert? h]
  constructor
  · rintro (⟨y, hy, rfl⟩ | ⟨-, rfl⟩)
    · by_cases hp : p y = true
      · rw [if_pos hp, hf y hp] at hx
        cases hx
      · rw [if_neg hp]
        exact hy
    · rw [hr] at hx
      cases hx
  · exact fun hmem => Or.inl ⟨x, hmem, (if_neg (Bool.eq_false_iff.mp hx)).symm⟩

/-- A row of `p` that is as it is to be makes the write a no-op. -/
theorem upsert?_eq_self {t : Table ρ clash} {p : ρ → Bool} {f : ρ → ρ} {r : ρ}
    (hany : t.any p = true) (hfix : ∀ x ∈ t, p x = true → f x = x) :
    t.upsert? p f r = some t := by
  unfold upsert?
  rw [hany, if_pos rfl]
  exact update?_eq_self hfix

/-- Where `p` picks one row at most, which is written with the constrained
columns of `r`: the write goes through exactly if no other row clashes with
`r`. -/
theorem upsert?_isSome_iff {t : Table ρ clash} {p : ρ → Bool} {f : ρ → ρ} {r : ρ}
    (hrefl : ∀ a, clash a a = true) (hsymm : ∀ a b, clash a b = clash b a)
    (hone : ∀ x ∈ t, ∀ y ∈ t, p x = true → p y = true → x = y)
    (hkeep : ∀ y, p y = true → p (f y) = true)
    (hcols : ∀ x y, p y = true → clash x (f y) = clash x r) :
    (t.upsert? p f r).isSome = true ↔ ∀ x ∈ t, p x = false → clash x r = false := by
  constructor
  · intro hsome x hx hout
    obtain ⟨t', h⟩ := Option.isSome_iff_exists.mp hsome
    by_cases hany : t.any p = true
    · obtain ⟨y, hy, hp⟩ := any_iff.mp hany
      have hfy : f y ∈ t' := (mem_upsert? h).mpr (Or.inl ⟨y, hy, (if_pos hp).symm⟩)
      have hxt : x ∈ t' :=
        (mem_upsert? h).mpr (Or.inl ⟨x, hx, (if_neg (Bool.eq_false_iff.mp hout)).symm⟩)
      by_contra hclash
      rw [Bool.not_eq_false, ← hcols x y hp] at hclash
      have hsame := eq_of_clash hsymm hxt hfy hclash
      rw [hsame, hkeep y hp] at hout
      cases hout
    · have hinsert : t.insert? r = some t' := by
        rw [← h, upsert?, if_neg hany]
      exact not_clash_of_insert? hinsert hx
  · intro hfree
    unfold upsert?
    by_cases hany : t.any p = true
    · rw [if_pos hany]
      have hok : (t.rows.map fun x => if p x then f x else x).Pairwise
          fun a b => clash a b = false := by
        rw [List.pairwise_map]
        refine t.ok.imp_of_mem fun {a b} ha hb hab => ?_
        by_cases hpa : p a = true <;> by_cases hpb : p b = true
        · rw [hone a ha b hb hpa hpb, hrefl] at hab
          cases hab
        · rw [if_pos hpa, if_neg hpb, hsymm, hcols b a hpa]
          exact hfree b hb (Bool.eq_false_iff.mpr hpb)
        · rw [if_neg hpa, if_pos hpb, hcols a b hpb]
          exact hfree a ha (Bool.eq_false_iff.mpr hpa)
        · rw [if_neg hpa, if_neg hpb]
          exact hab
      exact Option.isSome_iff_exists.mpr ⟨⟨_, hok⟩, dif_pos hok⟩
    · rw [if_neg hany]
      refine Option.isSome_iff_exists.mpr (insert?_of_not_clash fun x hx => hfree x hx ?_)
      exact any_eq_false.mp (Bool.eq_false_iff.mpr hany) x hx

section Keyed

variable {κ : Type} [DecidableEq κ] {key : ρ → κ}

@[simp] theorem sameKey_iff {a b : ρ} : sameKey key a b = true ↔ key a = key b := by
  simp [sameKey]

theorem sameKey_symm (a b : ρ) : sameKey key a b = sameKey key b a := by
  simp only [sameKey, eq_comm]

/-- Insert `r`, or replace the row that has its key, in place. -/
def put (t : Table ρ (sameKey key)) (r : ρ) : Table ρ (sameKey key) :=
  if h : t.any (fun x => decide (key x = key r)) = true then
    ⟨t.rows.map fun x => if key x = key r then r else x, by
      rw [List.pairwise_map]
      refine t.ok.imp fun {a b} hab => ?_
      simp only [sameKey, decide_eq_false_iff_not] at hab ⊢
      by_cases ha : key a = key r <;> by_cases hb : key b = key r
      · exact absurd (ha.trans hb.symm) hab
      · rw [if_pos ha, if_neg hb]; exact fun hk => hb hk.symm
      · rw [if_neg ha, if_pos hb]; exact ha
      · rw [if_neg ha, if_neg hb]; exact hab⟩
  else
    ⟨t.rows ++ [r], by
      rw [List.pairwise_append]
      refine ⟨t.ok, List.pairwise_singleton .., fun a ha b hb => ?_⟩
      obtain rfl := List.mem_singleton.mp hb
      have := any_eq_false.mp (Bool.not_eq_true _ ▸ h) a ha
      simpa [sameKey] using this⟩

theorem mem_put {t : Table ρ (sameKey key)} {r x : ρ} :
    x ∈ t.put r ↔ x = r ∨ (x ∈ t ∧ key x ≠ key r) := by
  unfold put
  split
  · rename_i h
    obtain ⟨y, hy, hkey⟩ := any_iff.mp h
    simp only [decide_eq_true_eq] at hkey
    simp only [← mem_rows, List.mem_map]
    constructor
    · rintro ⟨z, hz, rfl⟩
      by_cases hk : key z = key r
      · exact Or.inl (by rw [if_pos hk])
      · exact Or.inr (by rw [if_neg hk]; exact ⟨hz, hk⟩)
    · rintro (rfl | ⟨hx, hk⟩)
      · exact ⟨y, hy, by rw [if_pos hkey]⟩
      · exact ⟨x, hx, by rw [if_neg hk]⟩
  · rename_i h
    have hnone := any_eq_false.mp (Bool.not_eq_true _ ▸ h)
    simp only [← mem_rows, List.mem_append, List.mem_singleton]
    constructor
    · rintro (hx | rfl)
      · exact Or.inr ⟨hx, by simpa using hnone x hx⟩
      · exact Or.inl rfl
    · rintro (rfl | ⟨hx, -⟩)
      · exact Or.inr rfl
      · exact Or.inl hx

/-- Putting a row that is there changes nothing. -/
theorem put_eq_self {t : Table ρ (sameKey key)} {r : ρ} (h : r ∈ t) : t.put r = t := by
  have hany : t.any (fun x => decide (key x = key r)) = true := any_iff.mpr ⟨r, h, by simp⟩
  refine ext_rows ?_
  unfold put
  rw [dif_pos hany]
  refine (List.map_congr_left fun x hx => ?_).trans (List.map_id t.rows)
  split
  · rename_i hkey
    exact (eq_of_clash sameKey_symm hx h (sameKey_iff.mpr hkey)).symm
  · rfl

/-- A key has one row at most. -/
theorem count_key_le_one {t : Table ρ (sameKey key)} (k : κ) :
    t.count (fun x => decide (key x = k)) ≤ 1 := by
  unfold count
  rw [List.countP_eq_length_filter]
  cases hrows : t.rows.filter fun x => decide (key x = k) with
  | nil => exact Nat.zero_le 1
  | cons r rest =>
      have hmem : r ∈ t.filter fun x => decide (key x = k) := by
        unfold filter
        rw [hrows]
        exact List.mem_cons_self
      obtain ⟨hr, hkey⟩ := mem_filter.mp hmem
      have hsingle : t.filter (fun x => decide (key x = k)) = [r] :=
        filter_eq_singleton hr hkey fun x y hx hy => by
          rw [sameKey_iff, of_decide_eq_true hx, of_decide_eq_true hy]
      rw [← hrows]
      exact Nat.le_of_eq (congrArg List.length hsingle)

/-- A put is not seen through a `p` that rejects its key. -/
theorem filter_put {t : Table ρ (sameKey key)} {r : ρ} {p : ρ → Bool}
    (h : ∀ x, key x = key r → p x = false) : (t.put r).filter p = t.filter p := by
  unfold put
  split
  · have hrows : ∀ rows : List ρ,
        (rows.map fun x => if key x = key r then r else x).filter p = rows.filter p := by
      intro rows
      induction rows with
      | nil => rfl
      | cons x rows ih =>
          rw [List.map_cons, List.filter_cons, List.filter_cons, ih]
          by_cases hk : key x = key r
          · simp [hk, h r rfl, h x hk]
          · simp [hk]
    exact hrows t.rows
  · simp [filter, h r rfl]

/-- The row found under a key is the row that has it. -/
theorem find?_key {t : Table ρ (sameKey key)} {k : κ} {r : ρ} :
    t.find? (fun x => decide (key x = k)) = some r ↔ r ∈ t ∧ key r = k := by
  constructor
  · intro h
    obtain ⟨hr, hk⟩ := find?_some h
    exact ⟨hr, of_decide_eq_true hk⟩
  · rintro ⟨hr, hk⟩
    exact find?_eq_of_mem sameKey_symm hr (decide_eq_true hk) fun x hx =>
      sameKey_iff.mpr ((of_decide_eq_true hx).trans hk.symm)

theorem find?_key_put {t : Table ρ (sameKey key)} {k : κ} {r : ρ} :
    (t.put r).find? (fun x => decide (key x = k)) =
      if key r = k then some r else t.find? fun x => decide (key x = k) := by
  split
  · rename_i hk
    exact find?_key.mpr ⟨mem_put.mpr (Or.inl rfl), hk⟩
  · rename_i hk
    refine find?_congr (fun _ hx => hx) (filter_put fun x hx => ?_)
    rw [hx]
    exact decide_eq_false hk

theorem find?_key_insert? {t t' : Table ρ (sameKey key)} {k : κ} {r : ρ}
    (h : t.insert? r = some t') :
    t'.find? (fun x => decide (key x = k)) =
      if key r = k then some r else t.find? fun x => decide (key x = k) := by
  split
  · rename_i hk
    exact find?_key.mpr ⟨(mem_insert? h).mpr (Or.inr rfl), hk⟩
  · rename_i hk
    exact find?_congr (fun _ hx => hx) (filter_insert? h (decide_eq_false hk))

theorem find?_key_delete {t : Table ρ (sameKey key)} {k : κ} {q : κ → Bool} :
    (t.delete fun x => q (key x)).find? (fun x => decide (key x = k)) =
      if q k then none else t.find? fun x => decide (key x = k) := by
  split
  · rename_i hq
    refine find?_none.mpr fun x hx => decide_eq_false fun hk => ?_
    rw [mem_delete, hk, hq] at hx
    exact absurd hx.2 Bool.noConfusion
  · rename_i hq
    refine find?_congr (fun _ hx => hx) (filter_delete fun x _ hx => decide_eq_false fun hk => ?_)
    exact hq (hk ▸ hx)

/-- One row replaced by a row under a key that may be another. -/
theorem find?_key_update? {t t' : Table ρ (sameKey key)} {k old : κ} {r : ρ}
    (h : t.update? (fun x => decide (key x = old)) (fun _ => r) = some t')
    (hold : t.any (fun x => decide (key x = old)) = true) :
    t'.find? (fun x => decide (key x = k)) =
      if key r = k then some r
      else if old = k then none else t.find? fun x => decide (key x = k) := by
  have hmem : ∀ x, x ∈ t' ↔ x = r ∨ x ∈ t ∧ key x ≠ old := by
    intro x
    rw [mem_update? h]
    constructor
    · rintro ⟨y, hy, rfl⟩
      by_cases hk : key y = old
      · exact Or.inl (by simp [hk])
      · exact Or.inr (by simp [hk, hy])
    · rintro (rfl | ⟨hx, hk⟩)
      · obtain ⟨y, hy, hk⟩ := any_iff.mp hold
        exact ⟨y, hy, (if_pos hk).symm⟩
      · exact ⟨x, hx, by simp [hk]⟩
  split
  · rename_i hk
    exact find?_key.mpr ⟨(hmem r).mpr (Or.inl rfl), hk⟩
  · rename_i hk
    refine Option.ext fun x => ?_
    rw [find?_key, hmem]
    split
    · rename_i hold
      constructor
      · rintro ⟨rfl | ⟨-, hne⟩, hx⟩
        · exact absurd hx hk
        · exact absurd (hx.trans hold.symm) hne
      · exact nofun
    · rename_i hold
      rw [find?_key]
      constructor
      · rintro ⟨rfl | ⟨hx, -⟩, hkey⟩
        · exact absurd hkey hk
        · exact ⟨hx, hkey⟩
      · rintro ⟨hx, hkey⟩
        exact ⟨Or.inr ⟨hx, fun h => hold (h.symm.trans hkey)⟩, hkey⟩

/-- A put under a new key adds one row. -/
theorem count_put_new {t : Table ρ (sameKey key)} {r : ρ} (p : ρ → Bool)
    (h : ∀ x ∈ t, key x ≠ key r) :
    (t.put r).count p = t.count p + if p r then 1 else 0 := by
  have hany : t.any (fun x => decide (key x = key r)) = false :=
    any_eq_false.mpr fun x hx => by simpa using h x hx
  unfold put
  rw [dif_neg (by simp [hany])]
  simp [count, List.countP_append, List.countP_cons]

/-- A put under a key that is taken replaces a row: a count that reads
only the key stays. -/
theorem count_put_old {t : Table ρ (sameKey key)} {r : ρ} (p : ρ → Bool)
    (hp : ∀ x, key x = key r → p x = p r) {y : ρ} (hy : y ∈ t)
    (hkey : key y = key r) : (t.put r).count p = t.count p := by
  have hany : t.any (fun x => decide (key x = key r)) = true :=
    any_iff.mpr ⟨y, hy, by simpa using hkey⟩
  unfold put
  rw [dif_pos hany]
  simp only [count, List.countP_map]
  refine List.countP_congr fun x _ => ?_
  simp only [Function.comp]
  split
  · rename_i hk; rw [hp x hk]
  · rfl

end Keyed

theorem count_delete_le (t : Table ρ clash) (p q : ρ → Bool) :
    (t.delete q).count p ≤ t.count p :=
  List.Sublist.countP_le List.filter_sublist

end Table

/-- A dictionary: pairs under their keys, in the order the keys came in. -/
abbrev Dict (κ ν : Type) [DecidableEq κ] := Table (κ × ν) (sameKey Prod.fst)

namespace Dict

variable {κ ν : Type} [DecidableEq κ]

def get? (d : Dict κ ν) (k : κ) : Option ν := (d.find? fun e => decide (e.1 = k)).map (·.2)

variable {d : Dict κ ν} {k k' : κ} {v : ν}

theorem get?_put_self : get? (d.put (k, v)) k = some v := by
  have hmem : (k, v) ∈ d.put (k, v) := Table.mem_put.mpr (Or.inl rfl)
  unfold get?
  rw [Table.find?_eq_of_mem Table.sameKey_symm hmem (decide_eq_true rfl) fun x hx =>
    Table.sameKey_iff.mpr (of_decide_eq_true hx)]
  rfl

theorem get?_put_of_ne (h : k' ≠ k) : get? (d.put (k, v)) k' = get? d k' := by
  unfold get?
  rw [Table.find?_congr (fun _ hx => hx) (Table.filter_put fun x hx => ?_)]
  rw [hx]
  exact decide_eq_false h.symm

theorem get?_delete {q : κ → Bool} :
    get? (d.delete fun e => q e.1) k = if q k then none else get? d k := by
  unfold get?
  rw [Table.find?_key_delete]
  split <;> rfl

/-- The values rewritten, the keys as they were. -/
theorem get?_modify {f : Table.Rewrite (sameKey (Prod.fst : κ × ν → κ))} {g : κ → ν → ν}
    (hf : ∀ e, f.apply e = (e.1, g e.1 e.2)) :
    get? (d.modify (fun _ => true) f) k = (get? d k).map (g k) := by
  unfold get? Table.find? Table.modify
  simp only [if_true, hf]
  rw [List.find?_map]
  have hkey : (fun e : κ × ν => decide (e.1 = k)) ∘ (fun e : κ × ν => (e.1, g e.1 e.2))
      = fun e => decide (e.1 = k) := rfl
  rw [hkey]
  cases hfound : d.rows.find? fun e => decide (e.1 = k) with
  | none => rfl
  | some e =>
      have hk := List.find?_some hfound
      simp [of_decide_eq_true hk]

end Dict
