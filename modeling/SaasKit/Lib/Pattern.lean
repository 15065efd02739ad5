import Mathlib.Computability.RegularExpressions

/-!
# Patterns

Classes, `+` and separated repetition as regular expressions, each with the
list of words it matches. A pattern that ends in `$` also matches in front of
one newline at the end of the text (`matchesLine_iff`).
-/

namespace Pattern

open RegularExpression

variable {α : Type} [DecidableEq α]

/-- `[…]`, from its members. -/
def oneOf (members : List α) : RegularExpression α :=
  members.foldr (fun a r => char a + r) 0

/-- `r+`. -/
def oneOrMore (r : RegularExpression α) : RegularExpression α := r * r.star

/-- `r(?:sep r)*`. -/
def separated (sep : α) (r : RegularExpression α) : RegularExpression α := r * (char sep * r).star

/-- The match of `^r$` from the start of a text. -/
def matchesLine (newline : α) (r : RegularExpression α) (text : List α) : Bool :=
  r.rmatch text || (text.getLast? == some newline && r.rmatch text.dropLast)

variable {members text : List α} {r : RegularExpression α} {sep newline : α}

theorem oneOf_rmatch : (oneOf members).rmatch text ↔ ∃ a ∈ members, text = [a] := by
  induction members with
  | nil => simp [oneOf]
  | cons a rest ih =>
      have hrest : (oneOf rest).rmatch text ↔ ∃ b ∈ rest, text = [b] := ih
      rw [oneOf] at hrest
      rw [oneOf, List.foldr_cons, add_rmatch_iff, char_rmatch_iff, hrest, List.exists_mem_cons_iff]

theorem star_rmatch : r.star.rmatch text ↔
    ∃ blocks : List (List α), text = blocks.flatten ∧ ∀ block ∈ blocks, r.rmatch block := by
  simp only [rmatch_iff_matches', matches'_star, Language.mem_kstar]

/-- One or more members of a class. -/
theorem oneOrMore_oneOf_rmatch :
    (oneOrMore (oneOf members)).rmatch text ↔ text ≠ [] ∧ ∀ a ∈ text, a ∈ members := by
  rw [oneOrMore, mul_rmatch_iff]
  constructor
  · rintro ⟨first, rest, rfl, hfirst, hrest⟩
    obtain ⟨a, ha, rfl⟩ := oneOf_rmatch.mp hfirst
    obtain ⟨blocks, rfl, hblocks⟩ := star_rmatch.mp hrest
    refine ⟨List.cons_ne_nil a _, List.forall_mem_cons.mpr ⟨ha, fun b hb => ?_⟩⟩
    obtain ⟨block, hblock, hb⟩ := List.mem_flatten.mp hb
    obtain ⟨c, hc, rfl⟩ := oneOf_rmatch.mp (hblocks block hblock)
    obtain rfl := List.mem_singleton.mp hb
    exact hc
  · rintro ⟨hne, hmembers⟩
    obtain ⟨a, rest, rfl⟩ := List.exists_cons_of_ne_nil hne
    obtain ⟨ha, hrest⟩ := List.forall_mem_cons.mp hmembers
    refine ⟨[a], rest, rfl, oneOf_rmatch.mpr ⟨a, ha, rfl⟩, star_rmatch.mpr ?_⟩
    refine ⟨rest.map ([·]), ?_, fun block hblock => ?_⟩
    · rw [← List.flatMap_def, List.flatMap_singleton']
    obtain ⟨b, hb, rfl⟩ := List.mem_map.mp hblock
    exact oneOf_rmatch.mpr ⟨b, hrest b hb, rfl⟩

omit [DecidableEq α] in
theorem intercalate_cons (first : List α) (blocks : List (List α)) :
    [sep].intercalate (first :: blocks) = first ++ (blocks.map (sep :: ·)).flatten := by
  induction blocks generalizing first with
  | nil => simp
  | cons block rest ih => simp [List.intercalate_cons_cons, ih block]

/-- The matches of the separated repetition are the blocks that `r` matches,
joined by the separator. -/
theorem separated_rmatch :
    (separated sep r).rmatch text ↔ ∃ blocks : List (List α), blocks ≠ []
      ∧ (∀ block ∈ blocks, r.rmatch block) ∧ text = [sep].intercalate blocks := by
  have htail : ∀ tail,
      (char sep * r).rmatch tail ↔ tail = sep :: tail.tail ∧ r.rmatch tail.tail := by
    intro tail
    rw [mul_rmatch_iff]
    constructor
    · rintro ⟨first, block, rfl, hfirst, hblock⟩
      obtain rfl := (char_rmatch_iff sep first).mp hfirst
      exact ⟨rfl, hblock⟩
    · rintro ⟨htail, hblock⟩
      exact ⟨[sep], tail.tail, htail, (char_rmatch_iff sep [sep]).mpr rfl, hblock⟩
  rw [separated, mul_rmatch_iff]
  constructor
  · rintro ⟨first, rest, rfl, hfirst, hrest⟩
    obtain ⟨tails, rfl, htails⟩ := star_rmatch.mp hrest
    have hmap : tails = (tails.map List.tail).map (sep :: ·) := by
      rw [List.map_map]
      calc tails = tails.map id := (List.map_id tails).symm
        _ = tails.map ((sep :: ·) ∘ List.tail) :=
            List.map_congr_left fun tail hmem => ((htail tail).mp (htails tail hmem)).1
    refine ⟨first :: tails.map List.tail, List.cons_ne_nil _ _,
      List.forall_mem_cons.mpr ⟨hfirst, fun block hblock => ?_⟩, ?_⟩
    · obtain ⟨tail, hmem, rfl⟩ := List.mem_map.mp hblock
      exact ((htail tail).mp (htails tail hmem)).2
    · rw [intercalate_cons, ← hmap]
  · rintro ⟨blocks, hne, hblocks, rfl⟩
    obtain ⟨first, rest, rfl⟩ := List.exists_cons_of_ne_nil hne
    obtain ⟨hfirst, hrest⟩ := List.forall_mem_cons.mp hblocks
    refine ⟨first, _, intercalate_cons first rest, hfirst, star_rmatch.mpr ⟨_, rfl, ?_⟩⟩
    intro block hblock
    obtain ⟨b, hb, rfl⟩ := List.mem_map.mp hblock
    exact (htail _).mpr ⟨rfl, hrest b hb⟩

theorem matchesLine_iff : matchesLine newline r text = true ↔
    r.rmatch text ∨ ∃ line, text = line ++ [newline] ∧ r.rmatch line := by
  rw [matchesLine, Bool.or_eq_true, Bool.and_eq_true, beq_iff_eq]
  refine or_congr_right ⟨fun h => ⟨text.dropLast, ?_, h.2⟩, ?_⟩
  · exact (List.dropLast_append_getLast? newline h.1).symm
  · rintro ⟨line, rfl, hline⟩
    rw [List.getLast?_concat, List.dropLast_concat]
    exact ⟨rfl, hline⟩

end Pattern
