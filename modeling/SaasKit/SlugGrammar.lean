import SaasKit.DemoSeed
import SaasKit.Lib.Pattern

/-!
# The slug of a tenant: `validate_slug`

The pattern ends in `$`, which also matches in front of one newline at the
end. The normalised text never ends in one, so what is accepted is exactly
the grammar: blocks of letters and digits, joined by single hyphens
(`validateSlug_grammar`).
-/

namespace SaasKit

namespace SlugGrammar

open Pattern TenantService

/-! ## The pattern -/

/-- `[a-z0-9]`. -/
def slugChars : List Char := "abcdefghijklmnopqrstuvwxyz0123456789".toList

/-- `_SLUG_PATTERN` between its anchors: `[a-z0-9]+(?:-[a-z0-9]+)*`. -/
def slugRegex : RegularExpression Char := separated '-' (oneOrMore (oneOf slugChars))

/-- `_SLUG_PATTERN.match(s)`. -/
def slugMatch (s : String) : Bool := matchesLine '\n' slugRegex s.toList

/-- `validate_slug`. -/
def validateSlug (cfg : Settings) (slug : String) : Except Exc String := do
  let normalized ← normalizeSlug cfg slug
  if slugMatch normalized then pure normalized
  else throw (.validationServiceError
    "Slug may only contain lowercase letters, numbers, and hyphens.")

/-! ## The grammar -/

/-- A sequence of blocks of letters and digits, joined by single hyphens. -/
def Slug (w : String) : Prop :=
  ∃ blocks : List (List Char), blocks ≠ [] ∧ w.toList = ['-'].intercalate blocks
    ∧ ∀ block ∈ blocks, block ≠ [] ∧ ∀ c ∈ block, c ∈ slugChars

/-- Nothing in it that a slug cannot have. -/
structure Tidy (w : String) : Prop where
  first : w.toList.head? ≠ some '-'
  last : w.toList.getLast? ≠ some '-'
  single : ¬ ['-', '-'] <:+: w.toList
  newline : '\n' ∉ w.toList
  underscore : '_' ∉ w.toList
  ascii : ∀ c ∈ w.toList, c.toNat < 128

/-- `str.lower`: it makes no newline at the end of a text, and there is nothing
to lower in small letters, digits and hyphens. -/
structure Lowers (lower : String → String) : Prop where
  newline : ∀ s, (lower s).toList.getLast? = some '\n' → s.toList.getLast? = some '\n'
  small : ∀ s, (∀ c ∈ s.toList, c ∈ slugChars ∨ c = '-') → lower s = s

section

variable {cfg : Settings} {s w : String}

/-! ## Slugs -/

/-- No whitespace, hyphen or underscore, and of ASCII. -/
def Plain (c : Char) : Prop :=
  isSpace c = false ∧ c ≠ ' ' ∧ c ≠ '-' ∧ c ≠ '\n' ∧ c ≠ '_' ∧ c.toNat < 128

instance : DecidablePred Plain := fun _ => inferInstanceAs (Decidable (_ ∧ _))

theorem slugChar_plain : ∀ c ∈ slugChars, Plain c := by
  have hall : slugChars.all (fun c => decide (Plain c)) = true := by decide
  exact fun c hc => of_decide_eq_true (List.all_eq_true.mp hall c hc)

theorem isSlugChar_iff {c : Char} : isSlugChar c = true ↔ c ∈ slugChars := by
  have hmem : c ∈ slugChars ↔ c.toNat ∈ slugChars.map Char.toNat :=
    (List.mem_map_of_injective fun _ _ h => Char.toNat_inj.mp h).symm
  have hcodes : slugChars.map Char.toNat = List.range' 97 26 ++ List.range' 48 10 := by decide
  rw [hmem, hcodes, List.mem_append, List.mem_range'_1, List.mem_range'_1]
  simp only [isSlugChar, Bool.or_eq_true, Bool.and_eq_true, decide_eq_true_eq, Char.le_def,
    UInt32.le_iff_toNat_le]
  show (97 ≤ c.toNat ∧ c.toNat ≤ 122) ∨ (48 ≤ c.toNat ∧ c.toNat ≤ 57) ↔ _
  omega

theorem slugMatch_iff : slugMatch s = true ↔
    Slug s ∨ ∃ line, s.toList = line ++ ['\n'] ∧ Slug (String.ofList line) := by
  have hregex : ∀ text, slugRegex.rmatch text ↔ Slug (String.ofList text) := by
    intro text
    rw [slugRegex, separated_rmatch, Slug, String.toList_ofList]
    simp only [oneOrMore_oneOf_rmatch]
    exact exists_congr fun blocks => and_congr_right fun _ => and_comm
  rw [slugMatch, matchesLine_iff, hregex, String.ofList_toList]
  simp only [hregex]

/-- The runs between the hyphens of a slug are its blocks. -/
theorem slug_iff_runs :
    Slug w ↔ ∀ run ∈ w.toList.splitOn '-', run ≠ [] ∧ ∀ c ∈ run, c ∈ slugChars := by
  constructor
  · rintro ⟨blocks, hne, hw, hblocks⟩
    have hplain : ∀ block ∈ blocks, '-' ∉ block := fun block hblock hc =>
      (slugChar_plain '-' ((hblocks block hblock).2 '-' hc)).2.2.1 rfl
    rw [hw, List.splitOn_intercalate '-' hplain hne]
    exact hblocks
  · intro hruns
    exact ⟨w.toList.splitOn '-', List.splitOn_ne_nil '-' _, (List.intercalate_splitOn '-').symm,
      hruns⟩

theorem slugPattern_iff : slugPattern w = true ↔ Slug w := by
  rw [slugPattern, slug_iff_runs, List.all_eq_true]
  refine forall₂_congr fun run _ => ?_
  simp [isSlugChar_iff]

/-- A slug is made of the characters of its blocks and hyphens. -/
theorem Slug.char (h : Slug w) : ∀ c ∈ w.toList, c ∈ slugChars ∨ c = '-' := by
  obtain ⟨blocks, hne, hw, hblocks⟩ := h
  obtain ⟨first, rest, rfl⟩ := List.exists_cons_of_ne_nil hne
  obtain ⟨hfirst, hrest⟩ := List.forall_mem_cons.mp hblocks
  intro c hc
  rw [hw, intercalate_cons, List.mem_append, List.mem_flatten] at hc
  rcases hc with hc | ⟨tail, htail, hc⟩
  · exact Or.inl (hfirst.2 c hc)
  · obtain ⟨block, hblock, rfl⟩ := List.mem_map.mp htail
    rcases List.mem_cons.mp hc with rfl | hc
    · exact Or.inr rfl
    · exact Or.inl ((hrest block hblock).2 c hc)

/-- No hyphen stands beside another, or at an end: the run there would be
empty. -/
theorem Slug.no_empty_run (h : Slug w) : [] ∉ w.toList.splitOn '-' :=
  fun hmem => (slug_iff_runs.mp h [] hmem).1 rfl

theorem Slug.tidy (h : Slug w) : Tidy w where
  first hfirst := by
    obtain ⟨rest, hrest⟩ := List.head?_eq_some_iff.mp hfirst
    refine h.no_empty_run ?_
    have hrest : w.toList = [] ++ '-' :: rest := hrest
    rw [hrest, List.splitOn_append_cons_self]
    exact List.mem_append_left _ List.mem_cons_self
  last hlast := by
    obtain ⟨rest, hrest⟩ := List.getLast?_eq_some_iff.mp hlast
    refine h.no_empty_run ?_
    rw [hrest, List.splitOn_append_cons_self]
    exact List.mem_append_right _ List.mem_cons_self
  single := by
    rintro ⟨pre, post, hw⟩
    refine h.no_empty_run ?_
    have hw : w.toList = pre ++ '-' :: ([] ++ '-' :: post) := by simpa using hw.symm
    rw [hw, List.splitOn_append_cons_self, List.splitOn_append_cons_self]
    exact List.mem_append_right _ (List.mem_append_left _ List.mem_cons_self)
  newline hmem := (h.char _ hmem).elim (fun hc => (slugChar_plain _ hc).2.2.2.1 rfl) (by decide)
  underscore hmem :=
    (h.char _ hmem).elim (fun hc => (slugChar_plain _ hc).2.2.2.2.1 rfl) (by decide)
  ascii c hmem := by
    rcases h.char c hmem with hc | rfl
    · exact (slugChar_plain c hc).2.2.2.2.2
    · decide

theorem Slug.ne_empty (h : Slug w) : w ≠ "" := by
  rintro rfl
  exact h.no_empty_run List.mem_cons_self

/-! ## The normalised text -/

theorem getLast_strip {c : Char} (h : (strip s).toList.getLast? = some c) : isSpace c = false := by
  rw [strip, String.toList_ofList, List.getLast?_reverse] at h
  have hhead := List.head?_dropWhile_not isSpace (s.toList.dropWhile isSpace).reverse
  rw [h] at hhead
  exact hhead

theorem normalizeSlug_ok :
    normalizeSlug cfg s = .ok w ↔ w = hyphenate (cfg.lower (strip s)) ∧ w ≠ "" := by
  unfold normalizeSlug
  by_cases hempty : hyphenate (cfg.lower (strip s)) = ""
  · simp only [if_pos hempty, reduceCtorEq, false_iff]
    rintro ⟨rfl, hne⟩
    exact hne hempty
  · simp only [if_neg hempty, Except.ok.injEq]
    exact ⟨fun h => ⟨h.symm, h ▸ hempty⟩, fun h => h.1.symm⟩

/-- The anchor has no newline to let through. -/
theorem normalizeSlug_last (hlower : Lowers cfg.lower) (h : normalizeSlug cfg s = .ok w) :
    w.toList.getLast? ≠ some '\n' := by
  obtain ⟨rfl, -⟩ := normalizeSlug_ok.mp h
  intro hlast
  rw [hyphenate, String.toList_ofList, List.getLast?_map, Option.map_eq_some_iff] at hlast
  obtain ⟨c, hc, hnewline⟩ := hlast
  split at hnewline
  · cases hnewline
  · have hspace := getLast_strip (hlower.newline _ (hnewline ▸ hc))
    revert hspace
    decide

theorem slugMatch_normalized (hlower : Lowers cfg.lower) (h : normalizeSlug cfg s = .ok w) :
    slugMatch w = true ↔ Slug w := by
  rw [slugMatch_iff]
  refine or_iff_left ?_
  rintro ⟨line, hw, -⟩
  exact normalizeSlug_last hlower h (by rw [hw, List.getLast?_concat])

/-- A slug is its own normal form. -/
theorem normalizeSlug_slug (hlower : Lowers cfg.lower) (h : Slug w) :
    normalizeSlug cfg w = .ok w := by
  have hplain : ∀ c ∈ w.toList, isSpace c = false ∧ c ≠ ' ' := by
    intro c hc
    rcases h.char c hc with hc | rfl
    · exact ⟨(slugChar_plain c hc).1, (slugChar_plain c hc).2.1⟩
    · decide
  have hkeep : ∀ c ∈ w.toList, (if c = ' ' then '-' else c) = c :=
    fun c hc => if_neg (hplain c hc).2
  refine normalizeSlug_ok.mpr ⟨?_, h.ne_empty⟩
  rw [strip_plain fun c hc => (hplain c hc).1, hlower.small w h.char, hyphenate,
    List.map_congr_left hkeep, List.map_id', String.ofList_toList]

/-! ## Accepted slugs -/

theorem validateSlug_ok (hlower : Lowers cfg.lower) :
    validateSlug cfg s = .ok w ↔ normalizeSlug cfg s = .ok w ∧ Slug w := by
  rw [validateSlug, except_bind_ok]
  constructor
  · rintro ⟨normalized, hnormal, hmatch⟩
    split at hmatch
    · rename_i hslug
      obtain rfl := Except.ok.inj hmatch
      exact ⟨hnormal, (slugMatch_normalized hlower hnormal).mp hslug⟩
    · cases hmatch
  · rintro ⟨hnormal, hslug⟩
    exact ⟨w, hnormal, if_pos ((slugMatch_normalized hlower hnormal).mpr hslug)⟩

theorem validateSlug_error {e : Exc} (h : validateSlug cfg s = .error e) :
    ∃ message, e = .validationServiceError message := by
  unfold validateSlug normalizeSlug at h
  simp only at h
  split at h
  · exact ⟨_, (Except.error.inj h).symm⟩
  · simp only [bind, Except.bind] at h
    split at h
    · cases h
    · exact ⟨_, (Except.error.inj h).symm⟩

/-- Reading the pattern as runs between hyphens comes to the same. -/
theorem validateSlug_eq (hlower : Lowers cfg.lower) :
    validateSlug cfg s = TenantService.validateSlug cfg s := by
  rw [validateSlug, TenantService.validateSlug]
  cases hnormal : normalizeSlug cfg s with
  | error e => rfl
  | ok normalized =>
      have hmatch : slugMatch normalized = slugPattern normalized :=
        Bool.eq_iff_iff.mpr ((slugMatch_normalized hlower hnormal).trans slugPattern_iff.symm)
      simp only [bind, Except.bind, hmatch]

/-- Validation accepts exactly the texts whose normal form is in the grammar,
answers with that form, and refuses every other. -/
theorem validateSlug_grammar (cfg : Settings) (hlower : Lowers cfg.lower) (s : String) :
    (∀ w, validateSlug cfg s = .ok w ↔ normalizeSlug cfg s = .ok w ∧ Slug w)
      ∧ ((¬ ∃ w, normalizeSlug cfg s = .ok w ∧ Slug w) →
        ∃ message, validateSlug cfg s = .error (.validationServiceError message))
      ∧ ∀ w, validateSlug cfg s = .ok w → Tidy w ∧ validateSlug cfg w = .ok w := by
  refine ⟨fun w => validateSlug_ok hlower, fun hnone => ?_, fun w hw => ?_⟩
  · cases hvalid : validateSlug cfg s with
    | error e =>
        obtain ⟨message, rfl⟩ := validateSlug_error hvalid
        exact ⟨message, rfl⟩
    | ok w => exact absurd ⟨w, (validateSlug_ok hlower).mp hvalid⟩ hnone
  · have hslug := ((validateSlug_ok hlower).mp hw).2
    exact ⟨hslug.tidy, (validateSlug_ok hlower).mpr ⟨normalizeSlug_slug hlower hslug, hslug⟩⟩

theorem slugChar_toLower : ∀ c ∈ slugChars, c.toLower = c := by
  have hall : slugChars.all (fun c => c.toLower == c) = true := by decide
  exact fun c hc => eq_of_beq (List.all_eq_true.mp hall c hc)

theorem toLower_newline {c : Char} (h : c.toLower = '\n') : c = '\n' := by
  unfold Char.toLower at h
  split at h
  · rename_i hupper
    have hcode : c.val + 32 = 10 := congrArg Char.val h
    have hfirst : 65 ≤ c.val := hupper.1
    have hlast : c.val ≤ 90 := hupper.2
    grind
  · exact h

/-- The demo settings lower text so. -/
theorem lowers_settings : Lowers DemoSeed.settings.lower where
  newline s h := by
    have h : (String.ofList (s.toList.map Char.toLower)).toList.getLast? = some '\n' := h
    rw [String.toList_ofList, List.getLast?_map, Option.map_eq_some_iff] at h
    obtain ⟨c, hc, hlow⟩ := h
    rw [hc, ← toLower_newline hlow]
  small s h := by
    have hkeep : ∀ c ∈ s.toList, c.toLower = c := by
      intro c hc
      rcases h c hc with hc | rfl
      · exact slugChar_toLower c hc
      · decide
    show String.ofList (s.toList.map Char.toLower) = s
    rw [List.map_congr_left hkeep, List.map_id', String.ofList_toList]

end

theorem validateSlug_myTenant :
    validateSlug DemoSeed.settings "  My Tenant\n" = .ok "my-tenant"
      ∧ Tidy "my-tenant" ∧ validateSlug DemoSeed.settings "my-tenant" = .ok "my-tenant" := by
  have hvalid : validateSlug DemoSeed.settings "  My Tenant\n" = .ok "my-tenant" := by decide
  exact ⟨hvalid,
    (validateSlug_grammar DemoSeed.settings lowers_settings "  My Tenant\n").2.2 "my-tenant" hvalid⟩

end SlugGrammar

end SaasKit
