import SaasKit.DemoSeed
import SaasKit.Lib.Loop
import SaasKit.ProviderAnswers

/-!
# The search for a user name: `_unique_username`

The loop has no bound of its own. It ends because its names differ and the
table is finite (`search_ends`), and the invariant of its rounds, that all
names so far are taken, makes the name it stops at the first free one
(`search_first`). The search with a bound, which the calls of the service
use, comes to the same name (`search_eq`).
-/

namespace SaasKit

namespace UsernameSearch

open SocialAuthService Loop

/-! ## The loop -/

/-- The variables of the loop. -/
structure Search where
  username : String
  counter : Nat

def start (base : String) : Search := ⟨base, 1⟩

def taken (users : Table User User.clash) (search : Search) : Bool :=
  users.any (·.username == search.username)

/-- A round. -/
def next (base : String) (search : Search) : Search :=
  ⟨base ++ "_" ++ toString search.counter, search.counter + 1⟩

/-- `_unique_username(base)` returns in this state. -/
def Returns (users : Table User User.clash) (base : String) (final : Search) : Prop :=
  Ends (taken users) (next base) (start base) final

/-! ## What it returns -/

/-- `\w` has the letters and digits of ASCII and the underscore. -/
def WordClass (text : Text) : Prop :=
  ∀ c : Char, c.isAlphanum = true ∨ c = '_' → text.isWord c = true

def Word (text : Text) (s : String) : Prop := ∀ c ∈ s.toList, text.isWord c = true

/-- Nobody has the name, and it is the base or the base with the least number that gives
such a name. -/
structure Fresh (users : Table User User.clash) (base name : String) : Prop where
  nonempty : name ≠ ""
  free : users.any (·.username == name) = false
  unnumbered : users.any (·.username == base) = false → name = base
  numbered : users.any (·.username == base) = true →
    ∃ k, 1 ≤ k ∧ name = base ++ "_" ++ toString k
      ∧ ∀ j, 1 ≤ j → j < k → users.any (·.username == base ++ "_" ++ toString j) = true

variable {users : Table User User.clash} {text : Text} {provider base name : String}
  {search final : Search}

/-! ## Rounds -/

/-- After some rounds: the name of the last one, and those before it are
taken. -/
def Tried (users : Table User User.clash) (base : String) (search : Search) : Prop :=
  ∃ k, search = ⟨candidate base k, k + 1⟩
    ∧ ∀ j, j < k → users.any (·.username == candidate base j) = true

theorem tried_start : Tried users base (start base) :=
  ⟨0, rfl, fun j hj => absurd hj (Nat.not_lt_zero j)⟩

theorem tried_next (h : Tried users base search) (htaken : taken users search = true) :
    Tried users base (next base search) := by
  obtain ⟨k, rfl, hbelow⟩ := h
  refine ⟨k + 1, rfl, fun j hj => ?_⟩
  rcases Nat.lt_succ_iff_lt_or_eq.mp hj with hj | rfl
  · exact hbelow j hj
  · exact htaken

theorem iterate_next (k : Nat) : (next base)^[k] (start base) = ⟨candidate base k, k + 1⟩ := by
  induction k with
  | zero => rfl
  | succ k ih =>
      rw [Function.iterate_succ_apply', ih]
      rfl

/-- There are more names than users. -/
theorem search_ends (users : Table User User.clash) (base : String) :
    ∃ final, Returns users base final := by
  obtain ⟨k, -, hfree⟩ := exists_free users base
  refine ends_of_iterate (n := k) ?_
  rw [iterate_next]
  exact hfree

theorem search_first (h : Returns users base final) :
    ∃ k, final.username = candidate base k
      ∧ users.any (·.username == candidate base k) = false
      ∧ ∀ j, j < k → users.any (·.username == candidate base j) = true := by
  obtain ⟨⟨k, rfl, hbelow⟩, hfree⟩ := h.rule (fun _ => tried_next) tried_start
  exact ⟨k, rfl, hfree, hbelow⟩

theorem search_eq (h : Returns users base final) : final.username = uniqueUsername users base := by
  obtain ⟨k, hname, hfree, hbelow⟩ := search_first h
  obtain ⟨m, hunique, hfree', hbelow'⟩ := uniqueUsername_free users base
  rw [hname, hunique]
  rcases Nat.lt_trichotomy k m with hlt | rfl | hlt
  · rw [hbelow' k hlt] at hfree
    cases hfree
  · rfl
  · rw [hbelow m hlt] at hfree'
    cases hfree'

/-! ## The name -/

theorem word_of_all {s : String} (hword : WordClass text)
    (h : s.toList.all (fun c => c.isAlphanum || c == '_') = true) : Word text s := by
  intro c hc
  have hc := List.all_eq_true.mp h c hc
  rw [Bool.or_eq_true, beq_iff_eq] at hc
  exact hword c hc

theorem fresh_candidate {k : Nat} (hbase : base ≠ "")
    (hfree : users.any (·.username == candidate base k) = false)
    (hbelow : ∀ j, j < k → users.any (·.username == candidate base j) = true) :
    Fresh users base (candidate base k) := by
  cases k with
  | zero =>
      refine ⟨hbase, hfree, fun _ => rfl, fun htaken => ?_⟩
      rw [candidate] at hfree
      rw [hfree] at htaken
      cases htaken
  | succ k =>
      have htaken : users.any (·.username == base) = true := hbelow 0 (Nat.succ_pos k)
      refine ⟨?_, hfree, fun hfree => ?_, fun _ => ⟨k + 1, Nat.succ_pos k, rfl, ?_⟩⟩
      · intro hempty
        rw [candidate, String.append_assoc] at hempty
        exact hbase (String.append_eq_empty_iff.mp hempty).1
      · rw [hfree] at htaken
        cases htaken
      · intro j hj hjk
        obtain ⟨i, rfl⟩ := Nat.exists_eq_add_of_le' hj
        exact hbelow (i + 1) hjk

theorem stripUnderscores_subset (s : List Char) : stripUnderscores s ⊆ s := by
  intro c hc
  rw [stripUnderscores, List.mem_reverse] at hc
  have hc := (List.dropWhile_sublist _).subset hc
  rw [List.mem_reverse] at hc
  exact (List.dropWhile_sublist _).subset hc

theorem word_append {s t : String} : Word text (s ++ t) ↔ Word text s ∧ Word text t := by
  unfold Word
  simp only [String.toList_append, List.forall_mem_append]

/-- The base without its other characters, cut to 30. -/
def cleaned (text : Text) (base : String) : String :=
  String.ofList ((stripUnderscores
    (base.toList.map fun c => if text.isWord c then c else '_')).take 30)

theorem makeUsername_eq (text : Text) (provider base : String) :
    makeUsername text provider base
      = if cleaned text base = "" then provider ++ "_user" else cleaned text base := rfl

theorem word_cleaned (hword : WordClass text) : Word text (cleaned text base) := by
  intro c hc
  rw [cleaned, String.toList_ofList] at hc
  have hc := stripUnderscores_subset _ (List.mem_of_mem_take hc)
  obtain ⟨d, -, rfl⟩ := List.mem_map.mp hc
  split
  · assumption
  · exact hword '_' (Or.inr rfl)

theorem word_makeUsername (hword : WordClass text) :
    Word text (makeUsername text provider base)
      ↔ cleaned text base ≠ "" ∨ Word text provider := by
  rw [makeUsername_eq]
  split
  case isTrue hclean =>
    rw [word_append, and_iff_left (word_of_all hword (by decide))]
    exact ⟨Or.inr, fun h => h.resolve_left (absurd hclean)⟩
  case isFalse hclean =>
    exact ⟨fun _ => Or.inl hclean, fun _ => word_cleaned hword⟩

theorem word_candidate (hword : WordClass text) :
    ∀ k, Word text (candidate base k) ↔ Word text base
  | 0 => Iff.rfl
  | k + 1 => by
      have hnumber : Word text (toString (k + 1)) := fun c hc =>
        hword c (Or.inl (by rw [Char.isAlphanum, isDigit_of_mem_toString hc, Bool.or_true]))
      rw [candidate, word_append, word_append, and_iff_left hnumber,
        and_iff_left (word_of_all hword (by decide))]

/-- The providers of the service. -/
theorem word_provider (hword : WordClass text) (h : provider ∈ ["google", "github"]) :
    Word text provider := by
  rcases List.mem_cons.mp h with rfl | h
  · exact word_of_all hword (by decide)
  · obtain rfl := List.mem_singleton.mp h
    exact word_of_all hword (by decide)

/-- The search ends, in one state, and its name is new. It has word
characters only, but where nothing is left of the base and the name of the
provider, which is not cleaned, has others. -/
theorem uniqueUsername_fresh (hword : WordClass text) (users : Table User User.clash)
    (provider base : String) :
    ∃ final, Returns users (makeUsername text provider base) final
      ∧ (∀ other, Returns users (makeUsername text provider base) other → other = final)
      ∧ Fresh users (makeUsername text provider base) final.username
      ∧ (Word text final.username ↔ cleaned text base ≠ "" ∨ Word text provider) := by
  obtain ⟨final, hfinal⟩ := search_ends users (makeUsername text provider base)
  obtain ⟨k, hname, hfree, hbelow⟩ := search_first hfinal
  refine ⟨final, hfinal, fun other => hfinal.unique, ?_, ?_⟩
  · rw [hname]
    exact fresh_candidate (ProviderAnswers.makeUsername_ne text provider base) hfree hbelow
  · rw [hname, word_candidate hword, word_makeUsername hword]

def asciiText : Text where
  lower s := String.ofList (s.toList.map Char.toLower)
  upper s := String.ofList (s.toList.map Char.toUpper)
  isWord c := c.isAlphanum || c == '_'
  str _ := ""
  repr s := s

theorem wordClass_ascii : WordClass asciiText := by
  rintro c (hc | rfl)
  · show (c.isAlphanum || c == '_') = true
    rw [hc, Bool.true_or]
  · rfl

def twoUsers : Table User User.clash := ⟨[DemoSeed.admin, DemoSeed.guest],
  DemoSeed.admin_guest_distinct⟩

theorem uniqueUsername_guest :
    ∃ final, Returns twoUsers "guest" final ∧ final.username = "guest_1"
      ∧ Word asciiText final.username := by
  have hbase : makeUsername asciiText "github" "_guest_" = "guest" := by decide
  obtain ⟨final, hfinal, -, -, hwords⟩ :=
    uniqueUsername_fresh wordClass_ascii twoUsers "github" "_guest_"
  rw [hbase] at hfinal
  have hname : final.username = "guest_1" := (search_eq hfinal).trans (by decide)
  exact ⟨final, hfinal, hname, hwords.mpr (Or.inr (word_provider wordClass_ascii (by decide)))⟩

/-- A base of which nothing is left, and a provider with a dash in its name. -/
theorem unclean_provider :
    ¬ ∀ text, WordClass text → ∀ (users : Table User User.clash) (provider base : String),
      ∃ final, Returns users (makeUsername text provider base) final
        ∧ Fresh users (makeUsername text provider base) final.username
        ∧ Word text final.username := by
  intro h
  obtain ⟨final, hfinal, -, hwords⟩ := h asciiText wordClass_ascii twoUsers "my-idp" "___"
  have hbase : makeUsername asciiText "my-idp" "___" = "my-idp_user" := by decide
  rw [hbase] at hfinal
  have hname : final.username = "my-idp_user" := (search_eq hfinal).trans (by decide)
  rw [hname] at hwords
  exact absurd (hwords '-' (by decide)) (by decide)

end UsernameSearch

end SaasKit
