import Mathlib.Logic.Basic

/-!
# Python values the services handle

What the source takes from the language: the exceptions its functions
raise, `str.strip`, and JSON documents as `dict`/`list`/scalar values with
Python's own errors for a value of the wrong type (`get` on something that
is not a dict raises `AttributeError`, and so on). Fallible code is
`Except Exc`.
-/

namespace SaasKit

/-- The exceptions that cross a function boundary in the modelled code.
The first four are the service-layer errors with their user-facing
messages, `operationalError` is an unreachable broker. -/
inductive Exc where
  | validationServiceError (message : String)
  | conflictServiceError (message : String)
  | planLimitExceededError (message : String)
  | notFoundServiceError (message : String)
  | operationalError
  | integrityError
  | databaseError
  | dataError
  | djangoValidationError
  | multipleObjectsReturned
  | attributeError
  | typeError
  | keyError
  | indexError
  | valueError
  | overflowError
  | osError
  deriving DecidableEq, Repr

/-- A refusal: the input is not valid, or it is taken. -/
def Exc.Refusal : Exc → Prop
  | .validationServiceError _ | .conflictServiceError _ => True
  | _ => False

theorem except_bind_ok {ε α β : Type} {x : Except ε α} {f : α → Except ε β} {b : β} :
    (x >>= f) = .ok b ↔ ∃ a, x = .ok a ∧ f a = .ok b := by
  cases x with
  | error e => simp [bind, Except.bind]
  | ok a => simp [bind, Except.bind]

theorem except_map_ok {ε α β : Type} {x : Except ε α} {f : α → β} {b : β} :
    (f <$> x) = .ok b ↔ ∃ a, x = .ok a ∧ f a = b := by
  cases x with
  | error e => simp [Functor.map, Except.map]
  | ok a => simp [Functor.map, Except.map]

/-! ## Strings -/

/-- The characters `str.strip()` removes: `str.isspace`. -/
def isSpace (c : Char) : Bool :=
  c.toNat ∈ [0x09, 0x0A, 0x0B, 0x0C, 0x0D, 0x1C, 0x1D, 0x1E, 0x1F, 0x20, 0x85, 0xA0,
    0x1680, 0x2000, 0x2001, 0x2002, 0x2003, 0x2004, 0x2005, 0x2006, 0x2007, 0x2008,
    0x2009, 0x200A, 0x2028, 0x2029, 0x202F, 0x205F, 0x3000]

def strip (s : String) : String :=
  String.ofList ((s.toList.dropWhile isSpace).reverse.dropWhile isSpace).reverse

theorem dropWhile_plain {l : List Char} (h : ∀ c ∈ l, isSpace c = false) :
    l.dropWhile isSpace = l := by
  cases l with
  | nil => rfl
  | cons c l => exact List.dropWhile_cons_of_neg (by simp [h c List.mem_cons_self])

/-- There is nothing to strip from a text without whitespace. -/
theorem strip_plain {s : String} (h : ∀ c ∈ s.toList, isSpace c = false) : strip s = s := by
  have hreverse : ∀ c ∈ s.toList.reverse, isSpace c = false :=
    fun c hc => h c (List.mem_reverse.mp hc)
  rw [strip, dropWhile_plain h, dropWhile_plain hreverse, List.reverse_reverse,
    String.ofList_toList]

/-- The first part before a separator is not changed by what comes after
one. -/
theorem takeWhile_separator {c : Char} (p q : List Char) :
    (p ++ c :: q).takeWhile (· ≠ c) = p.takeWhile (· ≠ c) := by
  rw [List.takeWhile_append]
  split
  · rename_i hall
    have hself := (List.takeWhile_prefix (· ≠ c)).eq_of_length hall
    rw [hself]
    simp
  · rfl

/-- What comes before the first separator, and after it. -/
theorem eq_of_separator {c : Char} {p p' q q' : List Char} (hp : c ∉ p) (hp' : c ∉ p')
    (h : p ++ c :: q = p' ++ c :: q') : p = p' ∧ q = q' := by
  have hhead : ∀ l rest : List Char, c ∉ l → (l ++ c :: rest).takeWhile (· ≠ c) = l := by
    intro l rest hl
    have hplain : ∀ x ∈ l, decide (x ≠ c) = true := by
      intro x hx
      exact decide_eq_true fun hxc => hl (hxc ▸ hx)
    rw [List.takeWhile_append_of_pos hplain]
    simp
  obtain rfl : p = p' := by rw [← hhead p q hp, h, hhead p' q' hp']
  exact ⟨rfl, (List.cons.inj (List.append_cancel_left h)).2⟩

/-- `str` tells integers apart. -/
theorem toString_nat_inj {m n : Nat} (h : toString m = toString n) : m = n := by
  have hdigits : Nat.toDigits 10 m = Nat.toDigits 10 n := by
    rw [← Nat.toList_repr, ← Nat.toList_repr]
    exact congrArg String.toList h
  rw [← @Nat.ofDigitChars_ten_toDigits m, hdigits, Nat.ofDigitChars_ten_toDigits]

theorem isDigit_of_mem_toString {n : Nat} {c : Char} (h : c ∈ (toString n).toList) :
    c.isDigit = true := by
  have hdigits : (toString n).toList = Nat.toDigits 10 n := Nat.toList_repr
  rw [hdigits] at h
  exact Nat.isDigit_of_mem_toDigits (by decide) (by decide) h

/-- `str(uuid.UUID(int=id))`. -/
def uuidStr (id : Nat) : String :=
  let hex := (Nat.toDigits 16 id).leftpad 32 '0'
  "-".intercalate ([hex.take 8, (hex.drop 8).take 4, (hex.drop 12).take 4,
    (hex.drop 16).take 4, hex.drop 20].map String.ofList)

example : uuidStr 0x1234567890abcdef = "00000000-0000-0000-1234-567890abcdef" := by
  decide

/-- `int(c, 16)`. -/
def hexDigit (c : Char) : Nat :=
  if c.isDigit then c.toNat - '0'.toNat else c.toNat - 'a'.toNat + 10

/-- `uuid.UUID(s).int`. -/
def uuidInt (s : String) : Nat :=
  (s.toList.filter (· ≠ '-')).foldl (fun n c => 16 * n + hexDigit c) 0

theorem hexDigit_digitChar {d : Nat} (h : d < 16) : hexDigit d.digitChar = d := by
  have hall : ∀ d : Fin 16, hexDigit d.val.digitChar = d.val := by decide
  exact hall ⟨d, h⟩

theorem digitChar_ne_hyphen {d : Nat} (h : d < 16) : d.digitChar ≠ '-' := by
  have hall : ∀ d : Fin 16, d.val.digitChar ≠ '-' := by decide
  exact hall ⟨d, h⟩

/-- The digits of a number, read back; and no hyphen among them. -/
theorem toDigits_hex (n : Nat) :
    (Nat.toDigits 16 n).foldl (fun n c => 16 * n + hexDigit c) 0 = n
      ∧ ∀ c ∈ Nat.toDigits 16 n, c ≠ '-' := by
  induction n using Nat.strongRecOn with
  | ind n ih =>
      by_cases hsmall : n < 16
      · rw [Nat.toDigits_of_lt_base hsmall]
        refine ⟨by simp [hexDigit_digitChar hsmall], fun c hc => ?_⟩
        rw [List.mem_singleton.mp hc]
        exact digitChar_ne_hyphen hsmall
      · have hmod : n % 16 < 16 := Nat.mod_lt n (by omega)
        obtain ⟨hvalue, hplain⟩ := ih (n / 16) (by omega)
        rw [Nat.toDigits_of_base_le (by omega) (by omega)]
        refine ⟨?_, fun c hc => ?_⟩
        · rw [List.foldl_append, hvalue, List.foldl_cons, List.foldl_nil, hexDigit_digitChar hmod]
          exact Nat.div_add_mod n 16
        · rcases List.mem_append.mp hc with hc | hc
          · exact hplain c hc
          · rw [List.mem_singleton.mp hc]
            exact digitChar_ne_hyphen hmod

theorem foldl_zeros (k : Nat) :
    (List.replicate k '0').foldl (fun n c => 16 * n + hexDigit c) 0 = 0 := by
  induction k with
  | zero => rfl
  | succ k ih => exact ih

theorem uuidInt_uuidStr (id : Nat) : uuidInt (uuidStr id) = id := by
  obtain ⟨hvalue, hplain⟩ := toDigits_hex id
  have hpadded : ∀ c ∈ (Nat.toDigits 16 id).leftpad 32 '0', c ≠ '-' := by
    intro c hc
    rcases List.mem_append.mp hc with hc | hc
    · rw [List.eq_of_mem_replicate hc]
      decide
    · exact hplain c hc
  have hfold : ((Nat.toDigits 16 id).leftpad 32 '0').foldl (fun n c => 16 * n + hexDigit c) 0
      = id := by
    rw [List.leftpad, List.foldl_append, foldl_zeros, hvalue]
  unfold uuidInt uuidStr
  generalize (Nat.toDigits 16 id).leftpad 32 '0' = hex at hpadded hfold
  have hkept : ∀ part : List Char, part.Sublist hex → part.filter (· ≠ '-') = part :=
    fun part hpart => List.filter_eq_self.mpr fun c hc =>
      decide_eq_true (hpadded c (hpart.subset hc))
  have hdrop : ∀ m n, (hex.drop m).take n ++ hex.drop (m + n) = hex.drop m := by
    intro m n
    rw [← List.drop_drop, List.take_append_drop]
  have hhyphen : "-".toList.filter (· ≠ '-') = [] := rfl
  simp only [List.map_cons, List.map_nil, String.intercalate_cons_cons,
    String.intercalate_singleton, String.toList_append, String.toList_ofList, List.filter_append,
    hhyphen, List.append_nil, hkept _ (List.take_sublist ..), hkept _ (List.drop_sublist ..),
    hkept _ ((List.take_sublist ..).trans (List.drop_sublist ..))]
  rw [hdrop 16 4, hdrop 12 4, hdrop 8 4, List.take_append_drop, hfold]

theorem uuidStr_inj {id id' : Nat} (h : uuidStr id = uuidStr id') : id = id' := by
  rw [← uuidInt_uuidStr id, h, uuidInt_uuidStr]

/-! ## JSON documents -/

inductive Json where
  | null
  | bool (b : Bool)
  | num (n : Int)
  | str (s : String)
  | arr (items : List Json)
  | obj (fields : List (String × Json))
  deriving Repr

namespace Json

/-- `d.get(key, default)`. -/
def get (d : Json) (key : String) (default : Json) : Except Exc Json :=
  match d with
  | .obj fields => .ok ((fields.lookup key).getD default)
  | _ => .error .attributeError

/-- `bool(v)`. -/
def truthy : Json → Bool
  | .null => false
  | .bool b => b
  | .num n => n != 0
  | .str s => s != ""
  | .arr items => !items.isEmpty
  | .obj fields => !fields.isEmpty

/-- The value as the receiver of a `str` method. -/
def asStr : Json → Except Exc String
  | .str s => .ok s
  | _ => .error .attributeError

/-- `d[key]`. -/
def item (d : Json) (key : String) : Except Exc Json :=
  match d with
  | .obj fields =>
      match fields.lookup key with
      | some v => .ok v
      | none => .error .keyError
  | _ => .error .typeError

/-- What `for x in v` runs over. -/
def iter : Json → Except Exc (List Json)
  | .arr items => .ok items
  | .obj fields => .ok (fields.map fun f => .str f.1)
  | .str s => .ok (s.toList.map fun c => .str (String.singleton c))
  | _ => .error .typeError

/-- `v[0]`. -/
def first : Json → Except Exc Json
  | .arr (x :: _) => .ok x
  | .arr [] => .error .indexError
  | .str s =>
      match s.toList with
      | c :: _ => .ok (.str (String.singleton c))
      | [] => .error .indexError
  | .obj _ => .error .keyError
  | _ => .error .typeError

end Json

end SaasKit
