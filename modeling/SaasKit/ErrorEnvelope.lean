import SaasKit.Python

/-!
# The error envelope

`saas_exception_handler` answers every exception with the keys `error`,
`message` and `details`. The code and the details always have the documented
shape. The message is the first text found in the exception's detail, or
`str(exc)` where there is none, and neither is checked: an exception that
says nothing is answered with an empty message (`enveloped_iff`).
-/

namespace SaasKit

namespace ErrorEnvelope

/-! ## Exceptions -/

/-- The detail of an API exception, as REST framework keeps it: lists and
dicts, and every leaf an `ErrorDetail`, a string with a code. -/
inductive Detail where
  | str (text : String) (code : Option String)
  | list (items : List Detail)
  | dict (fields : List (String × Detail))

def Detail.isStr : Detail → Bool
  | .str _ _ => true
  | _ => false

/-- A class of exceptions: `__name__`, and `default_code` if it has one. -/
structure ErrorClass where
  name : String
  defaultCode : Option String
  name_ne : name ≠ ""

/-- An argument of an exception, as `str` and `repr` show it. -/
structure Arg where
  str : String
  repr : String

inductive Kind where
  /-- `ValidationError.detail` is a list or a dict. -/
  | validationError (detail : Detail) (nested : detail.isStr = false)
  | apiException (detail : Detail)
  | http404 (args : List Arg)
  | permissionDenied (args : List Arg)
  | other

structure Raised where
  cls : ErrorClass
  kind : Kind

/-! ## Strings -/

/-- The Unicode tables behind `str.lower` and `str.isprintable`. -/
structure Unicode where
  lower : String → String
  printable : Char → Bool
  lower_ne : ∀ s, s ≠ "" → lower s ≠ ""

def isUpper (c : Char) : Bool := 'A' ≤ c && c ≤ 'Z'

def isLower (c : Char) : Bool := 'a' ≤ c && c ≤ 'z'

/-- Where the first substitution stands: it looks for a match, or has met one
and copies its capital, then its small letters. -/
inductive Scan where
  | search
  | capital
  | word

/-- `[A-Z][a-z]+` matches here. -/
def startsWord : List Char → Bool
  | u :: l :: _ => isUpper u && isLower l
  | _ => false

/-- `re.sub(r"(.)([A-Z][a-z]+)", r"\1_\2", name)`; the dot is no newline. -/
def splitWords : Scan → List Char → List Char
  | _, [] => []
  | .search, c :: rest =>
      if c != '\n' && startsWord rest then c :: '_' :: splitWords .capital rest
      else c :: splitWords .search rest
  | .capital, c :: rest => c :: splitWords .word rest
  | .word, c :: rest =>
      if isLower c then c :: splitWords .word rest
      else if c != '\n' && startsWord rest then c :: '_' :: splitWords .capital rest
      else c :: splitWords .search rest

/-- `re.sub(r"([a-z0-9])([A-Z])", r"\1_\2", s1)`. -/
def splitCapitals : List Char → List Char
  | [] => []
  | c :: rest =>
      if (isLower c || c.isDigit) && rest.head?.any isUpper then c :: '_' :: splitCapitals rest
      else c :: splitCapitals rest

/-- `_camel_to_snake`. -/
def camelToSnake (unicode : Unicode) (name : String) : String :=
  unicode.lower (String.ofList (splitCapitals (splitWords .search name.toList)))

/-- A hexadecimal number of at least this many digits. -/
def hex (width n : Nat) : List Char := (Nat.toDigits 16 n).leftpad width '0'

def quotes : Char := Char.ofNat 0x27

/-- `repr` of a string. -/
def reprStr (unicode : Unicode) (s : String) : String :=
  let quote := if s.toList.contains quotes && !s.toList.contains '"' then '"' else quotes
  let shown := fun c : Char =>
    if c == quote || c == '\\' then ['\\', c]
    else if c == '\n' then ['\\', 'n']
    else if c == '\r' then ['\\', 'r']
    else if c == '\t' then ['\\', 't']
    else if ' ' ≤ c && c.toNat < 0x7f || 0x7f < c.toNat && unicode.printable c then [c]
    else if c.toNat < 0x100 then '\\' :: 'x' :: hex 2 c.toNat
    else if c.toNat < 0x10000 then '\\' :: 'u' :: hex 4 c.toNat
    else '\\' :: 'U' :: hex 8 c.toNat
  String.ofList (quote :: s.toList.flatMap shown ++ [quote])

mutual

def repr (unicode : Unicode) : Detail → String
  | .str text code =>
      "ErrorDetail(string=" ++ reprStr unicode text ++ ", code="
        ++ (match code with | some code => reprStr unicode code | none => "None") ++ ")"
  | .list items => "[" ++ ", ".intercalate (reprItems unicode items) ++ "]"
  | .dict fields => "\x7b" ++ ", ".intercalate (reprFields unicode fields) ++ "\x7d"

def reprItems (unicode : Unicode) : List Detail → List String
  | [] => []
  | item :: rest => repr unicode item :: reprItems unicode rest

def reprFields (unicode : Unicode) : List (String × Detail) → List String
  | [] => []
  | (key, value) :: rest =>
      (reprStr unicode key ++ ": " ++ repr unicode value) :: reprFields unicode rest

end

/-- `str(exc)` of an exception with these arguments. -/
def strArgs : List Arg → String
  | [] => ""
  | [arg] => arg.str
  | args => "(" ++ ", ".intercalate (args.map (·.repr)) ++ ")"

/-! ## The handler -/

mutual

/-- `_flatten_detail`. -/
def flattenDetail (unicode : Unicode) : Detail → String
  | .str text _ => text
  | .list items => flattenItems unicode items
  | .dict fields =>
      match flattenFields unicode fields with
      | some text => text
      | none => if fields.isEmpty then "An error occurred." else repr unicode (.dict fields)

def flattenItems (unicode : Unicode) : List Detail → String
  | [] => "Invalid input."
  | item :: rest =>
      let text := flattenDetail unicode item
      if text != "" then text else flattenItems unicode rest

def flattenFields (unicode : Unicode) : List (String × Detail) → Option String
  | [] => none
  | (key, value) :: rest =>
      let text := flattenDetail unicode value
      if text != "" then some (key ++ ": " ++ text) else flattenFields unicode rest

end

mutual

/-- `_serialise_detail`. -/
def serialiseDetail : Detail → Json
  | .str text _ => .str text
  | .list items => .arr (serialiseItems items)
  | .dict fields => .obj (serialiseFields fields)

def serialiseItems : List Detail → List Json
  | [] => []
  | item :: rest => serialiseDetail item :: serialiseItems rest

def serialiseFields : List (String × Detail) → List (String × Json)
  | [] => []
  | (key, value) :: rest => (key, serialiseDetail value) :: serialiseFields rest

end

structure ErrorResponse where
  status : Nat
  headers : List (String × String)
  data : Json

/-- DRF's `exception_handler`: it knows its own exceptions and two of
Django's. -/
structure DrfHandler where
  handle : Raised → Option ErrorResponse
  handles : ∀ exc, (handle exc).isSome = true ↔ exc.kind ≠ .other

def envelope (error message : String) (details : Json) : Json :=
  .obj [("error", .str error), ("message", .str message), ("details", details)]

/-- `getattr(exc, "default_code", None) or _camel_to_snake(type(exc).__name__)`. -/
def errorCode (unicode : Unicode) (cls : ErrorClass) : String :=
  match cls.defaultCode with
  | some code => if code != "" then code else camelToSnake unicode cls.name
  | none => camelToSnake unicode cls.name

def message (unicode : Unicode) : Kind → String
  | .validationError _ _ => "Invalid input."
  | .apiException detail => flattenDetail unicode detail
  | .http404 args | .permissionDenied args => strArgs args
  | .other => ""

def details : Kind → Json
  | .validationError detail _ =>
      match serialiseDetail detail with
      | .arr items => .obj [("non_field_errors", .arr items)]
      | raw => raw
  | _ => .obj []

def saasExceptionHandler (unicode : Unicode) (drf : DrfHandler) (exc : Raised) : ErrorResponse :=
  match drf.handle exc with
  | none => ⟨500, [], envelope "server_error" "An unexpected error occurred." (.obj [])⟩
  | some response =>
      { response with
        data := envelope (errorCode unicode exc.cls) (message unicode exc.kind)
          (details exc.kind) }

/-! ## The envelope -/

/-- Three keys: two texts that are not empty, and a dict. -/
def Enveloped (data : Json) : Prop :=
  ∃ error message fields, data = envelope error message (.obj fields)
    ∧ error ≠ "" ∧ message ≠ ""

/-- An exception that says nothing: an empty detail, or one of Django's
without arguments or with one that is shown as the empty string. -/
def Wordless (exc : Raised) : Prop :=
  match exc.kind with
  | .apiException detail => ∃ code, detail = .str "" code
  | .http404 args | .permissionDenied args => args = [] ∨ ∃ arg, args = [arg] ∧ arg.str = ""
  | .validationError _ _ | .other => False

section

variable {unicode : Unicode}

/-! ### The code -/

theorem splitWords_ne (scan : Scan) {cs : List Char} (h : cs ≠ []) : splitWords scan cs ≠ [] := by
  cases cs with
  | nil => exact absurd rfl h
  | cons c rest =>
      cases scan with
      | search =>
          rw [splitWords]
          split <;> exact List.cons_ne_nil _ _
      | capital =>
          rw [splitWords]
          exact List.cons_ne_nil _ _
      | word =>
          rw [splitWords]
          split
          · exact List.cons_ne_nil _ _
          · split <;> exact List.cons_ne_nil _ _

theorem splitCapitals_ne {cs : List Char} (h : cs ≠ []) : splitCapitals cs ≠ [] := by
  cases cs with
  | nil => exact absurd rfl h
  | cons c rest =>
      rw [splitCapitals]
      split <;> exact List.cons_ne_nil _ _

/-- The name mangling drops no character. -/
theorem camelToSnake_ne {name : String} (h : name ≠ "") : camelToSnake unicode name ≠ "" := by
  have hlist : name.toList ≠ [] := fun hnil => h (String.toList_eq_nil_iff.mp hnil)
  have hchars : splitCapitals (splitWords .search name.toList) ≠ [] :=
    splitCapitals_ne (splitWords_ne .search hlist)
  have hsplit : String.ofList (splitCapitals (splitWords .search name.toList)) ≠ "" := by
    intro hempty
    rw [← String.toList_eq_nil_iff, String.toList_ofList] at hempty
    exact hchars hempty
  exact unicode.lower_ne _ hsplit

theorem errorCode_ne (cls : ErrorClass) : errorCode unicode cls ≠ "" := by
  unfold errorCode
  split
  · split
    · rename_i hcode
      simpa using hcode
    · exact camelToSnake_ne cls.name_ne
  · exact camelToSnake_ne cls.name_ne

/-! ### The message -/

theorem append_ne {a b : String} (h : b ≠ "") : a ++ b ≠ "" := by
  intro hempty
  exact h (String.append_eq_empty_iff.mp hempty).2

theorem repr_dict_ne (fields : List (String × Detail)) : repr unicode (.dict fields) ≠ "" := by
  have hclosed : "\x7d" ≠ "" := by decide
  unfold repr
  exact append_ne hclosed

/-- A list answers for its items with a text of its own. -/
theorem flattenItems_ne (items : List Detail) : flattenItems unicode items ≠ "" := by
  induction items with
  | nil => simp [flattenItems]
  | cons item rest ih =>
      simp only [flattenItems]
      split
      · rename_i htext
        simpa using htext
      · exact ih

theorem flattenFields_ne {fields : List (String × Detail)} {text : String}
    (h : flattenFields unicode fields = some text) : text ≠ "" := by
  induction fields with
  | nil => simp [flattenFields] at h
  | cons field rest ih =>
      obtain ⟨key, value⟩ := field
      simp only [flattenFields] at h
      split at h
      · rename_i htext
        obtain rfl := Option.some.inj h
        exact append_ne (by simpa using htext)
      · exact ih h

/-- Only the empty string is flattened to the empty string. -/
theorem flattenDetail_eq_empty {detail : Detail} :
    flattenDetail unicode detail = "" ↔ ∃ code, detail = .str "" code := by
  cases detail with
  | str text code => simp [flattenDetail]
  | list items => simp [flattenDetail, flattenItems_ne]
  | dict fields =>
      simp only [reduceCtorEq, exists_const, iff_false, flattenDetail]
      split
      · rename_i htext
        exact flattenFields_ne htext
      · split
        · decide
        · exact repr_dict_ne fields

theorem strArgs_eq_empty {args : List Arg} :
    strArgs args = "" ↔ args = [] ∨ ∃ arg, args = [arg] ∧ arg.str = "" := by
  match args with
  | [] => simp [strArgs]
  | [arg] => simp [strArgs]
  | arg :: arg' :: rest =>
      have hclosed : strArgs (arg :: arg' :: rest) ≠ "" := by
        have hmany : strArgs (arg :: arg' :: rest)
            = "(" ++ ", ".intercalate ((arg :: arg' :: rest).map (·.repr)) ++ ")" := rfl
        rw [hmany]
        exact append_ne (by decide)
      simp [hclosed]

/-! ### The response -/

theorem details_obj (kind : Kind) : ∃ fields, details kind = .obj fields := by
  cases kind with
  | validationError detail nested =>
      cases detail with
      | str text code => cases nested
      | list items => exact ⟨_, rfl⟩
      | dict fields => exact ⟨_, rfl⟩
  | _ => exact ⟨[], rfl⟩

theorem envelope_enveloped {error text : String} {fields : List (String × Json)} :
    Enveloped (envelope error text (.obj fields)) ↔ error ≠ "" ∧ text ≠ "" := by
  constructor
  · rintro ⟨error', text', fields', heq, herror, htext⟩
    simp only [envelope, Json.obj.injEq, List.cons.injEq, Prod.mk.injEq, Json.str.injEq, true_and,
      and_true] at heq
    rw [heq.1, heq.2.1]
    exact ⟨herror, htext⟩
  · rintro ⟨herror, htext⟩
    exact ⟨error, text, fields, rfl, herror, htext⟩

theorem handler_of_known {drf : DrfHandler} {exc : Raised} (h : exc.kind ≠ .other) :
    (saasExceptionHandler unicode drf exc).data
      = envelope (errorCode unicode exc.cls) (message unicode exc.kind) (details exc.kind) := by
  obtain ⟨response, hresponse⟩ := Option.isSome_iff_exists.mp ((drf.handles exc).mpr h)
  rw [saasExceptionHandler, hresponse]

theorem message_eq_empty {exc : Raised} (h : exc.kind ≠ .other) :
    message unicode exc.kind = "" ↔ Wordless exc := by
  unfold Wordless
  cases hkind : exc.kind with
  | validationError detail nested => simp [message]
  | apiException detail => exact flattenDetail_eq_empty
  | http404 args => exact strArgs_eq_empty
  | permissionDenied args => exact strArgs_eq_empty
  | other => exact absurd hkind h

/-- An answer has the documented shape exactly if the exception says
something. -/
theorem enveloped_iff (unicode : Unicode) (drf : DrfHandler) (exc : Raised) :
    Enveloped (saasExceptionHandler unicode drf exc).data ↔ ¬ Wordless exc := by
  by_cases hother : exc.kind = .other
  · have hnone : drf.handle exc = none := by
      rw [← Option.not_isSome_iff_eq_none, drf.handles]
      exact not_not.mpr hother
    rw [saasExceptionHandler, hnone, envelope_enveloped]
    simp [Wordless, hother]
  · obtain ⟨fields, hfields⟩ := details_obj exc.kind
    rw [handler_of_known hother, hfields, envelope_enveloped, ← message_eq_empty hother]
    exact and_iff_right (errorCode_ne exc.cls)

end

/-! ## A permission denied without a word -/

def ascii : Unicode where
  lower s := String.ofList (s.toList.map Char.toLower)
  printable _ := false
  lower_ne s h hempty := by
    have hlist := congrArg String.toList hempty
    rw [String.toList_ofList] at hlist
    exact h (String.toList_eq_nil_iff.mp (List.map_eq_nil_iff.mp hlist))

example : camelToSnake ascii "HTTPResponseError404" = "http_response_error404" := by
  decide +kernel

/-- The statuses of DRF's handler. -/
def drfHandler : DrfHandler where
  handle exc :=
    match exc.kind with
    | .validationError _ _ => some ⟨400, [], .null⟩
    | .apiException _ => some ⟨500, [], .null⟩
    | .http404 _ => some ⟨404, [], .null⟩
    | .permissionDenied _ => some ⟨403, [], .null⟩
    | .other => none
  handles exc := by
    cases exc.kind <;> simp

/-- What `require_role` raises. -/
def permissionDenied : Raised :=
  ⟨⟨"PermissionDenied", none, by decide⟩, .permissionDenied []⟩

theorem permissionDenied_not_enveloped :
    (saasExceptionHandler ascii drfHandler permissionDenied).data
        = envelope "permission_denied" "" (.obj [])
      ∧ ¬ Enveloped (saasExceptionHandler ascii drfHandler permissionDenied).data := by
  have hdata : (saasExceptionHandler ascii drfHandler permissionDenied).data
      = envelope "permission_denied" "" (.obj []) := by
    have hcode : errorCode ascii permissionDenied.cls = "permission_denied" := by decide +kernel
    show envelope (errorCode ascii permissionDenied.cls) "" (.obj []) = _
    rw [hcode]
  refine ⟨hdata, ?_⟩
  rw [hdata, envelope_enveloped]
  exact fun h => h.2 rfl

end ErrorEnvelope

end SaasKit
