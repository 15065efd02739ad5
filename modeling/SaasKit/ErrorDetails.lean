import SaasKit.ErrorEnvelope
import SaasKit.Lib.Nested

/-!
# The details of an error: `_serialise_detail`

A detail is nested lists and dicts, and its leaves are whatever has been
raised. `_serialise_detail` turns each leaf into its string and leaves the
rest as it is, so a second pass changes nothing. The handler answers a
`ValidationError` with the outcome, under `non_field_errors` where it is a
list (`serialise_preserves`).
-/

namespace SaasKit

namespace ErrorDetails

open ErrorEnvelope Nested

/-- A leaf of a detail: a string, or another object as `str` shows it. -/
inductive Leaf where
  | str (s : String)
  | object (shown : String)
  deriving DecidableEq

/-- `str(x)`. -/
def Leaf.text : Leaf → String
  | str s => s
  | object shown => shown

/-- A detail, with keys of any type. -/
abbrev Value (κ : Type) := Nested κ Leaf

variable {κ : Type}

mutual

/-- `_serialise_detail`. -/
def serialise : Value κ → Value κ
  | .list items => .list (serialiseItems items)
  | .dict fields => .dict (serialiseFields fields)
  | .leaf x => .leaf (.str x.text)

def serialiseItems : List (Value κ) → List (Value κ)
  | [] => []
  | item :: rest => serialise item :: serialiseItems rest

def serialiseFields : List (κ × Value κ) → List (κ × Value κ)
  | [] => []
  | (key, value) :: rest => (key, serialise value) :: serialiseFields rest

end

/-- The same lists and dicts, the leaves as strings, and no more to do. -/
structure Preserves (detail : Value κ) : Prop where
  shape : (serialise detail).shape = detail.shape
  leaves : (serialise detail).leaves = detail.leaves.map fun x => .str x.text
  twice : serialise (serialise detail) = serialise detail

/-! ## The details of a response -/

mutual

/-- The detail of an API exception. Its strings are of a subclass of `str`. -/
def ofDetail : Detail → Value String
  | .str text _ => .leaf (.object text)
  | .list items => .list (ofItems items)
  | .dict fields => .dict (ofFields fields)

def ofItems : List Detail → List (Value String)
  | [] => []
  | item :: rest => ofDetail item :: ofItems rest

def ofFields : List (String × Detail) → List (String × Value String)
  | [] => []
  | (key, value) :: rest => (key, ofDetail value) :: ofFields rest

end

mutual

/-- A value of strings in lists and dicts, as a document. -/
def toJson : Value String → Json
  | .leaf x => .str x.text
  | .list items => .arr (toJsonItems items)
  | .dict fields => .obj (toJsonFields fields)

def toJsonItems : List (Value String) → List Json
  | [] => []
  | item :: rest => toJson item :: toJsonItems rest

def toJsonFields : List (String × Value String) → List (String × Json)
  | [] => []
  | (key, value) :: rest => (key, toJson value) :: toJsonFields rest

end

/-- The value itself if it is a dict, and under one key if it is a list. -/
def wrapped : Value String → Value String
  | .list items => .dict [("non_field_errors", .list items)]
  | raw => raw

mutual

theorem serialise_eq_map : ∀ detail : Value κ, serialise detail = detail.map fun x => .str x.text
  | .leaf _ => rfl
  | .list items => congrArg Nested.list (serialiseItems_eq_map items)
  | .dict fields => congrArg Nested.dict (serialiseFields_eq_map fields)

theorem serialiseItems_eq_map : ∀ items : List (Value κ),
    serialiseItems items = mapItems (fun x => .str x.text) items
  | [] => rfl
  | item :: rest => by
      rw [serialiseItems, mapItems, serialise_eq_map item, serialiseItems_eq_map rest]

theorem serialiseFields_eq_map : ∀ fields : List (κ × Value κ),
    serialiseFields fields = mapFields (fun x => .str x.text) fields
  | [] => rfl
  | (key, value) :: rest => by
      rw [serialiseFields, mapFields, serialise_eq_map value, serialiseFields_eq_map rest]

end

theorem preserves (detail : Value κ) : Preserves detail where
  shape := by rw [serialise_eq_map, shape_map]
  leaves := by rw [serialise_eq_map, leaves_map]
  twice := by
    rw [serialise_eq_map, serialise_eq_map]
    exact map_idem (f := fun x : Leaf => .str x.text) (fun _ => rfl) detail

mutual

/-- On the details of API exceptions it is the serialisation of the
handler. -/
theorem toJson_serialise : ∀ detail : Detail, toJson (serialise (ofDetail detail))
    = serialiseDetail detail
  | .str _ _ => rfl
  | .list items => congrArg Json.arr (toJsonItems_serialise items)
  | .dict fields => congrArg Json.obj (toJsonFields_serialise fields)

theorem toJsonItems_serialise : ∀ items : List Detail,
    toJsonItems (serialiseItems (ofItems items)) = ErrorEnvelope.serialiseItems items
  | [] => rfl
  | item :: rest => by
      rw [ofItems, serialiseItems, toJsonItems, ErrorEnvelope.serialiseItems,
        toJson_serialise item, toJsonItems_serialise rest]

theorem toJsonFields_serialise : ∀ fields : List (String × Detail),
    toJsonFields (serialiseFields (ofFields fields)) = ErrorEnvelope.serialiseFields fields
  | [] => rfl
  | (key, value) :: rest => by
      rw [ofFields, serialiseFields, toJsonFields, ErrorEnvelope.serialiseFields,
        toJson_serialise value, toJsonFields_serialise rest]

end

/-- What the handler answers a `ValidationError` with. -/
theorem details_eq {detail : Detail} (nested : detail.isStr = false) :
    details (.validationError detail nested) = toJson (wrapped (serialise (ofDetail detail))) := by
  cases detail with
  | str text code => cases nested
  | list items =>
      have hitems := toJsonItems_serialise items
      rw [details, serialiseDetail, ← hitems]
      rfl
  | dict fields =>
      have hfields := toJsonFields_serialise fields
      rw [details, serialiseDetail, ← hfields]
      rfl

/-- Serialising keeps the structure of every detail, and all of it reaches the
client of a `ValidationError`. -/
theorem serialise_preserves :
    (∀ (κ : Type) (detail : Value κ), Preserves detail)
      ∧ ∀ (unicode : Unicode) (drf : DrfHandler) (cls : ErrorClass) (detail : Detail)
        (nested : detail.isStr = false),
          (saasExceptionHandler unicode drf ⟨cls, .validationError detail nested⟩).data
            = envelope (errorCode unicode cls) "Invalid input."
              (toJson (wrapped (serialise (ofDetail detail)))) := by
  refine ⟨fun κ detail => preserves detail, fun unicode drf cls detail nested => ?_⟩
  rw [← details_eq nested]
  exact handler_of_known (by simp)

def required : Detail := .dict [("email", .list [.str "This field is required." (some "required")])]

theorem serialise_preserves_required :
    Preserves (ofDetail required)
      ∧ (saasExceptionHandler ascii drfHandler
          ⟨⟨"ValidationError", some "invalid", by decide⟩, .validationError required rfl⟩).data
        = envelope "invalid" "Invalid input."
          (.obj [("email", .arr [.str "This field is required."])]) :=
  ⟨serialise_preserves.1 String (ofDetail required),
    serialise_preserves.2 ascii drfHandler ⟨"ValidationError", some "invalid", by decide⟩ required
      rfl⟩

end ErrorDetails

end SaasKit
