import SaasKit.ErrorEnvelope

/-!
# The message of an error: `_flatten_detail`

The search for a message goes into the first entry that gives one. A hollow
list or dict, one of empty strings only, gives one too: its stock text. It is
not passed over like an empty string, so a text that comes later is not heard
(`flattens_iff`).
-/

namespace SaasKit

namespace FirstMessage

open ErrorEnvelope

/-! ## The first text -/

/-- One key further down. -/
def under {α : Type} (key : String) (found : List String × α) : List String × α :=
  (key :: found.1, found.2)

mutual

/-- The first string that is not empty, with the keys on its path. -/
def firstText : Detail → Option (List String × String)
  | .str text _ => if text = "" then none else some ([], text)
  | .list items => firstInItems items
  | .dict fields => firstInFields fields

def firstInItems : List Detail → Option (List String × String)
  | [] => none
  | item :: rest => (firstText item).or (firstInItems rest)

def firstInFields : List (String × Detail) → Option (List String × String)
  | [] => none
  | (key, value) :: rest => ((firstText value).map (under key)).or (firstInFields rest)

end

/-- A text after the keys on its path. -/
def prefixed : List String → String → String
  | [], text => text
  | key :: keys, text => key ++ ": " ++ prefixed keys text

/-! ## Where the search can end -/

def isEmptyStr : Detail → Bool
  | .str text _ => text == ""
  | _ => false

/-- A list or a dict with no entries but empty strings. -/
def hollow : Detail → Bool
  | .str _ _ => false
  | .list items => items.all isEmptyStr
  | .dict fields => fields.all fun field => isEmptyStr field.2

mutual

/-- The strings that are not empty and the hollow lists and dicts, in
depth-first order, with the keys on their paths. -/
def places : Detail → List (List String × Detail)
  | .str text code => if text = "" then [] else [([], .str text code)]
  | .list items => if hollow (.list items) then [([], .list items)] else placesItems items
  | .dict fields => if hollow (.dict fields) then [([], .dict fields)] else placesFields fields

def placesItems : List Detail → List (List String × Detail)
  | [] => []
  | item :: rest => places item ++ placesItems rest

def placesFields : List (String × Detail) → List (List String × Detail)
  | [] => []
  | (key, value) :: rest => (places value).map (under key) ++ placesFields rest

end

/-- What is said of a place: a string itself, and the stock text of a list or
a dict. -/
def stock (unicode : Unicode) : Detail → String
  | .str text _ => text
  | .list _ => "Invalid input."
  | .dict fields =>
      if fields.isEmpty then "An error occurred." else repr unicode (.dict fields)

def said (unicode : Unicode) (found : List String × Detail) : String :=
  prefixed found.1 (stock unicode found.2)

/-- If a hollow list or dict comes before the first text, then the stock text
of the first one happens to be the very message. -/
def Heard (unicode : Unicode) (detail : Detail) (keys : List String) (text : String) : Prop :=
  ∀ path place, (places detail).head? = some (path, place) → hollow place = true →
    prefixed path (stock unicode place) = prefixed keys text

section

variable {unicode : Unicode} {detail : Detail} {keys : List String} {text : String}

theorem said_under (key : String) (found : List String × Detail) :
    said unicode (under key found) = key ++ ": " ++ said unicode found := rfl

mutual

theorem places_eq_nil : ∀ detail : Detail, places detail = [] ↔ isEmptyStr detail = true
  | .str text code => by simp [places, isEmptyStr]
  | .list items => by
      cases hhollow : hollow (.list items) with
      | true => simp [places, hhollow, isEmptyStr]
      | false =>
          have hitems : items.all isEmptyStr = false := hhollow
          rw [places, hhollow, if_neg Bool.false_ne_true, placesItems_eq_nil items, hitems]
          rfl
  | .dict fields => by
      cases hhollow : hollow (.dict fields) with
      | true => simp [places, hhollow, isEmptyStr]
      | false =>
          have hfields : (fields.all fun field => isEmptyStr field.2) = false := hhollow
          rw [places, hhollow, if_neg Bool.false_ne_true, placesFields_eq_nil fields, hfields]
          rfl

theorem placesItems_eq_nil : ∀ items : List Detail,
    placesItems items = [] ↔ items.all isEmptyStr = true
  | [] => by simp [placesItems]
  | item :: rest => by
      rw [placesItems, List.append_eq_nil_iff, places_eq_nil item, placesItems_eq_nil rest,
        List.all_cons, Bool.and_eq_true]

theorem placesFields_eq_nil : ∀ fields : List (String × Detail),
    placesFields fields = [] ↔ (fields.all fun field => isEmptyStr field.2) = true
  | [] => by simp [placesFields]
  | (key, value) :: rest => by
      rw [placesFields, List.append_eq_nil_iff, List.map_eq_nil_iff, places_eq_nil value,
        placesFields_eq_nil rest, List.all_cons, Bool.and_eq_true]

end

/-! ## The search ends at the first place -/

theorem flattenDetail_eq_empty_iff :
    flattenDetail unicode detail = "" ↔ places detail = [] := by
  rw [flattenDetail_eq_empty, places_eq_nil]
  cases detail with
  | str text code => simp [isEmptyStr]
  | list items => simp [isEmptyStr]
  | dict fields => simp [isEmptyStr]

mutual

theorem flattenDetail_eq : ∀ detail : Detail,
    flattenDetail unicode detail = (places detail).head?.elim "" (said unicode)
  | .str text code => by
      by_cases htext : text = ""
      · simp [flattenDetail, places, htext]
      · simp [flattenDetail, places, htext, said, prefixed, stock]
  | .list items => by
      rw [flattenDetail, flattenItems_eq items, places]
      cases hhollow : hollow (.list items) with
      | true =>
          rw [(placesItems_eq_nil items).mpr hhollow]
          rfl
      | false =>
          have hplaces : placesItems items ≠ [] := by
            rw [ne_eq, placesItems_eq_nil items, ← Bool.not_eq_false, not_not]
            exact hhollow
          obtain ⟨found, others, hfound⟩ := List.exists_cons_of_ne_nil hplaces
          rw [if_neg Bool.false_ne_true, hfound]
          rfl
  | .dict fields => by
      rw [flattenDetail, flattenFields_eq fields, places]
      cases hhollow : hollow (.dict fields) with
      | true =>
          rw [(placesFields_eq_nil fields).mpr hhollow]
          rfl
      | false =>
          have hplaces : placesFields fields ≠ [] := by
            rw [ne_eq, placesFields_eq_nil fields, ← Bool.not_eq_false, not_not]
            exact hhollow
          obtain ⟨found, others, hfound⟩ := List.exists_cons_of_ne_nil hplaces
          rw [if_neg Bool.false_ne_true, hfound]
          rfl

theorem flattenItems_eq : ∀ items : List Detail, flattenItems unicode items
    = (placesItems items).head?.elim "Invalid input." (said unicode)
  | [] => rfl
  | item :: rest => by
      rw [flattenItems, placesItems, List.head?_append]
      cases hplaces : places item with
      | nil => simpa [flattenDetail_eq_empty_iff.mpr hplaces] using flattenItems_eq rest
      | cons found others =>
          have hsaid : flattenDetail unicode item ≠ "" := by
            rw [ne_eq, flattenDetail_eq_empty_iff, hplaces]
            exact List.cons_ne_nil found others
          simpa [hsaid, hplaces] using flattenDetail_eq item

theorem flattenFields_eq : ∀ fields : List (String × Detail),
    flattenFields unicode fields = (placesFields fields).head?.map (said unicode)
  | [] => rfl
  | (key, value) :: rest => by
      rw [flattenFields, placesFields, List.head?_append]
      cases hplaces : places value with
      | nil => simpa [flattenDetail_eq_empty_iff.mpr hplaces] using flattenFields_eq rest
      | cons found others =>
          have hsaid : flattenDetail unicode value ≠ "" := by
            rw [ne_eq, flattenDetail_eq_empty_iff, hplaces]
            exact List.cons_ne_nil found others
          simpa [hsaid, hplaces, said_under] using flattenDetail_eq value

end

/-! ## The first text is one of the places -/

/-- The text of a place that is a string. -/
def textAt : List String × Detail → Option (List String × String)
  | (path, .str text _) => some (path, text)
  | (_, .list _) => none
  | (_, .dict _) => none

theorem textAt_under (key : String) (found : List String × Detail) :
    textAt (under key found) = (textAt found).map (under key) := by
  obtain ⟨path, place⟩ := found
  cases place <;> rfl

theorem findSome_textAt_under (key : String) (found : List (List String × Detail)) :
    (found.map (under key)).findSome? textAt = (found.findSome? textAt).map (under key) := by
  rw [List.findSome?_map, List.map_findSome?]
  exact congrArg (found.findSome? ·) (funext (textAt_under key))

mutual

theorem firstText_eq : ∀ detail : Detail, firstText detail = (places detail).findSome? textAt
  | .str text code => by
      by_cases htext : text = ""
      · simp [firstText, places, htext]
      · simp [firstText, places, htext, textAt]
  | .list items => by
      rw [firstText, places]
      cases hhollow : hollow (.list items) with
      | true =>
          rw [firstInItems_eq items, (placesItems_eq_nil items).mpr hhollow]
          rfl
      | false => exact firstInItems_eq items
  | .dict fields => by
      rw [firstText, places]
      cases hhollow : hollow (.dict fields) with
      | true =>
          rw [firstInFields_eq fields, (placesFields_eq_nil fields).mpr hhollow]
          rfl
      | false => exact firstInFields_eq fields

theorem firstInItems_eq : ∀ items : List Detail,
    firstInItems items = (placesItems items).findSome? textAt
  | [] => rfl
  | item :: rest => by
      rw [firstInItems, placesItems, List.findSome?_append, firstText_eq item,
        firstInItems_eq rest]

theorem firstInFields_eq : ∀ fields : List (String × Detail),
    firstInFields fields = (placesFields fields).findSome? textAt
  | [] => rfl
  | (key, value) :: rest => by
      rw [firstInFields, placesFields, List.findSome?_append, findSome_textAt_under,
        firstText_eq value, firstInFields_eq rest]

end

mutual

theorem place_kind : ∀ detail : Detail, ∀ found ∈ places detail,
    hollow found.2 = !found.2.isStr
  | .str text code, found, hfound => by
      rw [places] at hfound
      split at hfound
      · cases hfound
      · obtain rfl := List.mem_singleton.mp hfound
        rfl
  | .list items, found, hfound => by
      rw [places] at hfound
      split at hfound
      · rename_i hhollow
        obtain rfl := List.mem_singleton.mp hfound
        exact hhollow
      · exact placeItems_kind items found hfound
  | .dict fields, found, hfound => by
      rw [places] at hfound
      split at hfound
      · rename_i hhollow
        obtain rfl := List.mem_singleton.mp hfound
        exact hhollow
      · exact placeFields_kind fields found hfound

theorem placeItems_kind : ∀ items : List Detail, ∀ found ∈ placesItems items,
    hollow found.2 = !found.2.isStr
  | item :: rest, found, hfound =>
      (List.mem_append.mp hfound).elim (place_kind item found) (placeItems_kind rest found)

theorem placeFields_kind : ∀ fields : List (String × Detail), ∀ found ∈ placesFields fields,
    hollow found.2 = !found.2.isStr
  | (key, value) :: rest, found, hfound => by
      rcases List.mem_append.mp hfound with hvalue | hrest
      · obtain ⟨inner, hinner, rfl⟩ := List.mem_map.mp hvalue
        exact place_kind value inner hinner
      · exact placeFields_kind rest found hrest

end

/-- The message is the first text, after the keys on its path, unless a hollow
list or dict is met before. -/
theorem flattens_iff (h : firstText detail = some (keys, text)) :
    flattenDetail unicode detail = prefixed keys text ↔ Heard unicode detail keys text := by
  rw [firstText_eq] at h
  rw [flattenDetail_eq, Heard]
  cases hplaces : places detail with
  | nil =>
      rw [hplaces] at h
      cases h
  | cons found others =>
      obtain ⟨path, place⟩ := found
      have hkind : hollow place = !place.isStr :=
        place_kind detail (path, place) (hplaces ▸ List.mem_cons_self)
      cases place with
      | str spoken code =>
          rw [hplaces] at h
          obtain ⟨rfl, rfl⟩ := Prod.mk.inj (Option.some.inj h)
          exact iff_of_true rfl fun _ _ hhead _ => by cases hhead; rfl
      | list items =>
          exact ⟨fun hsaid _ _ hhead _ => by cases hhead; exact hsaid,
            fun hheard => hheard path _ rfl hkind⟩
      | dict fields =>
          exact ⟨fun hsaid _ _ hhead _ => by cases hhead; exact hsaid,
            fun hheard => hheard path _ rfl hkind⟩

end

/-- An empty list before the first text is not skipped. -/
def noRoles : Detail := .dict [("roles", .list []), ("tenant", .list [.str "No access." none])]

theorem flattens_noRoles :
    firstText noRoles = some (["tenant"], "No access.")
      ∧ flattenDetail ascii noRoles = "roles: Invalid input."
      ∧ ¬ (prefixed ["tenant"] "No access.").toList <:+ (flattenDetail ascii noRoles).toList := by
  decide

/-- Nested, with empty strings before the first text. -/
def noAccess : Detail :=
  .list [.str "" none, .dict [("code", .str "" none), ("tenant", .list [.str "No access." none])]]

theorem flattens_noAccess :
    flattenDetail ascii noAccess = "tenant: No access."
      ↔ Heard ascii noAccess ["tenant"] "No access." := by
  have hfirst : firstText noAccess = some (["tenant"], "No access.") := by decide
  exact flattens_iff hfirst

end FirstMessage

end SaasKit
