import SaasKit.GdprService

/-!
# Password resets: `PasswordResetService.confirm_reset` and its view

A link carries the user's key and a token; the new password is checked
against the validators and saved. What Django and DRF contribute is a
parameter: the field of the serializer, the decoding of the key, the token
generator, the password validators and the hasher.
-/

namespace SaasKit

structure ResetConfig where
  charField : (minLength : Option Nat) → Option Json → Except (List String) String
  notADict : Json → String
  /-- The primary key in a link, `none` where decoding it raises. -/
  decodeUid : String → Option UserId
  checkToken : Time → User → String → Bool
  validatePassword : String → User → Except (List String) Unit
  makePassword : String → String

namespace PasswordResetService

def userFromUid (cfg : ResetConfig) (s : AccountSite) (uid : String) : Except Exc User :=
  match (cfg.decodeUid uid).bind s.getUser with
  | none => .error (.validationServiceError "Invalid or malformed reset link.")
  | some user => .ok user

/-- `set_password`. -/
def setPassword (password : String) : Table.Rewrite User.clash :=
  ⟨fun user => { user with password }, fun _ _ => rfl, fun _ _ => rfl⟩

theorem pk_kept {users : Table User User.clash} {pk : UserId} {password : String} :
    ∀ u ∈ users, ∃ v ∈ users.modify (·.pk == pk) (setPassword password), v.pk = u.pk := by
  intro u hu
  refine ⟨_, Table.mem_modify.mpr ⟨u, hu, rfl⟩, ?_⟩
  split <;> rfl

/-- `save(update_fields=["password"])`. -/
def savePassword (s : AccountSite) (user : User) (password : String) : AccountSite :=
  s.setUsers (s.users.modify (·.pk == user.pk) (setPassword password)) pk_kept

def confirmReset (cfg : ResetConfig) (s : AccountSite) (now : Time)
    (uid token newPassword : String) : Except Exc Unit × AccountSite :=
  match userFromUid cfg s uid with
  | .error e => (.error e, s)
  | .ok user =>
      if !cfg.checkToken now user token then
        (.error (.validationServiceError
          "This password-reset link is invalid or has already been used."), s)
      else
        match cfg.validatePassword newPassword user with
        | .error messages => (.error (.validationServiceError ("; ".intercalate messages)), s)
        | .ok () => (.ok (), savePassword s user (cfg.makePassword newPassword))

/-- A call raises with nothing written, or saves the password of one user. -/
theorem confirmReset_cases (cfg : ResetConfig) (s : AccountSite) (now : Time)
    (uid token newPassword : String) :
    (∃ e, confirmReset cfg s now uid token newPassword = (.error e, s))
      ∨ ∃ user, cfg.checkToken now user token = true
        ∧ confirmReset cfg s now uid token newPassword
          = (.ok (), savePassword s user (cfg.makePassword newPassword)) := by
  unfold confirmReset
  split
  · exact Or.inl ⟨_, rfl⟩
  · rename_i user _
    split
    · exact Or.inl ⟨_, rfl⟩
    · rename_i hvalid
      split
      · exact Or.inl ⟨_, rfl⟩
      · exact Or.inr ⟨user, by simpa using hvalid, rfl⟩

end PasswordResetService

namespace PasswordResetConfirmView

/-- The messages of one field. -/
def messages {α : Type} (field : String) : Except (List String) α → List (String × List String)
  | .ok _ => []
  | .error texts => [(field, texts)]

def serializer (cfg : ResetConfig) :
    Json → Except (List (String × List String)) (String × String × String)
  | .obj fields =>
      let uid := cfg.charField none (fields.lookup "uid")
      let token := cfg.charField none (fields.lookup "token")
      let newPassword := cfg.charField (some 8) (fields.lookup "new_password")
      match uid, token, newPassword with
      | .ok uid, .ok token, .ok newPassword => .ok (uid, token, newPassword)
      | _, _, _ =>
          .error (messages "uid" uid ++ messages "token" token
            ++ messages "new_password" newPassword)
  | data => .error [("non_field_errors", [cfg.notADict data])]

def post (cfg : ResetConfig) (s : AccountSite) (now : Time) (data : Json) :
    Response × AccountSite :=
  match serializer cfg data with
  | .error details => (⟨400, .envelope ⟨"invalid", "Invalid input.", details⟩⟩, s)
  | .ok (uid, token, newPassword) =>
      match PasswordResetService.confirmReset cfg s now uid token newPassword with
      | (.error (.validationServiceError text), s) => (⟨400, .detail text⟩, s)
      | (.error _, s) => (Views.serverError, s)
      | (.ok (), s) => (⟨200, .detail "Password reset successful."⟩, s)

/-- A request is refused with nothing written, or saves one password. -/
theorem post_cases (cfg : ResetConfig) (s : AccountSite) (now : Time) (data : Json) :
    ((post cfg s now data).1.status ≠ 200 ∧ (post cfg s now data).2 = s)
      ∨ ∃ user password, post cfg s now data
          = (⟨200, .detail "Password reset successful."⟩,
            PasswordResetService.savePassword s user password) := by
  unfold post
  split
  · exact Or.inl ⟨fun h => (by cases h), rfl⟩
  · rename_i uid token newPassword _
    rcases PasswordResetService.confirmReset_cases cfg s now uid token newPassword with
      ⟨e, hraised⟩ | ⟨user, -, hdone⟩
    · rw [hraised]
      refine Or.inl ?_
      cases e with
      | validationServiceError text => exact ⟨fun h => (by cases h), rfl⟩
      | _ => exact ⟨fun h => (by cases h), rfl⟩
    · rw [hdone]
      exact Or.inr ⟨user, _, rfl⟩

end PasswordResetConfirmView

end SaasKit
