import SaasKit.AuthViews
import SaasKit.Lib.Interleave

/-!
# Two-factor requests side by side

The views that work on a second factor, one access to the database or the
session cache at a time, with any number of requests interleaved. A view
works on an instance of the TOTP row that it loaded earlier, and a save
writes single columns of that instance by the row's key: `totpId` gives the
key of the row a user has, which changes when the row is deleted and set up
anew.

`update_or_create` locks the row it finds and is one step. The `_alone`
theorems say that a request nobody interrupts does what its view does.
-/

namespace SaasKit

/-- The site with the primary keys of the TOTP rows. -/
structure TotpSite extends AuthSite where
  totpId : UserId → UUID

namespace TotpSite

variable (s : TotpSite)

def setBackupCodes (backupCodes : List String) : Table.Rewrite (sameKey UserTOTP.user) :=
  ⟨fun row => { row with backupCodes }, fun _ _ => rfl, fun _ _ => rfl⟩

/-- `totp_obj.save(update_fields=...)`; `none` where the row is gone. -/
def saveById (pk : UserId) (id : UUID) (f : Table.Rewrite (sameKey UserTOTP.user)) :
    Option TotpSite :=
  if (s.getTotp pk).isSome ∧ s.totpId pk = id then
    some { s with toAuthSite := s.toAuthSite.saveTotp pk f }
  else none

/-- `totp_obj.delete()`. -/
def deleteById (pk : UserId) (id : UUID) : TotpSite :=
  if s.totpId pk = id then { s with toAuthSite := s.toAuthSite.deleteTotp pk } else s

/-- `update_or_create(user=..., defaults=...)`, with the key and the backup
codes a new row gets. -/
def upsertTotp (pk : UserId) (secret : String) (backupCodes : List String) (id : UUID) :
    Option TotpSite :=
  match s.getTotp pk with
  | some row =>
      (s.putTotp ⟨pk, secret, false, row.backupCodes⟩).map fun t => { s with toAuthSite := t }
  | none =>
      (s.putTotp ⟨pk, secret, false, backupCodes⟩).map fun t =>
        ⟨t, Function.update s.totpId pk id⟩

end TotpSite

namespace TwoFactorRace

open AuthViews

/-! ## Requests -/

/-- A request, or a call of `use_backup_code` on the row of a user. -/
inductive Call where
  | setup (req : AuthRequest) (user : User) (id : UUID)
  | enable (req : AuthRequest) (user : User)
  | disable (req : AuthRequest) (user : User)
  | complete (req : AuthRequest)
  | useBackupCode (pk : UserId) (code : String)

/-- Who has a code checked. -/
inductive Caller where
  | disable (user : User)
  | complete (user : User) (sessionKey : String)
  | direct

inductive Outcome where
  | response (r : AuthResponse)
  | returned (accepted : Bool)
  | raised

/-- What a call has done that matters later: it has used up a backup code,
or verified a code against a secret to enable it. -/
inductive Mark where
  | nothing
  | used (pk : UserId) (code : String)
  | verified (pk : UserId) (secret : String)
  deriving DecidableEq

/-- Where a call stands, with the instance it holds. -/
inductive Position where
  | start (call : Call)
  | setupChecked (req : AuthRequest) (user : User) (id : UUID)
  | enableVerified (row : UserTOTP) (id : UUID)
  | sessionFound (sessionKey code : String) (pk : UserId)
  | userLoaded (sessionKey code : String) (user : User)
  | stale (sessionKey : String)
  | codeFound (caller : Caller) (row : UserTOTP) (id : UUID) (code : String)
  | confirmed (caller : Caller) (row : UserTOTP) (id : UUID) (code : String) (mark : Mark)
  | done (outcome : Outcome) (mark : Mark)

namespace Position

def mark : Position → Mark
  | enableVerified row _ => .verified row.user row.secret
  | confirmed _ _ _ _ mark => mark
  | done _ mark => mark
  | _ => .nothing

def answer (r : AuthResponse) : Position := done (.response r) .nothing

end Position

open Position

def refuse : Caller → Outcome
  | .disable _ => .response (badRequest "Invalid code.")
  | .complete .. => .response (badRequest "Invalid TOTP code.")
  | .direct => .returned false

def fail : Caller → Outcome
  | .direct => .raised
  | _ => .response serverError

/-- The end of a call that needs no further access. -/
def conclude (cfg : AuthConfig) : Caller → Outcome
  | .disable _ => .response ⟨200, .detail "2FA disabled successfully."⟩
  | .complete user _ =>
      match cfg.forUser user with
      | .error e => .response (unauthorized e)
      | .ok (access, refresh) => .response ⟨200, .pair user access refresh none⟩
  | .direct => .returned true

/-- `use_backup_code` up to its save. -/
def tryBackupCode (cfg : AuthConfig) (caller : Caller) (row : UserTOTP) (id : UUID)
    (code : String) : Position :=
  if cfg.text.upper (strip code) ∈ row.backupCodes then
    codeFound caller row id (cfg.text.upper (strip code))
  else done (refuse caller) .nothing

/-- The check of a code against the loaded row. -/
def tryCode (cfg : AuthConfig) (now : Time) (caller : Caller) (row : UserTOTP) (id : UUID)
    (code : String) : Position :=
  if cfg.verify row.secret code now then confirmed caller row id code .nothing
  else tryBackupCode cfg caller row id code

/-- The first access of a call. -/
def begin (cfg : AuthConfig) (now : Time) (s : TotpSite) : Call → Position
  | .setup req user id =>
      if (s.getTotp user.pk).any (·.isEnabled) then answer (badRequest "2FA is already enabled.")
      else setupChecked req user id
  | .enable req user =>
      match textField req.data "code" with
      | .error _ => answer serverError
      | .ok code =>
          if code = "" then answer (badRequest "code is required.")
          else match s.getTotp user.pk with
            | none => answer
                (badRequest "2FA setup not initiated. Call GET /auth/2fa/setup/ first.")
            | some row =>
                if row.isEnabled then answer (badRequest "2FA is already enabled.")
                else if !cfg.verify row.secret code now then
                  answer (badRequest "Invalid TOTP code.")
                else enableVerified row (s.totpId user.pk)
  | .disable req user =>
      match textField req.data "code" with
      | .error _ => answer serverError
      | .ok code =>
          if code = "" then answer (badRequest "code is required.")
          else match s.getTotp user.pk with
            | none => answer (badRequest "2FA is not enabled for this account.")
            | some row =>
                if !row.isEnabled then answer (badRequest "2FA is not enabled for this account.")
                else tryCode cfg now (.disable user) row (s.totpId user.pk) code
  | .complete req =>
      match (do return (← textField req.data "session_key", ← textField req.data "code") :
          Except Exc (String × String)) with
      | .error _ => answer serverError
      | .ok (sessionKey, code) =>
          if sessionKey = "" ∨ code = "" then
            answer (badRequest "session_key and code are required.")
          else match s.sessions.get now sessionKey with
            | none => answer (badRequest "Invalid or expired session. Please log in again.")
            | some 0 => answer (badRequest "Invalid or expired session. Please log in again.")
            | some pk => sessionFound sessionKey code pk
  | .useBackupCode pk code =>
      match s.getTotp pk with
      | none => done .raised .nothing
      | some row => tryBackupCode cfg .direct row (s.totpId pk) code

/-- One access of a call and the decisions up to the next, at the time
`now`. -/
def next (cfg : AuthConfig) (now : Time) (s : TotpSite) : Position → Option (TotpSite × Position)
  | start call => some (s, begin cfg now s call)
  | setupChecked req user id =>
      match s.upsertTotp user.pk req.fresh.secret req.fresh.backupCodes id with
      | none => some (s, answer serverError)
      | some s =>
          let uri := cfg.provisioningUri user.email req.fresh.secret
          some (s, answer ⟨200, .setup req.fresh.secret uri (cfg.qrSvg uri)⟩)
  | enableVerified row id =>
      match s.saveById row.user id AuthSite.setEnabled with
      | none => some (s, done (.response serverError) (.verified row.user row.secret))
      | some s => some (s, done
          (.response ⟨200, .enabled "2FA enabled successfully." row.backupCodes⟩)
          (.verified row.user row.secret))
  | sessionFound sessionKey code pk =>
      match s.getUser pk with
      | none => some (s, answer (badRequest "User not found."))
      | some user => some (s, userLoaded sessionKey code user)
  | userLoaded sessionKey code user =>
      match s.getTotp user.pk with
      | none => some (s, stale sessionKey)
      | some row =>
          if !row.isEnabled then some (s, stale sessionKey)
          else some (s, tryCode cfg now (.complete user sessionKey) row (s.totpId user.pk) code)
  | stale sessionKey =>
      some ({ s with sessions := s.sessions.delete sessionKey },
        answer (badRequest "2FA is not enabled for this account."))
  | codeFound caller row id code =>
      -- the instance's list, shortened, replaces whatever list is stored
      match s.saveById row.user id
          (TotpSite.setBackupCodes (row.backupCodes.filter (· ≠ code))) with
      | none => some (s, done (fail caller) .nothing)
      | some s => some (s, confirmed caller row id code (.used row.user code))
  | confirmed caller row id _ mark =>
      match caller with
      | .disable _ => some (s.deleteById row.user id, done (conclude cfg caller) mark)
      | .complete _ sessionKey =>
          some ({ s with sessions := s.sessions.delete sessionKey },
            done (conclude cfg caller) mark)
      | .direct => some (s, done (conclude cfg caller) mark)
  | done .. => none

variable {ι : Type}

abbrev Conf (ι : Type) := Threads.Conf ι TotpSite Position

abbrev Step (cfg : AuthConfig) : Conf ι → ι × Time → Conf ι → Prop :=
  Threads.step (Threads.ofNext (next cfg))

/-! ## One request by itself -/

/-- A call with nobody else running, and what it leaves. -/
abbrev Alone (cfg : AuthConfig) (i : ι) (s : TotpSite) (p : Position) (outcome : Outcome)
    (after : AuthSite) : Prop :=
  Threads.Alone (next cfg) i s p fun s' q => (∃ mark, q = done outcome mark) ∧ s'.toAuthSite = after

section

variable {cfg : AuthConfig} {i : ι} {s s' : TotpSite} {p p' : Position} {now : Time}
  {outcome : Outcome} {after : AuthSite} {row : UserTOTP} {pk : UserId} {id : UUID}

theorem alone_done {mark : Mark} (h : s.toAuthSite = after) :
    Alone cfg i s (done outcome mark) outcome after :=
  .done ⟨⟨mark, rfl⟩, h⟩

theorem saveById_of_loaded (f : Table.Rewrite (sameKey UserTOTP.user))
    (hrow : s.getTotp pk = some row) :
    s.saveById row.user (s.totpId pk) f
      = some { s with toAuthSite := s.toAuthSite.saveTotp row.user f } := by
  obtain ⟨-, rfl⟩ := AuthSite.getTotp_some.mp hrow
  simp [TotpSite.saveById, hrow]

/-- On a row that is as it was loaded, the shortened list is what dropping
the code from the stored list gives. -/
theorem saveTotp_of_loaded (hrow : s.getTotp pk = some row) (code : String) :
    s.toAuthSite.saveTotp row.user
        (TotpSite.setBackupCodes (row.backupCodes.filter (· ≠ code)))
      = s.toAuthSite.saveTotp row.user (AuthSite.dropBackupCode code) := by
  obtain ⟨hmem, rfl⟩ := AuthSite.getTotp_some.mp hrow
  have hrows : s.userTotps.modify (·.user == row.user)
        (TotpSite.setBackupCodes (row.backupCodes.filter (· ≠ code)))
      = s.userTotps.modify (·.user == row.user) (AuthSite.dropBackupCode code) := by
    refine Table.ext_rows (List.map_congr_left fun x hx => ?_)
    by_cases huser : (x.user == row.user) = true
    · obtain rfl := Table.eq_of_clash Table.sameKey_symm hx hmem
        (Table.sameKey_iff.mpr (eq_of_beq huser))
      rfl
    · rw [if_neg huser, if_neg huser]
  simp only [AuthSite.saveTotp, hrows]

theorem setup_alone (cfg : AuthConfig) (i : ι) (s : TotpSite) (req : AuthRequest) (user : User)
    (id : UUID) :
    Alone cfg i s (start (.setup req user id))
      (.response (setupView cfg s.toAuthSite req user).1)
      (setupView cfg s.toAuthSite req user).2 := by
  refine .cons (e := req.now) (q := begin cfg req.now s (.setup req user id)) rfl ?_
  unfold setupView begin
  by_cases hon : (s.getTotp user.pk).any (·.isEnabled) = true
  · simp only [hon, if_true]
    exact alone_done rfl
  · simp only [hon, Bool.false_eq_true, if_false]
    cases hput : s.putTotp ⟨user.pk, req.fresh.secret, false,
        ((s.getTotp user.pk).map (·.backupCodes)).getD req.fresh.backupCodes⟩ with
    | none =>
        have hupsert : s.upsertTotp user.pk req.fresh.secret req.fresh.backupCodes id = none := by
          unfold TotpSite.upsertTotp
          cases hrow : s.getTotp user.pk <;> simp_all
        exact .cons (e := req.now) (by simp only [next, hupsert]; rfl) (alone_done rfl)
    | some t =>
        have hupsert : ∃ s', s.upsertTotp user.pk req.fresh.secret req.fresh.backupCodes id
            = some s' ∧ s'.toAuthSite = t := by
          unfold TotpSite.upsertTotp
          cases hrow : s.getTotp user.pk <;> simp_all
        obtain ⟨s', hs', rfl⟩ := hupsert
        exact .cons (e := req.now) (by simp only [next, hs']; rfl) (alone_done rfl)

theorem enable_alone (cfg : AuthConfig) (i : ι) (s : TotpSite) (req : AuthRequest) (user : User) :
    Alone cfg i s (start (.enable req user))
      (.response (enableView cfg s.toAuthSite req user).1)
      (enableView cfg s.toAuthSite req user).2 := by
  refine .cons (e := req.now) (q := begin cfg req.now s (.enable req user)) rfl ?_
  unfold enableView begin
  simp only
  cases textField req.data "code" with
  | error e => exact alone_done rfl
  | ok code =>
      by_cases hblank : code = ""
      · simp only [hblank, if_true]
        exact alone_done rfl
      · simp only [hblank, if_false]
        cases hrow : s.getTotp user.pk with
        | none => exact alone_done rfl
        | some row =>
            by_cases hon : row.isEnabled = true
            · simp only [hon, if_true]
              exact alone_done rfl
            · simp only [hon, Bool.false_eq_true, if_false]
              by_cases hverify : (!cfg.verify row.secret code req.now) = true
              · simp only [hverify, if_true]
                exact alone_done rfl
              · simp only [hverify, Bool.false_eq_true, if_false]
                have hsave := saveById_of_loaded AuthSite.setEnabled hrow
                refine .cons (e := req.now) (by simp only [next, hsave]; rfl) (alone_done ?_)
                rw [(AuthSite.getTotp_some.mp hrow).2]

/-- A code that is checked with nobody else running: refused, or confirmed
with the backup code gone. -/
theorem tryCode_alone {caller : Caller} {code : String} (hrow : s.getTotp pk = some row)
    (hrefused : checkCode cfg now s.toAuthSite row code = (false, s.toAuthSite) →
      refuse caller = outcome ∧ s.toAuthSite = after)
    (hconfirmed : ∀ mark code' s', checkCode cfg now s.toAuthSite row code = (true, s'.toAuthSite) →
      s'.totpId = s.totpId →
      Alone cfg i s' (confirmed caller row (s.totpId pk) code' mark) outcome after) :
    Alone cfg i s (tryCode cfg now caller row (s.totpId pk) code) outcome after := by
  unfold tryCode tryBackupCode
  unfold checkCode AuthSite.useBackupCode at hrefused hconfirmed
  by_cases hverify : cfg.verify row.secret code now = true
  · simp only [hverify, if_true] at hconfirmed ⊢
    exact hconfirmed _ _ s rfl rfl
  · simp only [hverify, Bool.false_eq_true, if_false] at hrefused hconfirmed ⊢
    by_cases hmem : cfg.text.upper (strip code) ∈ row.backupCodes
    · simp only [hmem, if_true] at hconfirmed ⊢
      have hsave := saveById_of_loaded
        (TotpSite.setBackupCodes (row.backupCodes.filter (· ≠ cfg.text.upper (strip code)))) hrow
      rw [saveTotp_of_loaded hrow] at hsave
      have hstep : next cfg now s
          (codeFound caller row (s.totpId pk) (cfg.text.upper (strip code)))
            = some ({ s with
                toAuthSite := s.toAuthSite.saveTotp row.user
                  (AuthSite.dropBackupCode (cfg.text.upper (strip code))) },
              confirmed caller row (s.totpId pk) (cfg.text.upper (strip code))
                (.used row.user (cfg.text.upper (strip code)))) := by
        simp only [next, hsave]
      exact .cons hstep (hconfirmed _ _ _ rfl rfl)
    · simp only [hmem, if_false] at hrefused ⊢
      obtain ⟨rfl, hafter⟩ := hrefused trivial
      exact alone_done hafter

theorem disable_alone (cfg : AuthConfig) (i : ι) (s : TotpSite) (req : AuthRequest)
    (user : User) :
    Alone cfg i s (start (.disable req user))
      (.response (disableView cfg s.toAuthSite req user).1)
      (disableView cfg s.toAuthSite req user).2 := by
  refine .cons (e := req.now) (q := begin cfg req.now s (.disable req user)) rfl ?_
  unfold disableView begin
  simp only
  cases textField req.data "code" with
  | error e => exact alone_done rfl
  | ok code =>
      by_cases hblank : code = ""
      · simp only [hblank, if_true]
        exact alone_done rfl
      · simp only [hblank, if_false]
        cases hrow : s.getTotp user.pk with
        | none => exact alone_done rfl
        | some row =>
            by_cases hon : row.isEnabled = true
            · simp only [hon, Bool.not_true, Bool.false_eq_true, if_false]
              refine tryCode_alone hrow (fun hcheck => ?_) fun mark code' s' hcheck hid => ?_
              · rw [hcheck]
                exact ⟨rfl, rfl⟩
              · rw [hcheck]
                refine .cons (e := req.now) rfl (alone_done ?_)
                simp only [TotpSite.deleteById, (AuthSite.getTotp_some.mp hrow).2, hid, if_true]
            · simp only [hon, Bool.not_false, if_true]
              exact alone_done rfl

theorem complete_alone (cfg : AuthConfig) (i : ι) (s : TotpSite) (req : AuthRequest) :
    Alone cfg i s (start (.complete req)) (.response (completeView cfg s.toAuthSite req).1)
      (completeView cfg s.toAuthSite req).2 := by
  refine .cons (e := req.now) (q := begin cfg req.now s (.complete req)) rfl ?_
  unfold completeView begin
  simp only
  cases (do return (← textField req.data "session_key", ← textField req.data "code") :
      Except Exc (String × String)) with
  | error e => exact alone_done rfl
  | ok fields =>
      obtain ⟨sessionKey, code⟩ := fields
      by_cases hblank : sessionKey = "" ∨ code = ""
      · simp only [hblank, if_true]
        exact alone_done rfl
      · simp only [hblank, if_false]
        cases s.sessions.get req.now sessionKey with
        | none => exact alone_done rfl
        | some pk =>
            cases pk with
            | zero => exact alone_done rfl
            | succ pk =>
                simp only [Nat.succ_eq_add_one]
                cases huser : s.getUser (pk + 1) with
                | none =>
                    exact .cons (e := req.now) (by simp only [next, huser]; rfl) (alone_done rfl)
                | some user =>
                    simp only
                    refine .cons (e := req.now) (t := s)
                      (q := userLoaded sessionKey code user) (by simp only [next, huser]) ?_
                    cases hrow : s.getTotp user.pk with
                    | none =>
                        exact .cons (e := req.now) (by simp only [next, hrow]; rfl)
                          (.cons (e := req.now) rfl (alone_done rfl))
                    | some row =>
                        by_cases hon : row.isEnabled = true
                        · refine .cons (e := req.now) (t := s)
                            (q := tryCode cfg req.now (.complete user sessionKey) row
                              (s.totpId user.pk) code)
                            (by simp only [next, hrow, hon, Bool.not_true, Bool.false_eq_true,
                              if_false]) ?_
                          simp only [hon, Bool.not_true, Bool.false_eq_true, if_false]
                          refine tryCode_alone hrow (fun hcheck => ?_)
                            fun mark code' s' hcheck hid => ?_
                          · rw [hcheck]
                            exact ⟨rfl, rfl⟩
                          · rw [hcheck]
                            refine .cons (e := req.now) rfl ?_
                            simp only [conclude]
                            cases cfg.forUser user with
                            | error e => exact alone_done rfl
                            | ok pair => exact alone_done rfl
                        · have hstale : next cfg req.now s (userLoaded sessionKey code user)
                              = some (s, stale sessionKey) := by
                            simp only [next, hrow, hon, Bool.not_false, if_true]
                          simp only [hon, Bool.not_false, if_true]
                          exact .cons hstale (.cons (e := req.now) rfl (alone_done rfl))

/-! ## What the writes do to the row of a user -/

theorem apply_user (f : Table.Rewrite (sameKey UserTOTP.user)) (row : UserTOTP) :
    (f.apply row).user = row.user := by
  have hkey : sameKey UserTOTP.user (f.apply row) row = true := by
    rw [f.left]
    exact Table.sameKey_iff.mpr rfl
  exact Table.sameKey_iff.mp hkey

theorem getTotp_of_same (h : s'.userTotps = s.userTotps) (k : UserId) :
    s'.getTotp k = s.getTotp k := by
  unfold AuthSite.getTotp
  rw [h]

theorem id_of_saveById {f : Table.Rewrite (sameKey UserTOTP.user)}
    (h : s.saveById pk id f = some s') : s.totpId pk = id := by
  unfold TotpSite.saveById at h
  split at h
  · rename_i hloaded
    exact hloaded.2
  · cases h

theorem getTotp_saveById {f : Table.Rewrite (sameKey UserTOTP.user)}
    (h : s.saveById pk id f = some s') (k : UserId) :
    s'.getTotp k = if k = pk then (s.getTotp k).map f.apply else s.getTotp k := by
  unfold TotpSite.saveById at h
  split at h
  · obtain rfl := Option.some.inj h
    ext row'
    rw [AuthSite.getTotp_some]
    simp only [AuthSite.saveTotp, Table.mem_modify]
    constructor
    · rintro ⟨⟨row, hrow, rfl⟩, huser⟩
      by_cases hpk : (row.user == pk) = true
      · rw [if_pos hpk, apply_user] at huser
        have hk : k = pk := huser.symm.trans (eq_of_beq hpk)
        rw [if_pos hk, if_pos hpk, AuthSite.getTotp_some.mpr ⟨hrow, huser⟩]
        rfl
      · rw [if_neg hpk] at huser
        have hk : k ≠ pk := fun hk => hpk (beq_iff_eq.mpr (huser.trans hk))
        rw [if_neg hk, if_neg hpk]
        exact AuthSite.getTotp_some.mpr ⟨hrow, huser⟩
    · intro hget
      split at hget
      · rename_i hk
        obtain ⟨row, hrow, rfl⟩ := Option.map_eq_some_iff.mp hget
        obtain ⟨hmem, huser⟩ := AuthSite.getTotp_some.mp hrow
        refine ⟨⟨row, hmem, ?_⟩, (apply_user f row).trans huser⟩
        rw [if_pos (beq_iff_eq.mpr (huser.trans hk))]
      · rename_i hk
        obtain ⟨hmem, huser⟩ := AuthSite.getTotp_some.mp hget
        refine ⟨⟨row', hmem, ?_⟩, huser⟩
        rw [if_neg fun hpk => hk (huser.symm.trans (eq_of_beq hpk))]
  · cases h

theorem getTotp_putTotp {t t' : AuthSite} (h : t.putTotp row = some t') (k : UserId) :
    t'.getTotp k = if k = row.user then some row else t.getTotp k := by
  unfold AuthSite.putTotp at h
  split at h
  · obtain rfl := Option.some.inj h
    ext row'
    rw [AuthSite.getTotp_some]
    simp only [Table.mem_put]
    split
    · rename_i hk
      constructor
      · rintro ⟨rfl | ⟨-, hne⟩, huser⟩
        · rfl
        · exact absurd (huser.trans hk) hne
      · intro heq
        obtain rfl := Option.some.inj heq
        exact ⟨Or.inl rfl, hk.symm⟩
    · rename_i hk
      rw [AuthSite.getTotp_some]
      constructor
      · rintro ⟨rfl | ⟨hmem, -⟩, huser⟩
        · exact absurd huser.symm hk
        · exact ⟨hmem, huser⟩
      · rintro ⟨hmem, huser⟩
        exact ⟨Or.inr ⟨hmem, fun hkey => hk (huser.symm.trans hkey)⟩, huser⟩
  · cases h

theorem getTotp_upsertTotp {secret : String} {backupCodes : List String}
    (h : s.upsertTotp pk secret backupCodes id = some s') (k : UserId) :
    s'.getTotp k = if k = pk then
        some ⟨pk, secret, false, ((s.getTotp pk).map (·.backupCodes)).getD backupCodes⟩
      else s.getTotp k := by
  unfold TotpSite.upsertTotp at h
  split at h
  · rename_i hrow
    obtain ⟨t, hput, rfl⟩ := Option.map_eq_some_iff.mp h
    rw [hrow]
    exact getTotp_putTotp hput k
  · rename_i hrow
    obtain ⟨t, hput, rfl⟩ := Option.map_eq_some_iff.mp h
    rw [hrow]
    exact getTotp_putTotp hput k

theorem getTotp_deleteById (s : TotpSite) (pk : UserId) (id : UUID) (k : UserId) :
    (s.deleteById pk id).getTotp k
      = if k = pk ∧ s.totpId pk = id then none else s.getTotp k := by
  unfold TotpSite.deleteById
  by_cases hid : s.totpId pk = id
  · rw [if_pos hid]
    ext row'
    rw [AuthSite.getTotp_some]
    simp only [AuthSite.deleteTotp, Table.mem_delete, hid, and_true]
    split
    · rename_i hk
      constructor
      · rintro ⟨⟨-, hne⟩, huser⟩
        rw [huser, hk] at hne
        simp at hne
      · intro hnone
        cases hnone
    · rename_i hk
      rw [AuthSite.getTotp_some]
      constructor
      · rintro ⟨⟨hmem, -⟩, huser⟩
        exact ⟨hmem, huser⟩
      · rintro ⟨hmem, huser⟩
        exact ⟨⟨hmem, by simpa [huser] using hk⟩, huser⟩
  · rw [if_neg hid, if_neg fun hboth => hid hboth.2]

/-! ## What one access can do -/

/-- The code a call goes on with is good for the instance it holds. -/
def Established (cfg : AuthConfig) : Position → Prop
  | codeFound _ row _ code => code ∈ row.backupCodes
  | confirmed _ row _ code _ =>
      (∃ now, cfg.verify row.secret code now = true) ∨ code ∈ row.backupCodes
  | _ => True

/-- One access: nothing that matters to the TOTP rows, the check of an
enabling code, or one of the four writes. -/
inductive Access (cfg : AuthConfig) (s : TotpSite) : Position → TotpSite → Position → Prop
  | quiet {p p' : Position} {s' : TotpSite} :
      s'.userTotps = s.userTotps → s'.totpId = s.totpId → p'.mark = p.mark →
      Established cfg p' → Access cfg s p s' p'
  | check (req : AuthRequest) (user : User) (row : UserTOTP) (id : UUID) (code : String)
      (now : Time) : cfg.verify row.secret code now = true →
      Access cfg s (start (.enable req user)) s (enableVerified row id)
  | setup (req : AuthRequest) (user : User) (id : UUID) (r : AuthResponse) {s' : TotpSite} :
      s.upsertTotp user.pk req.fresh.secret req.fresh.backupCodes id = some s' →
      Access cfg s (setupChecked req user id) s' (answer r)
  | enable (row : UserTOTP) (id : UUID) (outcome : Outcome) {s' : TotpSite} :
      s.saveById row.user id AuthSite.setEnabled = some s' →
      Access cfg s (enableVerified row id) s' (done outcome (.verified row.user row.secret))
  | spend (caller : Caller) (row : UserTOTP) (id : UUID) (code : String) {s' : TotpSite} :
      s.saveById row.user id (TotpSite.setBackupCodes (row.backupCodes.filter (· ≠ code)))
        = some s' →
      Access cfg s (codeFound caller row id code) s'
        (confirmed caller row id code (.used row.user code))
  | remove (user : User) (row : UserTOTP) (id : UUID) (code : String) (outcome : Outcome)
      (mark : Mark) :
      Access cfg s (confirmed (.disable user) row id code mark) (s.deleteById row.user id)
        (done outcome mark)

theorem tryBackupCode_spec (cfg : AuthConfig) (caller : Caller) (row : UserTOTP) (id : UUID)
    (code : String) : (tryBackupCode cfg caller row id code).mark = .nothing
      ∧ Established cfg (tryBackupCode cfg caller row id code) := by
  unfold tryBackupCode
  split
  · rename_i hmem
    exact ⟨rfl, hmem⟩
  · exact ⟨rfl, trivial⟩

theorem tryCode_spec (cfg : AuthConfig) (now : Time) (caller : Caller) (row : UserTOTP)
    (id : UUID) (code : String) : (tryCode cfg now caller row id code).mark = .nothing
      ∧ Established cfg (tryCode cfg now caller row id code) := by
  unfold tryCode
  split
  · rename_i hverify
    exact ⟨rfl, Or.inl ⟨now, hverify⟩⟩
  · exact tryBackupCode_spec cfg caller row id code

theorem begin_access (cfg : AuthConfig) (now : Time) (s : TotpSite) (call : Call) :
    Access cfg s (start call) s (begin cfg now s call) := by
  have hquiet : ∀ {p' : Position}, p'.mark = .nothing ∧ Established cfg p' →
      Access cfg s (start call) s p' := fun h => .quiet rfl rfl h.1 h.2
  have hplain : ∀ {p' : Position}, p'.mark = .nothing → Established cfg p' = True →
      Access cfg s (start call) s p' := fun hmark htrue => hquiet ⟨hmark, htrue ▸ trivial⟩
  unfold begin
  cases call with
  | setup req user id =>
      simp only
      split <;> exact hplain rfl rfl
  | enable req user =>
      simp only
      split
      · exact hplain rfl rfl
      · split
        · exact hplain rfl rfl
        · split
          · exact hplain rfl rfl
          · split
            · exact hplain rfl rfl
            · split
              · exact hplain rfl rfl
              · rename_i hverify
                exact .check req user _ _ _ now (by simpa using hverify)
  | disable req user =>
      simp only
      split
      · exact hplain rfl rfl
      · split
        · exact hplain rfl rfl
        · split
          · exact hplain rfl rfl
          · split
            · exact hplain rfl rfl
            · exact hquiet (tryCode_spec ..)
  | complete req =>
      simp only
      split
      · exact hplain rfl rfl
      · split
        · exact hplain rfl rfl
        · split <;> exact hplain rfl rfl
  | useBackupCode pk code =>
      simp only
      split
      · exact hplain rfl rfl
      · exact hquiet (tryBackupCode_spec ..)

theorem next_access (h : next cfg now s p = some (s', p')) : Access cfg s p s' p' := by
  cases p with
  | start call =>
      obtain ⟨rfl, rfl⟩ := Prod.mk.inj (Option.some.inj h)
      exact begin_access cfg now s call
  | setupChecked req user id =>
      simp only [next] at h
      split at h
      · obtain ⟨rfl, rfl⟩ := Prod.mk.inj (Option.some.inj h)
        exact .quiet rfl rfl rfl trivial
      · rename_i hupsert
        obtain ⟨rfl, rfl⟩ := Prod.mk.inj (Option.some.inj h)
        exact .setup req user id _ hupsert
  | enableVerified row id =>
      simp only [next] at h
      split at h
      · obtain ⟨rfl, rfl⟩ := Prod.mk.inj (Option.some.inj h)
        exact .quiet rfl rfl rfl trivial
      · rename_i hsave
        obtain ⟨rfl, rfl⟩ := Prod.mk.inj (Option.some.inj h)
        exact .enable row id _ hsave
  | sessionFound sessionKey code pk =>
      simp only [next] at h
      split at h <;> obtain ⟨rfl, rfl⟩ := Prod.mk.inj (Option.some.inj h) <;>
        exact .quiet rfl rfl rfl trivial
  | userLoaded sessionKey code user =>
      simp only [next] at h
      split at h
      · obtain ⟨rfl, rfl⟩ := Prod.mk.inj (Option.some.inj h)
        exact .quiet rfl rfl rfl trivial
      · split at h
        · obtain ⟨rfl, rfl⟩ := Prod.mk.inj (Option.some.inj h)
          exact .quiet rfl rfl rfl trivial
        · rename_i row _ _
          obtain ⟨rfl, rfl⟩ := Prod.mk.inj (Option.some.inj h)
          have hspec := tryCode_spec cfg now (.complete user sessionKey) row (s.totpId user.pk) code
          exact .quiet rfl rfl hspec.1 hspec.2
  | stale sessionKey =>
      obtain ⟨rfl, rfl⟩ := Prod.mk.inj (Option.some.inj h)
      exact .quiet rfl rfl rfl trivial
  | codeFound caller row id code =>
      simp only [next] at h
      split at h
      · obtain ⟨rfl, rfl⟩ := Prod.mk.inj (Option.some.inj h)
        exact .quiet rfl rfl rfl trivial
      · rename_i hsave
        obtain ⟨rfl, rfl⟩ := Prod.mk.inj (Option.some.inj h)
        exact .spend caller row id code hsave
  | confirmed caller row id code mark =>
      cases caller with
      | disable user =>
          obtain ⟨rfl, rfl⟩ := Prod.mk.inj (Option.some.inj h)
          exact .remove user row id code _ mark
      | complete user sessionKey =>
          obtain ⟨rfl, rfl⟩ := Prod.mk.inj (Option.some.inj h)
          exact .quiet rfl rfl rfl trivial
      | direct =>
          obtain ⟨rfl, rfl⟩ := Prod.mk.inj (Option.some.inj h)
          exact .quiet rfl rfl rfl trivial
  | done outcome mark => cases h

theorem Access.established (hp : Established cfg p) (h : Access cfg s p s' p') :
    Established cfg p' := by
  cases h with
  | quiet _ _ _ hp' => exact hp'
  | check => trivial
  | setup => trivial
  | enable => trivial
  | spend => exact Or.inr hp
  | remove => trivial

end

end TwoFactorRace

end SaasKit
