import SaasKit.GdprService
import SaasKit.Lib.Run

/-!
# Revoked refresh tokens

Runs of simplejwt's two tables under logins, logouts, rotations and
erasures. A refresh token is rejected when its outstanding token is
blacklisted, so what an erasure does by deleting outstanding tokens is the
opposite of revoking them: their blacklist entries go along, and a token
that was logged out is accepted again (`logged_out_token_returns`).

`Harmless` is the condition under which an erasure deletes no entry that
still counts and finds every token of the user rejected by an entry it does
not delete. In runs of such erasures rejection is permanent
(`revocation_monotone`).
-/

namespace SaasKit

/-- The claims of a refresh token. -/
structure RefreshToken where
  jti : String
  user : UserId
  exp : Time
  deriving DecidableEq, Repr

namespace AccountSite

/-- `BlacklistedToken.objects.filter(token__jti=jti).exists()`. -/
def Rejected (s : AccountSite) (jti : String) : Prop :=
  ∃ b ∈ s.blacklistedTokens, ∃ t ∈ s.outstandingTokens, t.id = b.token ∧ t.jti = jti

instance (s : AccountSite) (jti : String) : Decidable (s.Rejected jti) :=
  inferInstanceAs (Decidable (∃ b ∈ s.blacklistedTokens, ∃ t ∈ s.outstandingTokens,
    t.id = b.token ∧ t.jti = jti))

theorem getUser_fk {s : AccountSite} {token : RefreshToken} {pk : UserId}
    (h : (s.getUser token.user).map (·.pk) = some pk) : ∃ u ∈ s.users, u.pk = pk := by
  obtain ⟨u, hu, rfl⟩ := Option.map_eq_some_iff.mp h
  exact ⟨u, (Site.getUser_some hu).1, rfl⟩

/-- `OutstandingToken.objects.get_or_create(jti=...)`, with the id a new row
gets; a row that cannot be added changes nothing. -/
def outstand (s : AccountSite) (token : RefreshToken) (id : Nat) : AccountSite :=
  if s.outstandingTokens.any (·.jti == token.jti) then s
  else
    match h : s.outstandingTokens.insert?
        ⟨id, (s.getUser token.user).map (·.pk), token.jti, token.exp⟩ with
    | none => s
    | some tokens =>
        { s with
          outstandingTokens := tokens
          outstanding_fk := fun row hrow pk hpk => by
            rcases (Table.mem_insert? h).mp hrow with hrow | rfl
            · exact s.outstanding_fk row hrow pk hpk
            · exact getUser_fk hpk
          blacklist_fk := fun row hrow => by
            obtain ⟨t, ht, hid⟩ := s.blacklist_fk row hrow
            exact ⟨t, (Table.mem_insert? h).mpr (Or.inl ht), hid⟩ }

/-- `token.blacklist()`. -/
def blacklist (s : AccountSite) (token : RefreshToken) (id : Nat) : AccountSite :=
  let s := s.outstand token id
  match h : s.outstandingTokens.find? (·.jti == token.jti) with
  | none => s
  | some row =>
      { s with
        blacklistedTokens := s.blacklistedTokens.put ⟨row.id⟩
        blacklist_fk := fun b hb => by
          rcases Table.mem_put.mp hb with rfl | ⟨hb, -⟩
          · exact ⟨row, (Table.find?_some h).1, rfl⟩
          · exact s.blacklist_fk b hb }

end AccountSite

namespace TokenRevocation

open AccountSite GDPRService

/-! ## Runs -/

/-- The deployment with the refresh tokens it has signed so far. -/
structure World where
  site : AccountSite
  issued : List RefreshToken
  now : Time

/-- `ids` are the ids of rows that may be added. -/
inductive Op where
  | login (user : User) (jti : String) (exp : Time) (id : Nat)
  | logout (token : RefreshToken) (id : Nat)
  | rotate (token : RefreshToken) (jti : String) (exp : Time) (ids : Nat × Nat)
  | anonymize (user : User) (draw : Placeholder)
  | hardDelete (user : User)
  | wait (duration : Nat)

/-- A token passes: it is signed, not expired and not blacklisted. -/
def Valid (w : World) (token : RefreshToken) : Prop :=
  token ∈ w.issued ∧ w.now < token.exp ∧ ¬ w.site.Rejected token.jti

instance (w : World) (token : RefreshToken) : Decidable (Valid w token) :=
  inferInstanceAs (Decidable (_ ∧ _ ∧ _))

def issue (w : World) (token : RefreshToken) (id : Nat) : World :=
  { w with site := w.site.outstand token id, issued := token :: w.issued }

def serve (w : World) : Op → World
  | .login user jti exp id =>
      if w.site.users.any (·.pk == user.pk) then issue w ⟨jti, user.pk, exp⟩ id else w
  | .logout token id =>
      if Valid w token then { w with site := w.site.blacklist token id } else w
  | .rotate token jti exp ids =>
      if Valid w token ∧ (w.site.getUser token.user).any (·.isActive) then
        issue { w with site := w.site.blacklist token ids.1 } ⟨jti, token.user, exp⟩ ids.2
      else w
  | .anonymize user draw => { w with site := (GDPRService.anonymize w.site user draw).2 }
  | .hardDelete user => { w with site := (GDPRService.hardDelete w.site user).2 }
  | .wait duration => { w with now := w.now + duration }

def Step (w : World) (op : Op) (w' : World) : Prop := serve w op = w'

/-- No blacklist entry of a token that has not expired hangs on an
outstanding token of the user. -/
def Unowned (w : World) (user : User) : Prop :=
  ∀ token ∈ w.issued, w.now < token.exp →
    ∀ b ∈ w.site.blacklistedTokens, ∀ t ∈ w.site.outstandingTokens,
      t.id = b.token → t.jti = token.jti → t.user ≠ some user.pk

/-- Every token issued to the user is rejected by an entry that does not
hang on an outstanding token of the user. -/
def Revoked (w : World) (user : User) : Prop :=
  ∀ token ∈ w.issued, token.user = user.pk →
    ∃ b ∈ w.site.blacklistedTokens, ∃ t ∈ w.site.outstandingTokens,
      t.id = b.token ∧ t.jti = token.jti ∧ t.user ≠ some user.pk

/-- What an erasure may meet. -/
def Harmless (w : World) : Op → Prop
  | .anonymize user draw =>
      Returns w.site user draw → Unowned w user ∧ Revoked w user
  | .hardDelete user => Unowned w user
  | _ => True

abbrev HarmlessStep : World → Op → World → Prop := Lts.Guarded Step Harmless

/-! ## Rejection under one operation -/

section

variable {s s' : AccountSite} {w w' w₀ : World} {user : User} {token : RefreshToken}
  {jti : String} {op : Op} {ops : List Op}

/-- Entries that are there still reject, whatever else happens to the rows
they hang on. -/
theorem rejected_mono (h : s.Rejected jti)
    (hblacklisted : ∀ b ∈ s.blacklistedTokens, b ∈ s'.blacklistedTokens)
    (houtstanding : ∀ t ∈ s.outstandingTokens,
      ∃ t' ∈ s'.outstandingTokens, t'.id = t.id ∧ t'.jti = t.jti) : s'.Rejected jti := by
  obtain ⟨b, hb, t, ht, hid, hjti⟩ := h
  obtain ⟨t', ht', hid', hjti'⟩ := houtstanding t ht
  exact ⟨b, hblacklisted b hb, t', ht', hid'.trans hid, hjti'.trans hjti⟩

theorem rejected_outstand (token : RefreshToken) (id : Nat) (h : s.Rejected jti) :
    (s.outstand token id).Rejected jti := by
  unfold outstand
  split
  · exact h
  · split
    · exact h
    · rename_i hinsert
      exact rejected_mono h (fun _ hb => hb)
        fun t ht => ⟨t, (Table.mem_insert? hinsert).mpr (Or.inl ht), rfl, rfl⟩

theorem rejected_blacklist {id : Nat} (h : s.Rejected jti) :
    (s.blacklist token id).Rejected jti := by
  have houtstand := rejected_outstand token id h
  unfold blacklist
  simp only
  split
  · exact houtstand
  · rename_i row _
    refine rejected_mono houtstand (fun b hb => Table.mem_put.mpr ?_)
      fun t ht => ⟨t, ht, rfl, rfl⟩
    by_cases hsame : b.token = row.id
    · exact Or.inl (congrArg BlacklistedToken.mk hsame)
    · exact Or.inr ⟨hb, hsame⟩

theorem clash_symm (a b : OutstandingToken) :
    OutstandingToken.clash a b = OutstandingToken.clash b a := by
  simp only [OutstandingToken.clash, BEq.comm]

/-- An entry that does not hang on a token of the user is not part of the
cascade. -/
theorem rejected_revokeTokens {b : BlacklistedToken} {t : OutstandingToken}
    (hb : b ∈ s.blacklistedTokens) (ht : t ∈ s.outstandingTokens) (hid : t.id = b.token)
    (hjti : t.jti = jti) (howner : t.user ≠ some user.pk) :
    (s.revokeTokens user).2.Rejected jti := by
  have hnotOwn : ownToken user t = false := by simpa [ownToken] using howner
  have hkept : s.cascaded user b = false := by
    refine Table.any_eq_false.mpr fun t' ht' => ?_
    by_cases hsame : t'.id = b.token
    · have hclash : OutstandingToken.clash t' t = true := by
        simp [OutstandingToken.clash, hsame, hid]
      obtain rfl := Table.eq_of_clash clash_symm ht' ht hclash
      simp [hnotOwn]
    · simp [hsame]
  exact ⟨b, Table.mem_delete.mpr ⟨hb, hkept⟩, t, Table.mem_delete.mpr ⟨ht, hnotOwn⟩, hid, hjti⟩

theorem rejected_anonymize {draw : Placeholder} (h : s.Rejected jti)
    (hrevoke : Returns s user draw → (s.revokeTokens user).2.Rejected jti) :
    (GDPRService.anonymize s user draw).2.Rejected jti := by
  rcases hcall : GDPRService.anonymize s user draw with ⟨e | r, s'⟩
  · rw [anonymize_error hcall]
    exact h
  · have hrejected := hrevoke (returns_of_ok (congrArg Prod.fst hcall))
    have hleft := anonymize_ok hcall
    refine rejected_mono hrejected (fun b hb => ?_) fun t ht => ⟨t, ?_, rfl, rfl⟩
    · rw [hleft.blacklistedTokens]
      exact hb
    · rw [hleft.outstandingTokens]
      exact ht

theorem rejected_hardDelete (h : (s.revokeTokens user).2.Rejected jti) :
    (GDPRService.hardDelete s user).2.Rejected jti := by
  refine rejected_mono h (fun _ hb => hb) fun t ht => ?_
  refine ⟨if ownToken user t then clearTokenUser.apply t else t,
    Table.mem_modify.mpr ⟨t, ht, rfl⟩, ?_⟩
  split <;> exact ⟨rfl, rfl⟩

/-! ## Rejection over a run -/

/-- Time goes on, no token is unsigned, and a rejected token stays rejected
until it expires. -/
structure Later (w w' : World) : Prop where
  now : w.now ≤ w'.now
  issued : ∀ token ∈ w.issued, token ∈ w'.issued
  rejected : ∀ token ∈ w.issued, w'.now < token.exp →
    w.site.Rejected token.jti → w'.site.Rejected token.jti

theorem Later.refl (w : World) : Later w w :=
  ⟨le_refl _, fun _ h => h, fun _ _ _ h => h⟩

theorem Later.trans {w₁ w₂ w₃ : World} (h : Later w₁ w₂) (h' : Later w₂ w₃) : Later w₁ w₃ where
  now := le_trans h.now h'.now
  issued token htoken := h'.issued token (h.issued token htoken)
  rejected token htoken hlive hrejected :=
    h'.rejected token (h.issued token htoken) hlive
      (h.rejected token htoken (lt_of_le_of_lt h'.now hlive) hrejected)

/-- Only the site changes, and it rejects what it rejected. -/
theorem later_of_site {site : AccountSite} (h : ∀ token ∈ w.issued, w.now < token.exp →
    w.site.Rejected token.jti → site.Rejected token.jti) : Later w { w with site := site } :=
  ⟨le_refl _, fun _ hmem => hmem, h⟩

theorem later_issue (w : World) (token : RefreshToken) (id : Nat) : Later w (issue w token id) :=
  ⟨le_refl _, fun _ h => List.mem_cons_of_mem _ h, fun _ _ _ h => rejected_outstand token id h⟩

theorem later_step (h : HarmlessStep w op w') : Later w w' := by
  obtain ⟨hstep, hharmless⟩ := h
  obtain rfl : serve w op = w' := hstep
  cases op with
  | login user jti exp id =>
      simp only [serve]
      split
      · exact later_issue ..
      · exact .refl w
  | logout token id =>
      simp only [serve]
      split
      · exact later_of_site fun _ _ _ h => rejected_blacklist h
      · exact .refl w
  | rotate token jti exp ids =>
      simp only [serve]
      split
      · have hblacklist : Later w { w with site := w.site.blacklist token ids.1 } :=
          later_of_site fun _ _ _ h => rejected_blacklist h
        exact hblacklist.trans (later_issue ..)
      · exact .refl w
  | anonymize user draw =>
      refine later_of_site fun token htoken hlive hrejected =>
        rejected_anonymize hrejected fun hreturns => ?_
      obtain ⟨b, hb, t, ht, hid, hjti⟩ := hrejected
      have howner := (hharmless hreturns).1 token htoken hlive b hb t ht hid hjti
      exact rejected_revokeTokens hb ht hid hjti howner
  | hardDelete user =>
      refine later_of_site fun token htoken hlive hrejected => rejected_hardDelete ?_
      obtain ⟨b, hb, t, ht, hid, hjti⟩ := hrejected
      have howner := hharmless token htoken hlive b hb t ht hid hjti
      exact rejected_revokeTokens hb ht hid hjti howner
  | wait duration =>
      have hnow : w.now ≤ w.now + (duration : Int) :=
        Int.le_add_of_nonneg_right (Int.natCast_nonneg duration)
      exact ⟨hnow, fun _ h => h, fun _ _ _ h => h⟩

theorem later_run (h : Lts.Run HarmlessStep w ops w') : Later w w' :=
  (h.relates (I := fun _ => True) Later.refl (fun _ _ _ => Later.trans)
    (fun _ _ _ _ hstep => ⟨trivial, later_step hstep⟩) trivial).2

/-- An anonymization that returns leaves every token of the user rejected. -/
theorem revoked_after {draw : Placeholder} {r : ErasureResult}
    (h : HarmlessStep w (.anonymize user draw) w')
    (hreturns : (GDPRService.anonymize w.site user draw).1 = .ok r)
    (htoken : token ∈ w.issued) (huser : token.user = user.pk) : w'.site.Rejected token.jti := by
  obtain ⟨hstep, hharmless⟩ := h
  obtain rfl : serve w (.anonymize user draw) = w' := hstep
  obtain ⟨b, hb, t, ht, hid, hjti, howner⟩ :=
    (hharmless (returns_of_ok hreturns)).2 token htoken huser
  exact rejected_anonymize ⟨b, hb, t, ht, hid, hjti⟩ fun _ =>
    rejected_revokeTokens hb ht hid hjti howner

/-- In a run whose erasures are harmless a rejected token stays rejected
until it expires, and every anonymization in it leaves all tokens of its
user rejected, for good. -/
theorem revocation_monotone (hrun : Lts.Run HarmlessStep w₀ ops w) :
    (∀ token ∈ w₀.issued, w.now < token.exp →
        w₀.site.Rejected token.jti → w.site.Rejected token.jti)
      ∧ ∀ pre user draw post, ops = pre ++ .anonymize user draw :: post →
        ∃ w₁ w₂, Lts.Run HarmlessStep w₀ pre w₁ ∧ HarmlessStep w₁ (.anonymize user draw) w₂
          ∧ Lts.Run HarmlessStep w₂ post w
          ∧ ∀ r, (GDPRService.anonymize w₁.site user draw).1 = .ok r →
            ∀ token ∈ w₁.issued, token.user = user.pk →
              w₂.site.Rejected token.jti ∧ (w.now < token.exp → w.site.Rejected token.jti) := by
  refine ⟨(later_run hrun).rejected, fun pre user draw post hops => ?_⟩
  subst hops
  obtain ⟨w₁, w₂, hpre, hstep, hpost⟩ := hrun.split
  refine ⟨w₁, w₂, hpre, hstep, hpost, fun r hreturns token htoken huser => ?_⟩
  have hafter := revoked_after hstep hreturns htoken huser
  have hissued := (later_step hstep).issued token htoken
  exact ⟨hafter, fun hlive => (later_run hpost).rejected token hissued hlive hafter⟩

end

/-! ## Logged out and erased -/

/-- The demo deployment with a second account and a refresh token of the
admin. -/
def world : World where
  site := { DemoSeed.accounts with
    users := ⟨[DemoSeed.guest, DemoSeed.admin], by decide⟩
    outstandingTokens := ⟨[⟨1, some DemoSeed.admin.pk, "jti-1", 100⟩], List.pairwise_singleton ..⟩
    totp_fk := by decide
    profile_fk := by decide
    notification_fk := by decide
    outstanding_fk := by
      intro row hrow pk hpk
      obtain rfl := List.mem_singleton.mp hrow
      exact ⟨DemoSeed.admin, by decide, Option.some.inj hpk⟩
    blacklist_fk := by decide }
  issued := [⟨"jti-1", DemoSeed.admin.pk, 100⟩]
  now := 0

def logout : Op := .logout ⟨"jti-1", DemoSeed.admin.pk, 100⟩ 2

def loggedOut : World := serve world logout

def draw : Placeholder := ⟨"5f0c1d9a7b3e", "!kq2cZVx0"⟩

instance (w : World) (user : User) : Decidable (Unowned w user) :=
  inferInstanceAs (Decidable (∀ token ∈ w.issued, w.now < token.exp →
    ∀ b ∈ w.site.blacklistedTokens, ∀ t ∈ w.site.outstandingTokens,
      t.id = b.token → t.jti = token.jti → t.user ≠ some user.pk))

/-- The guest has no tokens: the admin's logout outlives that account. -/
theorem logout_outlives_guest :
    (serve loggedOut (.anonymize DemoSeed.guest draw)).site.Rejected "jti-1" := by
  have hstep : HarmlessStep loggedOut (.anonymize DemoSeed.guest draw)
      (serve loggedOut (.anonymize DemoSeed.guest draw)) := by
    refine ⟨rfl, fun _ => ⟨by decide, fun token htoken huser => ?_⟩⟩
    obtain rfl := List.mem_singleton.mp htoken
    cases huser
  exact (revocation_monotone (.cons hstep (.nil _))).1 ⟨"jti-1", DemoSeed.admin.pk, 100⟩
    (by decide) (by decide) (by decide)

/-- A token that was logged out is accepted after the erasure. -/
theorem logged_out_token_returns :
    ¬ ∀ (w₀ w : World) (ops : List Op), Lts.Run Step w₀ ops w → ∀ token ∈ w₀.issued,
      w.now < token.exp → w₀.site.Rejected token.jti → w.site.Rejected token.jti := by
  intro hall
  have hrejected := hall loggedOut _ [.anonymize DemoSeed.admin draw] (.cons rfl (.nil _))
    ⟨"jti-1", DemoSeed.admin.pk, 100⟩ (by decide) (by decide) (by decide)
  revert hrejected
  decide

end TokenRevocation

end SaasKit
