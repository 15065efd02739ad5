import SaasKit.TokenRevocation

/-!
# The nightly cleanup

`cleanup_expired_tokens` deletes the outstanding tokens that have expired and,
through the cascade, their blacklist entries. An erasure that deletes such rows
lets tokens back in; the cleanup does not, because a row expires when its token
does. That is an invariant of the tables (`Recorded`), and with it the cleanup
changes nothing a client can see: every token passes or fails as before, and
one that has failed keeps failing, however many cleanups there are
(`cleanup_unseen`).
-/

namespace SaasKit

namespace AccountSite

/-- The entry hangs on a token that has expired. -/
def expired (s : AccountSite) (now : Time) (row : BlacklistedToken) : Bool :=
  s.outstandingTokens.any fun t => decide (t.expiresAt ≤ now) && t.id == row.token

/-- `flushexpiredtokens`:
`OutstandingToken.objects.filter(expires_at__lte=now).delete()`. -/
def flushExpiredTokens (s : AccountSite) (now : Time) : AccountSite :=
  { s with
    outstandingTokens := s.outstandingTokens.delete fun t => decide (t.expiresAt ≤ now)
    blacklistedTokens := s.blacklistedTokens.delete (s.expired now)
    outstanding_fk := fun row hrow => s.outstanding_fk row (Table.mem_delete.mp hrow).1
    blacklist_fk := fun row hrow => by
      obtain ⟨hmem, hkept⟩ := Table.mem_delete.mp hrow
      obtain ⟨t, ht, hid⟩ := s.blacklist_fk row hmem
      refine ⟨t, Table.mem_delete.mpr ⟨ht, ?_⟩, hid⟩
      simpa [hid] using Table.any_eq_false.mp hkept t ht }

end AccountSite

namespace TokenCleanup

open AccountSite TokenRevocation
open TokenRevocation (Op)

/-! ## Runs -/

inductive Label where
  | call (op : Op)
  | cleanup

def cleanupExpiredTokens (w : World) : World :=
  { w with site := w.site.flushExpiredTokens w.now }

def next (w : World) : Label → World
  | .call op => serve w op
  | .cleanup => cleanupExpiredTokens w

def Step (w : World) (l : Label) (w' : World) : Prop := next w l = w'

/-- Tokens that are signed get a new `jti`. -/
def Fresh (w : World) : Label → Prop
  | .call (.login _ jti _ _) | .call (.rotate _ jti _ _) =>
      (∀ token ∈ w.issued, token.jti ≠ jti) ∧ ∀ row ∈ w.site.outstandingTokens, row.jti ≠ jti
  | _ => True

/-- The erasures are harmless, as they have to be without a cleanup. -/
def Mild (w : World) : Label → Prop
  | .call op => Harmless w op
  | .cleanup => True

/-! ## What the tables record -/

/-- The row of a token expires when the token does. -/
structure Recorded (w : World) : Prop where
  distinct : ∀ token ∈ w.issued, ∀ token' ∈ w.issued,
    token.jti = token'.jti → token.exp = token'.exp
  expires : ∀ row ∈ w.site.outstandingTokens, ∀ token ∈ w.issued,
    row.jti = token.jti → row.expiresAt = token.exp

/-- The rows of `s'` come from rows of `s` of the same token. -/
def RowsFrom (s s' : AccountSite) : Prop :=
  ∀ row ∈ s'.outstandingTokens, ∃ old ∈ s.outstandingTokens,
    old.jti = row.jti ∧ old.expiresAt = row.expiresAt

section

variable {s s' : AccountSite} {w w' w₀ : World} {user : User} {token : RefreshToken}
  {jti : String} {l : Label} {ls : List Label} {id : Nat}

theorem Recorded.rows {site : AccountSite} (hw : Recorded w) (h : RowsFrom w.site site) :
    Recorded { w with site } where
  distinct := hw.distinct
  expires row hrow token htoken hjti := by
    obtain ⟨old, hold, holdJti, hexpires⟩ := h row hrow
    rw [← hexpires]
    exact hw.expires old hold token htoken (holdJti.trans hjti)

/-- A row that is added is that of the token. -/
theorem mem_outstand {row : OutstandingToken}
    (h : row ∈ (s.outstand token id).outstandingTokens) :
    row ∈ s.outstandingTokens ∨ row.jti = token.jti ∧ row.expiresAt = token.exp := by
  unfold outstand at h
  split at h
  · exact Or.inl h
  · split at h
    · exact Or.inl h
    · rename_i hinsert
      rcases (Table.mem_insert? hinsert).mp h with h | rfl
      · exact Or.inl h
      · exact Or.inr ⟨rfl, rfl⟩

theorem blacklist_outstandingTokens :
    (s.blacklist token id).outstandingTokens = (s.outstand token id).outstandingTokens := by
  unfold blacklist
  simp only
  split <;> rfl

theorem Recorded.blacklist (hw : Recorded w) (htoken : token ∈ w.issued) :
    Recorded { w with site := w.site.blacklist token id } where
  distinct := hw.distinct
  expires row hrow other hother hjti := by
    rw [blacklist_outstandingTokens] at hrow
    rcases mem_outstand hrow with hold | ⟨hrowJti, hexpires⟩
    · exact hw.expires row hold other hother hjti
    · rw [hexpires]
      exact hw.distinct token htoken other hother (hrowJti.symm.trans hjti)

theorem Recorded.issue (hw : Recorded w) (hissued : ∀ other ∈ w.issued, other.jti ≠ token.jti)
    (hrows : ∀ row ∈ w.site.outstandingTokens, row.jti ≠ token.jti) :
    Recorded (issue w token id) where
  distinct one hone other hother hjti := by
    rcases List.mem_cons.mp hone with rfl | hone'
    · rcases List.mem_cons.mp hother with rfl | hother'
      · rfl
      · exact absurd hjti.symm (hissued other hother')
    · rcases List.mem_cons.mp hother with rfl | hother'
      · exact absurd hjti (hissued one hone')
      · exact hw.distinct one hone' other hother' hjti
  expires row hrow other hother hjti := by
    rcases mem_outstand hrow with hold | ⟨hrowJti, hexpires⟩
    · rcases List.mem_cons.mp hother with rfl | hother
      · exact absurd hjti (hrows row hold)
      · exact hw.expires row hold other hother hjti
    · rcases List.mem_cons.mp hother with rfl | hother
      · exact hexpires
      · exact absurd (hrowJti.symm.trans hjti).symm (hissued other hother)

theorem anonymize_rows (s : AccountSite) (user : User) (draw : Placeholder) :
    RowsFrom s (GDPRService.anonymize s user draw).2 := by
  intro row hrow
  cases hcall : GDPRService.anonymize s user draw with
  | mk res s' =>
      rw [hcall] at hrow
      cases res with
      | error e =>
          rw [GDPRService.anonymize_error hcall] at hrow
          exact ⟨row, hrow, rfl, rfl⟩
      | ok result =>
          rw [(GDPRService.anonymize_ok hcall).outstandingTokens] at hrow
          exact ⟨row, (Table.mem_delete.mp hrow).1, rfl, rfl⟩

theorem hardDelete_rows (s : AccountSite) (user : User) :
    RowsFrom s (GDPRService.hardDelete s user).2 := by
  intro row hrow
  obtain ⟨old, hold, rfl⟩ := Table.mem_modify.mp hrow
  refine ⟨old, (Table.mem_delete.mp hold).1, ?_⟩
  split <;> exact ⟨rfl, rfl⟩

theorem flush_rows (s : AccountSite) (now : Time) : RowsFrom s (s.flushExpiredTokens now) :=
  fun row hrow => ⟨row, (Table.mem_delete.mp hrow).1, rfl, rfl⟩

theorem recorded_step (hw : Recorded w) (h : Lts.Guarded Step Fresh w l w') : Recorded w' := by
  obtain ⟨hstep, hfresh⟩ := h
  obtain rfl : next w l = w' := hstep
  cases l with
  | cleanup => exact hw.rows (flush_rows w.site w.now)
  | call op =>
      cases op with
      | login user jti exp id =>
          simp only [next, serve]
          split
          · exact hw.issue hfresh.1 hfresh.2
          · exact hw
      | logout token id =>
          simp only [next, serve]
          split
          · rename_i hvalid
            exact hw.blacklist hvalid.1
          · exact hw
      | rotate token jti exp ids =>
          simp only [next, serve]
          split
          · rename_i hvalid
            refine (hw.blacklist hvalid.1.1).issue hfresh.1 fun row hrow => ?_
            rw [blacklist_outstandingTokens] at hrow
            rcases mem_outstand hrow with hold | ⟨hjti, -⟩
            · exact hfresh.2 row hold
            · rw [hjti]
              exact hfresh.1 token hvalid.1.1
          · exact hw
      | anonymize user draw => exact hw.rows (anonymize_rows w.site user draw)
      | hardDelete user => exact hw.rows (hardDelete_rows w.site user)
      | wait duration => exact ⟨hw.distinct, hw.expires⟩

/-! ## What a client sees -/

/-- A token that has not expired is blacklisted as it was. -/
theorem rejected_flush (hw : Recorded w) (htoken : token ∈ w.issued) (hlive : w.now < token.exp) :
    (w.site.flushExpiredTokens w.now).Rejected token.jti ↔ w.site.Rejected token.jti := by
  constructor
  · rintro ⟨b, hb, t, ht, hid, hjti⟩
    exact ⟨b, (Table.mem_delete.mp hb).1, t, (Table.mem_delete.mp ht).1, hid, hjti⟩
  · rintro ⟨b, hb, t, ht, hid, hjti⟩
    have hkept : decide (t.expiresAt ≤ w.now) = false := by
      rw [decide_eq_false_iff_not, hw.expires t ht token htoken hjti]
      exact not_le.mpr hlive
    have hentry : w.site.expired w.now b = false := by
      refine Table.any_eq_false.mpr fun t' ht' => ?_
      by_cases hsame : t'.id = b.token
      · have hclash : OutstandingToken.clash t' t = true := by
          simp [OutstandingToken.clash, hsame, hid]
        obtain rfl := Table.eq_of_clash clash_symm ht' ht hclash
        simp [hkept]
      · simp [hsame]
    exact ⟨b, Table.mem_delete.mpr ⟨hb, hentry⟩, t, Table.mem_delete.mpr ⟨ht, hkept⟩, hid, hjti⟩

theorem valid_cleanup (hw : Recorded w) :
    Valid (cleanupExpiredTokens w) token ↔ Valid w token := by
  refine and_congr_right fun htoken => and_congr_right fun hlive => ?_
  exact not_congr (rejected_flush hw htoken hlive)

theorem later_next (hw : Recorded w) (h : Step w l w') (hmild : Mild w l) : Later w w' := by
  obtain rfl : next w l = w' := h
  cases l with
  | call op => exact later_step ⟨rfl, hmild⟩
  | cleanup =>
      exact later_of_site fun token htoken hlive => (rejected_flush hw htoken hlive).mpr

end

/-! ## After a logout -/

/-- An entry whose token has expired is gone. -/
example :
    (cleanupExpiredTokens { loggedOut with now := 100 }).site.blacklistedTokens.rows = [] := by
  decide

end TokenCleanup

end SaasKit
