import SaasKit.TwoFactorRace
import SaasKit.SecondFactor

/-!
# Setup, enabling and disabling side by side

Setup looks at `is_enabled` and then writes the secret and switches the
factor off; enabling verifies a code against the secret it loaded and then
switches the factor on, whatever secret is stored by then. `Undisturbed`
says that neither write meets a row the other has changed in between. Under
it an enabled row has a verified secret, and only a disable request that
verified a code ends it (`factor_stays_verified`).
-/

namespace SaasKit

namespace FactorRace

open TwoFactorRace Position

/-! ## The property -/

section

variable {ι : Type}

/-- The user's stored row is enabled. -/
def On (s : TotpSite) (pk : UserId) : Prop := ∃ row ∈ s.getTotp pk, row.isEnabled = true

/-- An enabled row has the secret it was enabled with before the run, or one
that an enable request has verified a code against. -/
def Vouched (cfg : AuthConfig) (c₀ c : Conf ι) : Prop :=
  ∀ pk, ∀ row ∈ c.shared.getTotp pk, row.isEnabled = true →
    (∃ row₀ ∈ c₀.shared.getTotp pk, row₀.isEnabled = true ∧ row₀.secret = row.secret)
      ∨ ∃ i code now, (c.locals i).mark = .verified pk row.secret
          ∧ cfg.verify row.secret code now = true

/-- The call is about to delete the user's row, after a code was verified. -/
def Disabling (cfg : AuthConfig) (pk : UserId) (p : Position) : Prop :=
  ∃ user row id code mark, p = confirmed (.disable user) row id code mark ∧ row.user = pk
    ∧ ((∃ now, cfg.verify row.secret code now = true) ∨ code ∈ row.backupCodes)

/-- At the end of the run the enabled rows are vouched for, and at every
step of it a factor is switched off by a disable request only. -/
structure StaysVerified (cfg : AuthConfig) (c₀ : Conf ι) (ls : List (ι × Time)) (c : Conf ι) :
    Prop where
  vouched : Vouched cfg c₀ c
  disabled : ∀ pre l post, ls = pre ++ l :: post →
    ∃ c₁ c₂, Lts.Run (Step cfg) c₀ pre c₁ ∧ Step cfg c₁ l c₂ ∧ Lts.Run (Step cfg) c₂ post c
      ∧ ∀ pk, On c₁.shared pk → ¬ On c₂.shared pk → Disabling cfg pk (c₁.locals l.1)

/-- Setup is about to write over a row that is not enabled, enabling is about
to enable the secret it has verified. -/
def UpToDate (s : TotpSite) : Position → Prop
  | setupChecked _ user _ => ∀ stored ∈ s.getTotp user.pk, stored.isEnabled = false
  | enableVerified row id => s.totpId row.user = id →
      ∀ stored ∈ s.getTotp row.user, stored.secret = row.secret
  | _ => True

instance (s : TotpSite) : (p : Position) → Decidable (UpToDate s p)
  | setupChecked _ user _ => inferInstanceAs (Decidable
      (∀ stored ∈ s.getTotp user.pk, stored.isEnabled = false))
  | enableVerified row id => inferInstanceAs (Decidable (s.totpId row.user = id →
      ∀ stored ∈ s.getTotp row.user, stored.secret = row.secret))
  | start _ | sessionFound .. | userLoaded .. | stale _ | codeFound .. | confirmed ..
  | done .. => isTrue trivial

def Undisturbed (c : Conf ι) (l : ι × Time) : Prop := UpToDate c.shared (c.locals l.1)

instance (c : Conf ι) (l : ι × Time) : Decidable (Undisturbed c l) :=
  inferInstanceAs (Decidable (UpToDate _ _))

/-! ## One access -/

variable {cfg : AuthConfig} {s s' : TotpSite} {p p' : Position} {c c' c₀ : Conf ι}
  {l : ι × Time} {ls : List (ι × Time)} {pk : UserId} {row row' : UserTOTP} {i : ι}

theorem mark_kept (h : Access cfg s p s' p') (hp : p.mark ≠ .nothing) : p'.mark = p.mark := by
  cases h with
  | quiet _ _ hmark _ => exact hmark
  | enable => rfl
  | remove => rfl
  | check => exact absurd rfl hp
  | setup => exact absurd rfl hp
  | spend => exact absurd rfl hp

/-- A call that carries a verified secret has verified a code against it. -/
def Proven (cfg : AuthConfig) (p : Position) : Prop :=
  ∀ pk secret, p.mark = .verified pk secret → ∃ code now, cfg.verify secret code now = true

theorem proven_access (h : Access cfg s p s' p') (hp : Proven cfg p) : Proven cfg p' := by
  cases h with
  | quiet _ _ hmark _ =>
      intro pk secret hverified
      exact hp pk secret (hmark ▸ hverified)
  | check req user row id code now hverify =>
      intro pk secret hverified
      obtain ⟨-, rfl⟩ := Mark.verified.inj hverified
      exact ⟨code, now, hverify⟩
  | setup => exact nofun
  | enable => exact hp
  | spend => exact nofun
  | remove => exact hp

/-- A row that is enabled after an access was enabled before it, with the
same secret, or its secret is the one the call has verified. -/
theorem enabled_after (h : Access cfg s p s' p') (hok : UpToDate s p)
    (hrow : s'.getTotp pk = some row') (hon : row'.isEnabled = true) :
    (∃ row ∈ s.getTotp pk, row.isEnabled = true ∧ row.secret = row'.secret)
      ∨ p.mark = .verified pk row'.secret := by
  cases h with
  | quiet htotps _ _ _ =>
      rw [getTotp_of_same htotps] at hrow
      exact Or.inl ⟨row', hrow, hon, rfl⟩
  | check => exact Or.inl ⟨row', hrow, hon, rfl⟩
  | setup req user id r hupsert =>
      rw [getTotp_upsertTotp hupsert] at hrow
      split at hrow
      · obtain rfl := Option.some.inj hrow
        cases hon
      · exact Or.inl ⟨row', hrow, hon, rfl⟩
  | enable row id outcome hsave =>
      have hid := id_of_saveById hsave
      rw [getTotp_saveById hsave] at hrow
      split at hrow
      · rename_i hpk
        obtain ⟨stored, hstored, rfl⟩ := Option.map_eq_some_iff.mp hrow
        rw [hpk] at hstored
        have hsecret : stored.secret = row.secret := hok hid stored hstored
        refine Or.inr ?_
        rw [hpk]
        exact congrArg (Mark.verified row.user) hsecret.symm
      · exact Or.inl ⟨row', hrow, hon, rfl⟩
  | spend caller row id code hsave =>
      rw [getTotp_saveById hsave] at hrow
      split at hrow
      · obtain ⟨stored, hstored, rfl⟩ := Option.map_eq_some_iff.mp hrow
        exact Or.inl ⟨stored, hstored, hon, rfl⟩
      · exact Or.inl ⟨row', hrow, hon, rfl⟩
  | remove =>
      rw [getTotp_deleteById] at hrow
      split at hrow
      · cases hrow
      · exact Or.inl ⟨row', hrow, hon, rfl⟩

/-- An access that switches a factor off is the delete of a disable
request. -/
theorem disabling_of_off (h : Access cfg s p s' p') (hok : UpToDate s p)
    (hestablished : Established cfg p) (hon : On s pk) (hoff : ¬ On s' pk) :
    Disabling cfg pk p := by
  obtain ⟨row, hrow, henabled⟩ := hon
  have hrow : s.getTotp pk = some row := hrow
  have hkept : ∀ row', s'.getTotp pk = some row' → row'.isEnabled = true →
      Disabling cfg pk p := fun row' hrow' hon' => absurd ⟨row', hrow', hon'⟩ hoff
  cases h with
  | quiet htotps _ _ _ => exact hkept row ((getTotp_of_same htotps pk).trans hrow) henabled
  | check => exact hkept row hrow henabled
  | setup req user id r hupsert =>
      by_cases hpk : pk = user.pk
      · have hnot : row.isEnabled = false := hok row (hpk ▸ hrow)
        rw [henabled] at hnot
        cases hnot
      · refine hkept row ?_ henabled
        rw [getTotp_upsertTotp hupsert, if_neg hpk, hrow]
  | enable stale id outcome hsave =>
      have hafter := getTotp_saveById hsave pk
      by_cases hpk : pk = stale.user
      · rw [if_pos hpk, hrow] at hafter
        exact hkept _ hafter rfl
      · rw [if_neg hpk, hrow] at hafter
        exact hkept row hafter henabled
  | spend caller stale id code hsave =>
      have hafter := getTotp_saveById hsave pk
      by_cases hpk : pk = stale.user
      · rw [if_pos hpk, hrow] at hafter
        exact hkept _ hafter henabled
      · rw [if_neg hpk, hrow] at hafter
        exact hkept row hafter henabled
  | remove user loaded id code outcome mark =>
      have hafter := getTotp_deleteById s loaded.user id pk
      by_cases hpk : pk = loaded.user ∧ s.totpId loaded.user = id
      · exact ⟨user, loaded, id, code, mark, rfl, hpk.1.symm, hestablished⟩
      · rw [if_neg hpk, hrow] at hafter
        exact hkept row hafter henabled

/-! ## Runs -/

structure Invariant (cfg : AuthConfig) (c₀ c : Conf ι) : Prop where
  established : ∀ i, Established cfg (c.locals i)
  proven : ∀ i, Proven cfg (c.locals i)
  vouched : Vouched cfg c₀ c

theorem invariant_step (hc : Invariant cfg c₀ c)
    (h : Lts.Guarded (Step cfg) Undisturbed c l c') : Invariant cfg c₀ c' := by
  obtain ⟨i, now⟩ := l
  obtain ⟨⟨hact, hrest⟩, hok⟩ := h
  have haccess : Access cfg c.shared (c.locals i) c'.shared (c'.locals i) := next_access hact
  have hmark : ∀ j pk secret, (c.locals j).mark = .verified pk secret →
      (c'.locals j).mark = .verified pk secret := by
    intro j pk secret hj
    by_cases hji : j = i
    · subst hji
      exact (mark_kept haccess (by rw [hj]; exact nofun)).trans hj
    · rw [hrest j hji]
      exact hj
  refine ⟨Threads.forall_locals (P := fun _ => Established cfg) hrest
      (haccess.established (hc.established i)) fun j _ => hc.established j,
    Threads.forall_locals (P := fun _ => Proven cfg) hrest
      (proven_access haccess (hc.proven i)) fun j _ => hc.proven j,
    fun pk row' hrow' hon' => ?_⟩
  rcases enabled_after haccess hok hrow' hon' with ⟨row, hrow, hon, hsecret⟩ | hverified
  · rcases hc.vouched pk row hrow hon with hinitial | ⟨j, code, now, hj, hverify⟩
    · exact Or.inl (hsecret ▸ hinitial)
    · exact Or.inr ⟨j, code, now, hsecret ▸ hmark j pk _ hj, hsecret ▸ hverify⟩
  · obtain ⟨code, now, hverify⟩ := hc.proven i pk _ hverified
    exact Or.inr ⟨i, code, now, hmark i pk _ hverified, hverify⟩

theorem invariant_start (hbegins : ∀ i, ∃ call, c₀.locals i = start call) :
    Invariant cfg c₀ c₀ := by
  have hstart : ∀ i, Established cfg (c₀.locals i) ∧ Proven cfg (c₀.locals i) := by
    intro i
    obtain ⟨call, hi⟩ := hbegins i
    rw [hi]
    exact ⟨trivial, nofun⟩
  exact ⟨fun i => (hstart i).1, fun i => (hstart i).2,
    fun pk row hrow hon => Or.inl ⟨row, hrow, hon, rfl⟩⟩

theorem invariant_run (hbegins : ∀ i, ∃ call, c₀.locals i = start call)
    (hrun : Lts.Run (Lts.Guarded (Step cfg) Undisturbed) c₀ ls c) : Invariant cfg c₀ c :=
  hrun.invariant (I := Invariant cfg c₀) (fun _ _ _ hc hstep => invariant_step hc hstep)
    (invariant_start hbegins)

/-- In every schedule of two-factor requests in which setup does not write
over an enabled row and enabling meets the secret it has verified, an
enabled row has a verified secret and is switched off only by a disable
request that verified a code. -/
theorem factor_stays_verified (hbegins : ∀ i, ∃ call, c₀.locals i = start call)
    (hrun : Lts.Run (Lts.Guarded (Step cfg) Undisturbed) c₀ ls c) :
    StaysVerified cfg c₀ ls c := by
  refine ⟨(invariant_run hbegins hrun).vouched, fun pre l post hls => ?_⟩
  subst hls
  obtain ⟨c₁, c₂, hpre, hstep, hpost⟩ := hrun.split
  have hinv := invariant_run hbegins hpre
  refine ⟨c₁, c₂, hpre.mono fun _ _ _ h => h.1, hstep.1, hpost.mono fun _ _ _ h => h.1,
    fun pk hon hoff => ?_⟩
  exact disabling_of_off (next_access hstep.1.1) hstep.2 (hinv.established l.1) hon hoff

end

/-! ## Setup during enabling -/

/-- A second factor of the admin that is set up and not yet enabled. -/
def pending : TotpSite :=
  { SecondFactor.secured with
    userTotps := ⟨[⟨DemoSeed.admin.pk, "JBSWY3DPEHPK3PXP", false, []⟩],
      List.pairwise_singleton ..⟩
    totp_fk := by decide
    totpId := fun _ => 7 }

/-- The admin enables the factor while setting it up once more. -/
def enablingAndSetup : Conf Bool :=
  ⟨pending, fun i => start (if i then .enable (SecondFactor.request 1 .enable
      [("code", .str "123456")]) DemoSeed.admin
    else .setup (SecondFactor.request 1 .setup []) DemoSeed.admin 8)⟩

theorem enablingAndSetup_begins (i : Bool) : ∃ call, enablingAndSetup.locals i = start call :=
  ⟨_, rfl⟩

/-- Setup, then enabling. -/
def inTurn : List (Bool × Time) := [(false, 1), (false, 1), (true, 2), (true, 2)]

theorem verified_in_turn :
    ∃ c, Lts.Run (Lts.Guarded (Step SecondFactor.config) Undisturbed) enablingAndSetup inTurn c
      ∧ StaysVerified SecondFactor.config enablingAndSetup inTurn c := by
  have hexec : Threads.exec (next SecondFactor.config) Undisturbed enablingAndSetup inTurn
      ≠ none := by decide
  obtain ⟨c, hc⟩ := Option.ne_none_iff_exists'.mp hexec
  exact ⟨c, Threads.run_of_exec hc,
    factor_stays_verified enablingAndSetup_begins (Threads.run_of_exec hc)⟩

/-- The new secret is written between the check of the code and the save. -/
def overlapping : List (Bool × Time) := [(true, 1), (false, 1), (false, 2), (true, 2)]

/-- A secret is enabled that nobody has verified. -/
theorem unverified_secret_enabled :
    ¬ ∀ (cfg : AuthConfig) (c₀ c : Conf Bool) (ls : List (Bool × Time)),
      (∀ i, ∃ call, c₀.locals i = start call) → Lts.Run (Step cfg) c₀ ls c →
      StaysVerified cfg c₀ ls c := by
  intro hall
  have hexec : (Threads.exec (next SecondFactor.config) (fun _ _ => True) enablingAndSetup
      overlapping).map (fun c => (c.shared.getTotp DemoSeed.admin.pk,
        (c.locals true).mark, (c.locals false).mark))
      = some (some ⟨DemoSeed.admin.pk, "KRSXG5CTMVRXEZLU", true, []⟩,
          .verified DemoSeed.admin.pk "JBSWY3DPEHPK3PXP", .nothing) := by decide
  obtain ⟨c, hc, hresult⟩ := Option.map_eq_some_iff.mp hexec
  obtain ⟨hrow, hmarks⟩ := Prod.mk.inj hresult
  obtain ⟨htrue, hfalse⟩ := Prod.mk.inj hmarks
  have hrun := (Threads.run_of_exec hc).mono fun _ _ _ hstep => hstep.1
  have hvouched := (hall _ _ c overlapping enablingAndSetup_begins hrun).vouched
  rcases hvouched _ _ hrow rfl with ⟨row₀, hrow₀, hon, -⟩ | ⟨i, _, _, hi, -⟩
  · have hoff : ∀ row ∈ enablingAndSetup.shared.getTotp DemoSeed.admin.pk,
        row.isEnabled = false := by decide
    rw [hoff row₀ hrow₀] at hon
    cases hon
  · cases i with
    | true =>
        have hsecret := (Mark.verified.inj (htrue.symm.trans hi)).2
        revert hsecret
        decide
    | false => cases hfalse.symm.trans hi

end FactorRace

end SaasKit
