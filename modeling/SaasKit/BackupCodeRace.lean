import SaasKit.TwoFactorRace
import SaasKit.SecondFactor

/-!
# Backup codes under concurrency

Any number of logins completing with backup codes at the same time. Each
call takes its code out of the list it loaded and stores the result, so a
save that meets another list than the one it was computed from loses what
happened in between: a code accepted twice, or an accepted code that is
back. Where no save does (`Current`), a code is accepted at most once and
the stored list is the initial one without the accepted codes
(`single_use`).
-/

namespace SaasKit

namespace BackupCodeRace

open TwoFactorRace Position

/-! ## Calls that spend codes -/

def isDisable : Caller → Bool
  | .disable _ => true
  | _ => false

/-- The positions of a completion or of a call of `use_backup_code`. -/
def spending : Position → Bool
  | start (.complete _) => true
  | start (.useBackupCode ..) => true
  | start _ => false
  | setupChecked .. => false
  | enableVerified .. => false
  | codeFound caller .. => !isDisable caller
  | confirmed caller .. => !isDisable caller
  | _ => true

section

variable {ι : Type} {cfg : AuthConfig} {now : Time} {s s' : TotpSite} {p p' : Position}
  {c c' c₀ : Conf ι} {l : ι × Time} {ls : List (ι × Time)} {row row₀ : UserTOTP} {i : ι}

theorem spending_tryBackupCode {caller : Caller} (hcaller : isDisable caller = false)
    (id : UUID) (code : String) : spending (tryBackupCode cfg caller row id code) = true := by
  unfold tryBackupCode
  split
  · simp [spending, hcaller]
  · rfl

theorem spending_tryCode {caller : Caller} (hcaller : isDisable caller = false)
    (id : UUID) (code : String) : spending (tryCode cfg now caller row id code) = true := by
  unfold tryCode
  split
  · simp [spending, hcaller]
  · exact spending_tryBackupCode hcaller id code

theorem next_spending (hp : spending p = true) (h : next cfg now s p = some (s', p')) :
    spending p' = true := by
  cases p with
  | start call =>
      obtain ⟨rfl, rfl⟩ := Prod.mk.inj (Option.some.inj h)
      unfold begin
      cases call with
      | complete req =>
          simp only
          split
          · rfl
          · split
            · rfl
            · split <;> rfl
      | useBackupCode pk code =>
          simp only
          split
          · rfl
          · exact spending_tryBackupCode rfl _ _
      | setup => cases hp
      | enable => cases hp
      | disable => cases hp
  | userLoaded sessionKey code user =>
      simp only [next] at h
      split at h
      · obtain ⟨rfl, rfl⟩ := Prod.mk.inj (Option.some.inj h)
        rfl
      · split at h
        · obtain ⟨rfl, rfl⟩ := Prod.mk.inj (Option.some.inj h)
          rfl
        · obtain ⟨rfl, rfl⟩ := Prod.mk.inj (Option.some.inj h)
          exact spending_tryCode rfl _ _
  | sessionFound sessionKey code pk =>
      simp only [next] at h
      split at h <;> obtain ⟨rfl, rfl⟩ := Prod.mk.inj (Option.some.inj h) <;> rfl
  | stale sessionKey =>
      obtain ⟨rfl, rfl⟩ := Prod.mk.inj (Option.some.inj h)
      rfl
  | codeFound caller row id code =>
      simp only [next] at h
      split at h
      · obtain ⟨rfl, rfl⟩ := Prod.mk.inj (Option.some.inj h)
        rfl
      · obtain ⟨rfl, rfl⟩ := Prod.mk.inj (Option.some.inj h)
        exact hp
  | confirmed caller row id code mark =>
      cases caller <;> obtain ⟨rfl, rfl⟩ := Prod.mk.inj (Option.some.inj h) <;> rfl
  | setupChecked req user id => cases hp
  | enableVerified row id => cases hp
  | done outcome mark => cases h

/-! ## Single use -/

/-- Each code of the row has been accepted at most once, and the stored list
is the initial one without the accepted codes. -/
structure SingleUse (row₀ : UserTOTP) (c : Conf ι) : Prop where
  once : ∀ i j code, (c.locals i).mark = .used row₀.user code →
    (c.locals j).mark = .used row₀.user code → i = j
  stored : ∃ (row : UserTOTP) (accepted : List String),
    c.shared.getTotp row₀.user = some row
    ∧ row.backupCodes = row₀.backupCodes.filter (· ∉ accepted)
    ∧ ∀ code, code ∈ accepted ↔ ∃ i, (c.locals i).mark = .used row₀.user code

theorem SingleUse.of_same (h : SingleUse row₀ c)
    (hrow : c'.shared.getTotp row₀.user = c.shared.getTotp row₀.user)
    (hmarks : ∀ j code, (c'.locals j).mark = .used row₀.user code ↔
      (c.locals j).mark = .used row₀.user code) : SingleUse row₀ c' := by
  obtain ⟨row, accepted, hget, hlist, haccepted⟩ := h.stored
  refine ⟨fun i j code hi hj => ?_, row, accepted, hrow.trans hget, hlist, fun code => ?_⟩
  · exact h.once i j code ((hmarks i code).mp hi) ((hmarks j code).mp hj)
  · rw [haccepted]
    exact exists_congr fun i => (hmarks i code).symm

/-- A code is accepted on the list that is stored. -/
theorem SingleUse.spend {code : String} (h : SingleUse row₀ c)
    (hstored : ∀ stored, c.shared.getTotp row₀.user = some stored →
      stored.backupCodes = row.backupCodes)
    (hmem : code ∈ row.backupCodes)
    (hrow : c'.shared.getTotp row₀.user = (c.shared.getTotp row₀.user).map
      (TotpSite.setBackupCodes (row.backupCodes.filter (· ≠ code))).apply)
    (hi : (c'.locals i).mark = .used row₀.user code) (hbefore : (c.locals i).mark = .nothing)
    (hrest : ∀ j, j ≠ i → c'.locals j = c.locals j) : SingleUse row₀ c' := by
  obtain ⟨old, accepted, hget, hlist, haccepted⟩ := h.stored
  have hsame := hstored old hget
  have hfresh : code ∉ accepted := by
    rw [← hsame, hlist, List.mem_filter] at hmem
    exact of_decide_eq_true hmem.2
  have hnobody : ∀ j, (c.locals j).mark ≠ .used row₀.user code :=
    fun j hj => hfresh ((haccepted code).mpr ⟨j, hj⟩)
  have hmarks : ∀ j other, (c'.locals j).mark = .used row₀.user other ↔
      (c.locals j).mark = .used row₀.user other ∨ j = i ∧ other = code := by
    intro j other
    by_cases hj : j = i
    · subst hj
      rw [hi, hbefore]
      simp [eq_comm]
    · rw [hrest j hj]
      simp [hj]
  refine ⟨fun j k other hj hk => ?_, _, code :: accepted, by rw [hrow, hget]; rfl, ?_,
    fun other => ?_⟩
  · rcases (hmarks j other).mp hj with hj | ⟨rfl, rfl⟩
    · rcases (hmarks k other).mp hk with hk | ⟨rfl, rfl⟩
      · exact h.once j k other hj hk
      · exact absurd hj (hnobody j)
    · rcases (hmarks k other).mp hk with hk | ⟨rfl, -⟩
      · exact absurd hk (hnobody k)
      · rfl
  · have hfilter : (row₀.backupCodes.filter (· ∉ accepted)).filter (· ≠ code)
        = row₀.backupCodes.filter (· ∉ code :: accepted) := by
      rw [List.filter_filter]
      refine List.filter_congr fun x _ => ?_
      simp
    rw [← hfilter, ← hlist, hsame]
    rfl
  · rw [List.mem_cons, haccepted]
    constructor
    · rintro (rfl | ⟨j, hj⟩)
      · exact ⟨i, hi⟩
      · exact ⟨j, (hmarks j other).mpr (Or.inl hj)⟩
    · rintro ⟨j, hj⟩
      rcases (hmarks j other).mp hj with hj | ⟨-, rfl⟩
      · exact Or.inr ⟨j, hj⟩
      · exact Or.inl rfl

/-! ## Runs -/

/-- The instance a call is about to save has the list that is stored. -/
def UpToDate (s : TotpSite) : Position → Prop
  | codeFound _ row _ _ => ∀ stored ∈ s.getTotp row.user, stored.backupCodes = row.backupCodes
  | _ => True

instance (s : TotpSite) : (p : Position) → Decidable (UpToDate s p)
  | codeFound _ row _ _ => inferInstanceAs (Decidable
      (∀ stored ∈ s.getTotp row.user, stored.backupCodes = row.backupCodes))
  | start _ | setupChecked .. | enableVerified .. | sessionFound .. | userLoaded .. | stale _
  | confirmed .. | done .. => isTrue trivial

def Current (c : Conf ι) (l : ι × Time) : Prop := UpToDate c.shared (c.locals l.1)

instance (c : Conf ι) (l : ι × Time) : Decidable (Current c l) :=
  inferInstanceAs (Decidable (UpToDate _ _))

structure Invariant (cfg : AuthConfig) (row₀ : UserTOTP) (c : Conf ι) : Prop where
  spending : ∀ i, spending (c.locals i) = true
  established : ∀ i, Established cfg (c.locals i)
  single : SingleUse row₀ c

theorem invariant_step (hc : Invariant cfg row₀ c)
    (h : Lts.Guarded (Step cfg) Current c l c') : Invariant cfg row₀ c' := by
  obtain ⟨i, now⟩ := l
  obtain ⟨⟨hact, hrest⟩, hcurrent⟩ := h
  have hnext : next cfg now c.shared (c.locals i) = some (c'.shared, c'.locals i) := hact
  have haccess := next_access hnext
  refine ⟨Threads.forall_locals (P := fun _ p => spending p = true) hrest
      (next_spending (hc.spending i) hnext) fun j _ => hc.spending j,
    Threads.forall_locals (P := fun _ => Established cfg) hrest
      (haccess.established (hc.established i)) fun j _ => hc.established j, ?_⟩
  have hspending := hc.spending i
  have hestablished := hc.established i
  unfold Current at hcurrent
  generalize hp : c.locals i = p at haccess hspending hestablished hcurrent
  generalize hp' : c'.locals i = p' at haccess
  generalize hs' : c'.shared = s' at haccess
  cases haccess with
  | quiet htotps _ hmark _ =>
      refine hc.single.of_same (getTotp_of_same (by rw [hs', htotps]) _) fun j code => ?_
      by_cases hj : j = i
      · rw [hj, hp', hmark, hp]
      · rw [hrest j hj]
  | check => cases hspending
  | setup => cases hspending
  | enable => cases hspending
  | spend caller row id code hsave =>
      have hrow := getTotp_saveById hsave row₀.user
      by_cases huser : row₀.user = row.user
      · rw [if_pos huser] at hrow
        refine hc.single.spend ?_ hestablished ?_ ?_ ?_ hrest
        · rw [huser]
          exact hcurrent
        · rw [hs', hrow]
        · rw [hp', huser]
          rfl
        · rw [hp]
          rfl
      · rw [if_neg huser] at hrow
        refine hc.single.of_same (by rw [hs', hrow]) fun j other => ?_
        by_cases hj : j = i
        · rw [hj, hp', hp]
          simp [mark, Ne.symm huser]
        · rw [hrest j hj]
  | remove => cases hspending

/-- In every schedule of completions and calls of `use_backup_code` whose
saves meet the list they were computed from, each code of a row is accepted
at most once, and the stored list is the initial one without exactly the
accepted codes. -/
theorem single_use (hrow : c₀.shared.getTotp row₀.user = some row₀)
    (hbegins : ∀ i, (∃ req, c₀.locals i = start (.complete req))
      ∨ ∃ pk code, c₀.locals i = start (.useBackupCode pk code))
    (hrun : Lts.Run (Lts.Guarded (Step cfg) Current) c₀ ls c) : SingleUse row₀ c := by
  have hstart : ∀ i, spending (c₀.locals i) = true ∧ Established cfg (c₀.locals i)
      ∧ (c₀.locals i).mark = .nothing := by
    intro i
    rcases hbegins i with ⟨req, hi⟩ | ⟨pk, code, hi⟩
    · rw [hi]; exact ⟨rfl, trivial, rfl⟩
    · rw [hi]; exact ⟨rfl, trivial, rfl⟩
  have hunused : ∀ i code, (c₀.locals i).mark ≠ .used row₀.user code := by
    intro i code hi
    rw [(hstart i).2.2] at hi
    cases hi
  have hinit : Invariant cfg row₀ c₀ := by
    refine ⟨fun i => (hstart i).1, fun i => (hstart i).2.1,
      fun i _ code hi _ => absurd hi (hunused i code), row₀, [], hrow, by simp, fun code => ?_⟩
    constructor
    · exact nofun
    · rintro ⟨i, hi⟩
      exact absurd hi (hunused i code)
  have hfinal : Invariant cfg row₀ c :=
    hrun.invariant (I := Invariant cfg row₀) (fun _ _ _ hc hstep => invariant_step hc hstep) hinit
  exact hfinal.single

end

/-! ## One code, two logins -/

/-- The admin's second factor, with a session for each of two logins. -/
def twoSessions : TotpSite :=
  { SecondFactor.secured with
    sessions := (TtlCache.empty.set "session-1" DemoSeed.admin.pk AuthViews.cacheTtl).set
      "session-2" DemoSeed.admin.pk AuthViews.cacheTtl
    totpId := fun _ => 7 }

/-- Both logins complete with the one backup code. -/
def bothComplete : Conf Bool :=
  ⟨twoSessions, fun i => start (.complete (SecondFactor.request 1 .complete
    [("session_key", .str (if i then "session-1" else "session-2")),
      ("code", .str "0a1b2c3d4e")]))⟩

theorem bothComplete_begins (i : Bool) : (∃ req, bothComplete.locals i = start (.complete req))
    ∨ ∃ pk code, bothComplete.locals i = start (.useBackupCode pk code) :=
  Or.inl ⟨_, rfl⟩

def factor : UserTOTP := ⟨DemoSeed.admin.pk, "JBSWY3DPEHPK3PXP", true, ["0A1B2C3D4E"]⟩

/-- One login, then the other. -/
def inTurn : List (Bool × Time) :=
  [(true, 1), (true, 1), (true, 1), (true, 1), (true, 1), (false, 2), (false, 2), (false, 2)]

theorem single_use_in_turn :
    ∃ c, Lts.Run (Lts.Guarded (Step SecondFactor.config) Current) bothComplete inTurn c
      ∧ SingleUse factor c := by
  have hexec : Threads.exec (next SecondFactor.config) Current bothComplete inTurn ≠ none := by
    decide
  obtain ⟨c, hc⟩ := Option.ne_none_iff_exists'.mp hexec
  exact ⟨c, Threads.run_of_exec hc,
    single_use rfl bothComplete_begins (Threads.run_of_exec hc)⟩

/-- Both logins load the list before either stores it. -/
def overlapping : List (Bool × Time) :=
  [(true, 1), (true, 1), (true, 1), (false, 1), (false, 1), (false, 1), (true, 2), (false, 2)]

/-- One backup code completes two logins. -/
theorem code_accepted_twice :
    ¬ ∀ (c₀ c : Conf Bool) (ls : List (Bool × Time)) (row₀ : UserTOTP),
      c₀.shared.getTotp row₀.user = some row₀ → row₀.backupCodes.Nodup →
      (∀ i, (∃ req, c₀.locals i = start (.complete req))
        ∨ ∃ pk code, c₀.locals i = start (.useBackupCode pk code)) →
      Lts.Run (Step SecondFactor.config) c₀ ls c → SingleUse row₀ c := by
  intro hall
  have hexec : (Threads.exec (next SecondFactor.config) (fun _ _ => True) bothComplete
      overlapping).map (fun c => ((c.locals true).mark, (c.locals false).mark))
      = some (.used factor.user "0A1B2C3D4E", .used factor.user "0A1B2C3D4E") := by decide
  obtain ⟨c, hc, hmarks⟩ := Option.map_eq_some_iff.mp hexec
  have hrun := (Threads.run_of_exec hc).mono fun _ _ _ hstep => hstep.1
  have honce := (hall bothComplete c overlapping factor rfl (by decide) bothComplete_begins
    hrun).once
  obtain ⟨htrue, hfalse⟩ := Prod.mk.inj hmarks
  cases honce true false _ htrue hfalse

end BackupCodeRace

end SaasKit
