import SaasKit.SoftDelete

/-!
# How a deleted row comes back

`restore` writes the deletion's columns, and so does a full save, from what
its copy says of them. A copy that was loaded before the deletion says that
the row is live, and nothing compares it with the row it is saved over: the
save brings the row back (`staleSave_reappears`). There is no third way, as
long as no row is removed for good (`reappears_only_by`).
-/

namespace SaasKit

namespace SoftDelete

variable {ι φ : Type}

/-- The row is in the table, deleted. -/
def SoftDeleted (s : Store ι φ) (id : UUID) : Prop :=
  ∃ row ∈ s.rows, row.id = id ∧ row.isDeleted = true

/-- `objects` shows the row. -/
def Visible (s : Store ι φ) (id : UUID) : Prop :=
  ∃ row ∈ s.rows.filter SoftDeleteManager.getQueryset, row.id = id

instance (s : Store ι φ) (id : UUID) : Decidable (SoftDeleted s id) :=
  inferInstanceAs (Decidable (∃ row ∈ s.rows.rows, row.id = id ∧ row.isDeleted = true))

instance (s : Store ι φ) (id : UUID) : Decidable (Visible s id) :=
  inferInstanceAs (Decidable
    (∃ row ∈ s.rows.rows.filter SoftDeleteManager.getQueryset, row.id = id))

/-- No row is removed for good. -/
def Op.KeepsRows : Op ι φ → Prop
  | .hardDelete .. => False
  | .querySetHardDelete .. => False
  | _ => True

def Op.isRestore : Op ι φ → Bool
  | .restore .. => true
  | _ => false

/-- A restore of the row, or a full save of a copy that has it live. -/
def Revives (s : Store ι φ) (id : UUID) : Op ι φ → Prop
  | .restore i uuid _ => ∃ inst, s.copies i = some inst ∧ (inst.withKey uuid).id = id
  | .save i _ uuid _ =>
      ∃ inst, s.copies i = some inst ∧ (inst.withKey uuid).id = id ∧ inst.isDeleted = false
  | _ => False

section

variable {s : Store ι φ} {i : ι} {inst : Instance φ} {id : UUID}

theorem visible_iff :
    Visible s id ↔ ∃ row ∈ s.rows, row.id = id ∧ row.isDeleted = false := by
  unfold Visible
  constructor
  · rintro ⟨row, hrow, hid⟩
    obtain ⟨hrow, hlive⟩ := Table.mem_filter.mp hrow
    exact ⟨row, hrow, hid, by simpa [SoftDeleteManager.getQueryset] using hlive⟩
  · rintro ⟨row, hrow, hid, hlive⟩
    exact ⟨row, Table.mem_filter.mpr ⟨hrow, by simp [SoftDeleteManager.getQueryset, hlive]⟩, hid⟩

/-- A row is shown or it is not. -/
theorem SoftDeleted.not_visible (h : SoftDeleted s id) : ¬ Visible s id := by
  intro hvisible
  obtain ⟨row, hrow, hid, hdeleted⟩ := h
  obtain ⟨other, hother, hid', hlive⟩ := visible_iff.mp hvisible
  have hsame : row = other := Table.eq_of_clash Table.sameKey_symm hrow hother
    (Table.sameKey_iff.mpr (hid.trans hid'.symm))
  rw [hsame, hlive] at hdeleted
  cases hdeleted

/-- A row that is in the table and not shown is deleted. -/
theorem softDeleted_of_stored (h : ∃ row ∈ s.rows, row.id = id) (hnot : ¬ Visible s id) :
    SoftDeleted s id := by
  obtain ⟨row, hrow, hid⟩ := h
  cases hdeleted : row.isDeleted with
  | true => exact ⟨row, hrow, hid, hdeleted⟩
  | false => exact absurd (visible_iff.mpr ⟨row, hrow, hid, hdeleted⟩) hnot

/-! ## Where a row comes from -/

/-- Of an object that is written under its key, the row has the deletion. -/
def WrittenFrom (inst : Instance φ) (uuid : UUID) (row : Row φ) : Prop :=
  row.id = (inst.withKey uuid).id ∧ row.isDeleted = inst.isDeleted

theorem stored_onCopy {method : Instance φ → Store ι φ × Except Failure Unit}
    (hmethod : ∀ inst, ∃ row ∈ (method inst).1.rows, row.id = id)
    (h : ∃ row ∈ s.rows, row.id = id) : ∃ row ∈ (onCopy s i method).1.rows, row.id = id := by
  unfold onCopy
  split
  · exact hmethod _
  · exact h

theorem withKey_clearDeletion_id (inst : Instance φ) (uuid : UUID) :
    (inst.clearDeletion.withKey uuid).id = (inst.withKey uuid).id := by
  cases hkeyed : inst.keyed <;> simp [Instance.withKey, Instance.clearDeletion, hkeyed]

variable [DecidableEq ι] {row : Row φ}

theorem mem_save {now : Time} {uuid : UUID} {raises : Option Exc}
    (h : row ∈ (save s i inst now uuid raises).1.rows) :
    row ∈ s.rows ∨ WrittenFrom inst uuid row := by
  unfold save at h
  dsimp only at h
  split at h
  · exact Or.inl h
  · rcases Table.mem_put.mp h with rfl | ⟨hold, -⟩
    · exact Or.inr ⟨rfl, (withKey_deletion inst uuid).1⟩
    · exact Or.inl hold

theorem mem_saveDeletion {uuid : UUID} {raises : Option Exc}
    (h : row ∈ (saveDeletion s i inst uuid raises).1.rows) :
    row ∈ s.rows ∨ WrittenFrom inst uuid row := by
  unfold saveDeletion at h
  dsimp only at h
  split at h
  · exact Or.inl h
  · split at h
    · obtain ⟨old, hold, rfl⟩ := Table.mem_modify.mp h
      split
      · rename_i hid
        exact Or.inr ⟨of_decide_eq_true hid, (withKey_deletion inst uuid).1⟩
      · exact Or.inl hold
    · exact Or.inl h

theorem mem_hardDelete {raises : Option Exc}
    (h : row ∈ (hardDelete s i inst raises).1.rows) : row ∈ s.rows := by
  unfold hardDelete at h
  split at h
  · exact h
  · exact h
  · exact (Table.mem_delete.mp h).1

theorem mem_create {values : Row φ} {now : Time} {raises : Option Exc}
    (h : row ∈ (create s i values now raises).1.rows) :
    row ∈ s.rows ∨ ∀ old ∈ s.rows, old.id ≠ row.id := by
  unfold create at h
  dsimp only at h
  split at h
  · exact Or.inl h
  · exact Or.inl h
  · rename_i rows hinsert
    rcases (Table.mem_insert? hinsert).mp h with hold | rfl
    · exact Or.inl hold
    · refine Or.inr fun old hold hid => ?_
      have hfree := Table.not_clash_of_insert? hinsert hold
      have htaken : sameKey Row.pk old _ = true := Table.sameKey_iff.mpr hid
      rw [htaken] at hfree
      cases hfree

/-- The row was deleted, and after this call `objects` shows it. -/
theorem revives_of_next {op : Op ι φ} (hgone : SoftDeleted s id)
    (hback : Visible (next s op).1 id) : Revives s id op := by
  obtain ⟨row, hrow, hid, hlive⟩ := visible_iff.mp hback
  have hnew : row ∉ s.rows := fun hold =>
    hgone.not_visible (visible_iff.mpr ⟨row, hold, hid, hlive⟩)
  -- what a method on an object can have written
  have hmethod : ∀ {i} {method : Instance φ → Store ι φ × Except Failure Unit},
      row ∈ (onCopy s i method).1.rows →
      ∃ inst, s.copies i = some inst ∧ row ∈ (method inst).1.rows := by
    intro i method hmem
    unfold onCopy at hmem
    split at hmem
    · rename_i inst hinst
      exact ⟨inst, hinst, hmem⟩
    · exact absurd hmem hnew
  cases op with
  | create i values now raises =>
      rcases mem_create hrow with hold | hfree
      · exact absurd hold hnew
      · obtain ⟨old, hold, hid', -⟩ := hgone
        exact absurd (hid'.trans hid.symm) (hfree old hold)
  | load i manager key =>
      have hsame : (load s i manager key).1.rows = s.rows := by
        unfold load
        split <;> rfl
      exact absurd (hsame ▸ hrow) hnew
  | edit i values =>
      obtain ⟨inst, -, hmem⟩ := hmethod hrow
      exact absurd hmem hnew
  | save i now uuid raises =>
      obtain ⟨inst, hinst, hmem⟩ := hmethod hrow
      rcases mem_save hmem with hold | ⟨hkey, hdeleted⟩
      · exact absurd hold hnew
      · exact ⟨inst, hinst, hkey.symm.trans hid, hdeleted.symm.trans hlive⟩
  | delete i now uuid deletedBy raises =>
      obtain ⟨inst, -, hmem⟩ := hmethod hrow
      rcases mem_saveDeletion hmem with hold | ⟨-, hdeleted⟩
      · exact absurd hold hnew
      · rw [hlive] at hdeleted
        cases hdeleted
  | restore i uuid raises =>
      obtain ⟨inst, hinst, hmem⟩ := hmethod hrow
      rcases mem_saveDeletion hmem with hold | ⟨hkey, -⟩
      · exact absurd hold hnew
      · rw [withKey_clearDeletion_id] at hkey
        exact ⟨inst, hinst, hkey.symm.trans hid⟩
  | hardDelete i raises =>
      obtain ⟨inst, -, hmem⟩ := hmethod hrow
      exact absurd (mem_hardDelete hmem) hnew
  | querySetDelete qs now raises =>
      simp only [next, SoftDeleteQuerySet.delete] at hrow
      split at hrow
      · exact absurd hrow hnew
      · obtain ⟨old, hold, rfl⟩ := Table.mem_modify.mp hrow
        split at hlive
        · cases hlive
        · exact absurd (by rwa [if_neg ‹_›]) hnew
  | querySetHardDelete qs raises =>
      simp only [next, SoftDeleteQuerySet.hardDelete] at hrow
      split at hrow
      · exact absurd hrow hnew
      · exact absurd (Table.mem_delete.mp hrow).1 hnew

/-! ## Rows stay -/

theorem stored_save {now : Time} {uuid : UUID} {raises : Option Exc}
    (h : ∃ row ∈ s.rows, row.id = id) :
    ∃ row ∈ (save s i inst now uuid raises).1.rows, row.id = id := by
  unfold save
  dsimp only
  split
  · exact h
  · obtain ⟨row, hrow, hid⟩ := h
    by_cases hkey : row.pk = (inst.withKey uuid).pk
    · exact ⟨_, Table.mem_put.mpr (Or.inl rfl), hkey.symm.trans hid⟩
    · exact ⟨row, Table.mem_put.mpr (Or.inr ⟨hrow, hkey⟩), hid⟩

/-- A rewriting of rows that leaves their keys alone. -/
theorem stored_modify {rows : Rows φ} {p : QuerySet φ}
    {f : Table.Rewrite (sameKey (Row.pk (φ := φ)))} (hf : ∀ row, (f.apply row).id = row.id)
    (h : ∃ row ∈ rows, row.id = id) : ∃ row ∈ rows.modify p f, row.id = id := by
  obtain ⟨row, hrow, hid⟩ := h
  refine ⟨_, Table.mem_modify.mpr ⟨row, hrow, rfl⟩, ?_⟩
  split
  · rw [hf, hid]
  · exact hid

theorem stored_saveDeletion {uuid : UUID} {raises : Option Exc}
    (h : ∃ row ∈ s.rows, row.id = id) :
    ∃ row ∈ (saveDeletion s i inst uuid raises).1.rows, row.id = id := by
  unfold saveDeletion
  dsimp only
  split
  · exact h
  · split
    · exact stored_modify (fun _ => rfl) h
    · exact h

theorem stored_next {op : Op ι φ} (hop : op.KeepsRows) (h : ∃ row ∈ s.rows, row.id = id) :
    ∃ row ∈ (next s op).1.rows, row.id = id := by
  cases op with
  | create i values now raises =>
      simp only [next, create]
      split
      · exact h
      · exact h
      · rename_i rows hinsert
        obtain ⟨row, hrow, hid⟩ := h
        exact ⟨row, (Table.mem_insert? hinsert).mpr (Or.inl hrow), hid⟩
  | load i manager key =>
      simp only [next, load]
      split <;> exact h
  | edit i values => exact stored_onCopy (fun _ => h) h
  | save i now uuid raises => exact stored_onCopy (fun _ => stored_save h) h
  | delete i now uuid deletedBy raises => exact stored_onCopy (fun _ => stored_saveDeletion h) h
  | restore i uuid raises => exact stored_onCopy (fun _ => stored_saveDeletion h) h
  | hardDelete i raises => exact hop.elim
  | querySetDelete qs now raises =>
      simp only [next, SoftDeleteQuerySet.delete]
      split
      · exact h
      · exact stored_modify (fun _ => rfl) h
  | querySetHardDelete qs raises => exact hop.elim

end

/-- In a run that removes no row for good, a soft-deleted row that is not
shown is shown again only by a restore, or by a full save of a copy of it
that has it live. -/
theorem reappears_only_by [DecidableEq ι] {s s' : Store ι φ} {id : UUID}
    {calls : List (Op ι φ × Except Failure Unit)} {op : Op ι φ} (hgone : SoftDeleted s id)
    (hrun : Lts.Run (Lts.ofFn next) s calls s') (hkeeps : ∀ call ∈ calls, call.1.KeepsRows)
    (hnot : ¬ Visible s' id) (hback : Visible (next s' op).1 id) : Revives s' id op := by
  have hstored : ∃ row ∈ s'.rows, row.id = id := by
    obtain ⟨row, hrow, hid, -⟩ := hgone
    exact hrun.invariant_on (I := fun t => ∃ row ∈ t.rows, row.id = id)
      (fun _ op hop ht => stored_next hop ht) hkeeps ⟨row, hrow, hid⟩
  exact revives_of_next (softDeleted_of_stored hstored hnot) hback

/-- The row that is deleted in `staleSave` comes back with the last save. -/
theorem reappears_only_by_save :
    Revives (Lts.after next Store.empty (staleSave.take 4)) 1 (.save true 9 0 none) := by
  have hrun := Lts.Run.of_inputs next [.edit true ⟨{ minutes with fields := "Agenda" }, true⟩]
    (Lts.after next Store.empty (staleSave.take 3))
  refine reappears_only_by (by decide) hrun (fun call hcall => ?_) (by decide) (by decide)
  obtain rfl := List.mem_singleton.mp hcall
  trivial

/-- Nobody calls `restore`, and the deleted row is shown again. -/
theorem staleSave_reappears :
    (∀ op ∈ staleSave, op.isRestore = false)
      ∧ SoftDeleted (Lts.after next Store.empty (staleSave.take 3)) 1
      ∧ Visible (Lts.after next Store.empty staleSave) 1 := by
  decide

end SoftDelete

end SaasKit
