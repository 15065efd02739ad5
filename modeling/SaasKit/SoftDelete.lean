import SaasKit.HardDelete
import SaasKit.Lib.Run

/-!
# Soft deletion

The table of a model on `BaseModel` and the objects in memory that callers
hold of its rows. Three columns say whether a row is deleted, when and by
whom. Four methods write them, with a different choice of columns each, from
copies that may be stale. A copy is kept consistent by the methods as a row
is, so whichever of them is written last, the row it is written to is
consistent (`soft_delete_consistent`).
-/

namespace SaasKit

namespace SoftDelete

variable {ι φ : Type}

/-! ## Rows and objects -/

/-- A row of a concrete model: the columns of the base and its own. -/
structure Row (φ : Type) extends BaseModel where
  fields : φ
  deriving DecidableEq

def Row.pk (row : Row φ) : UUID := row.id

abbrev Rows (φ : Type) := Table (Row φ) (sameKey (Row.pk (φ := φ)))

/-- An object in memory. Its key is `None` once it has been hard-deleted. -/
structure Instance (φ : Type) extends Row φ where
  keyed : Bool
  deriving DecidableEq

/-- The table, and the objects that are held. -/
structure Store (ι φ : Type) where
  rows : Rows φ
  copies : ι → Option (Instance φ)

def Store.empty : Store ι φ := ⟨∅, fun _ => none⟩

/-- A queryset, as what it lets through. -/
abbrev QuerySet (φ : Type) := Row φ → Bool

/-- `objects`. -/
def SoftDeleteManager.getQueryset : QuerySet φ := fun row => !row.isDeleted

/-- `all_objects`. -/
def Manager.getQueryset : QuerySet φ := fun _ => true

/-! ## Writes -/

inductive Failure where
  | doesNotExist
  | valueError
  | database (e : Exc)
  deriving DecidableEq

/-- The primary key that `save` goes by: a `None` is replaced by the default. -/
def Instance.withKey (inst : Instance φ) (uuid : UUID) : Instance φ :=
  if inst.keyed then inst else { inst with id := uuid, keyed := true }

/-- What `delete` assigns. -/
def Instance.markDeleted (inst : Instance φ) (now : Time) (deletedBy : Option UserId) :
    Instance φ :=
  { inst with
    isDeleted := true
    deletedAt := some now
    deletedBy := match deletedBy with
      | some user => some user
      | none => inst.deletedBy }

/-- What `restore` assigns. -/
def Instance.clearDeletion (inst : Instance φ) : Instance φ :=
  { inst with isDeleted := false, deletedAt := none, deletedBy := none }

/-- `update_fields=["is_deleted", "deleted_at", "deleted_by"]`. -/
def writeDeletion (inst : Instance φ) : Table.Rewrite (sameKey (Row.pk (φ := φ))) :=
  ⟨fun row => { row with
      isDeleted := inst.isDeleted
      deletedAt := inst.deletedAt
      deletedBy := inst.deletedBy },
    fun _ _ => rfl, fun _ _ => rfl⟩

/-- `update(is_deleted=True, deleted_at=now)`. -/
def writeDeletedAt (now : Time) : Table.Rewrite (sameKey (Row.pk (φ := φ))) :=
  ⟨fun row => { row with isDeleted := true, deletedAt := some now },
    fun _ _ => rfl, fun _ _ => rfl⟩

def stored (rows : Rows φ) (id : UUID) : Bool := rows.any fun row => decide (row.id = id)

/-- `SoftDeleteQuerySet.delete`. -/
def SoftDeleteQuerySet.delete (s : Store ι φ) (qs : QuerySet φ) (now : Time)
    (raises : Option Exc) : Store ι φ × Except Failure Unit :=
  match raises with
  | some e => (s, .error (.database e))
  | none => ({ s with rows := s.rows.modify qs (writeDeletedAt now) }, .ok ())

/-- `SoftDeleteQuerySet.hard_delete`. -/
def SoftDeleteQuerySet.hardDelete (s : Store ι φ) (qs : QuerySet φ) (raises : Option Exc) :
    Store ι φ × Except Failure Unit :=
  match raises with
  | some e => (s, .error (.database e))
  | none => ({ s with rows := s.rows.delete qs }, .ok ())

/-- A method called on the object `i`, if there is one. -/
def onCopy (s : Store ι φ) (i : ι) (method : Instance φ → Store ι φ × Except Failure Unit) :
    Store ι φ × Except Failure Unit :=
  match s.copies i with
  | some inst => method inst
  | none => (s, .ok ())

section

variable [DecidableEq ι]

def Store.keep (s : Store ι φ) (i : ι) (inst : Instance φ) : Store ι φ :=
  { s with copies := Function.update s.copies i (some inst) }

/-- `objects.create`, with the fields a caller can pass. -/
def create (s : Store ι φ) (i : ι) (values : Row φ) (now : Time) (raises : Option Exc) :
    Store ι φ × Except Failure Unit :=
  let row := { values with
    createdAt := now
    updatedAt := now
    isDeleted := false
    deletedAt := none
    deletedBy := none }
  match raises, s.rows.insert? row with
  | some e, _ => (s, .error (.database e))
  | none, none => (s, .error (.database .integrityError))
  | none, some rows => ({ s with rows }.keep i ⟨row, true⟩, .ok ())

/-- `get(pk=id)`. -/
def load (s : Store ι φ) (i : ι) (manager : QuerySet φ) (id : UUID) :
    Store ι φ × Except Failure Unit :=
  match s.rows.find? fun row => manager row && decide (row.id = id) with
  | none => (s, .error .doesNotExist)
  | some row => (s.keep i ⟨row, true⟩, .ok ())

/-- Assignments to the attributes of an object, those of the deletion apart. -/
def edit (s : Store ι φ) (i : ι) (inst values : Instance φ) : Store ι φ × Except Failure Unit :=
  let inst := { values with
    isDeleted := inst.isDeleted
    deletedAt := inst.deletedAt
    deletedBy := inst.deletedBy }
  (s.keep i inst, .ok ())

/-- `save()`: an update of every column or, where there is no row, an insert. -/
def save (s : Store ι φ) (i : ι) (inst : Instance φ) (now : Time) (uuid : UUID)
    (raises : Option Exc) : Store ι φ × Except Failure Unit :=
  let inst := inst.withKey uuid
  let inst := { inst with
    createdAt := if stored s.rows inst.id then inst.createdAt else now
    updatedAt := now }
  match raises with
  | some e => (s.keep i inst, .error (.database e))
  | none => ({ s with rows := s.rows.put inst.toRow }.keep i inst, .ok ())

/-- `save(update_fields=...)`, of the deletion's columns. -/
def saveDeletion (s : Store ι φ) (i : ι) (inst : Instance φ) (uuid : UUID)
    (raises : Option Exc) : Store ι φ × Except Failure Unit :=
  let inst := inst.withKey uuid
  match raises with
  | some e => (s.keep i inst, .error (.database e))
  | none =>
      if stored s.rows inst.id then
        let rows := s.rows.modify (fun row => decide (row.id = inst.id)) (writeDeletion inst)
        ({ s with rows }.keep i inst, .ok ())
      -- an update that must find its row
      else (s.keep i inst, .error (.database .databaseError))

def delete (s : Store ι φ) (i : ι) (inst : Instance φ) (now : Time) (uuid : UUID)
    (deletedBy : Option UserId) (raises : Option Exc) : Store ι φ × Except Failure Unit :=
  saveDeletion s i (inst.markDeleted now deletedBy) uuid raises

def restore (s : Store ι φ) (i : ι) (inst : Instance φ) (uuid : UUID) (raises : Option Exc) :
    Store ι φ × Except Failure Unit :=
  saveDeletion s i inst.clearDeletion uuid raises

/-- `hard_delete()` of an object, which loses its key. -/
def hardDelete (s : Store ι φ) (i : ι) (inst : Instance φ) (raises : Option Exc) :
    Store ι φ × Except Failure Unit :=
  match inst.keyed, raises with
  | false, _ => (s, .error .valueError)
  | true, some e => (s, .error (.database e))
  | true, none =>
      let rows := s.rows.delete fun row => decide (row.id = inst.id)
      ({ s with rows }.keep i { inst with keyed := false }, .ok ())

end

/-! ## Runs -/

/-- A call; `raises` is an error of the database there. -/
inductive Op (ι φ : Type) where
  | create (i : ι) (values : Row φ) (now : Time) (raises : Option Exc)
  | load (i : ι) (manager : QuerySet φ) (id : UUID)
  | edit (i : ι) (values : Instance φ)
  | save (i : ι) (now : Time) (uuid : UUID) (raises : Option Exc)
  | delete (i : ι) (now : Time) (uuid : UUID) (deletedBy : Option UserId) (raises : Option Exc)
  | restore (i : ι) (uuid : UUID) (raises : Option Exc)
  | hardDelete (i : ι) (raises : Option Exc)
  | querySetDelete (qs : QuerySet φ) (now : Time) (raises : Option Exc)
  | querySetHardDelete (qs : QuerySet φ) (raises : Option Exc)

def next [DecidableEq ι] (s : Store ι φ) : Op ι φ → Store ι φ × Except Failure Unit
  | .create i values now raises => create s i values now raises
  | .load i manager id => load s i manager id
  | .edit i values => onCopy s i fun inst => edit s i inst values
  | .save i now uuid raises => onCopy s i fun inst => save s i inst now uuid raises
  | .delete i now uuid deletedBy raises =>
      onCopy s i fun inst => delete s i inst now uuid deletedBy raises
  | .restore i uuid raises => onCopy s i fun inst => restore s i inst uuid raises
  | .hardDelete i raises => onCopy s i fun inst => hardDelete s i inst raises
  | .querySetDelete qs now raises => SoftDeleteQuerySet.delete s qs now raises
  | .querySetHardDelete qs raises => SoftDeleteQuerySet.hardDelete s qs raises

/-! ## What a row says of its deletion -/

/-- The three columns agree, in a row or in a copy of one. -/
structure Consistent (row : BaseModel) : Prop where
  live : row.isDeleted = false → row.deletedAt = none ∧ row.deletedBy = none
  deleted : row.isDeleted = true → row.deletedAt ≠ none

/-- Rows are consistent and so is whatever can be written over them. -/
structure Store.Sound (s : Store ι φ) : Prop where
  rows : ∀ row ∈ s.rows, Consistent row.toBaseModel
  copies : ∀ i inst, s.copies i = some inst → Consistent inst.toBaseModel

theorem Store.Sound.empty : (Store.empty : Store ι φ).Sound :=
  ⟨fun row hrow => absurd hrow (Table.not_mem_empty row), fun _ _ h => by cases h⟩

/-- A row that shows no deletion. -/
theorem Consistent.fresh {row : BaseModel} (hlive : row.isDeleted = false)
    (hat : row.deletedAt = none) (hby : row.deletedBy = none) : Consistent row :=
  ⟨fun _ => ⟨hat, hby⟩, fun hdeleted => by rw [hlive] at hdeleted; cases hdeleted⟩

/-- A row that is deleted since some time, whoever did it. -/
theorem Consistent.marked {row : BaseModel} {now : Time} (hdeleted : row.isDeleted = true)
    (hat : row.deletedAt = some now) : Consistent row := by
  refine ⟨fun hlive => ?_, fun _ hnone => ?_⟩
  · rw [hdeleted] at hlive
    cases hlive
  · rw [hat] at hnone
    cases hnone

/-- Only the three columns matter. -/
theorem Consistent.congr {row row' : BaseModel} (h : Consistent row)
    (hdeleted : row'.isDeleted = row.isDeleted) (hat : row'.deletedAt = row.deletedAt)
    (hby : row'.deletedBy = row.deletedBy) : Consistent row' := by
  refine ⟨fun hlive => ?_, fun hgone => ?_⟩
  · rw [hat, hby]
    exact h.live (hdeleted ▸ hlive)
  · rw [hat]
    exact h.deleted (hdeleted ▸ hgone)

section

variable {s : Store ι φ} {i : ι} {inst : Instance φ}

theorem withKey_deletion (inst : Instance φ) (uuid : UUID) :
    (inst.withKey uuid).isDeleted = inst.isDeleted
      ∧ (inst.withKey uuid).deletedAt = inst.deletedAt
      ∧ (inst.withKey uuid).deletedBy = inst.deletedBy := by
  unfold Instance.withKey
  split <;> exact ⟨rfl, rfl, rfl⟩

theorem Consistent.withKey (h : Consistent inst.toBaseModel) (uuid : UUID) :
    Consistent (inst.withKey uuid).toBaseModel := by
  obtain ⟨hdeleted, hat, hby⟩ := withKey_deletion inst uuid
  exact h.congr hdeleted hat hby

theorem Store.Sound.withRows (hs : s.Sound) {rows : Rows φ}
    (h : ∀ row ∈ rows, Consistent row.toBaseModel) : Store.Sound { s with rows } :=
  ⟨h, hs.copies⟩

/-- What `objects` lets through is told by `deleted_at` as well. -/
theorem Store.Sound.getQueryset_eq (hs : s.Sound) :
    s.rows.filter SoftDeleteManager.getQueryset
      = s.rows.filter fun row => row.deletedAt.isNone := by
  refine List.filter_congr fun row hrow => ?_
  have hconsistent := hs.rows row hrow
  unfold SoftDeleteManager.getQueryset
  cases hdeleted : row.isDeleted with
  | false => rw [(hconsistent.live hdeleted).1]; rfl
  | true =>
      cases hat : row.deletedAt with
      | none => exact absurd hat (hconsistent.deleted hdeleted)
      | some now => rfl

/-! ### Each call -/

theorem querySetDelete_sound (hs : s.Sound) (qs : QuerySet φ) (now : Time)
    (raises : Option Exc) : (SoftDeleteQuerySet.delete s qs now raises).1.Sound := by
  unfold SoftDeleteQuerySet.delete
  split
  · exact hs
  · refine hs.withRows fun row hrow => ?_
    obtain ⟨old, hold, rfl⟩ := Table.mem_modify.mp hrow
    split
    · exact .marked rfl rfl
    · exact hs.rows old hold

theorem querySetHardDelete_sound (hs : s.Sound) (qs : QuerySet φ) (raises : Option Exc) :
    (SoftDeleteQuerySet.hardDelete s qs raises).1.Sound := by
  unfold SoftDeleteQuerySet.hardDelete
  split
  · exact hs
  · exact hs.withRows fun row hrow => hs.rows row (Table.mem_delete.mp hrow).1

theorem onCopy_some {method : Instance φ → Store ι φ × Except Failure Unit}
    (h : s.copies i = some inst) : onCopy s i method = method inst := by
  simp only [onCopy, h]

theorem onCopy_sound (hs : s.Sound) {method : Instance φ → Store ι φ × Except Failure Unit}
    (h : ∀ inst, Consistent inst.toBaseModel → (method inst).1.Sound) :
    (onCopy s i method).1.Sound := by
  unfold onCopy
  split
  · rename_i inst hinst
    exact h inst (hs.copies i inst hinst)
  · exact hs

variable [DecidableEq ι]

@[simp] theorem keep_copies_self (s : Store ι φ) (i : ι) (inst : Instance φ) :
    (s.keep i inst).copies i = some inst := Function.update_self ..

theorem keep_copies_other {j : ι} (h : j ≠ i) : (s.keep i inst).copies j = s.copies j :=
  Function.update_of_ne h ..

theorem Store.Sound.keep (hs : s.Sound) (i : ι) (h : Consistent inst.toBaseModel) :
    (s.keep i inst).Sound := by
  refine ⟨hs.rows, fun j found hfound => ?_⟩
  by_cases hj : j = i
  · subst hj
    rw [keep_copies_self] at hfound
    obtain rfl := Option.some.inj hfound
    exact h
  · rw [keep_copies_other hj] at hfound
    exact hs.copies j found hfound

theorem create_sound (hs : s.Sound) (i : ι) (values : Row φ) (now : Time)
    (raises : Option Exc) : (create s i values now raises).1.Sound := by
  unfold create
  dsimp only
  split
  · exact hs
  · exact hs
  · rename_i rows hinsert
    refine (hs.withRows fun row hrow => ?_).keep i (.fresh rfl rfl rfl)
    rcases (Table.mem_insert? hinsert).mp hrow with hold | rfl
    · exact hs.rows row hold
    · exact .fresh rfl rfl rfl

theorem load_sound (hs : s.Sound) (i : ι) (manager : QuerySet φ) (id : UUID) :
    (load s i manager id).1.Sound := by
  unfold load
  split
  · exact hs
  · rename_i row hrow
    exact hs.keep i (hs.rows row (Table.find?_some hrow).1)

theorem edit_sound (hs : s.Sound) (h : Consistent inst.toBaseModel) (i : ι)
    (values : Instance φ) : (edit s i inst values).1.Sound :=
  hs.keep i (h.congr rfl rfl rfl)

theorem save_sound (hs : s.Sound) (h : Consistent inst.toBaseModel) (i : ι) (now : Time)
    (uuid : UUID) (raises : Option Exc) : (save s i inst now uuid raises).1.Sound := by
  have hinst := h.withKey uuid
  unfold save
  dsimp only
  split
  · exact hs.keep i (hinst.congr rfl rfl rfl)
  · refine (hs.withRows fun row hrow => ?_).keep i (hinst.congr rfl rfl rfl)
    rcases Table.mem_put.mp hrow with rfl | ⟨hold, -⟩
    · exact hinst.congr rfl rfl rfl
    · exact hs.rows row hold

theorem saveDeletion_sound (hs : s.Sound) (h : Consistent inst.toBaseModel) (i : ι)
    (uuid : UUID) (raises : Option Exc) : (saveDeletion s i inst uuid raises).1.Sound := by
  have hinst := h.withKey uuid
  unfold saveDeletion
  dsimp only
  split
  · exact hs.keep i hinst
  · split
    · refine (hs.withRows fun row hrow => ?_).keep i hinst
      obtain ⟨old, hold, rfl⟩ := Table.mem_modify.mp hrow
      split
      · exact hinst.congr rfl rfl rfl
      · exact hs.rows old hold
    · exact hs.keep i hinst

theorem hardDelete_sound (hs : s.Sound) (h : Consistent inst.toBaseModel) (i : ι)
    (raises : Option Exc) : (hardDelete s i inst raises).1.Sound := by
  unfold hardDelete
  split
  · exact hs
  · exact hs
  · refine (hs.withRows fun row hrow => ?_).keep i (h.congr rfl rfl rfl)
    exact hs.rows row (Table.mem_delete.mp hrow).1

theorem next_sound (hs : s.Sound) (op : Op ι φ) : (next s op).1.Sound := by
  cases op with
  | create i values now raises => exact create_sound hs i values now raises
  | load i manager id => exact load_sound hs i manager id
  | edit i values => exact onCopy_sound hs fun inst h => edit_sound hs h i values
  | save i now uuid raises =>
      exact onCopy_sound hs fun inst h => save_sound hs h i now uuid raises
  | delete i now uuid deletedBy raises =>
      exact onCopy_sound hs fun inst _ => saveDeletion_sound hs (.marked rfl rfl) i uuid raises
  | restore i uuid raises =>
      exact onCopy_sound hs fun inst _ => saveDeletion_sound hs (.fresh rfl rfl rfl) i uuid raises
  | hardDelete i raises => exact onCopy_sound hs fun inst h => hardDelete_sound hs h i raises
  | querySetDelete qs now raises => exact querySetDelete_sound hs qs now raises
  | querySetHardDelete qs raises => exact querySetHardDelete_sound hs qs raises

theorem sound_of_run {calls : List (Op ι φ × Except Failure Unit)}
    (h : Lts.Run (Lts.ofFn next) Store.empty calls s) : s.Sound :=
  h.invariant_fn (I := Store.Sound) (fun _ op ht => next_sound ht op) .empty

/-! ## A deletion and its restore -/

theorem withKey_of_keyed (h : inst.keyed = true) (uuid : UUID) : inst.withKey uuid = inst := by
  unfold Instance.withKey
  rw [if_pos h]

/-- A write of the deletion that went through has found its row. -/
theorem saveDeletion_ok {s' : Store ι φ} {id uuid : UUID} {raises : Option Exc}
    (h : saveDeletion s i inst uuid raises = (s', .ok ())) (hkeyed : inst.keyed = true)
    (hid : inst.id = id) :
    s'.rows = s.rows.modify (fun row => decide (row.id = id)) (writeDeletion inst)
      ∧ s'.copies i = some inst := by
  subst hid
  unfold saveDeletion at h
  dsimp only at h
  rw [withKey_of_keyed hkeyed] at h
  split at h
  · cases h
  · split at h
    · obtain rfl := (Prod.mk.inj h).1
      exact ⟨rfl, keep_copies_self ..⟩
    · cases h

/-- What a row of the table says of its deletion, written over it once more. -/
theorem modify_writeDeletion_self {rows : Rows φ} {row : Row φ} {id : UUID} (hrow : row ∈ rows)
    (hid : row.id = id) (hdeleted : row.isDeleted = inst.isDeleted)
    (hat : row.deletedAt = inst.deletedAt) (hby : row.deletedBy = inst.deletedBy) :
    rows.modify (fun row => decide (row.id = id)) (writeDeletion inst) = rows := by
  refine Table.ext_rows ((List.map_congr_left fun x hx => ?_).trans (List.map_id rows.rows))
  split
  · rename_i hx'
    -- the key singles the row out
    have hsame : x = row := Table.eq_of_clash Table.sameKey_symm hx hrow
      (Table.sameKey_iff.mpr ((of_decide_eq_true hx').trans hid.symm))
    subst hsame
    simp only [writeDeletion, ← hdeleted, ← hat, ← hby, id_eq]
  · rfl

/-- The restore of an object takes back its deletion, if the row was live. -/
theorem restore_delete {s₁ s₂ s₃ : Store ι φ} {now : Time} {uuid uuid' : UUID}
    {deletedBy : Option UserId} {raises raises' : Option Exc} {row : Row φ} (hs : s.Sound)
    (hinst : s.copies i = some inst) (hkeyed : inst.keyed = true) (hrow : row ∈ s.rows)
    (hid : row.id = inst.id) (hlive : row.isDeleted = false)
    (hdelete : next s (.delete i now uuid deletedBy raises) = (s₁, .ok ()))
    (hrows : s₂.rows = s₁.rows) (hcopy : s₂.copies i = s₁.copies i)
    (hrestore : next s₂ (.restore i uuid' raises') = (s₃, .ok ())) : s₃.rows = s.rows := by
  obtain ⟨hrows₁, hcopy₁⟩ :=
    saveDeletion_ok ((onCopy_some hinst).symm.trans hdelete) hkeyed hid.symm
  obtain ⟨hrows₃, -⟩ :=
    saveDeletion_ok ((onCopy_some (hcopy.trans hcopy₁)).symm.trans hrestore) hkeyed hid.symm
  obtain ⟨hat, hby⟩ := (hs.rows row hrow).live hlive
  -- the second write of the three columns leaves nothing of the first
  rw [hrows₃, hrows, hrows₁, Table.modify_modify (fun x _ hx => hx) fun x _ _ => rfl]
  exact modify_writeDeletion_self hrow rfl hlive hat hby

end

/-- After any run of calls on any number of objects, each call through or
not: every row is consistent, `objects` shows the rows without `deleted_at`,
and a live row that is deleted and restored through one object, with nothing
else written to the table or that object between, is as it was. -/
theorem soft_delete_consistent [DecidableEq ι] {calls : List (Op ι φ × Except Failure Unit)}
    {s : Store ι φ} (h : Lts.Run (Lts.ofFn next) Store.empty calls s) :
    (∀ row ∈ s.rows,
        (row.isDeleted = false → row.deletedAt = none ∧ row.deletedBy = none)
          ∧ (row.isDeleted = true → row.deletedAt ≠ none))
      ∧ s.rows.filter SoftDeleteManager.getQueryset
        = s.rows.filter (fun row => row.deletedAt.isNone)
      ∧ ∀ i inst row, s.copies i = some inst → inst.keyed = true → row ∈ s.rows →
        row.id = inst.id → row.isDeleted = false →
        ∀ s₁ s₂ s₃ now uuid deletedBy raises uuid' raises',
          next s (.delete i now uuid deletedBy raises) = (s₁, .ok ()) →
          s₂.rows = s₁.rows → s₂.copies i = s₁.copies i →
          next s₂ (.restore i uuid' raises') = (s₃, .ok ()) → s₃.rows = s.rows := by
  have hs : s.Sound := sound_of_run h
  refine ⟨fun row hrow => ⟨(hs.rows row hrow).live, (hs.rows row hrow).deleted⟩,
    hs.getQueryset_eq, ?_⟩
  intro i inst row hinst hkeyed hrow hid hlive s₁ s₂ s₃ now uuid deletedBy raises uuid' raises'
    hdelete hrows hcopy hrestore
  exact restore_delete hs hinst hkeyed hrow hid hlive hdelete hrows hcopy hrestore

/-! ## Two callers -/

def minutes : Row String :=
  { id := 1, createdAt := 0, updatedAt := 0, createdBy := some DemoSeed.admin.pk, updatedBy := none
    isDeleted := false, deletedAt := none, deletedBy := none, fields := "Minutes" }

/-- A row is created and loaded once more; then it is deleted through the one
copy, and saved through the other under a new title. -/
def staleSave : List (Op Bool String) :=
  [.create false minutes 0 none,
    .load true SoftDeleteManager.getQueryset 1,
    .delete false 5 0 (some DemoSeed.admin.pk) none,
    .edit true ⟨{ minutes with fields := "Agenda" }, true⟩,
    .save true 9 0 none]

/-- The row as it is saved. -/
def agenda : Row String := { minutes with updatedAt := 9, fields := "Agenda" }

theorem soft_delete_consistent_stale :
    (∀ row ∈ (Lts.after next Store.empty staleSave).rows,
        (row.isDeleted = false → row.deletedAt = none ∧ row.deletedBy = none)
          ∧ (row.isDeleted = true → row.deletedAt ≠ none))
      ∧ (Lts.after next Store.empty
            (staleSave ++ [.delete true 12 0 none none, .restore true 0 none])).rows
        = (Lts.after next Store.empty staleSave).rows := by
  have hrun := Lts.Run.of_inputs next staleSave Store.empty
  obtain ⟨hrows, -, hrestored⟩ := soft_delete_consistent hrun
  exact ⟨hrows, hrestored true ⟨agenda, true⟩ agenda rfl rfl List.mem_cons_self rfl rfl
    _ _ _ 12 0 none none 0 none rfl rfl rfl rfl⟩

end SoftDelete

end SaasKit
