import Rehearsal.Proofs.Backup.Run
import Rehearsal.Proofs.Disk.Tree

/-!
# What steps do to a disk

All that is ever done to a disk is that folders are made and files are written. So a step, whatever
it is and however it ends, leaves the disk as it is after some **accesses** (`Disk.Accessed`), all
of them at the instant of the step, and what every access preserves is preserved by every step
(`Backup.Step.accessed_after`).

Two such things are that a disk is a tree (`Disk.Accessed.isTree`), and that the folders on it are
dated: a folder has the instant of before, or it was made now where there was nothing
(`Disk.Accessed.of_folder`).
-/

namespace Rehearsal

namespace Disk

/-- Where there is no file after a file was written, there is what was there before. -/
theorem node?_of_write_of_not_fileAt {d d' : Disk} {p : Path} {octets : ByteArray} {l : Location}
    (hwrite : d.write p octets = .ok d') (hl : ¬d'.FileAt l) : d'.node? l = d.node? l := by
  refine node?_of_write hwrite ?_
  rintro rfl
  obtain ⟨-, -, -, rfl⟩ := write_eq_ok_iff.mp hwrite
  exact hl ⟨octets, node?_put_self _ _ _⟩

/-- **A disk after accesses** at an instant: any number of folders made and files written. -/
inductive Accessed (now : Instant) (d : Disk) : Disk → Prop
  | none : Accessed now d d
  | folders {d' : Disk} (h : Accessed now d d') (p : Path) :
    Accessed now d (d'.makeFolders now p).2
  | file {d' d'' : Disk} (h : Accessed now d d') {p : Path} {octets : ByteArray}
      (hwrite : d'.write p octets = .ok d'') : Accessed now d d''

namespace Accessed

variable {now : Instant} {d d' d'' : Disk} {l : Location}

theorem trans (h : Accessed now d d') (h' : Accessed now d' d'') : Accessed now d d'' := by
  induction h' with
  | none => exact h
  | folders _ p ih => exact ih.folders p
  | file _ hwrite ih => exact ih.file hwrite

/-- **A tree stays a tree.** -/
theorem isTree (h : Accessed now d d') (htree : d.IsTree) : d'.IsTree := by
  induction h with
  | none => exact htree
  | folders _ p ih => exact ih.makeFolders now p
  | file _ hwrite ih => exact ih.write hwrite

theorem grows (h : Accessed now d d') : d.Grows d' := by
  induction h with
  | none => exact .refl d
  | folders _ p ih => exact ih.trans (foldersMade_makeFolders _ now p).grows
  | file _ hwrite ih => exact ih.trans (grows_of_write hwrite)

/-- Nothing is taken away. -/
theorem none_of_none (h : Accessed now d d') (hl : d'.node? l = .none) : d.node? l = .none := by
  induction h with
  | none => exact hl
  | folders _ p ih =>
    refine ih ?_
    rcases (foldersMade_makeFolders _ now p).node l with hsame | ⟨-, hfolder⟩
    · rw [← hsame, hl]
    · rw [hl] at hfolder
      cases hfolder
  | file _ hwrite ih =>
    refine ih ((node?_of_write_of_not_fileAt hwrite ?_).symm.trans hl)
    rintro ⟨octets, hfile⟩
    rw [hl] at hfile
    cases hfile

/-- **Folders are dated**: one that was not there before was made now. -/
theorem of_folder (h : Accessed now d d') {t : Instant} (hl : d'.node? l = some (.folder t)) :
    d.node? l = some (.folder t) ∨ d.node? l = .none ∧ t = now := by
  induction h with
  | none => exact Or.inl hl
  | folders h p ih =>
    rcases (foldersMade_makeFolders _ now p).node l with hsame | ⟨hnone, hfolder⟩
    · exact ih (hsame ▸ hl)
    · rw [hl] at hfolder
      cases hfolder
      exact Or.inr ⟨h.none_of_none hnone, rfl⟩
  | file _ hwrite ih =>
    exact ih ((node?_of_write_of_not_fileAt hwrite (FolderAt.not_fileAt ⟨t, hl⟩)).symm.trans hl)

end Accessed

end Disk

open Disk (Accessed)

namespace Storage

variable (s : Storage) (now : Instant) (octets : ByteArray)

theorem accessed_replace : Accessed now s.disk (s.replace now octets).2.disk := by
  have hmade : Accessed now s.disk s.disk := .none
  unfold replace
  split
  · exact hmade
  · next folder _ =>
    replace hmade := hmade.folders folder
    split
    · next hfolders => rwa [hfolders] at hmade
    · next hfolders =>
      rw [hfolders] at hmade
      split
      · next hwrite => exact hmade.file hwrite
      · exact hmade

theorem accessed_write : Accessed now s.disk (write now octets s).state.disk := by
  have hreplace := accessed_replace { s with writes := s.writes + 1 } now octets
  unfold write
  dsimp only
  split
  · exact .none
  · split
    · next heq => rwa [heq] at hreplace
    · next heq => rwa [heq] at hreplace

end Storage

theorem Bridge.Effect.accessed_on (e : Bridge.Effect) (now : Instant) (b : Bridge) :
    Accessed now b.storage.disk (e.on now b).storage.disk := by
  cases e with
  | nothing => exact .none
  | load => exact .none
  | save r => exact Storage.accessed_write b.storage now r.encode

namespace Backup

variable {now : Instant} {root : Path} {b state : Bridge}

theorem accessed_prepared (now : Instant) (root : Path) (name : String) (b : Bridge) :
    Accessed now b.storage.disk (prepared now root name b).storage.disk :=
  Accessed.none.folders (folderPath root name)

theorem accessed_saved (now : Instant) (root : Path) (name : String) (b : Bridge) :
    Accessed now b.storage.disk (saved now root name b).storage.disk := by
  rw [saved_eq]
  exact (accessed_prepared now root name b).trans (Storage.accessed_write _ now _)

/-- Making a backup accesses the disk. -/
theorem Making.accessed {name? : Option String} {value : Except StorageError Path}
    (h : Making now root name? b value state) :
    Accessed now b.storage.disk state.storage.disk := by
  cases h with
  | misnamed => exact .none
  | taken => exact .none
  | noFolder => exact accessed_prepared now root _ b
  | notSaved => exact accessed_saved now root _ b
  | notRead => exact accessed_saved now root _ b
  | notWritten => exact accessed_saved now root _ b
  | made _ _ _ _ _ hwrite => exact (accessed_saved now root _ b).file hwrite

/-- Restoring a backup accesses the disk. -/
theorem Restoring.accessed {name : String} {value : Except StorageError Nat}
    (h : Restoring now root name b value state) :
    Accessed now b.storage.disk state.storage.disk := by
  cases h with
  | notRead => exact .none
  | notWritten => exact Storage.accessed_write b.storage now _
  | restored =>
    rw [Bridge.load_state]
    exact Storage.accessed_write b.storage now _

/-- **A step accesses the disk**, and that is all it does to it. -/
theorem Step.accessed_after (s : Step) (now : Instant) (root : Path) (b : Bridge) :
    Accessed now b.storage.disk (s.after root now b).storage.disk := by
  cases s with
  | bridge op =>
    show Accessed now b.storage.disk (op.after now b).storage.disk
    rw [op.after_eq]
    exact Bridge.Effect.accessed_on _ now b
  | create name? => exact (making_create now root name? b).accessed
  | restore name => exact (restoring_restore now root name b).accessed

end Backup

end Rehearsal
