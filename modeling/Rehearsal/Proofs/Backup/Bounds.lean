import Rehearsal.Proofs.Backup.Names
import Rehearsal.Proofs.Backup.Run
import Rehearsal.Proofs.Storage.Bounds

/-!
# How far a step with backups reaches

An operation of the bridge changes no more of the disk than the stored document, and neither does
restoring a backup, which reads the backup and writes the document. Making a backup makes the
folders on the way to the root that are missing and its own, and it writes its own document once the
stored one was written and read (`Backup.Making.changed`). So what it does besides the stored
document is on the way to the root, at the root or below it (`Storage.OnlyBackups`). All this holds
whatever fails on the way.
-/

namespace Rehearsal

open Disk (Within visited)

/-- **What an operation comes to changes only the document.** -/
theorem Bridge.Effect.onlyDocument_on (e : Bridge.Effect) (now : Instant) (b : Bridge) :
    b.storage.OnlyDocument (e.on now b).storage := by
  cases e with
  | nothing => exact .refl _
  | load => exact Storage.onlyDocument_read _
  | save r => exact Storage.onlyDocument_write _ now r.encode

theorem Bridge.Operation.onlyDocument_after (op : Bridge.Operation) (now : Instant) (b : Bridge) :
    b.storage.OnlyDocument (op.after now b).storage := by
  rw [op.after_eq]
  exact Effect.onlyDocument_on _ now b

namespace Storage

/-- **Only the document and the backups were changed**: besides the document, what is at the root of
the backups or below it, with the folders on the way to the root. -/
def OnlyBackups (root : Path) (s s' : Storage) : Prop :=
  Changed (fun l => s.OnWay l ∨ l ∈ s.disk.route root ∨ s.disk.place root <+: l)
    (fun l => s.site? = some l ∨ s.disk.place root <+: l) s s'

namespace OnlyBackups

variable {root : Path} {s s' s'' : Storage}

theorem refl (root : Path) (s : Storage) : OnlyBackups root s s := Changed.refl _ _ s

end OnlyBackups

end Storage

namespace Backup

variable {now : Instant} {root : Path} {b : Bridge}

/-- **The way to a backup** is the way to the root, and the folder of the backup below it. -/
theorem mem_route_folderPath {d : Disk} {name : String}
    (hname : Path.IsName name ∧ name ≠ "." ∧ name ≠ "..") {l : Location} :
    l ∈ d.route (folderPath root name) ↔ l ∈ d.route root ∨ l = d.place root ++ [name] := by
  obtain ⟨hsingle, hdot, hup⟩ := hname
  have hstart : d.startOf (folderPath root name) = d.startOf root := by
    rw [Disk.startOf, Disk.startOf, folderPath, Path.isAbsolute_join root hsingle]
  have hnext : Disk.next (d.place root) name = d.place root ++ [name] := by
    rw [Disk.next, Disk.target, if_neg hdot, if_neg hup]
    rfl
  rw [Disk.route, hstart, folderPath, Path.names_join root hsingle, Disk.visited_append,
    Disk.visited_cons, List.mem_append, List.mem_cons, ← or_assoc, ← Disk.mem_visited]
  -- from the root on, there is only the folder of the backup
  show _ ∨ l ∈ [Disk.next (d.place root) name] ↔ _
  rw [List.mem_singleton, hnext]

/-- **Where folders may be made for a backup**: on the way to the stored document, on the way to the
root, and for the backup itself. -/
def FolderFor (root : Path) (name : String) (s : Storage) (l : Location) : Prop :=
  s.OnWay l ∨ l ∈ s.disk.route root ∨ l = s.disk.place root ++ [name]

section

variable {name : String} (hname : validName name = true)
include hname

theorem changed_prepared : Storage.Changed (FolderFor root name b.storage)
    (fun l => b.storage.site? = some l) b.storage (prepared now root name b).storage :=
  ⟨rfl, rfl, (Disk.within_makeFolders _ now _).mono
    (fun _ hl => Or.inr ((mem_route_folderPath (isName_of_validName hname)).mp hl))
    fun _ h => h.elim⟩

theorem changed_saved : Storage.Changed (FolderFor root name b.storage)
    (fun l => b.storage.site? = some l) b.storage (saved now root name b).storage := by
  rw [saved_eq]
  exact (changed_prepared hname).then_document (Storage.onlyDocument_write _ now _)
    (fun _ => Or.inl) fun _ => id

theorem changed_reread : Storage.Changed (FolderFor root name b.storage)
    (fun l => b.storage.site? = some l) b.storage (reread now root name b).storage :=
  (changed_saved hname).then_document (Storage.onlyDocument_read _) (fun _ => Or.inl) fun _ => id

end

/-- **Making a backup changes its own document only**, besides the stored one, and that only if it
is made. -/
theorem Making.changed {name? : Option String} {name : String} {value : Except StorageError Path}
    {state : Bridge} (hmaking : Making now root name? b value state)
    (hname : nameFor now name? = .ok name) :
    Storage.Changed (FolderFor root name b.storage)
      (fun l => b.storage.site? = some l
        ∨ value.isOk = true ∧ l = b.storage.disk.place (documentPath root name))
      b.storage state.storage := by
  have hvalid := validName_of_nameFor hname
  cases hmaking with
  | misnamed => exact .refl _ _ _
  | taken => exact .refl _ _ _
  | noFolder hname' =>
    cases hname.symm.trans hname'
    exact (changed_prepared hvalid).mono (fun _ => id) fun _ => Or.inl
  | notSaved hname' =>
    cases hname.symm.trans hname'
    exact (changed_saved hvalid).mono (fun _ => id) fun _ => Or.inl
  | notRead hname' =>
    cases hname.symm.trans hname'
    exact (changed_reread hvalid).mono (fun _ => id) fun _ => Or.inl
  | notWritten hname' =>
    cases hname.symm.trans hname'
    exact (changed_reread hvalid).mono (fun _ => id) fun _ => Or.inl
  | made hname' _ _ _ _ hwrite =>
    cases hname.symm.trans hname'
    have hreread : Storage.Changed _ _ b.storage (reread now root _ b).storage :=
      changed_reread hvalid
    refine (hreread.mono (fun _ => id) fun _ => Or.inl).trans ⟨rfl, rfl,
      (Disk.within_write hwrite).mono (fun _ h => h.elim) fun l hl => Or.inr ⟨rfl, ?_⟩⟩
    rw [hl, Disk.place_eq_of_home hreread.disk.home]

/-- **Making a backup changes the document and the backups**, and not the registry. -/
theorem Making.onlyBackups {name? : Option String} {value : Except StorageError Path}
    {state : Bridge} (hmaking : Making now root name? b value state) :
    state.registry = b.registry ∧ b.storage.OnlyBackups root state.storage := by
  refine ⟨hmaking.registry_eq, ?_⟩
  cases hname : nameFor now name? with
  | error e =>
    rw [(hmaking.of_misnamed hname).2]
    exact .refl root _
  | ok name =>
    refine (hmaking.changed hname).mono (fun l hl => ?_) fun l hl => ?_
    · refine Or.imp_right (Or.imp_right ?_) hl
      rintro rfl
      exact List.prefix_append _ _
    · refine hl.imp_right fun ⟨_, heq⟩ => ?_
      rw [heq, place_documentPath _ root (validName_of_nameFor hname)]
      exact List.prefix_append _ _

/-- **Restoring a backup changes only the document**, besides the registry. -/
theorem Restoring.onlyDocument {name : String} {value : Except StorageError Nat} {state : Bridge}
    (hrestoring : Restoring now root name b value state) :
    b.storage.OnlyDocument state.storage := by
  cases hrestoring with
  | notRead => exact .refl _
  | notWritten => exact Storage.onlyDocument_write _ now _
  | restored =>
    rw [Bridge.load_state]
    exact (Storage.onlyDocument_write _ now _).trans (Storage.onlyDocument_read _)

end Backup

end Rehearsal
