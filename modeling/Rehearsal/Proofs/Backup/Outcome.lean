import Rehearsal.Backup
import Rehearsal.Proofs.Bridge.Run

/-!
# What making and restoring a backup comes to

Making a backup is a sequence of accesses, each of which may fail, and a failure leaves what the
accesses before it did. `Backup.Making` says once which outcomes there are and which bridge each
of them leaves: seven, in the order in which a backup can come to them. `Backup.Restoring` does
the same for restoring. Whatever is proved about all backups is proved by the cases of these two.

The bridges on the way are named. It is *prepared* when the folder of the backup is made, then
*saved*, and then its document *reread*.
-/

namespace Rehearsal.Backup

/-! ## The bridges on the way -/

section

variable (now : Instant) (root : Path) (name : String) (b : Bridge)

/-- The disk of a bridge replaced. -/
def onDisk (d : Disk) (b : Bridge) : Bridge := { b with storage := { b.storage with disk := d } }

/-- **The bridge when the folder of a backup has been made**, as far as it could be. -/
def prepared : Bridge :=
  onDisk (b.storage.disk.makeFolders now (folderPath root name)).2 b

/-- **The bridge when it has been saved**, or that was tried, into its own store. -/
def saved : Bridge := (Bridge.save now (prepared now root name b)).state

/-- **The bridge when its document has been read again**, or that was tried. -/
def reread : Bridge :=
  { saved now root name b with storage := (Storage.read (saved now root name b).storage).state }

theorem saved_eq : saved now root name b = ⟨b.registry,
    (Storage.write now b.registry.encode (prepared now root name b).storage).state⟩ :=
  Bridge.save_state now (prepared now root name b)

@[simp] theorem registry_saved : (saved now root name b).registry = b.registry := by
  rw [saved_eq]

@[simp] theorem registry_reread : (reread now root name b).registry = b.registry :=
  registry_saved now root name b

end

/-- A backup that gets as far as reading the document again has saved the registry. -/
theorem content_reread {now : Instant} {root : Path} {name : String} {b : Bridge}
    (hsave : (Bridge.save now (prepared now root name b)).value = .ok ()) :
    (reread now root name b).storage.content = .ok (some b.registry.encode) :=
  Bridge.content_of_save hsave

/-- A copy of the stored document is no change of it. -/
theorem content_onDisk {b : Bridge} {p : Path} {octets : ByteArray} {d : Disk}
    (h : b.storage.content = .ok (some octets)) (hwrite : b.storage.disk.write p octets = .ok d) :
    (onDisk d b).storage.content = .ok (some octets) :=
  Storage.content_of_copy h hwrite

theorem makeFolders_apply (now : Instant) (p : Path) (b : Bridge) :
    makeFolders now p b = ⟨(b.storage.disk.makeFolders now p).1.mapError (.io p),
      onDisk (b.storage.disk.makeFolders now p).2 b, [], []⟩ := rfl

theorem writeFile_of_error {p : Path} {octets : ByteArray} {b : Bridge} {e : FileError}
    (h : b.storage.disk.write p octets = .error e) :
    writeFile p octets b = ⟨.error (.io p e), b, [], []⟩ := by
  unfold writeFile
  rw [Routine.get_bind_apply, h]
  rfl

theorem writeFile_of_ok {p : Path} {octets : ByteArray} {b : Bridge} {d : Disk}
    (h : b.storage.disk.write p octets = .ok d) :
    writeFile p octets b = ⟨.ok (), onDisk d b, [], []⟩ := by
  unfold writeFile
  rw [Routine.get_bind_apply, h]
  rfl

/-! ## Making a backup -/

/-- **What making a backup comes to**: the value, and the bridge that is left. -/
inductive Making (now : Instant) (root : Path) (name? : Option String) (b : Bridge) :
    Except StorageError Path → Bridge → Prop where
  /-- No backup may have the name. -/
  | misnamed {e : StorageError} (hname : nameFor now name? = .error e) :
    Making now root name? b (.error e) b
  /-- There is a backup of the name. -/
  | taken {name : String} (hname : nameFor now name? = .ok name)
      (htaken : b.storage.disk.exists? (documentPath root name) = true) :
    Making now root name? b (.error (.backupExists name)) b
  /-- There is none, but its folder cannot be made. -/
  | noFolder {name : String} (hname : nameFor now name? = .ok name)
      (hfree : b.storage.disk.exists? (documentPath root name) = false) {e : FileError}
      (hfolder : (b.storage.disk.makeFolders now (folderPath root name)).1 = .error e) :
    Making now root name? b (.error (.io (folderPath root name) e)) (prepared now root name b)
  /-- The bridge cannot be saved. -/
  | notSaved {name : String} (hname : nameFor now name? = .ok name)
      (hfree : b.storage.disk.exists? (documentPath root name) = false)
      (hfolder : (b.storage.disk.makeFolders now (folderPath root name)).1 = .ok ())
      {e : StorageError} (hsave : (Bridge.save now (prepared now root name b)).value = .error e) :
    Making now root name? b (.error e) (saved now root name b)
  /-- What was saved cannot be read. -/
  | notRead {name : String} (hname : nameFor now name? = .ok name)
      (hfree : b.storage.disk.exists? (documentPath root name) = false)
      (hfolder : (b.storage.disk.makeFolders now (folderPath root name)).1 = .ok ())
      (hsave : (Bridge.save now (prepared now root name b)).value = .ok ())
      {e : StorageError} (hread : (Storage.read (saved now root name b).storage).value = .error e) :
    Making now root name? b (.error e) (reread now root name b)
  /-- The copy cannot be written. -/
  | notWritten {name : String} (hname : nameFor now name? = .ok name)
      (hfree : b.storage.disk.exists? (documentPath root name) = false)
      (hfolder : (b.storage.disk.makeFolders now (folderPath root name)).1 = .ok ())
      (hsave : (Bridge.save now (prepared now root name b)).value = .ok ())
      {document : Option ByteArray}
      (hread : (Storage.read (saved now root name b).storage).value = .ok document)
      {e : FileError}
      (hwrite : (reread now root name b).storage.disk.write (documentPath root name)
        (document.getD ByteArray.empty) = .error e) :
    Making now root name? b (.error (.io (documentPath root name) e)) (reread now root name b)
  /-- **The backup is made.** -/
  | made {name : String} (hname : nameFor now name? = .ok name)
      (hfree : b.storage.disk.exists? (documentPath root name) = false)
      (hfolder : (b.storage.disk.makeFolders now (folderPath root name)).1 = .ok ())
      (hsave : (Bridge.save now (prepared now root name b)).value = .ok ())
      {document : Option ByteArray}
      (hread : (Storage.read (saved now root name b).storage).value = .ok document)
      {d : Disk}
      (hwrite : (reread now root name b).storage.disk.write (documentPath root name)
        (document.getD ByteArray.empty) = .ok d) :
    Making now root name? b (.ok (documentPath root name)) (onDisk d (reread now root name b))

/-- **Making a backup comes to one of its outcomes.** -/
theorem making_create (now : Instant) (root : Path) (name? : Option String) (b : Bridge) :
    Making now root name? b (create now root name? b).value (create now root name? b).state := by
  unfold create
  cases hname : nameFor now name? with
  | error e => exact .misnamed hname
  | ok name =>
    dsimp only
    rw [Routine.get_bind_apply]
    cases hexists : b.storage.disk.exists? (documentPath root name) with
    | true => exact .taken hname hexists
    | false =>
      rw [if_neg (by simp), Routine.bind_value, Routine.bind_state, makeFolders_apply]
      dsimp only
      -- access by access, each on the bridge that the accesses before it have left
      cases hfolder : (b.storage.disk.makeFolders now (folderPath root name)).1 with
      | error e => exact .noFolder hname hexists hfolder
      | ok u =>
        show Making now root name? b
          ((Bridge.save now >>= _ : Routine Bridge _) (prepared now root name b)).value
          ((Bridge.save now >>= _ : Routine Bridge _) (prepared now root name b)).state
        rw [Routine.bind_value, Routine.bind_state]
        cases hsave : (Bridge.save now (prepared now root name b)).value with
        | error e => exact .notSaved hname hexists hfolder hsave
        | ok u =>
          show Making now root name? b
            ((Bridge.onStorage Storage.read >>= _ : Routine Bridge _) (saved now root name b)).value
            ((Bridge.onStorage Storage.read >>= _ : Routine Bridge _) (saved now root name b)).state
          rw [Routine.bind_value, Routine.bind_state, Bridge.onStorage_apply]
          dsimp only
          cases hread : (Storage.read (saved now root name b).storage).value with
          | error e => exact .notRead hname hexists hfolder hsave hread
          | ok document =>
            show Making now root name? b
              ((writeFile (documentPath root name) (document.getD ByteArray.empty) >>= _
                : Routine Bridge _) (reread now root name b)).value
              ((writeFile (documentPath root name) (document.getD ByteArray.empty) >>= _
                : Routine Bridge _) (reread now root name b)).state
            rw [Routine.bind_value, Routine.bind_state]
            cases hwrite : (reread now root name b).storage.disk.write (documentPath root name)
                (document.getD ByteArray.empty) with
            | error e =>
              rw [writeFile_of_error hwrite]
              exact .notWritten hname hexists hfolder hsave hread hwrite
            | ok d =>
              rw [writeFile_of_ok hwrite]
              exact .made hname hexists hfolder hsave hread hwrite

section

variable {now : Instant} {root : Path} {name? : Option String} {b state : Bridge}
  {value : Except StorageError Path}

/-- A backup that no name can be found for leaves all as it was. -/
theorem Making.of_misnamed (h : Making now root name? b value state) {e : StorageError}
    (hname : nameFor now name? = .error e) : value = .error e ∧ state = b := by
  cases h with
  | misnamed hname' =>
    cases hname.symm.trans hname'
    exact ⟨rfl, rfl⟩
  | _ hname' => exact absurd (hname.symm.trans hname') (by simp)

/-- **A backup does not change the registry.** -/
theorem Making.registry_eq (h : Making now root name? b value state) :
    state.registry = b.registry := by
  cases h with
  | misnamed => rfl
  | taken => rfl
  | noFolder => rfl
  | notSaved => exact registry_saved _ _ _ b
  | notRead => exact registry_reread _ _ _ b
  | notWritten => exact registry_reread _ _ _ b
  | made => exact registry_reread _ _ _ b

end

/-! ## Restoring a backup -/

/-- **The bridge when the document of a backup was written** into its store, or that was tried. -/
def replaced (now : Instant) (octets : ByteArray) (b : Bridge) : Bridge :=
  { b with storage := (Storage.write now octets b.storage).state }

/-- **What restoring a backup comes to**: the value, and the bridge that is left. -/
inductive Restoring (now : Instant) (root : Path) (name : String) (b : Bridge) :
    Except StorageError Nat → Bridge → Prop where
  /-- No backup may have the name, or the backup cannot be read. -/
  | notRead {e : StorageError}
      (h : ∀ octets, validName name = true →
        b.storage.disk.read (documentPath root name) ≠ .ok octets) :
    Restoring now root name b (.error e) b
  /-- Its document cannot be written. -/
  | notWritten (hname : validName name = true) {octets : ByteArray}
      (hread : b.storage.disk.read (documentPath root name) = .ok octets) {e : StorageError}
      (hwrite : (Storage.write now octets b.storage).value = .error e) :
    Restoring now root name b (.error e) (replaced now octets b)
  /-- **The backup is restored**, and what is stored now is loaded. -/
  | restored (hname : validName name = true) {octets : ByteArray}
      (hread : b.storage.disk.read (documentPath root name) = .ok octets)
      (hwrite : (Storage.write now octets b.storage).value = .ok ()) :
    Restoring now root name b (.ok (Bridge.load now (replaced now octets b)).value)
      (Bridge.load now (replaced now octets b)).state

/-- **Restoring a backup comes to one of its outcomes.** -/
theorem restoring_restore (now : Instant) (root : Path) (name : String) (b : Bridge) :
    Restoring now root name b (restore now root name b).value (restore now root name b).state := by
  unfold restore
  by_cases hname : validName name = true
  · rw [if_pos hname, Routine.get_bind_apply]
    cases hread : b.storage.disk.read (documentPath root name) with
    | error e =>
      have hnot : ∀ octets, validName name = true →
          b.storage.disk.read (documentPath root name) ≠ .ok octets := by
        intro octets _
        rw [hread]
        simp
      cases e <;> exact .notRead hnot
    | ok octets =>
      dsimp only
      rw [Routine.bind_value, Routine.bind_state, Bridge.onStorage_apply]
      dsimp only
      cases hwrite : (Storage.write now octets b.storage).value with
      | error e => exact .notWritten hname hread hwrite
      | ok u => exact .restored hname hread hwrite
  · rw [if_neg hname]
    exact .notRead fun octets h => absurd h hname

end Rehearsal.Backup
