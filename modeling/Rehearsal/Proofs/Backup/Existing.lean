import Mathlib.Data.List.Nodup
import Rehearsal.Proofs.Backup.Listing
import Rehearsal.Proofs.Backup.Snapshot

/-!
# Which backups exist

A backup is asked for in three ways, and each looks in its own way. To make one, it is asked whether
there is anything in the place of its document; to restore one, the document is read; and the
listing goes by the folders in the root. They agree (`Backup.existence_agreed`): a backup exists if
its document is a file, whatever else is in the root or in the folder of the backup.

That a backup is said to exist, or not to be found, is said of nothing else: all other faults are
those of a name or of an access (`Backup.Making.fault`, `Backup.read_of_restore_notFound`).

The agreement needs a root with a path. The empty path leads nowhere, so nothing is listed below it,
while the name of a backup joined to it is a path from the working folder
(`Backup.unlisted_below_empty_root`).
-/

namespace Rehearsal

/-! ## Faults of accesses -/

namespace Storage

variable {s : Storage} {now : Instant} {octets : ByteArray} {e : StorageError}

/-- A read fails by an access. -/
theorem io_of_read (h : (read s).value = .error e) : ∃ p cause, e = .io p cause := by
  unfold read content at h
  dsimp only at h
  split at h
  · cases h
    exact ⟨_, _, rfl⟩
  · split at h
    · cases h
    · split at h
      · cases h
      · cases h
      · cases h
        exact ⟨_, _, rfl⟩

theorem io_of_replace (h : (s.replace now octets).1 = .error e) : ∃ p cause, e = .io p cause := by
  unfold replace at h
  split at h
  · cases h
  · split at h
    · cases h
      exact ⟨_, _, rfl⟩
    · split at h
      · cases h
      · cases h
        exact ⟨_, _, rfl⟩

/-- A write fails by an access. -/
theorem io_of_write (h : (write now octets s).value = .error e) : ∃ p cause, e = .io p cause := by
  unfold write at h
  dsimp only at h
  split at h
  · cases h
    exact ⟨_, _, rfl⟩
  · split at h
    · cases h
    · next hreplace =>
      cases h
      exact io_of_replace (congrArg Prod.fst hreplace)

end Storage

namespace Backup

variable {now : Instant} {root : Path} {name : String} {name? : Option String} {b state : Bridge}
  {e : StorageError}

/-! ## Faults of backups -/

/-- **The faults of making a backup**: no backup may have the name, one has it, or an access
failed. -/
theorem Making.fault (h : Making now root name? b (.error e) state) :
    (∃ given, name? = some given ∧ validName given = false ∧ e = .invalidBackupName given)
      ∨ (∃ name, nameFor now name? = .ok name ∧ e = .backupExists name
        ∧ b.storage.disk.exists? (documentPath root name) = true)
      ∨ ∃ p cause, e = .io p cause := by
  cases h with
  | misnamed hname =>
    refine Or.inl ?_
    cases name? with
    | none => cases hname
    | some given =>
      unfold nameFor at hname
      dsimp only at hname
      split at hname
      · cases hname
      · next hvalid =>
        cases hname
        exact ⟨given, rfl, by simpa using hvalid, rfl⟩
  | taken hname htaken => exact Or.inr (Or.inl ⟨_, hname, rfl, htaken⟩)
  | noFolder => exact Or.inr (Or.inr ⟨_, _, rfl⟩)
  | notSaved _ _ _ hsave =>
    rw [Bridge.save_value] at hsave
    exact Or.inr (Or.inr (Storage.io_of_write hsave))
  | notRead _ _ _ _ hread => exact Or.inr (Or.inr (Storage.io_of_read hread))
  | notWritten => exact Or.inr (Or.inr ⟨_, _, rfl⟩)

/-- **A backup is said to exist** where there is something in the place of its document. -/
theorem exists_of_create (h : (create now root name? b).value = .error (.backupExists name)) :
    nameFor now name? = .ok name ∧ b.storage.disk.exists? (documentPath root name) = true := by
  have hmaking := making_create now root name? b
  rw [h] at hmaking
  rcases hmaking.fault with ⟨given, -, -, he⟩ | ⟨name', hname, he, hexists⟩ | ⟨p, cause, he⟩
  · cases he
  · cases he
    exact ⟨hname, hexists⟩
  · cases he

/-- No backup is made where there is something, and nothing is changed. -/
theorem create_of_exists (hname : nameFor now name? = .ok name)
    (h : b.storage.disk.exists? (documentPath root name) = true) :
    create now root name? b = ⟨.error (.backupExists name), b, [], []⟩ := by
  unfold create
  rw [hname]
  dsimp only
  rw [Routine.get_bind_apply, if_pos h]
  rfl

/-- No backup is made of a name that none may have. -/
theorem create_of_misnamed (h : validName name = false) :
    create now root (some name) b = ⟨.error (.invalidBackupName name), b, [], []⟩ := by
  have hname : nameFor now (some name) = .error (.invalidBackupName name) := by
    unfold nameFor
    exact if_neg (by simp [h])
  unfold create
  rw [hname]
  rfl

/-- No backup is restored of a name that none may have. -/
theorem restore_of_misnamed (h : validName name = false) :
    restore now root name b = ⟨.error (.invalidBackupName name), b, [], []⟩ := by
  unfold restore
  rw [h, if_neg (by simp)]
  rfl

/-- No backup is restored that cannot be read. -/
theorem restore_of_read_error (hname : validName name = true) {cause : FileError}
    (h : b.storage.disk.read (documentPath root name) = .error cause) :
    restore now root name b
      = ⟨.error (if cause = .notFound then .backupNotFound name
          else .io (documentPath root name) cause), b, [], []⟩ := by
  unfold restore
  rw [if_pos hname, Routine.get_bind_apply, h]
  cases cause <;> rfl

/-- **A backup is restored** if its document is read and the store takes it. -/
theorem isOk_restore_iff (hname : validName name = true) :
    (restore now root name b).value.isOk = true
      ↔ ∃ octets, b.storage.disk.read (documentPath root name) = .ok octets
        ∧ (Storage.write now octets b.storage).value = .ok () := by
  have hrestoring := restoring_restore now root name b
  generalize (restore now root name b).value = value,
    (restore now root name b).state = state at hrestoring ⊢
  cases hrestoring with
  | notRead hnot =>
    exact iff_of_false (by simp [Except.isOk, Except.toBool]) fun ⟨octets, hread, _⟩ =>
      hnot octets hname hread
  | notWritten _ hread hwrite =>
    refine iff_of_false (by simp [Except.isOk, Except.toBool]) fun ⟨octets', hread', hwrite'⟩ => ?_
    obtain rfl := Except.ok.inj (hread.symm.trans hread')
    rw [hwrite] at hwrite'
    cases hwrite'
  | restored _ hread hwrite => exact iff_of_true rfl ⟨_, hread, hwrite⟩

/-- **A backup is not found** where its document is not. -/
theorem read_of_restore_notFound (hname : validName name = true) {name' : String}
    (h : (restore now root name b).value = .error (.backupNotFound name')) :
    b.storage.disk.read (documentPath root name) = .error .notFound := by
  cases hread : b.storage.disk.read (documentPath root name) with
  | error cause =>
    rw [restore_of_read_error hname hread] at h
    dsimp only at h
    split at h
    · next hcause => rw [hcause]
    · cases h
  | ok octets =>
    have hrestoring := restoring_restore now root name b
    rw [h] at hrestoring
    generalize (restore now root name b).state = state at hrestoring
    cases hrestoring with
    | notRead hnot => exact absurd hread (hnot octets hname)
    | notWritten _ _ hwrite =>
      obtain ⟨p, cause, he⟩ := Storage.io_of_write hwrite
      cases he

/-! ## The three ways -/

/-- **Listing, restoring and making backups agree on which exist**, whatever is on the disk, for a
root with a path and a name that a backup may have. A backup of the name is listed if its document
is a file, and then once; and just then it is restored into a store that takes its document. One
that is listed is not made again, and trying to changes nothing. And one that is not found when it
is to be restored is not listed, and is not said to exist when it is to be made. -/
theorem existence_agreed (root : Path) (b : Bridge) (now later : Instant) (name : String)
    (hroot : root ≠ "") (hname : validName name = true) :
    let listed := (list root b).value.map (·.name)
    (name ∈ listed
        ↔ ∃ l octets, b.storage.disk.find (documentPath root name) = .ok (l, .file octets))
      ∧ (name ∈ listed → listed.count name = 1)
      ∧ ((∀ octets, b.storage.disk.read (documentPath root name) = .ok octets →
            (Storage.write now octets b.storage).value = .ok ()) →
          (name ∈ listed ↔ (restore now root name b).value.isOk = true))
      ∧ (name ∈ listed →
          create now root (some name) b = ⟨.error (.backupExists name), b, [], []⟩)
      ∧ ((restore now root name b).value = .error (.backupNotFound name) →
          name ∉ listed
            ∧ (create later root (some name) b).value ≠ .error (.backupExists name)) := by
  intro listed
  have hlisted : name ∈ listed
      ↔ ∃ octets, b.storage.disk.read (documentPath root name) = .ok octets := by
    rw [← mem_names_listing_iff hroot hname, ← (list_eq root b).1]
  have hfor : ∀ now, nameFor now (some name) = .ok name := fun now => by
    unfold nameFor
    exact if_pos hname
  refine ⟨?_, fun hmem => ?_, fun hworks => ?_, fun hmem => ?_, fun hmissing => ?_⟩
  · rw [hlisted]
    constructor
    · rintro ⟨octets, hread⟩
      obtain ⟨l, hfind⟩ := Disk.read_eq_ok_iff_find.mp hread
      exact ⟨l, octets, hfind⟩
    · rintro ⟨l, octets, hfind⟩
      exact ⟨octets, Disk.read_eq_ok_iff_find.mpr ⟨l, hfind⟩⟩
  · refine List.count_eq_one_of_mem ?_ hmem
    show ((list root b).value.map (·.name)).Nodup
    rw [(list_eq root b).1]
    exact nodup_names_listing _ root
  · rw [hlisted, isOk_restore_iff hname]
    exact ⟨fun ⟨octets, hread⟩ => ⟨octets, hread, hworks octets hread⟩,
      fun ⟨octets, hread, _⟩ => ⟨octets, hread⟩⟩
  · obtain ⟨octets, hread⟩ := hlisted.mp hmem
    exact create_of_exists (hfor now) (Disk.exists?_of_read hread)
  · have hread := read_of_restore_notFound hname hmissing
    refine ⟨fun hmem => ?_, fun hexists => ?_⟩
    · obtain ⟨octets, hread'⟩ := hlisted.mp hmem
      rw [hread] at hread'
      cases hread'
    · have htaken := (exists_of_create hexists).2
      rw [Disk.exists?_of_read_notFound hread] at htaken
      cases htaken

/-- A backup `a` was made, and of a backup `c` only the folder, since saving was refused: `a` is
listed and exists, and `c` is not and does not. -/
theorem existence_agreed_folder_left :
    let b : Bridge :=
      ⟨SortedMap.empty, .new (.memory none) (.fresh 0 ["home"]) ⟨fun _ => false, (· == 1)⟩⟩
    let left := Run.state (Step.after "backups")
      [(5, .create (some "a")), (6, .create (some "c"))] b
    "a" ∈ (list "backups" left).value.map (·.name) ∧ "c" ∉ (list "backups" left).value.map (·.name)
      ∧ (restore 7 "backups" "a" left).value.isOk = true
      ∧ (create 7 "backups" (some "a") left).value = .error (.backupExists "a")
      ∧ (create 8 "backups" (some "c") left).value ≠ .error (.backupExists "c") := by
  intro b left
  obtain ⟨hfile, -, hrestored, htaken, -⟩ :=
    existence_agreed "backups" left 7 8 "a" (by decide) (by decide)
  obtain ⟨-, -, -, -, hmissing⟩ := existence_agreed "backups" left 7 8 "c" (by decide) (by decide)
  have hread : left.storage.disk.read (documentPath "backups" "a")
      = .ok (Registry.encode SortedMap.empty) := by decide +kernel
  obtain ⟨l, hfind⟩ := Disk.read_eq_ok_iff_find.mp hread
  have hlisted := hfile.mpr ⟨l, _, hfind⟩
  obtain ⟨hunlisted, hfree⟩ := hmissing (by decide +kernel)
  refine ⟨hlisted, hunlisted, (hrestored fun octets hoctets => ?_).mp hlisted, ?_, hfree⟩
  · obtain rfl := Except.ok.inj (hread.symm.trans hoctets)
    decide +kernel
  · rw [htaken hlisted]

/-- **Below an empty root no backup is listed**, although it was made, and although it is restored.
-/
theorem unlisted_below_empty_root :
    let b : Bridge := ⟨SortedMap.empty, .new (.memory none) (.fresh 0 ["home"]) .none⟩
    let made := (create 5 "" (some "a") b).state
    validName "a" = true
      ∧ made.storage.disk.read (documentPath "" "a") = .ok (Registry.encode SortedMap.empty)
      ∧ (restore 6 "" "a" made).value = .ok 0
      ∧ (create 6 "" (some "a") made).value = .error (.backupExists "a")
      ∧ "a" ∉ (list "" made).value.map (·.name) := by
  decide +kernel

end Backup

end Rehearsal
