import Rehearsal.Proofs.Backup.Agreement
import Rehearsal.Proofs.Backup.Bounds
import Rehearsal.Proofs.Backup.Existing
import Rehearsal.Proofs.Disk.Differing

/-!
# Backups keep apart

The folder of a backup is directly in the root, under the name of the backup, and so the documents
of different backups are different files. Making a backup writes its own document and no other, and
restoring it writes none; and what either comes to does not depend on the others: on disks that
differ in what is in their folders they come to the same (`Backup.confined`).

All this is said of the files of backups *besides the stored document*. Nothing keeps a store from
having its document in the root, and then that document is a backup that every change of the
registry changes (`Backup.stored_document_not_apart`).
-/

namespace Rehearsal

open Routine (Agree)
open Store (documentPath)

variable {now : Instant}

/-! ## Storages on disks that differ in some places -/

namespace Storage

/-- **Storages that differ in some places** of the disk and in nothing else, with the store and the
working folder of a given one. -/
structure DifferIn (s₀ : Storage) (places ways : Location → Prop) (s s' : Storage) : Prop where
  folder : s.store.folder? = s₀.store.folder?
  home : s.disk.home = s₀.disk.home
  store : s'.store = s.store
  disk : s.disk.DifferIn places ways s'.disk
  refusals : s'.refusals = s.refusals
  reads : s'.reads = s.reads
  writes : s'.writes = s.writes
  written : s'.written = s.written

namespace DifferIn

variable {s₀ s s' : Storage} {places ways : Location → Prop} {folder : Path}

/-- The disks replaced. -/
theorem of_disk (h : DifferIn s₀ places ways s s') {d d' : Disk} (hhome : d.home = s.disk.home)
    (hdisk : d.DifferIn places ways d') :
    DifferIn s₀ places ways { s with disk := d } { s' with disk := d' } :=
  ⟨h.folder, hhome.trans h.home, h.store, hdisk, h.refusals, h.reads, h.writes, h.written⟩

/-- The same accesses counted on both. -/
theorem counted (h : DifferIn s₀ places ways s s') (reads writes written : Nat → Nat) :
    DifferIn s₀ places ways
      { s with
        reads := reads s.reads
        writes := writes s.writes
        written := written s.written }
      { s' with
        reads := reads s'.reads
        writes := writes s'.writes
        written := written s'.written } :=
  ⟨h.folder, h.home, h.store, h.disk, h.refusals, congrArg reads h.reads,
    congrArg writes h.writes, congrArg written h.written⟩

section

variable (hway : ∀ {l : Location}, s₀.OnWay l → ways l)
include hway

/-- The way to the document is one of the ways. -/
theorem way (h : DifferIn s₀ places ways s s') (hstore : s.store = .file folder) :
    ∀ l ∈ s.disk.route folder, ways l := by
  intro l hl
  refine hway ⟨folder, ?_, ?_⟩
  · rw [← h.folder, hstore]
    rfl
  · rwa [Disk.route, Disk.startOf, ← h.home]

variable (hsite : ∀ {l : Location}, s₀.site? = some l → ¬places l)
include hsite

omit hway in
theorem site (h : DifferIn s₀ places ways s s') (hstore : s.store = .file folder) :
    ¬places (s.disk.place (documentPath folder)) := by
  refine hsite ?_
  rw [site?, ← h.folder, hstore, Disk.place_eq_of_home h.home]
  rfl

/-- The document is the same. -/
theorem content_eq (h : DifferIn s₀ places ways s s') : s'.content = s.content := by
  unfold content
  rw [h.store]
  cases hstore : s.store with
  | memory document => rfl
  | file folder =>
    dsimp only
    rw [h.disk.read_eq (Disk.stations_documentPath s.disk folder ▸ h.way hway hstore)
      (h.site hsite hstore)]

/-- **The document is replaced** on both or on neither. -/
theorem replace (h : DifferIn s₀ places ways s s') (now : Instant) (octets : ByteArray) :
    (s'.replace now octets).1 = (s.replace now octets).1
      ∧ DifferIn s₀ places ways (s.replace now octets).2 (s'.replace now octets).2 := by
  cases hstore : s.store with
  | memory document =>
    rw [replace_memory now octets document s hstore,
      replace_memory now octets document s' (h.store.trans hstore)]
    refine ⟨rfl, ?_, h.home, rfl, h.disk, h.refusals, h.reads, h.writes, h.written⟩
    rw [← h.folder, hstore]
    rfl
  | file folder =>
    obtain ⟨hvalue, hdiffer⟩ := h.disk.makeFolders (h.way hway hstore) now
    have hhome := (Disk.foldersMade_makeFolders s.disk now folder).home
    unfold Storage.replace
    rw [h.store, hstore]
    dsimp only
    generalize s.disk.makeFolders now folder = made at hvalue hdiffer hhome ⊢
    generalize s'.disk.makeFolders now folder = made' at hvalue hdiffer ⊢
    obtain ⟨outcome, d₁⟩ := made
    obtain ⟨outcome', d₁'⟩ := made'
    obtain rfl : outcome' = outcome := hvalue
    have hmade := h.of_disk hhome hdiffer
    cases outcome' with
    | error e => exact ⟨rfl, hstore ▸ h.store ▸ hmade⟩
    | ok u =>
      have hwrite := hmade.disk.write
        (Disk.stations_documentPath d₁ folder ▸ hmade.way hway hstore) (hmade.site hsite hstore)
        octets
      dsimp only at hwrite ⊢
      rcases Disk.error_or_ok hwrite.1 with ⟨e, hfails, hfails'⟩ | ⟨d₂, d₂', hok, hok'⟩
      · rw [hfails, hfails']
        exact ⟨rfl, hstore ▸ h.store ▸ hmade⟩
      · rw [hok, hok'] at hwrite ⊢
        refine ⟨rfl, hstore ▸ h.store ▸ hmade.of_disk ?_ hwrite.2⟩
        exact (Disk.grows_of_write hok).home

/-- **Reads and writes agree** on storages that differ away from the document. -/
theorem agreeing : Agreeing (DifferIn s₀ places ways) now :=
  agreeing_of_replace (fun _ _ h => h.content_eq hway hsite)
    (fun _ _ h => ⟨h.refusals, h.reads, h.writes⟩) (fun _ _ h => h.counted)
    fun _ _ h => h.replace hway hsite now

end

end DifferIn

end Storage

namespace Backup

open Bridge (Over)

variable {root : Path} {name : String} {b b' : Bridge}

/-! ## Other backups -/

/-- **The places of other backups**: their folders and all that is in them, besides the stored
document. -/
def OtherBackup (root : Path) (name : String) (s : Storage) (l : Location) : Prop :=
  s.site? ≠ some l ∧ ∃ other, validName other = true ∧ other ≠ name
    ∧ s.disk.place root ++ [other] <+: l

/-- **Bridges that differ in other backups** and in nothing else, with the store and the working
folder of a given one. What is in the folders of other backups may be different, but where folders
may be made for the backup, only the octets of files. -/
abbrev Elsewhere (root : Path) (name : String) (b₀ : Bridge) : Bridge → Bridge → Prop :=
  Over (Storage.DifferIn b₀.storage (OtherBackup root name b₀.storage)
    (FolderFor root name b₀.storage))

section

variable {b₀ : Bridge} {s s' : Storage}
  (h : Storage.DifferIn b₀.storage (OtherBackup root name b₀.storage)
    (FolderFor root name b₀.storage) s s')

theorem agreeing_elsewhere : Storage.Agreeing (Storage.DifferIn b₀.storage
    (OtherBackup root name b₀.storage) (FolderFor root name b₀.storage)) now :=
  Storage.DifferIn.agreeing Or.inl fun hsite hother => hother.1 hsite

variable (hname : validName name = true)
include h hname

/-- The way to the folder of the backup is one on which folders may be made for it. -/
theorem way_folderPath :
    ∀ l ∈ s.disk.route (folderPath root name), FolderFor root name b₀.storage l := by
  intro l hl
  rcases (mem_route_folderPath (isName_of_validName hname)).mp hl with hl | rfl
  · rw [Disk.route, Disk.startOf, h.home] at hl
    exact Or.inr (Or.inl hl)
  · exact Or.inr (Or.inr (by rw [Disk.place_eq_of_home h.home]))

/-- So is the way to its document. -/
theorem way_documentPath :
    ∀ l ∈ Disk.stations (s.disk.startOf (documentPath root name))
      (Path.names (documentPath root name)), FolderFor root name b₀.storage l := by
  rw [documentPath, Disk.stations_documentPath]
  exact way_folderPath h hname

/-- Its document is not in the folder of another backup. -/
theorem not_otherBackup :
    ¬OtherBackup root name b₀.storage (s.disk.place (documentPath root name)) := by
  rintro ⟨-, other, -, hne, hplace⟩
  rw [place_documentPath _ root hname, Disk.place_eq_of_home h.home, List.prefix_append_right_inj,
    List.cons_prefix_cons] at hplace
  exact hne hplace.1

end

/-- **Making a backup does not see the others.** -/
theorem agree_create_elsewhere (b₀ : Bridge) {name? : Option String}
    (hname : nameFor now name? = .ok name) :
    Agree (Elsewhere root name b₀) (create now root name?) (create now root name?) := by
  have hvalid := validName_of_nameFor hname
  refine agree_create_over agreeing_elsewhere (fun name' hname' s s' h => ?_)
    (fun name' hname' => agree_makeFolders fun s s' h => ?_)
    (fun name' hname' octets => agree_writeFile octets fun s s' h => ?_)
  all_goals cases hname.symm.trans hname'
  · exact h.disk.find_eq (way_documentPath h hvalid) (not_otherBackup h hvalid)
  · obtain ⟨hvalue, hdiffer⟩ := h.disk.makeFolders (way_folderPath h hvalid) now
    exact ⟨hvalue, h.of_disk (Disk.foldersMade_makeFolders s.disk now _).home hdiffer⟩
  · obtain ⟨hvalue, hdiffer⟩ :=
      h.disk.write (way_documentPath h hvalid) (not_otherBackup h hvalid) octets
    refine ⟨hvalue, h.of_disk ?_ hdiffer⟩
    cases hwrite : s.disk.write (documentPath root name) octets with
    | error e => rfl
    | ok d => exact (Disk.grows_of_write hwrite).home

/-- **Restoring a backup does not see the others.** -/
theorem agree_restore_elsewhere (b₀ : Bridge) :
    Agree (Elsewhere root name b₀) (restore now root name) (restore now root name) :=
  agree_restore_over agreeing_elsewhere fun hvalid _ _ h =>
    h.disk.read_eq (way_documentPath h hvalid) (not_otherBackup h hvalid)

/-! ## Confinement -/

/-- **Backups are confined to the root and cannot collide.** A name that no backup may have is
refused, and nothing is accessed. The folder of a backup is directly in the root, whatever the root,
by the names of the path and by its place. Making the backup makes folders only on the way to the
root, on that to the stored document, and for itself; and it writes no files but the stored document
and its own, its own only if it succeeds. Restoring it changes only the stored document. Another
backup has another document, and both leave all files in its folder as they are, but the stored
document if that is there. And what both come to is the same on all bridges that differ in other
backups. -/
theorem confined (root : Path) (name : String) (b : Bridge) (now : Instant) :
    (validName name = false →
        create now root (some name) b = ⟨.error (.invalidBackupName name), b, [], []⟩
          ∧ restore now root name b = ⟨.error (.invalidBackupName name), b, [], []⟩)
      ∧ (validName name = true → ∀ name?, nameFor now name? = .ok name →
        let made := create now root name? b
        let restored := restore now root name b
        (Path.names (folderPath root name) = Path.names root ++ [name]
            ∧ Path.isAbsolute (folderPath root name) = Path.isAbsolute root
            ∧ b.storage.disk.place (folderPath root name) = b.storage.disk.place root ++ [name]
            ∧ b.storage.disk.place (documentPath root name)
              = b.storage.disk.place root ++ [name, documentName])
          ∧ b.storage.Changed (FolderFor root name b.storage)
            (fun l => b.storage.site? = some l
              ∨ made.value.isOk = true ∧ l = b.storage.disk.place (documentPath root name))
            made.state.storage
          ∧ b.storage.OnlyDocument restored.state.storage
          ∧ (∀ other, validName other = true → other ≠ name →
              b.storage.disk.place (documentPath root other)
                  ≠ b.storage.disk.place (documentPath root name)
                ∧ ∀ l octets, b.storage.disk.place root ++ [other] <+: l →
                  b.storage.site? ≠ some l →
                  (made.state.storage.disk.node? l = some (.file octets)
                      ↔ b.storage.disk.node? l = some (.file octets))
                    ∧ (restored.state.storage.disk.node? l = some (.file octets)
                      ↔ b.storage.disk.node? l = some (.file octets)))
          ∧ ∀ b', Elsewhere root name b b b' →
              made.Agrees (Elsewhere root name b) (create now root name? b')
                ∧ restored.Agrees (Elsewhere root name b) (restore now root name b')) := by
  refine ⟨fun h => ⟨create_of_misnamed h, restore_of_misnamed h⟩, fun hname name? hfor => ?_⟩
  intro made restored
  obtain ⟨hsingle, hdot, hup⟩ := isName_of_validName hname
  have hchanged := (making_create now root name? b).changed hfor
  have honly := (restoring_restore now root name b).onlyDocument
  refine ⟨⟨Path.names_join root hsingle, Path.isAbsolute_join root hsingle,
    Disk.place_join _ root hsingle hdot hup, place_documentPath _ root hname⟩, hchanged, honly,
    fun other hother hne => ⟨place_documentPath_ne _ root hother hname hne,
      fun l octets hl hsite => ⟨hchanged.disk.file_iff fun hbound => ?_,
        honly.disk.file_iff hsite⟩⟩,
    fun b' hb' => ⟨agree_create_elsewhere b hfor b b' hb', agree_restore_elsewhere b b b' hb'⟩⟩
  rcases hbound with hstored | ⟨-, hself⟩
  · exact hsite hstored
  · rw [hself, place_documentPath _ root hname, List.prefix_append_right_inj, List.cons_prefix_cons] at hl
    exact hne hl.1

/-- Another backup with another document is elsewhere. -/
theorem elsewhere_put {other : String} (hother : validName other = true) (hne : other ≠ name)
    (hsite : b.storage.site? ≠ some (b.storage.disk.place (documentPath root other)))
    (hfile : b.storage.disk.FileAt (b.storage.disk.place (documentPath root other)))
    (octets : ByteArray) :
    Elsewhere root name b b
      (onDisk (b.storage.disk.put (b.storage.disk.place (documentPath root other)) (.file octets))
        b) := by
  refine ⟨rfl, rfl, rfl, rfl, ⟨rfl, fun l => ?_⟩, rfl, rfl, rfl, rfl⟩
  by_cases hl : l = b.storage.disk.place (documentPath root other)
  · rw [hl]
    refine Or.inr ⟨⟨hsite, other, hother, hne, ?_⟩, fun _ => ⟨hfile, octets, ?_⟩⟩
    · rw [place_documentPath _ root hother, List.prefix_append_right_inj, List.cons_prefix_cons]
      exact ⟨rfl, List.nil_prefix⟩
    · exact Disk.node?_put_self _ _ _
  · exact Or.inl (Disk.node?_put_of_ne _ hl _)

/-- A backup `m` is there, and on another disk with another document: making and restoring `n` come
to the same. A backup named `..` is refused. -/
theorem confined_beside_another :
    let bare : Bridge := ⟨SortedMap.empty, .new (.memory none) (.fresh 0 ["home"]) .none⟩
    let b := (create 5 "backups" (some "m") bare).state
    let altered := onDisk (b.storage.disk.put (b.storage.disk.place (documentPath "backups" "m"))
      (.file "\x7b \x7d".toUTF8)) b
    (create 7 "backups" (some "n") altered).value = (create 7 "backups" (some "n") b).value
      ∧ (restore 7 "backups" "n" altered).value = (restore 7 "backups" "n" b).value
      ∧ create 7 "backups" (some "..") b = ⟨.error (.invalidBackupName ".."), b, [], []⟩ := by
  intro bare b altered
  have hsame : ∀ b : Bridge, b.storage.site? = none →
      b.storage.disk.read (documentPath "backups" "m") = .ok (Registry.encode SortedMap.empty) →
      let altered := onDisk (b.storage.disk.put (b.storage.disk.place (documentPath "backups" "m"))
        (.file "\x7b \x7d".toUTF8)) b
      (create 7 "backups" (some "n") altered).value = (create 7 "backups" (some "n") b).value
        ∧ (restore 7 "backups" "n" altered).value = (restore 7 "backups" "n" b).value := by
    intro b hsite hread
    have hnode := (Disk.of_read_eq_ok hread).2
    obtain ⟨-, -, -, -, hagrees⟩ := (confined "backups" "n" b 7).2 (by decide) (some "n") rfl
    obtain ⟨hmade, hrestored⟩ := hagrees _
      (elsewhere_put (by decide) (by decide) (by simp [hsite]) ⟨_, hnode⟩ "\x7b \x7d".toUTF8)
    exact ⟨hmade.value, hrestored.value⟩
  obtain ⟨hmade, hrestored⟩ := hsame b (by decide +kernel) (by decide +kernel)
  exact ⟨hmade, hrestored, ((confined "backups" ".." b 7).1 (by decide)).1⟩

/-- **The stored document may be a backup.** The store has its document in the folder `m` of the
root: making a backup `n` saves the registry, and so it changes the backup `m`. And where the folder
of the store is missing with the one above it, both are made. -/
theorem stored_document_not_apart :
    (let old := "\x7b \x7d".toUTF8
      let bare : Storage := .new (.file "backups/m") (.fresh 0 ["home"]) .none
      let b : Bridge := ⟨SortedMap.empty, (Storage.write 1 old bare).state⟩
      let made := create 2 "backups" (some "n") b
      validName "n" = true ∧ validName "m" = true ∧ made.value.isOk = true
        ∧ b.storage.disk.read (documentPath "backups" "m") = .ok old
        ∧ made.state.storage.disk.read (documentPath "backups" "m") ≠ .ok old)
      ∧ let b : Bridge := ⟨SortedMap.empty, .new (.file "above/store") (.fresh 0 ["home"]) .none⟩
        let made := create 2 "backups" (some "n") b
        b.storage.disk.exists? "above" = false
          ∧ made.state.storage.disk.isFolder "above" = true := by
  decide +kernel

end Backup

end Rehearsal
