import Rehearsal.Proofs.Disk.Document

/-!
# What an access does to a storage

Reading leaves everything as it is but for the count of reads. A write that succeeds makes the
octets written the document (`Storage.content_of_write`), and whether or not it succeeds it
does nothing to any file besides the document: the storage goes **onward**
(`Storage.Onward`), which is a preorder, so the same is true of any number of accesses one
after the other.

A storage that has never failed has as many writes that succeeded as it has writes tried
(`Storage.Serves`), and a write to it succeeded if that is still so afterwards. A store in
memory that refuses nothing is always of that kind (`Storage.Unfailing`).

A disk is shared, and what is done to it besides may concern the document. Two such things are
harmless. A copy of the document may be written anywhere, even over the document
(`Storage.content_of_copy`). And folders may be made, except that they may complete the way to a
file that has been there unseen, which only a path with `..` allows (`Storage.Attached`).
-/

namespace Rehearsal

/-- **The folder of a store**, if it is a file in one. -/
def Store.folder? : Store → Option Path
  | .memory _ => none
  | .file folder => some folder

namespace Storage

/-- **The location of the document**, if it is in a file. -/
def site? (s : Storage) : Option Location :=
  s.store.folder?.map fun folder => s.disk.place (Store.documentPath folder)

/-- The document is where it was, on a disk that lost no folder. -/
theorem site?_eq_of_grows {s s' : Storage} (hfolder : s'.store.folder? = s.store.folder?)
    (hgrows : s.disk.Grows s'.disk) : s'.site? = s.site? := by
  unfold site?
  rw [hfolder]
  congr 1
  funext folder
  exact hgrows.place _

/-! ## Going onward -/

/-- **A storage that went on**: its document is in the same place as before, no folder is
lost, and every file but the document is still there. -/
structure Onward (s s' : Storage) : Prop where
  folder : s'.store.folder? = s.store.folder?
  grows : s.disk.Grows s'.disk
  file : ∀ {l : Location} {octets : ByteArray}, s.site? ≠ some l →
    s.disk.node? l = some (.file octets) → s'.disk.node? l = some (.file octets)

namespace Onward

variable {s s' s'' : Storage}

theorem refl (s : Storage) : Onward s s := ⟨rfl, .refl _, fun _ h => h⟩

theorem site? (h : Onward s s') : s'.site? = s.site? := site?_eq_of_grows h.folder h.grows

theorem trans (h : Onward s s') (h' : Onward s' s'') : Onward s s'' := by
  refine ⟨h'.folder.trans h.folder, h.grows.trans h'.grows, fun hsite hl => ?_⟩
  exact h'.file (h.site? ▸ hsite) (h.file hsite hl)

/-- **A file apart from the document stays readable.** -/
theorem read (h : Onward s s') {p : Path} {octets : ByteArray}
    (hsite : s.site? ≠ some (s.disk.place p)) (hread : s.disk.read p = .ok octets) :
    s'.disk.read p = .ok octets := by
  have hl := (Disk.of_read_eq_ok hread).2
  exact h.grows.read hread ((h.file hsite hl).trans hl.symm)

end Onward

/-- The folders made for something else do no harm to a storage. -/
theorem onward_of_foldersMade {s : Storage} {now : Instant} {d : Disk}
    (h : s.disk.FoldersMade now d) : Onward s { s with disk := d } :=
  ⟨rfl, h.grows, fun _ hl => h.node_of_some hl⟩

/-! ## The document -/

/-- A document in a file is what the file reads as. -/
theorem content_eq_some_iff {s : Storage} {folder : Path} (h : s.store = .file folder)
    {octets : ByteArray} :
    s.content = .ok (some octets) ↔ s.disk.read (Store.documentPath folder) = .ok octets := by
  unfold content
  rw [h]
  dsimp only
  split <;> simp_all

/-- No document is in a file that is not found. -/
theorem read_of_content_none {s : Storage} {folder : Path} (h : s.store = .file folder)
    (hcontent : s.content = .ok none) :
    s.disk.read (Store.documentPath folder) = .error .notFound := by
  unfold content at hcontent
  rw [h] at hcontent
  dsimp only at hcontent
  split at hcontent <;> simp_all

/-- A document in a file is in the place of the file. -/
theorem node?_of_content {s : Storage} {folder : Path} (h : s.store = .file folder)
    {octets : ByteArray} (hcontent : s.content = .ok (some octets)) :
    s.disk.node? (s.disk.place (Store.documentPath folder)) = some (.file octets) := by
  exact (Disk.of_read_eq_ok ((content_eq_some_iff h).mp hcontent)).2

/-- **A document stays** when folders are made on the disk. -/
theorem content_of_foldersMade {s : Storage} {now : Instant} {d : Disk} {octets : ByteArray}
    (h : s.disk.FoldersMade now d) (hcontent : s.content = .ok (some octets)) :
    { s with disk := d }.content = .ok (some octets) := by
  obtain ⟨store, disk, refusals, reads, writes, written⟩ := s
  cases store with
  | memory document => exact hcontent
  | file folder =>
    exact (content_eq_some_iff rfl).mpr (h.read ((content_eq_some_iff rfl).mp hcontent))

/-! ## Reading -/

theorem onward_read (s : Storage) : Onward s (read s).state := ⟨rfl, .refl _, fun _ h => h⟩

/-- What is read is the document. -/
theorem content_of_read {s : Storage} {document : Option ByteArray}
    (h : (read s).value = .ok document) : s.content = .ok document := by
  unfold read at h
  dsimp only at h
  split at h
  · cases h
  · exact h

/-! ## Writing -/

/-- **The document is what was written.** -/
theorem content_of_replace {s : Storage} {now : Instant} {octets : ByteArray}
    (h : (s.replace now octets).1 = .ok ()) :
    (s.replace now octets).2.content = .ok (some octets) := by
  cases hstore : s.store with
  | memory document => rw [replace_memory now octets document s hstore]; rfl
  | file folder =>
    unfold replace at h ⊢
    rw [hstore] at h ⊢
    dsimp only at h ⊢
    split at h
    · cases h
    · next d hmade =>
      split at h
      · next d' hwrite =>
        exact (content_eq_some_iff rfl).mpr (Disk.read_of_write hwrite)
      · cases h

/-- Replacing the document is no access of its own. -/
theorem counts_replace (s : Storage) (now : Instant) (octets : ByteArray) :
    (s.replace now octets).2.refusals = s.refusals ∧ (s.replace now octets).2.reads = s.reads
      ∧ (s.replace now octets).2.writes = s.writes
      ∧ (s.replace now octets).2.written = s.written := by
  unfold replace
  split
  · exact ⟨rfl, rfl, rfl, rfl⟩
  · split
    · exact ⟨rfl, rfl, rfl, rfl⟩
    · split <;> exact ⟨rfl, rfl, rfl, rfl⟩

theorem onward_replace (s : Storage) (now : Instant) (octets : ByteArray) :
    Onward s (s.replace now octets).2 := by
  cases hstore : s.store with
  | memory document =>
    rw [replace_memory now octets document s hstore]
    exact ⟨by rw [hstore]; rfl, .refl _, fun _ h => h⟩
  | file folder =>
    unfold replace
    rw [hstore]
    dsimp only
    have hfolders := Disk.foldersMade_makeFolders s.disk now folder
    split
    · next d hmade =>
      rw [hmade] at hfolders
      exact hstore ▸ onward_of_foldersMade hfolders
    · next d hmade =>
      rw [hmade] at hfolders
      split
      · next d' hwrite =>
        refine ⟨by rw [hstore], hfolders.grows.trans (Disk.grows_of_write hwrite), ?_⟩
        intro l o hsite hl
        -- the place of the document is told by names, and the folders made do not move it
        have hne : l ≠ d.place (Store.documentPath folder) := by
          rintro rfl
          rw [site?, hstore, hfolders.grows.place] at hsite
          exact hsite rfl
        exact (Disk.node?_of_write hwrite hne).trans (hfolders.node_of_some hl)
      · exact hstore ▸ onward_of_foldersMade hfolders

section

variable (s : Storage) (now : Instant) (octets : ByteArray)

/-- **A write either succeeds or fails**, and it is counted as tried in both cases. One that
succeeds has replaced the document. -/
theorem write_cases :
    ((write now octets s).value = .ok () ∧ (write now octets s).state.content = .ok (some octets)
        ∧ (write now octets s).state.written = s.written + 1)
      ∨ (∃ e, (write now octets s).value = .error e)
        ∧ (write now octets s).state.written = s.written := by
  unfold write
  dsimp only
  split
  · exact Or.inr ⟨⟨_, rfl⟩, rfl⟩
  · have hcounts := counts_replace { s with writes := s.writes + 1 } now octets
    split
    · next s' hreplace =>
      have hcontent := content_of_replace (congrArg Prod.fst hreplace)
      rw [hreplace] at hcontent hcounts
      exact Or.inl ⟨rfl, hcontent, congrArg (· + 1) hcounts.2.2.2⟩
    · next e s' hreplace =>
      rw [hreplace] at hcounts
      exact Or.inr ⟨⟨e, rfl⟩, hcounts.2.2.2⟩

/-- What a write leaves alone of the counts, and that it counts as tried. -/
theorem counts_write :
    (write now octets s).state.refusals = s.refusals ∧ (write now octets s).state.reads = s.reads
      ∧ (write now octets s).state.writes = s.writes + 1 := by
  unfold write
  dsimp only
  split
  · exact ⟨rfl, rfl, rfl⟩
  · have hcounts := counts_replace { s with writes := s.writes + 1 } now octets
    split
    · next s' hreplace =>
      rw [hreplace] at hcounts
      exact ⟨hcounts.1, hcounts.2.1, hcounts.2.2.1⟩
    · next e s' hreplace =>
      rw [hreplace] at hcounts
      exact ⟨hcounts.1, hcounts.2.1, hcounts.2.2.1⟩

/-- Nothing is said of a write. -/
theorem lines_write : (write now octets s).lines = [] := by
  unfold write
  dsimp only
  split
  · rfl
  · split <;> rfl

theorem onward_write : Onward s (write now octets s).state := by
  unfold write
  dsimp only
  have honward := onward_replace { s with writes := s.writes + 1 } now octets
  split
  · exact ⟨rfl, .refl _, fun _ h => h⟩
  · split
    · next s' hreplace =>
      rw [hreplace] at honward
      exact ⟨honward.folder, honward.grows, honward.file⟩
    · next e s' hreplace =>
      rw [hreplace] at honward
      exact ⟨honward.folder, honward.grows, honward.file⟩

end

/-- **What was written is the document.** -/
theorem content_of_write {s : Storage} {now : Instant} {octets : ByteArray}
    (h : (write now octets s).value = .ok ()) :
    (write now octets s).state.content = .ok (some octets) := by
  rcases write_cases s now octets with ⟨-, hcontent, -⟩ | ⟨⟨e, he⟩, -⟩
  · exact hcontent
  · rw [he] at h
    cases h

/-! ## Storages that do not fail -/

/-- **A storage that has not failed and does not fail when it is read**: it refuses no read,
every write tried has succeeded, and the document is there or is not. -/
structure Serves (s : Storage) : Prop where
  reads : ∀ n, s.refusals.reads n = false
  writes : s.written = s.writes
  content : ∃ document, s.content = .ok document

namespace Serves

variable {s : Storage}

/-- A storage that serves after a read did so before. -/
theorem of_read (h : (Storage.read s).state.Serves) : s.Serves := ⟨h.reads, h.writes, h.content⟩

/-- A read of such a storage gives the document. -/
theorem read (h : s.Serves) : (Storage.read s).value = s.content := by
  unfold Storage.read
  dsimp only
  rw [h.reads, if_neg (by simp)]

end Serves

/-- **A write has succeeded** if all writes have, before and after it. -/
theorem write_value_of_writes {s : Storage} {now : Instant} {octets : ByteArray}
    (h : s.written = s.writes)
    (h' : (write now octets s).state.written = (write now octets s).state.writes) :
    (write now octets s).value = .ok () := by
  rcases write_cases s now octets with ⟨hvalue, -⟩ | ⟨-, hwritten⟩
  · exact hvalue
  · rw [hwritten, (counts_write s now octets).2.2, h] at h'
    omega

/-! ## Documents in their place -/

/-- **A file in the place of the document is the document.** It is so in memory
(`attached_memory`), and for a path without `..` (`attached_of_rooted`). A path that goes up again
from a missing folder leads nowhere until something else makes the folder, and then it may lead to
a file that has been in its place all the time. -/
def Attached (s : Storage) : Prop :=
  ∀ (l : Location) (octets : ByteArray), s.site? = some l →
    s.disk.node? l = some (.file octets) → s.content = .ok (some octets)

theorem attached_memory {s : Storage} {document : Option ByteArray}
    (h : s.store = .memory document) : s.Attached := by
  intro l octets hsite
  rw [site?, h] at hsite
  cases hsite

/-- A document that can be read is in its place. -/
theorem attached_of_content {s : Storage} {octets : ByteArray}
    (h : s.content = .ok (some octets)) : s.Attached := by
  cases hstore : s.store with
  | memory document => exact attached_memory hstore
  | file folder =>
    intro l octets' hsite hnode
    rw [site?, hstore] at hsite
    obtain rfl : s.disk.place (Store.documentPath folder) = l := Option.some.inj hsite
    rw [node?_of_content hstore h] at hnode
    cases hnode
    exact h

/-- **Only a path with `..` is not attached to its place**, on a disk without gaps and where the
document can be read or is not there. -/
theorem attached_of_rooted {s : Storage} {folder : Path} (hstore : s.store = .file folder)
    (hrooted : s.disk.Rooted) (hup : ".." ∉ Path.names folder)
    (hcontent : ∃ document, s.content = .ok document) : s.Attached := by
  obtain ⟨document, hdocument⟩ := hcontent
  cases document with
  | some octets => exact attached_of_content hdocument
  | none =>
    intro l octets hsite hnode
    have hup' : ".." ∉ Path.names (Store.documentPath folder) := by
      rw [Disk.names_documentPath, List.mem_append, List.mem_singleton, not_or]
      exact ⟨hup, by decide⟩
    have hmissing := hrooted.node?_place (Disk.documentPath_ne folder) hup'
      (read_of_content_none hstore hdocument)
    rw [site?, hstore] at hsite
    obtain rfl : s.disk.place (Store.documentPath folder) = l := Option.some.inj hsite
    rw [hmissing] at hnode
    cases hnode

section

variable {s : Storage} {now : Instant} {d : Disk} (hmade : s.disk.FoldersMade now d)
include hmade

theorem Attached.of_foldersMade (h : s.Attached) : { s with disk := d }.Attached := by
  intro l octets hsite hnode
  have hsite' : s.site? = some l := by
    rw [← (onward_of_foldersMade hmade).site?]
    exact hsite
  exact content_of_foldersMade hmade (h l octets hsite' (hmade.file_of_file hnode))

/-- **Folders made for something else do not change the document**, unless reading it fails. -/
theorem Attached.content_eq (h : s.Attached) (hcontent : ∃ document, s.content = .ok document)
    (hcontent' : ∃ document, { s with disk := d }.content = .ok document) :
    { s with disk := d }.content = s.content := by
  obtain ⟨document, hdocument⟩ := hcontent
  obtain ⟨document', hdocument'⟩ := hcontent'
  cases document with
  | some octets => rw [content_of_foldersMade hmade hdocument, hdocument]
  | none =>
    cases document' with
    | none => rw [hdocument, hdocument']
    | some octets =>
      obtain ⟨store, disk, refusals, reads, writes, written⟩ := s
      cases store with
      | memory document => rfl
      | file folder =>
        -- the file that is read now was there before, and so it was read before
        have hnode := hmade.file_of_file (node?_of_content rfl hdocument')
        refine hdocument'.trans (h _ octets ?_ hnode).symm
        exact congrArg some (hmade.grows.place _).symm

end

/-- **A copy of the document** written anywhere leaves the document as it is. -/
theorem content_of_copy {s : Storage} {p : Path} {octets : ByteArray} {d : Disk}
    (hcontent : s.content = .ok (some octets)) (hwrite : s.disk.write p octets = .ok d) :
    { s with disk := d }.content = .ok (some octets) := by
  obtain ⟨store, disk, refusals, reads, writes, written⟩ := s
  cases store with
  | memory document => exact hcontent
  | file folder =>
    have hread := (content_eq_some_iff rfl).mp hcontent
    refine (content_eq_some_iff rfl).mpr ((Disk.grows_of_write hwrite).read hread ?_)
    have hl := node?_of_content rfl hcontent
    -- over the document itself the copy is the document again
    by_cases hplace : disk.place (Store.documentPath folder) = disk.place p
    · obtain ⟨-, -, -, rfl⟩ := Disk.write_eq_ok_iff.mp hwrite
      rw [hplace] at hl ⊢
      exact (Disk.node?_put_self _ _ _).trans hl.symm
    · exact Disk.node?_of_write hwrite hplace

/-! ## Storages in memory -/

/-- **A store in memory that refuses nothing**, and has not done so. -/
structure Unfailing (s : Storage) : Prop where
  store : ∃ document, s.store = .memory document
  refusals : s.refusals = .none
  writes : s.written = s.writes

namespace Unfailing

variable {s : Storage} {now : Instant} {octets : ByteArray}

/-- **Such a store serves.** -/
theorem serves (h : s.Unfailing) : s.Serves where
  reads n := by rw [h.refusals]; rfl
  writes := h.writes
  content := by
    obtain ⟨document, hstore⟩ := h.store
    exact ⟨document, content_memory document s hstore⟩

theorem read (h : s.Unfailing) : (Storage.read s).state.Unfailing := ⟨h.store, h.refusals, h.writes⟩

/-- It takes every document. -/
theorem write_eq (h : s.Unfailing) :
    Storage.write now octets s
      = ⟨.ok (), { s with
          store := .memory (some octets)
          writes := s.writes + 1
          written := s.written + 1 }, [], []⟩ := by
  obtain ⟨document, hstore⟩ := h.store
  have hrefused : s.refusals.writes s.writes = false := by rw [h.refusals]; rfl
  unfold Storage.write
  dsimp only
  rw [hrefused, if_neg (by simp)]
  rw [replace_memory now octets document { s with writes := s.writes + 1 } hstore]

theorem write (h : s.Unfailing) : (Storage.write now octets s).state.Unfailing := by
  rw [h.write_eq]
  exact ⟨⟨some octets, rfl⟩, h.refusals, congrArg (· + 1) h.writes⟩

end Unfailing

end Storage

end Rehearsal
