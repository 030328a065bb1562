import Rehearsal.Proofs.Storage

/-!
# Writes that do not succeed

A write that does not succeed leaves the document as it was. It may leave something else: in a
file, the folders on the way to the document, as far as they could be made. And folders are what a
path with `..` may need to lead anywhere, so what *reading* gives may change with them. The
document itself is where it was, in memory or in the file at its place (`Storage.document?`), and
what could be read before is read again (`Storage.Retains`).
-/

namespace Rehearsal.Storage

variable {s s' s'' : Storage} {now : Instant} {octets : ByteArray}

/-- **The document in its place**, whether or not its path leads there. -/
def document? (s : Storage) : Option ByteArray :=
  match s.store with
  | .memory document => document
  | .file folder =>
    match s.disk.node? (s.disk.place (Store.documentPath folder)) with
    | some (.file octets) => some octets
    | _ => none

/-- What is read as the document is the document in its place. -/
theorem document?_of_content (h : s.content = .ok (some octets)) : s.document? = some octets := by
  unfold document?
  cases hstore : s.store with
  | memory document =>
    rw [content_memory document s hstore] at h
    exact Except.ok.inj h
  | file folder =>
    dsimp only
    rw [node?_of_content hstore h]

/-- **The document is retained**: it is what it was, and is read if it was read. -/
structure Retains (s s' : Storage) : Prop where
  document : s'.document? = s.document?
  content : ∀ {octets}, s.content = .ok (some octets) → s'.content = .ok (some octets)

theorem Retains.refl (s : Storage) : Retains s s := ⟨rfl, id⟩

theorem Retains.trans (h : Retains s s') (h' : Retains s' s'') : Retains s s'' :=
  ⟨h'.document.trans h.document, fun hcontent => h'.content (h.content hcontent)⟩

/-- Counting an access does nothing to the document. -/
theorem Retains.of_eq (hstore : s'.store = s.store) (hdisk : s'.disk = s.disk) : Retains s s' := by
  obtain ⟨store, disk, refusals, reads, writes, written⟩ := s
  obtain ⟨store', disk', refusals', reads', writes', written'⟩ := s'
  obtain rfl : store' = store := hstore
  obtain rfl : disk' = disk := hdisk
  exact ⟨rfl, id⟩

/-- **Folders that are made leave the document** in its place. -/
theorem retains_of_foldersMade {d : Disk} (h : s.disk.FoldersMade now d) :
    Retains s { s with disk := d } := by
  refine ⟨?_, content_of_foldersMade h⟩
  obtain ⟨store, disk, refusals, reads, writes, written⟩ := s
  cases store with
  | memory document => rfl
  | file folder =>
    -- a file is in a place now if it was there before
    have hfile : ∀ octets, d.node? (d.place (Store.documentPath folder)) = some (.file octets)
        ↔ disk.node? (disk.place (Store.documentPath folder)) = some (.file octets) := by
      intro octets
      rw [h.grows.place]
      exact ⟨h.file_of_file, h.node_of_some⟩
    unfold document?
    dsimp only
    split
    · next octets hnode => rw [(hfile octets).mp hnode]
    · next hnone =>
      split
      · next octets hnode => exact absurd ((hfile octets).mpr hnode) (hnone octets)
      · rfl

theorem retains_of_replace {e : StorageError} (h : (s.replace now octets).1 = .error e) :
    Retains s (s.replace now octets).2 := by
  cases hstore : s.store with
  | memory document =>
    rw [replace_memory now octets document s hstore] at h
    cases h
  | file folder =>
    unfold replace at h ⊢
    rw [hstore] at h ⊢
    dsimp only at h ⊢
    have hfolders := Disk.foldersMade_makeFolders s.disk now folder
    split
    · next d hmade =>
      rw [hmade] at hfolders
      exact hstore ▸ retains_of_foldersMade hfolders
    · next d hmade =>
      rw [hmade] at hfolders h
      dsimp only at h
      split
      · next d' hwrite =>
        rw [hwrite] at h
        cases h
      · exact hstore ▸ retains_of_foldersMade hfolders

/-- **A write that fails retains the document.** -/
theorem retains_of_write {e : StorageError} (h : (write now octets s).value = .error e) :
    Retains s (write now octets s).state := by
  unfold write at h ⊢
  dsimp only at h ⊢
  split
  · exact .of_eq rfl rfl
  · next hrefused =>
    rw [if_neg hrefused] at h
    have htried : Retains s { s with writes := s.writes + 1 } := .of_eq rfl rfl
    split
    · next s' hreplace =>
      rw [hreplace] at h
      cases h
    · next e' s' hreplace =>
      have hretains := retains_of_replace (congrArg Prod.fst hreplace)
      rw [hreplace] at hretains
      exact htried.trans hretains

/-- **A write that does not succeed retains the document**, and one that does replaces it. -/
theorem written_or_retains (s : Storage) (now : Instant) (octets : ByteArray) :
    ((write now octets s).state.written = s.written + 1
        ∧ (write now octets s).state.content = .ok (some octets))
      ∨ ((write now octets s).state.written = s.written
        ∧ Retains s (write now octets s).state) := by
  rcases write_cases s now octets with ⟨-, hcontent, hwritten⟩ | ⟨⟨e, he⟩, hwritten⟩
  · exact Or.inl ⟨hwritten, hcontent⟩
  · exact Or.inr ⟨hwritten, retains_of_write he⟩

end Rehearsal.Storage
