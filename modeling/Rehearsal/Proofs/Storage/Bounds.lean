import Rehearsal.Proofs.Storage

/-!
# How far a storage reaches

A storage that keeps its document in a file may make the folders on the way to it, and may write the
file. All else on the disk is as it was before (`Storage.OnlyDocument`), whether the access
succeeds, is refused or fails on the way. A storage in memory does not touch the disk at all.

What may be made and what may be written are two properties of locations, which are told by paths
and do not depend on what is on the disk. So such **bounds** (`Disk.Within`) hold of any number of
accesses if they hold of each.
-/

namespace Rehearsal

open Store (documentPath)

namespace Disk

/-! ## Bounds of a change -/

/-- **A disk changed within bounds**: a folder was made in some places where nothing was, a file was
written in others where no folder was, and all else is as it was. -/
structure Within (folders files : Location → Prop) (d d' : Disk) : Prop where
  home : d'.home = d.home
  node : ∀ l, d'.node? l = d.node? l ∨ folders l ∧ d.node? l = none ∧ d'.FolderAt l
    ∨ files l ∧ ¬d.FolderAt l ∧ d'.FileAt l

namespace Within

variable {F F' G G' : Location → Prop} {d d' d'' : Disk} {l : Location}

theorem refl (F G : Location → Prop) (d : Disk) : Within F G d d := ⟨rfl, fun _ => Or.inl rfl⟩

theorem trans (h : Within F G d d') (h' : Within F G d' d'') : Within F G d d'' := by
  refine ⟨h'.home.trans h.home, fun l => ?_⟩
  rcases h'.node l with hsame' | ⟨hbound', hnone', hfolder'⟩ | ⟨hbound', hnot', hfile'⟩
  · rw [FolderAt, FileAt, hsame']
    exact h.node l
  · -- a folder made later was not there, and neither was a file
    rcases h.node l with hsame | ⟨-, -, t, hfolder⟩ | ⟨-, -, octets, hfile⟩
    · exact Or.inr (Or.inl ⟨hbound', hsame.symm.trans hnone', hfolder'⟩)
    · exact absurd (hfolder.symm.trans hnone') (by simp)
    · exact absurd (hfile.symm.trans hnone') (by simp)
  · rcases h.node l with hsame | ⟨-, -, hfolder⟩ | ⟨-, hnot, -⟩
    · rw [FolderAt, hsame] at hnot'
      exact Or.inr (Or.inr ⟨hbound', hnot', hfile'⟩)
    · exact absurd hfolder hnot'
    · exact Or.inr (Or.inr ⟨hbound', hnot, hfile'⟩)

theorem mono (h : Within F G d d') (hF : ∀ l, F l → F' l) (hG : ∀ l, G l → G' l) :
    Within F' G' d d' :=
  ⟨h.home, fun l => (h.node l).imp_right
    (Or.imp (And.imp_left (hF l)) (And.imp_left (hG l)))⟩

/-- **What is out of bounds is as it was**: where there is something already, or no folder may be
made, and no file may be written. -/
theorem node?_eq (h : Within F G d d') (hF : F l → d.node? l ≠ none) (hG : ¬G l) :
    d'.node? l = d.node? l := by
  rcases h.node l with hsame | ⟨hbound, hnone, -⟩ | ⟨hbound, -⟩
  · exact hsame
  · exact absurd hnone (hF hbound)
  · exact absurd hbound hG

/-- A file is where it was, unless one may be written there. -/
theorem file_iff (h : Within F G d d') (hG : ¬G l) {octets : ByteArray} :
    d'.node? l = some (.file octets) ↔ d.node? l = some (.file octets) := by
  rcases h.node l with hsame | ⟨-, hnone, t, hfolder⟩ | ⟨hbound, -⟩
  · rw [hsame]
  · rw [hnone, hfolder]
    simp
  · exact absurd hbound hG

end Within

/-- **Making folders** is bounded by the way to them. -/
theorem within_makeFolders (d : Disk) (now : Instant) (p : Path) :
    Within (· ∈ d.route p) (fun _ => False) d (d.makeFolders now p).2 := by
  have hmade := foldersMade_makeFolders d now p
  refine ⟨hmade.home, fun l => ?_⟩
  by_cases hl : l ∈ d.route p
  · exact (hmade.node l).imp_right fun ⟨hnone, hfolder⟩ => Or.inl ⟨hl, hnone, now, hfolder⟩
  · exact Or.inl (node?_makeFolders hl)

/-- **Writing a file** is bounded by its place. -/
theorem within_write {d d' : Disk} {p : Path} {octets : ByteArray} (h : d.write p octets = .ok d') :
    Within (fun _ => False) (· = d.place p) d d' := by
  obtain ⟨-, -, hfree, rfl⟩ := write_eq_ok_iff.mp h
  refine ⟨rfl, fun l => ?_⟩
  by_cases hl : l = d.place p
  · subst hl
    exact Or.inr (Or.inr ⟨rfl, fun ⟨t, ht⟩ => hfree t ht, octets, node?_put_self _ _ _⟩)
  · exact Or.inl (node?_put_of_ne d hl _)

end Disk

namespace Storage

open Disk (Within)

/-! ## Bounds of accesses -/

/-- **A location on the way to the document**, if it is in a file: one of the folders above it. -/
def OnWay (s : Storage) (l : Location) : Prop :=
  ∃ folder, s.store.folder? = some folder ∧ l ∈ s.disk.route folder

/-- **A storage changed within bounds**, besides its document if that is in memory. -/
structure Changed (folders files : Location → Prop) (s s' : Storage) : Prop where
  folder : s'.store.folder? = s.store.folder?
  refusals : s'.refusals = s.refusals
  disk : Within folders files s.disk s'.disk

/-- **Only the document was changed**, with the folders on the way to it. -/
def OnlyDocument (s s' : Storage) : Prop := Changed s.OnWay (fun l => s.site? = some l) s s'

variable {F F' G G' : Location → Prop} {s s' s'' : Storage} {now : Instant} {octets : ByteArray}

namespace Changed

theorem refl (F G : Location → Prop) (s : Storage) : Changed F G s s := ⟨rfl, rfl, .refl F G _⟩

theorem trans (h : Changed F G s s') (h' : Changed F G s' s'') : Changed F G s s'' :=
  ⟨h'.folder.trans h.folder, h'.refusals.trans h.refusals, h.disk.trans h'.disk⟩

theorem mono (h : Changed F G s s') (hF : ∀ l, F l → F' l) (hG : ∀ l, G l → G' l) :
    Changed F' G' s s' := ⟨h.folder, h.refusals, h.disk.mono hF hG⟩

/-- The document and the way to it are where they were. -/
theorem onWay_iff (h : Changed F G s s') {l : Location} : s'.OnWay l ↔ s.OnWay l := by
  unfold OnWay Disk.route Disk.startOf
  rw [h.folder, h.disk.home]

theorem site? (h : Changed F G s s') : s'.site? = s.site? := by
  unfold Storage.site?
  rw [h.folder]
  congr 1
  funext folder
  exact Disk.place_eq_of_home h.disk.home _

/-- What is bounded by the document is bounded by it from the beginning. -/
theorem then_document (h : Changed F G s s') (h' : OnlyDocument s' s'') (hF : ∀ l, s.OnWay l → F l)
    (hG : ∀ l, s.site? = some l → G l) : Changed F G s s'' :=
  h.trans (h'.mono (fun l hl => hF l (h.onWay_iff.mp hl)) fun l hl => hG l (h.site? ▸ hl))

end Changed

namespace OnlyDocument

theorem refl (s : Storage) : OnlyDocument s s := Changed.refl _ _ s

theorem trans (h : OnlyDocument s s') (h' : OnlyDocument s' s'') : OnlyDocument s s'' :=
  h.then_document h' (fun _ => id) fun _ => id

end OnlyDocument

theorem onlyDocument_read (s : Storage) : OnlyDocument s (read s).state := ⟨rfl, rfl, .refl _ _ _⟩

theorem onlyDocument_replace (s : Storage) (now : Instant) (octets : ByteArray) :
    OnlyDocument s (s.replace now octets).2 := by
  cases hstore : s.store with
  | memory document =>
    rw [replace_memory now octets document s hstore]
    exact ⟨by rw [hstore]; rfl, rfl, .refl _ _ _⟩
  | file folder =>
    have hfolder : s.store.folder? = some folder := by rw [hstore]; rfl
    have hmade : Within s.OnWay (fun l => s.site? = some l) s.disk (s.disk.makeFolders now folder).2 :=
      (Disk.within_makeFolders s.disk now folder).mono (fun l hl => ⟨folder, hfolder, hl⟩)
        fun _ h => h.elim
    unfold replace
    rw [hstore]
    dsimp only
    split
    · next d hfolders =>
      rw [hfolders] at hmade
      exact ⟨by rw [hstore], rfl, hmade⟩
    · next d hfolders =>
      rw [hfolders] at hmade
      split
      · next d' hwrite =>
        refine ⟨by rw [hstore], rfl, hmade.trans ((Disk.within_write hwrite).mono
          (fun _ h => h.elim) fun l hl => ?_)⟩
        rw [hl, Disk.place_eq_of_home hmade.home, Storage.site?, hfolder]
        rfl
      · exact ⟨by rw [hstore], rfl, hmade⟩

/-- **Writing changes only the document**, also where it fails. -/
theorem onlyDocument_write (s : Storage) (now : Instant) (octets : ByteArray) :
    OnlyDocument s (write now octets s).state := by
  have hreplace := onlyDocument_replace { s with writes := s.writes + 1 } now octets
  unfold write
  dsimp only
  split
  · exact ⟨rfl, rfl, .refl _ _ _⟩
  · split
    · next s' heq =>
      rw [heq] at hreplace
      exact ⟨hreplace.folder, hreplace.refusals, hreplace.disk⟩
    · next e s' heq =>
      rw [heq] at hreplace
      exact ⟨hreplace.folder, hreplace.refusals, hreplace.disk⟩

end Storage

end Rehearsal
