import Rehearsal.Proofs.Disk.Tree
import Rehearsal.Storage

/-!
# Disks that take a document

A store in a file needs a disk that lets it: a folder that is there or can be made, and no folder in
the place of the document (`Disk.Receives`). On such a disk the document can be written
(`Disk.Receives.write`), and what comes besides are only folders that were missing on the way
(`Disk.Took`). A disk is of that kind if the document could be written once
(`Disk.receives_of_write`), or if the folder is there and no folder is in the place of the document
(`Disk.receives_of_isFolder`).

It stays so under whatever is done to the disk that **keeps the way** to the folder
(`Disk.KeepsWay`). A walk to the document stands in all the folders of that way, so it is also what
reading the document depends on, besides the document.
-/

namespace Rehearsal

open Store (documentPath)

namespace Disk

variable {d d₁ : Disk} {folder p : Path} {l : Location}

/-! ## The way to a document -/

/-- Where the walk along a path comes. -/
abbrev route (d : Disk) (p : Path) : List Location := visited (d.startOf p) (Path.names p)

theorem isName_documentName : Path.IsName documentName := ⟨by decide, by decide⟩

theorem startOf_documentPath (d : Disk) (folder : Path) :
    d.startOf (documentPath folder) = d.startOf folder := by
  rw [startOf, startOf, documentPath, Path.isAbsolute_join folder isName_documentName]

theorem place_documentPath (d : Disk) (folder : Path) :
    d.place (documentPath folder) = d.place folder ++ [documentName] :=
  place_join d folder isName_documentName (by decide) (by decide)

theorem documentPath_ne (folder : Path) : documentPath folder ≠ "" :=
  Path.join_ne_empty folder isName_documentName

theorem asksFolder_documentPath (folder : Path) : Path.asksFolder (documentPath folder) = false :=
  Path.asksFolder_join folder isName_documentName

theorem names_documentPath (folder : Path) :
    Path.names (documentPath folder) = Path.names folder ++ [documentName] :=
  Path.names_join folder isName_documentName

/-- On the way to the document, the walk stands in all the folders of the store. -/
theorem stations_documentPath (d : Disk) (folder : Path) :
    stations (d.startOf (documentPath folder)) (Path.names (documentPath folder))
      = d.route folder := by
  rw [startOf_documentPath, names_documentPath, stations_append]
  rfl

/-- The names on the way to the document are short enough if those on the way to the folder are. -/
theorem fits_documentPath (h : ∀ name ∈ Path.names folder, Fits name) :
    ∀ name ∈ Path.names (documentPath folder), Fits name := by
  rw [names_documentPath]
  exact List.forall_mem_append.mpr ⟨h, List.forall_mem_singleton.mpr (by decide)⟩

/-- Where the path of the document leads somewhere, the folders of the store are there. -/
theorem folderAt_of_resolve (h : d.resolve (documentPath folder) = .ok l) :
    ∀ l ∈ d.route folder, d.FolderAt l := by
  obtain rfl := eq_place_of_resolve h
  exact stations_documentPath d folder ▸ (walk_eq_ok_iff.mp (resolve_eq_ok_iff.mp h).2).1

/-- **With all the folders there**, the path of the document leads to its place. -/
theorem resolve_documentPath (h : Resolvable (documentPath folder))
    (hfits : ∀ name ∈ Path.names folder, Fits name) (hroute : ∀ l ∈ d.route folder, d.FolderAt l) :
    d.resolve (documentPath folder) = .ok (d.place (documentPath folder)) := by
  refine resolve_eq_ok_iff.mpr ⟨h, walk_eq_ok_iff.mpr ⟨?_, fits_documentPath hfits⟩⟩
  exact stations_documentPath d folder ▸ hroute

/-- What is read is what the path leads to. -/
theorem read_of_resolve (h : d.resolve p = .ok l) (hp : Path.asksFolder p = false) :
    d.read p = match d.node? l with
      | none => .error .notFound
      | some (.file octets) => .ok octets
      | some (.folder _) => .error .isFolder := by
  unfold read find
  rw [h]
  cases hnode : d.node? l with
  | none => simp [Except.bind, hnode]
  | some n => cases n <;> simp [Except.bind, hnode, hp]

theorem read_of_resolve_error {e : FileError} (h : d.resolve p = .error e) :
    d.read p = .error e := by
  unfold read find
  rw [h]
  rfl

/-- A path that is read, or not found, can be resolved. -/
theorem resolvable_of_read (hne : p ≠ "")
    (h : (∃ octets, d.read p = .ok octets) ∨ d.read p = .error .notFound) : Resolvable p := by
  have hnot : ∀ e, e ≠ .notFound → d.resolve p ≠ .error e := by
    intro e he hresolve
    rw [read_of_resolve_error hresolve] at h
    rcases h with ⟨octets, h⟩ | h
    · cases h
    · exact he (Except.error.inj h)
  have hnul : '\x00' ∉ p.toList := fun hmem => hnot .nulInPath (by simp) (by rw [resolve, if_pos hmem])
  refine ⟨hnul, hne, Nat.le_of_not_gt fun hlong => hnot .nameTooLong (by simp) ?_⟩
  rw [resolve, if_neg hnul, if_neg hne, if_pos hlong]

/-- **A folder that is there** is where its path leads, and all on the way are folders too. -/
theorem of_isFolder (h : d.isFolder p = true) :
    d.resolve p = .ok (d.place p) ∧ ∀ l ∈ d.route p, d.FolderAt l := by
  obtain ⟨l, t, hfind⟩ : ∃ l t, d.find p = .ok (l, .folder t) := by
    unfold isFolder at h
    split at h
    · next l t hfind => exact ⟨l, t, hfind⟩
    · cases h
  obtain ⟨hresolve, hnode⟩ := of_find_eq_ok hfind
  obtain rfl := eq_place_of_resolve hresolve
  obtain ⟨hstations, -⟩ := walk_eq_ok_iff.mp (resolve_eq_ok_iff.mp hresolve).2
  refine ⟨hresolve, fun l hl => ?_⟩
  rcases mem_visited.mp hl with hl | rfl
  · exact hstations l hl
  · exact ⟨t, hnode⟩

/-- **A path that reaches its folder**: if there is a folder in its place, there are folders all the
way. -/
def Reaches (d : Disk) (p : Path) : Prop := d.FolderAt (d.place p) → ∀ l ∈ d.route p, d.FolderAt l

/-- Paths without `..` reach their folders. -/
theorem IsTree.reaches (h : d.IsTree) (hup : ".." ∉ Path.names p) : d.Reaches p := by
  intro hfolder l hl
  obtain ⟨below, hbelow⟩ := prefix_of_mem_visited hup hl
  by_cases hnil : below = []
  · rw [hnil, List.append_nil] at hbelow
    rw [hbelow]
    exact hfolder
  · refine h.folderAt_of_prefix hnil ?_
    rw [hbelow]
    exact Option.isSome_iff_exists.mpr ⟨_, hfolder.choose_spec⟩

/-! ## Disks that take a document -/

/-- Where there is a document or nothing, there is no folder. -/
theorem not_folderAt_of_document {document : Option ByteArray}
    (h : d.node? l = document.map .file) : ¬d.FolderAt l := by
  rintro ⟨t, hfolder⟩
  rw [h] at hfolder
  cases document <;> cases hfolder

/-- **A disk receives a document in a folder.** The folder can be made, and the document has a place
that is apart from the way and is no folder. -/
structure Receives (d : Disk) (p : Path) : Prop where
  folder : d.CanMake p
  resolvable : Resolvable (documentPath p)
  apart : d.place (documentPath p) ∉ d.route p
  free : ¬d.FolderAt (d.place (documentPath p))

/-- **A folder that is there** receives a document, unless a folder is in its place. -/
theorem receives_of_isFolder (h : d.isFolder folder = true)
    (hdocument : Resolvable (documentPath folder))
    (hfree : ¬d.FolderAt (d.place (documentPath folder))) : d.Receives folder := by
  obtain ⟨hresolve, hroute⟩ := of_isFolder h
  obtain ⟨hpath, hwalk⟩ := resolve_eq_ok_iff.mp hresolve
  obtain ⟨hstations, hfits⟩ := walk_eq_ok_iff.mp hwalk
  have hmake : d.CanMake folder :=
    ⟨hpath.nul, hpath.long, hfits, fun l hl => (hroute l hl).not_fileAt,
      fun l hl => Or.inl (hstations l hl)⟩
  exact ⟨hmake, hdocument, fun hmem => hfree (hroute _ hmem), hfree⟩

/-- **The way to a folder is kept** from one disk to another: its folders stay, and no file comes in
the way. -/
structure KeepsWay (p : Path) (d d₁ : Disk) : Prop where
  home : d₁.home = d.home
  folder : ∀ l ∈ d.route p, d.FolderAt l → d₁.FolderAt l
  file : ∀ l ∈ d.route p, d₁.FileAt l → d.FileAt l

theorem KeepsWay.refl (p : Path) (d : Disk) : KeepsWay p d d :=
  ⟨rfl, fun _ _ => id, fun _ _ => id⟩

theorem KeepsWay.route_eq (h : KeepsWay folder d d₁) : d₁.route folder = d.route folder := by
  rw [route, startOf, h.home]
  rfl

theorem KeepsWay.place_eq (h : KeepsWay folder d d₁) (p : Path) : d₁.place p = d.place p :=
  place_eq_of_home h.home p

theorem FoldersMade.keepsWay {now : Instant} (h : FoldersMade now d d₁) (p : Path) :
    KeepsWay p d d₁ :=
  ⟨h.home, fun _ _ => h.folderAt, fun _ _ => not_imp_not.mp h.not_fileAt⟩

theorem keepsWay_of_node?_eq (hhome : d₁.home = d.home)
    (h : ∀ l ∈ d.route folder, d₁.node? l = d.node? l) : KeepsWay folder d d₁ := by
  refine ⟨hhome, fun l hl hfolder => ?_, fun l hl hfile => ?_⟩
  · rwa [FolderAt, h l hl]
  · rwa [FileAt, ← h l hl]

theorem KeepsWay.trans {d₂ : Disk} (h : KeepsWay folder d d₁) (h' : KeepsWay folder d₁ d₂) :
    KeepsWay folder d d₂ := by
  obtain ⟨hhome, hfolder, hfile⟩ := h'
  rw [h.route_eq] at hfolder hfile
  exact ⟨hhome.trans h.home, fun l hl hhere => hfolder l hl (h.folder l hl hhere),
    fun l hl hhere => h.file l hl (hfile l hl hhere)⟩

/-- **A disk after it took a document.** The document is in its place, and else only folders that
were missing on the way have come. -/
structure Took (p : Path) (octets : ByteArray) (d d₁ : Disk) : Prop where
  tree : d₁.IsTree
  way : KeepsWay p d d₁
  document : d₁.node? (d.place (documentPath p)) = some (.file octets)
  node : ∀ l, l ≠ d.place (documentPath p) → (l ∈ d.route p → d.node? l ≠ none) →
    d₁.node? l = d.node? l

namespace Receives

/-- **A disk goes on to receive a document** while the way is kept and no folder comes in the place
of the document. -/
theorem of_keepsWay (h : d.Receives folder) (hway : KeepsWay folder d d₁)
    (hfree : ¬d₁.FolderAt (d.place (documentPath folder))) : d₁.Receives folder := by
  have hstart : d₁.startOf folder = d.startOf folder := by rw [startOf, startOf, hway.home]
  have hfiles : ∀ l ∈ d.route folder, ¬d₁.FileAt l := fun l hl hfile =>
    h.folder.way l hl (hway.file l hl hfile)
  have hstands : ∀ l ∈ stations (d.startOf folder) (Path.names folder),
      d₁.FolderAt l ∨ l ∈ visited (d.startOf folder) (wayNames (Path.names folder)) :=
    fun l hl => (h.folder.stands l hl).imp_left (hway.folder l (mem_visited.mpr (Or.inl hl)))
  refine ⟨⟨h.folder.nul, h.folder.long, h.folder.fits, hstart ▸ hfiles, hstart ▸ hstands⟩,
    h.resolvable, ?_, ?_⟩
  · rw [hway.place_eq, hway.route_eq]
    exact h.apart
  · rw [hway.place_eq]
    exact hfree

/-- **With nothing in its place, no document is read**, and no fault is found. -/
theorem read_eq (h : d.Receives folder) (hnone : d.node? (d.place (documentPath folder)) = none) :
    d.read (documentPath folder) = .error .notFound := by
  have hway : ∀ l ∈ stations (d.startOf (documentPath folder)) (Path.names (documentPath folder)),
      ¬d.FileAt l := by
    rw [stations_documentPath]
    exact h.folder.way
  have hwalk := walk_of_not_fileAt hway (fits_documentPath h.folder.fits)
  rw [← h.resolvable.resolve_eq] at hwalk
  rcases hwalk with hresolve | hresolve
  · rw [read_of_resolve hresolve (asksFolder_documentPath folder)]
    show (match d.node? (d.place (documentPath folder)) with
      | none => (Except.error .notFound : Except FileError ByteArray)
      | some (.file octets) => .ok octets
      | some (.folder _) => .error .isFolder) = _
    rw [hnone]
  · exact read_of_resolve_error hresolve

/-- **What a disk receives can be written.** The folders are made and the document is put in its
place. -/
theorem write (h : d.Receives folder) (htree : d.IsTree) (now : Instant) (octets : ByteArray) :
    ∃ d₁ d₂, d.makeFolders now folder = (.ok (), d₁)
      ∧ d₁.write (documentPath folder) octets = .ok d₂ ∧ Took folder octets d d₂ := by
  have hstart := htree.folderAt_startOf folder
  obtain ⟨hok, hfolders⟩ := h.folder.makeFolders hstart now
  have hsame : ∀ l, l ∉ d.route folder → (d.makeFolders now folder).2.node? l = d.node? l :=
    fun l => node?_makeFolders
  have hmade := foldersMade_makeFolders d now folder
  have htree₁ := htree.makeFolders now folder
  generalize d.makeFolders now folder = made at hok hfolders hsame hmade htree₁ ⊢
  obtain ⟨outcome, d₁⟩ := made
  obtain rfl : outcome = .ok () := hok
  have hway := hmade.keepsWay folder
  have hfree : ¬d₁.FolderAt (d.place (documentPath folder)) := by
    rw [FolderAt, hsame _ h.apart]
    exact h.free
  have hreceives := h.of_keepsWay hway hfree
  have hwrite : d₁.write (documentPath folder) octets
      = .ok (d₁.put (d.place (documentPath folder)) (.file octets)) := by
    refine write_eq_ok_iff.mpr ⟨asksFolder_documentPath folder, ?_, fun t hnode => hreceives.free ⟨t, hnode⟩, ?_⟩
    · refine resolve_documentPath h.resolvable h.folder.fits ?_
      rw [hway.route_eq]
      exact hfolders
    · rw [hway.place_eq]
  refine ⟨d₁, _, rfl, hwrite, htree₁.write hwrite, ?_, node?_put_self _ _ _, fun l hne hl => ?_⟩
  · -- the document is apart from the way
    refine hway.trans (keepsWay_of_node?_eq rfl fun l hl => node?_put_of_ne d₁ ?_ _)
    rintro rfl
    exact h.apart (hway.route_eq ▸ hl)
  · rw [node?_put_of_ne d₁ hne]
    by_cases hroute : l ∈ d.route folder
    · obtain ⟨n, hnode⟩ := Option.ne_none_iff_exists'.mp (hl hroute)
      rw [hnode, hmade.node_of_some hnode]
    · exact hsame l hroute

end Receives

/-- **A disk that took a document receives one.** -/
theorem receives_of_write {now : Instant} {octets : ByteArray} {d₂ : Disk} (htree : d.IsTree)
    (hmake : d.makeFolders now folder = (.ok (), d₁))
    (hwrite : d₁.write (documentPath folder) octets = .ok d₂) : d.Receives folder := by
  have hstart := htree.folderAt_startOf folder
  have hcan : d.CanMake folder := canMake_of_makeFolders hstart (congrArg Prod.fst hmake)
  have hmade := foldersMade_makeFolders d now folder
  obtain ⟨-, hfolders⟩ := hcan.makeFolders hstart now
  rw [hmake] at hmade hfolders
  obtain ⟨-, hresolve, hfree, -⟩ := write_eq_ok_iff.mp hwrite
  rw [place_eq_of_home hmade.home] at hfree
  refine ⟨hcan, (resolve_eq_ok_iff.mp hresolve).1, fun hmem => ?_, fun hfolder => ?_⟩
  · obtain ⟨t, hnode⟩ := hfolders _ hmem
    exact hfree t hnode
  · obtain ⟨t, hnode⟩ := hmade.folderAt hfolder
    exact hfree t hnode

end Disk

end Rehearsal
