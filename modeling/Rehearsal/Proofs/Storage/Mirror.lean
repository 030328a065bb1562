import Rehearsal.Proofs.Disk.Beside
import Rehearsal.Proofs.Disk.Document
import Rehearsal.Proofs.Storage

/-!
# A store in a file and a store in memory

On a disk that receives its document, a store in a file never fails to write unless it is refused,
and all that it does besides what a store in memory does is within its footprint: the folders that
were missing on the way, and the document (`Disk.footprint`).

So the two **mirror** each other (`Storage.Mirrors`): they hold the same document, have had the same
accesses and are on disks that are beside each other. Replacing the document keeps it so
(`Storage.Mirrors.replace`), and so does what else is done to the two disks, if it is done away from
the store (`Storage.Mirrors.of_away`).
-/

namespace Rehearsal

open Store (documentPath)

/-! ## Stores that mirror each other -/

/-- **The footprint of a store** in a folder, on the disk that it finds: what is missing of the way,
and the document. -/
def Disk.footprint (d : Disk) (folder : Path) : Footprint where
  missing l := l ∈ d.route folder ∧ d.node? l = none
  document := d.place (documentPath folder)

/-- **Disjoint folders are spared**: a store spares a folder that is neither above it nor below, if
neither path goes up and the names are short enough. -/
theorem Footprint.spares_of_disjoint {d : Disk} {folder p : Path} (hfolder : ".." ∉ Path.names folder)
    (hp : ".." ∉ Path.names p) (hfits : ∀ name ∈ Path.names p, Disk.Fits name)
    (hbelow : ¬d.place folder <+: d.place p) (habove : ¬d.place p <+: d.place folder) :
    (d.footprint folder).Spares d p := by
  have hdocument : d.place folder <+: d.place (documentPath folder) := by
    rw [Disk.place_documentPath]
    exact List.prefix_append _ _
  have hspared : ∀ {l : Location}, d.place p <+: l → ¬(d.footprint folder).Covers l := by
    rintro l hl (⟨hroute, -⟩ | rfl)
    · exact habove (hl.trans (Disk.prefix_of_mem_visited hfolder hroute))
    · have hl : d.place p <+: d.place folder ++ [documentName] := Disk.place_documentPath d folder ▸ hl
      rcases List.prefix_concat_iff.mp hl with heq | hl
      · exact hbelow (heq ▸ List.prefix_append _ _)
      · exact habove hl
  have hclear : ∀ (names : List String) (here : Location), ".." ∉ names →
      (∀ name ∈ names, Disk.Fits name) → Disk.target here names = d.place p →
      (d.footprint folder).Clear here names := by
    intro names
    induction names with
    | nil =>
      rintro here - - rfl
      exact hspared (List.prefix_refl _)
    | cons name names ih =>
      intro here hup hfits htarget
      have hhere : here <+: d.place p := htarget ▸ Disk.prefix_target hup here
      rw [List.mem_cons, not_or] at hup
      rw [List.forall_mem_cons] at hfits
      rw [Disk.target_cons] at htarget
      refine ⟨?_, fun _ => ⟨Ne.symm hup.1, hfits.1⟩, ih _ hup.2 hfits.2 htarget⟩
      rintro rfl
      exact hbelow (hdocument.trans hhere)
  exact ⟨hclear _ _ hp hfits rfl, hspared⟩

namespace Storage

open Disk (Beside Receives KeepsWay)

variable {d₀ : Disk} {folder : Path} {s s' : Storage}

/-- **A store in a file mirrors a store in memory.** They hold the same document, have had the same
accesses and are on disks beside each other, and no folder of the store is missing that was there on
the disk it found. -/
structure Mirrors (d₀ : Disk) (folder : Path) (s s' : Storage) : Prop where
  store : s.store = .file folder
  document : ∃ document, s'.store = .memory document ∧ s.content = .ok document
    ∧ s.disk.node? (d₀.place (documentPath folder)) = document.map .file
  receives : s.disk.Receives folder
  home : s.disk.home = d₀.home
  absent : ∀ l ∈ d₀.route folder, s.disk.node? l = none → d₀.node? l = none
  beside : s.disk.Beside (d₀.footprint folder) s'.disk
  refusals : s'.refusals = s.refusals
  reads : s'.reads = s.reads
  writes : s'.writes = s.writes
  written : s'.written = s.written

/-- **A document stays** while the way is kept and nothing is done to it. -/
theorem content_of_keepsWay {d₁ : Disk} {document : Option ByteArray}
    (hstore : s.store = .file folder) (hreceives : s.disk.Receives folder)
    (hcontent : s.content = .ok document)
    (hnode : d₁.node? (s.disk.place (documentPath folder)) = document.map .file)
    (hway : KeepsWay folder s.disk d₁) : { s with disk := d₁ }.content = .ok document := by
  have hreceives₁ := hreceives.of_keepsWay hway (Disk.not_folderAt_of_document hnode)
  rw [← hway.place_eq] at hnode
  cases document with
  | none =>
    unfold content
    rw [hstore]
    dsimp only
    rw [hreceives₁.read_eq hnode]
  | some octets =>
    have hresolve := (Disk.of_read_eq_ok ((content_eq_some_iff hstore).mp hcontent)).1
    have hroute₁ : ∀ l ∈ d₁.route folder, d₁.FolderAt l := by
      rw [hway.route_eq]
      exact fun l hl => hway.folder l hl (Disk.folderAt_of_resolve hresolve l hl)
    have hresolve₁ := Disk.resolve_documentPath hreceives.resolvable hreceives.folder.fits hroute₁
    exact (content_eq_some_iff (s := { s with disk := d₁ }) hstore).mpr
      (Disk.read_eq_ok_iff.mpr ⟨Disk.asksFolder_documentPath folder, _, hresolve₁, hnode⟩)

namespace Mirrors

/-- The document of the two. -/
theorem content_eq (h : Mirrors d₀ folder s s') : s'.content = s.content := by
  obtain ⟨document, hstore', hcontent, -⟩ := h.document
  rw [content_memory document s' hstore', hcontent]

theorem place_eq (h : Mirrors d₀ folder s s') (p : Path) : s.disk.place p = d₀.place p :=
  Disk.place_eq_of_home h.home p

theorem route_eq (h : Mirrors d₀ folder s s') : s.disk.route folder = d₀.route folder := by
  rw [Disk.route, Disk.startOf, h.home]
  rfl

/-- What is missing of the way goes on to be what was missing. -/
theorem absent_of_keepsWay (h : Mirrors d₀ folder s s') {d₁ : Disk}
    (hway : KeepsWay folder s.disk d₁) {l : Location} (hl : l ∈ d₀.route folder)
    (hnone : d₁.node? l = none) : d₀.node? l = none := by
  rw [← h.route_eq] at hl
  refine h.absent l (h.route_eq ▸ hl) ?_
  -- a folder would have stayed
  refine (Disk.folderAt_or_none (h.receives.folder.way l hl)).resolve_left fun hfolder => ?_
  obtain ⟨t, hfolder₁⟩ := hway.folder l hl hfolder
  rw [hnone] at hfolder₁
  cases hfolder₁

/-- **What is done to both disks away from the store** keeps the mirror. -/
theorem of_away (h : Mirrors d₀ folder s s') {d₁ d₁' : Disk} (hway : KeepsWay folder s.disk d₁)
    (hdocument : d₁.node? (d₀.place (documentPath folder))
      = s.disk.node? (d₀.place (documentPath folder)))
    (hbeside : d₁.Beside (d₀.footprint folder) d₁') :
    Mirrors d₀ folder { s with disk := d₁ } { s' with disk := d₁' } := by
  obtain ⟨document, hstore', hcontent, hnode⟩ := h.document
  have hnode₁ := hdocument.trans hnode
  have hfree := Disk.not_folderAt_of_document hnode₁
  refine ⟨h.store, ⟨document, hstore', ?_, hnode₁⟩, ?_, hway.home.trans h.home, ?_, hbeside,
    h.refusals, h.reads, h.writes, h.written⟩
  · exact content_of_keepsWay h.store h.receives hcontent (h.place_eq _ ▸ hnode₁) hway
  · exact h.receives.of_keepsWay hway (h.place_eq _ ▸ hfree)
  · exact fun l hl => h.absent_of_keepsWay hway hl

/-! ## What is done besides -/

/-- **Folders past the footprint** are made on both sides or on neither. -/
theorem makeFolders (h : Mirrors d₀ folder s s') {p : Path} (hp : (d₀.footprint folder).Passes d₀ p)
    (now : Instant) :
    (s'.disk.makeFolders now p).1 = (s.disk.makeFolders now p).1
      ∧ Mirrors d₀ folder { s with disk := (s.disk.makeFolders now p).2 }
        { s' with disk := (s'.disk.makeFolders now p).2 } := by
  have hp := hp.of_home h.home
  obtain ⟨hvalue, hbeside⟩ := h.beside.makeFolders hp now
  have hway := (Disk.foldersMade_makeFolders s.disk now p).keepsWay folder
  refine ⟨hvalue, h.of_away hway ?_ hbeside⟩
  exact Disk.node?_makeFolders hp.clear.document_not_mem

/-- **A file past the footprint** is written on both sides or on neither. -/
theorem writeFile (h : Mirrors d₀ folder s s') {p : Path} (hp : (d₀.footprint folder).Passes d₀ p)
    (octets : ByteArray) :
    (Disk.outcomeOf s'.disk (s'.disk.write p octets)).1
        = (Disk.outcomeOf s.disk (s.disk.write p octets)).1
      ∧ Mirrors d₀ folder
        { s with disk := (Disk.outcomeOf s.disk (s.disk.write p octets)).2 }
        { s' with disk := (Disk.outcomeOf s'.disk (s'.disk.write p octets)).2 } := by
  have hp := hp.of_home h.home
  obtain ⟨hvalue, hbeside⟩ := h.beside.write hp octets
  refine ⟨hvalue, ?_⟩
  cases hwrite : s.disk.write p octets with
  | error e =>
    rw [hwrite] at hbeside
    exact h.of_away (.refl folder s.disk) rfl hbeside
  | ok d₁ =>
    rw [hwrite] at hbeside
    have hgrows := Disk.grows_of_write hwrite
    have hlast := hp.not_covers_place
    obtain ⟨-, -, hfree, -⟩ := Disk.write_eq_ok_iff.mp hwrite
    refine h.of_away ⟨hgrows.home, fun l _ ⟨t, hfolder⟩ => ⟨t, hgrows.folder hfolder⟩, ?_⟩
      (Disk.node?_of_write hwrite fun heq => hlast (Or.inr heq.symm)) hbeside
    intro l hl hfile
    by_cases heq : l = s.disk.place p
    · subst heq
      -- in the way there is a folder, or else what is missing is in the footprint
      by_contra hnot
      rcases Disk.folderAt_or_none hnot with ⟨t, hfolder⟩ | hnone
      · exact hfree t hfolder
      · rw [h.route_eq] at hl
        exact hlast (Or.inl ⟨hl, h.absent _ hl hnone⟩)
    · rwa [Disk.FileAt, ← Disk.node?_of_write hwrite heq]

/-- **What is removed past the footprint**, and is not above the store, is removed on both sides. -/
theorem remove (h : Mirrors d₀ folder s s') {p : Path} (hp : (d₀.footprint folder).Passes d₀ p)
    (habove : ∀ l ∈ d₀.home :: d₀.place (documentPath folder) :: d₀.route folder,
      ¬d₀.place p <+: l) :
    Mirrors d₀ folder { s with disk := s.disk.remove p } { s' with disk := s'.disk.remove p } := by
  rw [← h.place_eq p, ← h.home, ← h.route_eq, List.forall_mem_cons, List.forall_mem_cons] at habove
  obtain ⟨hhome, hdocument, hroute⟩ := habove
  have hstays : ∀ {l : Location}, ¬s.disk.place p <+: l →
      (s.disk.remove p).node? l = s.disk.node? l := fun hl =>
    Disk.node?_remove_of_not_goes fun hgoes => hl hgoes.place_prefix
  exact h.of_away (Disk.keepsWay_of_node?_eq (Disk.home_remove _ _) fun l hl => hstays (hroute l hl))
    (hstays hdocument) (h.beside.remove (hp.of_home h.home) hhome)

/-! ## Reading and writing the document -/

/-- Accesses that are counted on both sides keep the mirror. -/
theorem counted (h : Mirrors d₀ folder s s') (reads writes written : Nat → Nat) :
    Mirrors d₀ folder
      { s with
        reads := reads s.reads
        writes := writes s.writes
        written := written s.written }
      { s' with
        reads := reads s'.reads
        writes := writes s'.writes
        written := written s'.written } :=
  ⟨h.store, h.document, h.receives, h.home, h.absent, h.beside, h.refusals,
    congrArg reads h.reads, congrArg writes h.writes, congrArg written h.written⟩

/-- **Replacing the document** succeeds in the file as in memory. -/
theorem replace (h : Mirrors d₀ folder s s') (now : Instant) (octets : ByteArray) :
    (s.replace now octets).1 = .ok () ∧ (s'.replace now octets).1 = .ok ()
      ∧ Mirrors d₀ folder (s.replace now octets).2 (s'.replace now octets).2 := by
  obtain ⟨document, hstore', -⟩ := h.document
  obtain ⟨d₁, d₂, hmake, hwrite, htook⟩ := h.receives.write h.beside.tree now octets
  have hreplace : s.replace now octets = (.ok (), { s with disk := d₂ }) := by
    unfold Storage.replace
    rw [h.store]
    dsimp only
    rw [hmake]
    dsimp only
    rw [hwrite]
  have hcontent := content_of_replace (congrArg Prod.fst hreplace)
  have hdocument := htook.document
  have hnode := htook.node
  rw [h.place_eq] at hdocument hnode
  rw [h.route_eq] at hnode
  have hfree : ¬d₂.FolderAt (d₀.place (documentPath folder)) := fun ⟨t, hfolder⟩ => by
    rw [hdocument] at hfolder
    cases hfolder
  have hbeside : d₂.Beside (d₀.footprint folder) s'.disk := by
    refine ⟨htook.tree, h.beside.tree', h.beside.home.trans htook.way.home.symm, fun {l} hl => ?_,
      fun {l} hl hfile => ?_, h.beside.missing'⟩
    · rw [hnode l (fun heq => hl (Or.inr heq))
        fun hroute hnone => hl (Or.inl ⟨hroute, h.absent l hroute hnone⟩)]
      exact h.beside.node hl
    · exact h.beside.missing hl (htook.way.file l (h.route_eq ▸ hl.1) hfile)
  rw [hreplace] at hcontent ⊢
  rw [replace_memory now octets document s' hstore']
  refine ⟨rfl, rfl, h.store, ⟨some octets, rfl, hcontent, hdocument⟩, ?_, ?_, ?_, hbeside,
    h.refusals, h.reads, h.writes, h.written⟩
  · exact h.receives.of_keepsWay htook.way (h.place_eq _ ▸ hfree)
  · exact htook.way.home.trans h.home
  · exact fun l hl => h.absent_of_keepsWay htook.way hl

end Mirrors

/-! ## Where it begins -/

/-- A storage in which the document could be replaced is on a disk that receives it. -/
theorem receives_of_replace (hstore : s.store = .file folder) (htree : s.disk.IsTree) {now : Instant}
    {octets : ByteArray} (h : (s.replace now octets).1 = .ok ()) : s.disk.Receives folder := by
  unfold replace at h
  rw [hstore] at h
  dsimp only at h
  split at h
  · cases h
  · next d₁ hmake =>
    split at h
    · next d₂ hwrite => exact Disk.receives_of_write htree hmake hwrite
    · cases h

/-- **A folder that is there** receives a document, if the document can be read or is not there. -/
theorem receives_of_isFolder (hstore : s.store = .file folder) {document : Option ByteArray}
    (hcontent : s.content = .ok document) (hfolder : s.disk.isFolder folder = true) :
    s.disk.Receives folder
      ∧ s.disk.node? (s.disk.place (documentPath folder)) = document.map .file := by
  have hread : s.disk.read (documentPath folder) = document.elim (.error .notFound) .ok := by
    cases document with
    | none => exact read_of_content_none hstore hcontent
    | some octets => exact (content_eq_some_iff hstore).mp hcontent
  have hresolvable : Disk.Resolvable (documentPath folder) := by
    refine Disk.resolvable_of_read (d := s.disk) (Disk.documentPath_ne folder) ?_
    cases document with
    | none => exact Or.inr hread
    | some octets => exact Or.inl ⟨octets, hread⟩
  obtain ⟨hresolve, hroute⟩ := Disk.of_isFolder hfolder
  obtain ⟨-, hfits⟩ := Disk.walk_eq_ok_iff.mp (Disk.resolve_eq_ok_iff.mp hresolve).2
  rw [Disk.read_of_resolve (Disk.resolve_documentPath hresolvable hfits hroute)
    (Disk.asksFolder_documentPath folder)] at hread
  have hdocument : s.disk.node? (s.disk.place (documentPath folder)) = document.map .file := by
    cases document <;> split at hread <;> simp_all
  have hfree := Disk.not_folderAt_of_document hdocument
  exact ⟨Disk.receives_of_isFolder hfolder hresolvable hfree, hdocument⟩

/-- **A store in a file mirrors a store in memory** that begins with the same document, if the file
could be written. -/
theorem mirrors_memory {document : Option ByteArray} (hstore : s.store = .file folder)
    (htree : s.disk.IsTree) (hcontent : s.content = .ok document)
    (hnode : s.disk.node? (s.disk.place (documentPath folder)) = document.map .file)
    (hreceives : s.disk.Receives folder) :
    Mirrors s.disk folder s { s with store := .memory document } := by
  have hmissing : ∀ {l : Location}, (s.disk.footprint folder).missing l → ¬s.disk.FileAt l := by
    rintro l ⟨-, hnone⟩ ⟨octets, hfile⟩
    rw [hnone] at hfile
    cases hfile
  exact ⟨hstore, ⟨document, rfl, hcontent, hnode⟩, hreceives, rfl, fun _ _ => id,
    ⟨htree, htree, rfl, fun _ => rfl, hmissing, hmissing⟩, rfl, rfl, rfl, rfl⟩

end Storage

end Rehearsal
