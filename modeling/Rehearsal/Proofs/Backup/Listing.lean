import Rehearsal.Proofs.Backup.Names
import Rehearsal.Proofs.Disk.Children

/-!
# What is listed

A backup is **listed** if the root is a folder with a folder of its name in it, and its document can
be read there (`Backup.mem_listing_iff`). The instant that it is listed with is that at which its
folder was made.

Each name is listed once (`Backup.nodup_names_listing`), and the backups stand in the order of their
instants, latest first (`Backup.pairwise_listing`). Backups of the same instant stand in the order
of their names, so a listing is told by what is listed (`Backup.listing_congr`).

Where the document of a backup can be read, the folders above it are there
(`Backup.of_read_documentPath`), so the backup is listed. Only a root of the empty path is no folder
although there are documents below it.
-/

namespace Rehearsal.Backup

variable {root : Path} {name : String} {d d' : Disk} {n : Node} {x : Backup}

/-- **The backups below a root**, by name. -/
def below (d : Disk) (root : Path) : List Backup :=
  match d.list root with
  | .error _ => []
  | .ok (_, children) => children.filterMap (ofChild? d root)

/-- **The backups below a root** as they are listed. -/
def listing (d : Disk) (root : Path) : List Backup := newestFirst (below d root)

/-- Listing gives the listing, and changes nothing. -/
theorem list_eq (root : Path) (b : Bridge) :
    (list root b).value = listing b.storage.disk root ∧ (list root b).state = b := by
  unfold list listing below
  rw [Routine.get_bind_apply]
  cases b.storage.disk.list root with
  | error e => exact ⟨List.mergeSort_nil.symm, rfl⟩
  | ok found =>
    obtain ⟨l, children⟩ := found
    exact ⟨rfl, rfl⟩

/-! ## What is listed -/

/-- Something in the root is a backup if it is a folder with a document. -/
theorem ofChild?_eq_some_iff : ofChild? d root (name, n) = some x ↔ x.name = name
    ∧ n = .folder x.createdAt ∧ x.path = documentPath root name
    ∧ ∃ octets, d.read (documentPath root name) = .ok octets ∧ x.size = octets.size := by
  obtain ⟨name', created', size, path⟩ := x
  cases n with
  | file octets => exact iff_of_false (fun h => by cases h) fun h => by cases h.2.1
  | folder created =>
    unfold ofChild? Disk.read
    dsimp only
    cases d.find (documentPath root name) with
    | error e => simp
    | ok found =>
      obtain ⟨l, found⟩ := found
      cases found with
      | folder t => simp
      | file octets =>
        simp only [Option.some.injEq, Backup.mk.injEq, Node.folder.injEq, Except.ok.injEq,
          exists_eq_left']
        constructor
        · rintro ⟨rfl, rfl, rfl, rfl⟩
          exact ⟨rfl, rfl, rfl, rfl⟩
        · rintro ⟨rfl, rfl, rfl, rfl⟩
          exact ⟨rfl, rfl, rfl, rfl⟩

theorem mem_below_iff : x ∈ below d root ↔ d.isFolder root = true
    ∧ d.node? (d.place root ++ [x.name]) = some (.folder x.createdAt)
    ∧ x.path = documentPath root x.name
    ∧ ∃ octets, d.read (documentPath root x.name) = .ok octets ∧ x.size = octets.size := by
  unfold below
  by_cases hfolder : d.isFolder root = true
  · rw [Disk.list_of_isFolder hfolder]
    dsimp only
    rw [List.mem_filterMap]
    constructor
    · rintro ⟨⟨name, n⟩, hchild, hbackup⟩
      obtain ⟨rfl, rfl, hpath, hdocument⟩ := ofChild?_eq_some_iff.mp hbackup
      exact ⟨hfolder, Disk.mem_children_iff.mp hchild, hpath, hdocument⟩
    · rintro ⟨-, hnode, hpath, hdocument⟩
      exact ⟨(x.name, .folder x.createdAt), Disk.mem_children_iff.mpr hnode,
        ofChild?_eq_some_iff.mpr ⟨rfl, rfl, hpath, hdocument⟩⟩
  · obtain ⟨e, hlist⟩ := Disk.list_of_not_isFolder hfolder
    rw [hlist]
    simp [hfolder]

/-- **What is listed**: a folder of the root in which there is a document. -/
theorem mem_listing_iff : x ∈ listing d root ↔ d.isFolder root = true
    ∧ d.node? (d.place root ++ [x.name]) = some (.folder x.createdAt)
    ∧ x.path = documentPath root x.name
    ∧ ∃ octets, d.read (documentPath root x.name) = .ok octets ∧ x.size = octets.size := by
  rw [listing, newestFirst, List.mem_mergeSort, mem_below_iff]

/-- The backups are found in the order of the places of their folders. -/
theorem below_ascending (d : Disk) (root : Path) : (below d root).Pairwise fun x y =>
    compare (d.place root ++ [x.name]) (d.place root ++ [y.name]) = .lt := by
  unfold below
  by_cases hfolder : d.isFolder root = true
  · rw [Disk.list_of_isFolder hfolder]
    refine (d.children_ascending (d.place root)).filterMap _ fun a a' hlt x hx y hy => ?_
    rw [(ofChild?_eq_some_iff.mp hx).1, (ofChild?_eq_some_iff.mp hy).1]
    exact hlt
  · obtain ⟨e, hlist⟩ := Disk.list_of_not_isFolder hfolder
    rw [hlist]
    exact .nil

/-- **Each name is listed once.** -/
theorem nodup_names_listing (d : Disk) (root : Path) : ((listing d root).map (·.name)).Nodup := by
  have hbelow : ((below d root).map (·.name)).Nodup := by
    refine List.pairwise_map.mpr ((below_ascending d root).imp fun {x y} hlt heq => ?_)
    rw [heq] at hlt
    exact absurd hlt (by simp)
  exact ((List.mergeSort_perm _ _).map _).nodup_iff.mpr hbelow

/-- **Newest first**: what is listed later was not made later. -/
theorem pairwise_listing (d : Disk) (root : Path) :
    (listing d root).Pairwise fun x y => y.createdAt ≤ x.createdAt := by
  refine (List.pairwise_mergeSort (fun x y z hxy hyz => ?_) (fun x y => ?_) (below d root)).imp
    fun h => of_decide_eq_true h
  · exact decide_eq_true (Int64.le_trans (of_decide_eq_true hyz) (of_decide_eq_true hxy))
  · rw [Bool.or_eq_true, decide_eq_true_iff, decide_eq_true_iff]
    exact Int64.le_total _ _

/-- **A listing is told by what is listed**, below roots in the same place. -/
theorem listing_congr (hplace : d'.place root = d.place root)
    (h : ∀ x, x ∈ listing d' root ↔ x ∈ listing d root) : listing d' root = listing d root := by
  have hmem : ∀ x, x ∈ below d' root ↔ x ∈ below d root := fun x => by
    rw [← List.mem_mergeSort, ← List.mem_mergeSort (l := below d root)]
    exact h x
  have hascending := below_ascending d' root
  rw [hplace] at hascending
  have hbelow : below d' root = below d root :=
    SortedMap.eq_of_mem_iff hascending (below_ascending d root) hmem
  rw [listing, listing, hbelow]

/-! ## Where a document is read -/

/-- **Above a document that is read** are the folder of the backup and the root. -/
theorem of_read_documentPath (hroot : root ≠ "")
    (hname : Path.IsName name ∧ name ≠ "." ∧ name ≠ "..") {octets : ByteArray}
    (h : d.read (documentPath root name) = .ok octets) :
    d.isFolder root = true ∧ d.FolderAt (d.place root ++ [name]) := by
  obtain ⟨hsingle, hdot, hup⟩ := hname
  have hne : folderPath root name ≠ "" := Path.join_ne_empty root hsingle
  obtain ⟨hfolder, hnode⟩ := Disk.isFolder_iff.mp
    (Disk.isFolder_of_resolve_join (Disk.of_read_eq_ok h).1 Disk.isName_documentName hne)
  rw [folderPath, Disk.place_join d root hsingle hdot hup] at hnode
  exact ⟨Disk.isFolder_of_resolve_join hfolder hsingle hroot, hnode⟩

/-- **A backup is listed** where its document is read. -/
theorem mem_names_listing_iff (hroot : root ≠ "") (hname : validName name = true) :
    name ∈ (listing d root).map (·.name)
      ↔ ∃ octets, d.read (documentPath root name) = .ok octets := by
  constructor
  · intro h
    obtain ⟨x, hx, rfl⟩ := List.mem_map.mp h
    obtain ⟨-, -, -, octets, hread, -⟩ := mem_listing_iff.mp hx
    exact ⟨octets, hread⟩
  · rintro ⟨octets, hread⟩
    obtain ⟨hfolder, t, hnode⟩ := of_read_documentPath hroot (isName_of_validName hname) hread
    exact List.mem_map.mpr ⟨⟨name, t, octets.size, documentPath root name⟩,
      mem_listing_iff.mpr ⟨hfolder, hnode, rfl, octets, hread, rfl⟩, rfl⟩

end Rehearsal.Backup
