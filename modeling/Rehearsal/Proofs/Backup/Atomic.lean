import Rehearsal.Proofs.Backup.Accesses
import Rehearsal.Proofs.Backup.Bounds
import Rehearsal.Proofs.Backup.Existing
import Rehearsal.Proofs.Backup.Outward

/-!
# Backups that fail

A backup that is not made leaves something behind, and where it failed says what: folders that were
missing, perhaps the document of the registry in the store. None of that is a backup, so the listing
is what it was, and the name is as free as it was (`Backup.failures_are_atomic`). Restoring that
fails leaves less, the folders of the store at most.

A backup takes several accesses, and it may fail at any of them. A single write is taken to change
nothing if it fails: that a document may be left in part is not said by a disk as it is here.

Folders are nothing to the listing as long as they do not complete the way to backups that were
there unseen. They do if the path of the root goes up again from a folder that is missing. And a
folder in the place of its document keeps a backup from being made, so a way that leads through
there takes the name. Both are possible (`Backup.failures_not_atomic_on_winding_ways`), but not with
paths without `..` (`Disk.IsTree.reaches`, `Backup.apart_of_not_up`).
-/

namespace Rehearsal

open Storage (Retains)

namespace Backup

variable {now later : Instant} {root : Path} {name : String} {name? : Option String}
  {b state : Bridge} {e : StorageError} {d d' : Disk} {l : Location} {octets : ByteArray}

/-! ## Below a root that is reached -/

/-- Where the document of a backup is read, the root is reached. -/
theorem reaches_of_read (hname : Path.IsName name ∧ name ≠ "." ∧ name ≠ "..")
    (h : d.read (documentPath root name) = .ok octets) : d.Reaches root := by
  have hfolders : ∀ l ∈ d.route (folderPath root name), d.FolderAt l :=
    Disk.folderAt_of_resolve (Disk.of_read_eq_ok h).1
  exact fun _ l hl => hfolders l ((mem_route_folderPath hname).mpr (Or.inl hl))

/-- **What is in its place below a root that is reached is found**, if its path can be resolved. -/
theorem resolve_below (htree : d.IsTree) (hreaches : d.Reaches root)
    (hname : Path.IsName name ∧ name ≠ "." ∧ name ≠ "..")
    (hresolve : d'.resolve (documentPath root name) = .ok l)
    (hthere : (d.node? (d.place (documentPath root name))).isSome = true) :
    d.resolve (documentPath root name) = .ok (d.place (documentPath root name)) := by
  rw [place_documentPath_of_isName d root hname,
    show [name, documentName] = [name] ++ [documentName] from rfl, ← List.append_assoc] at hthere
  have hfolder := htree.above hthere
  have hroot := htree.above (Option.isSome_iff_exists.mpr ⟨_, hfolder.choose_spec⟩)
  obtain ⟨hresolvable, hwalk⟩ := Disk.resolve_eq_ok_iff.mp hresolve
  rw [Disk.eq_target_of_walk hwalk] at hwalk
  have hfits := (Disk.walk_eq_ok_iff.mp hwalk).2
  have hroute : ∀ l ∈ d.route (folderPath root name), d.FolderAt l := by
    intro l hl
    rcases (mem_route_folderPath hname).mp hl with hl | rfl
    · exact hreaches hroot l hl
    · exact hfolder
  refine Disk.resolve_documentPath hresolvable (fun name' hname' => hfits name' ?_) hroute
  rw [documentPath, Disk.names_documentPath]
  exact List.mem_append_left _ hname'

/-- **The same documents are read** below a root that is reached, while no folder is lost and the
files are the same. -/
theorem read_below_iff (htree : d.IsTree) (hreaches : d.Reaches root) (hgrows : d.Grows d')
    (hname : Path.IsName name ∧ name ≠ "." ∧ name ≠ "..")
    (hfile : ∀ octets, d'.node? (d.place (documentPath root name)) = some (.file octets)
      ↔ d.node? (d.place (documentPath root name)) = some (.file octets)) :
    d'.read (documentPath root name) = .ok octets
      ↔ d.read (documentPath root name) = .ok octets := by
  constructor
  · intro h
    obtain ⟨hresolve, hnode⟩ := Disk.of_read_eq_ok h
    rw [hgrows.place, hfile] at hnode
    exact Disk.read_eq_ok_iff.mpr ⟨(Disk.read_eq_ok_iff.mp h).1, _,
      resolve_below htree hreaches hname hresolve (by rw [hnode]; rfl), hnode⟩
  · intro h
    have hnode := (Disk.of_read_eq_ok h).2
    exact hgrows.read h (((hfile octets).mpr hnode).trans hnode.symm)

/-- **The same backups are listed** below a root that is reached, while no folder is lost and the
files are the same. -/
theorem listing_of_grows (htree : d.IsTree) (htree' : d'.IsTree) (hreaches : d.Reaches root)
    (hgrows : d.Grows d')
    (hfiles : ∀ l octets, d.place root <+: l →
      (d'.node? l = some (.file octets) ↔ d.node? l = some (.file octets))) :
    listing d' root = listing d root := by
  have hread : ∀ {name : String} {octets : ByteArray},
      Path.IsName name ∧ name ≠ "." ∧ name ≠ ".." →
      (d'.read (documentPath root name) = .ok octets
        ↔ d.read (documentPath root name) = .ok octets) := by
    intro name octets hname
    refine read_below_iff htree hreaches hgrows hname fun octets => hfiles _ octets ?_
    rw [place_documentPath_of_isName d root hname]
    exact List.prefix_append _ _
  have hnamed : ∀ {d : Disk} {x : Backup}, d.IsTree →
      d.node? (d.place root ++ [x.name]) = some (.folder x.createdAt) →
      Path.IsName x.name ∧ x.name ≠ "." ∧ x.name ≠ ".." := fun htree hnode =>
    htree.named (Option.isSome_iff_exists.mpr ⟨_, hnode⟩)
  refine listing_congr (hgrows.place root) fun x => ?_
  rw [mem_listing_iff, mem_listing_iff, hgrows.place]
  constructor
  · rintro ⟨hfolder, hnode, hpath, octets, hoctets, hsize⟩
    have hroot : root ≠ "" := by
      rintro rfl
      rw [Disk.isFolder_empty] at hfolder
      cases hfolder
    have hname := hnamed htree' (hgrows.place root ▸ hnode)
    have hoctets := (hread hname).mp hoctets
    obtain ⟨hfolder, t, hnode₀⟩ := of_read_documentPath hroot hname hoctets
    -- a folder that was there has the instant that it had
    obtain rfl : x.createdAt = t := by
      rw [hgrows.folder hnode₀] at hnode
      cases hnode
      rfl
    exact ⟨hfolder, hnode₀, hpath, octets, hoctets, hsize⟩
  · rintro ⟨hfolder, hnode, hpath, octets, hoctets, hsize⟩
    obtain ⟨hresolve, t, hroot⟩ := Disk.isFolder_iff.mp hfolder
    refine ⟨Disk.isFolder_iff.mpr ⟨?_, t, ?_⟩, hgrows.folder hnode, hpath, octets,
      (hread (hnamed htree hnode)).mpr hoctets, hsize⟩
    · rw [hgrows.place]
      exact hgrows.resolve hresolve
    · rw [hgrows.place]
      exact hgrows.folder hroot

/-! ## What is left of a failure -/

/-- **A name apart from the ways**: neither the way to the root nor that to the stored document
leads through the place of the document of the backup. -/
def Apart (root : Path) (name : String) (s : Storage) : Prop :=
  s.disk.place (documentPath root name) ∉ s.disk.route root
    ∧ ¬s.OnWay (s.disk.place (documentPath root name))

/-- Every name is apart from ways without `..`. -/
theorem apart_of_not_up {s : Storage} (houtside : Outside root s) (hname : validName name = true)
    (hroot : ".." ∉ Path.names root)
    (hstore : ∀ folder, s.store.folder? = some folder → ".." ∉ Path.names folder) :
    Apart root name s := by
  rw [Apart, place_documentPath _ root hname]
  constructor
  · intro hmem
    have hlength := (Disk.prefix_of_mem_visited hroot hmem).length_le
    rw [← Disk.place, List.length_append] at hlength
    exact absurd hlength (by simp)
  · rintro ⟨folder, hfolder, hmem⟩
    have hway := Disk.prefix_of_mem_visited (hstore folder hfolder) hmem
    refine houtside (s.disk.place (Store.documentPath folder)) ?_ ?_
    · rw [Storage.site?, hfolder]
      rfl
    · rw [Disk.place_documentPath]
      exact ((List.prefix_append _ _).trans hway).trans (List.prefix_append _ _)

/-- **A bridge that a failure did no harm to**: it has the same functions, all files but the stored
document are the same, and every backup that could be read is read as before. -/
structure Unharmed (root : Path) (b b' : Bridge) : Prop where
  registry : b'.registry = b.registry
  file : ∀ l octets, b.storage.site? ≠ some l →
    (b'.storage.disk.node? l = some (.file octets)
      ↔ b.storage.disk.node? l = some (.file octets))
  backup : ∀ name octets, validName name = true →
    b.storage.disk.read (documentPath root name) = .ok octets →
    b'.storage.disk.read (documentPath root name) = .ok octets

theorem Unharmed.refl (root : Path) (b : Bridge) : Unharmed root b b :=
  ⟨rfl, fun _ _ _ => Iff.rfl, fun _ _ _ => id⟩

/-- A bridge is unharmed if no file was written but the stored document. -/
theorem unharmed_of_within {b' : Bridge} {F : Location → Prop} (houtside : Outside root b.storage)
    (hregistry : b'.registry = b.registry) (hgrows : b.storage.disk.Grows b'.storage.disk)
    (hwithin : b.storage.disk.Within F (fun l => b.storage.site? = some l) b'.storage.disk) :
    Unharmed root b b' := by
  refine ⟨hregistry, fun l octets hl => hwithin.file_iff hl, fun name octets hname hread => ?_⟩
  have hnode := (Disk.of_read_eq_ok hread).2
  exact hgrows.read hread (((hwithin.file_iff (houtside.site_ne hname)).mpr hnode).trans hnode.symm)

/-- **What a backup that failed changed**: folders, and the stored document. -/
theorem Making.changed_of_error (h : Making now root name? b (.error e) state)
    (hname : nameFor now name? = .ok name) :
    Storage.Changed (FolderFor root name b.storage) (fun l => b.storage.site? = some l) b.storage
      state.storage :=
  (h.changed hname).mono (fun _ => id) fun l hl => hl.resolve_right fun hok => by cases hok.1

theorem Making.unharmed (h : Making now root name? b (.error e) state)
    (houtside : Outside root b.storage) : Unharmed root b state := by
  cases hname : nameFor now name? with
  | error e' =>
    rw [(h.of_misnamed hname).2]
    exact .refl root b
  | ok name =>
    exact unharmed_of_within houtside h.registry_eq h.accessed.grows (h.changed_of_error hname).disk

/-- What a failure leaves is listed as before, if the root was reached. -/
theorem Unharmed.listing_eq {b' : Bridge} (h : Unharmed root b b')
    (houtside : Outside root b.storage) (htree : b.storage.disk.IsTree) (hreaches : b.storage.disk.Reaches root)
    (haccessed : b.storage.disk.Accessed now b'.storage.disk) :
    (list root b').value = (list root b).value := by
  rw [(list_eq root b').1, (list_eq root b).1]
  exact listing_of_grows htree (haccessed.isTree htree) hreaches haccessed.grows fun l octets hl =>
    h.file l octets fun hsite => houtside l hsite hl

/-- **The name is as free as it was**: a backup that failed for another reason is not in the way of
one of the same name. -/
theorem Making.not_taken (h : Making now root name? b (.error e) state)
    (hname : nameFor now name? = .ok name) (hother : e ≠ .backupExists name)
    (htree : b.storage.disk.IsTree) (houtside : Outside root b.storage)
    (hreaches : b.storage.disk.Reaches root) (hapart : Apart root name b.storage) :
    state.storage.disk.exists? (documentPath root name) = false := by
  have hvalid := validName_of_nameFor hname
  have hfree : b.storage.disk.exists? (documentPath root name) = false := by
    cases h with
    | misnamed hname' => exact absurd (hname.symm.trans hname') (by simp)
    | taken hname' =>
      cases hname.symm.trans hname'
      exact absurd rfl hother
    | noFolder hname' hfree => cases hname.symm.trans hname'; exact hfree
    | notSaved hname' hfree => cases hname.symm.trans hname'; exact hfree
    | notRead hname' hfree => cases hname.symm.trans hname'; exact hfree
    | notWritten hname' hfree => cases hname.symm.trans hname'; exact hfree
  have hsingle := isName_of_validName hvalid
  have hasks : Path.asksFolder (documentPath root name) = false :=
    Disk.asksFolder_documentPath (folderPath root name)
  -- nothing has come in the place of the document
  have hnode : state.storage.disk.node? (b.storage.disk.place (documentPath root name))
      = b.storage.disk.node? (b.storage.disk.place (documentPath root name)) := by
    refine (h.changed_of_error hname).disk.node?_eq (fun hfolder => ?_) (houtside.site_ne hvalid)
    rcases hfolder with hway | hroute | hself
    · exact absurd hway hapart.2
    · exact absurd hroute hapart.1
    · rw [place_documentPath _ root hvalid] at hself
      exact absurd (List.append_cancel_left hself) (by simp)
  by_contra htaken
  obtain ⟨hresolve, hthere⟩ := (Disk.exists?_iff hasks).mp (by simpa using htaken)
  rw [h.accessed.grows.place, hnode] at hthere
  have hexists := (Disk.exists?_iff hasks).mpr
    ⟨resolve_below htree hreaches hsingle hresolve hthere, hthere⟩
  rw [hfree] at hexists
  cases hexists

/-- **Backups that fail are atomic**, as each of their writes is. Take a bridge with a store outside of
the backups, on a disk that is a tree. If making a backup fails, whatever the reason, the functions
are the same, no file but the stored document has changed, and every backup is read as before; and
the stored document is that of the registry, or the one that was there. If the root is reached, the
same backups are listed as before, and a name that was not taken is not taken now, if the ways are
apart from it. If restoring a backup fails, the functions, the files, the stored document and the
listing are as they were. -/
theorem failures_are_atomic (root : Path) (b : Bridge) (now : Instant)
    (htree : b.storage.disk.IsTree) (houtside : Outside root b.storage) :
    (∀ name? e, (create now root name? b).value = .error e →
      let b' := (create now root name? b).state
      Unharmed root b b'
        ∧ (b'.storage.content = .ok (some b.registry.encode) ∨ Retains b.storage b'.storage)
        ∧ (b.storage.disk.Reaches root →
            (list root b').value = (list root b).value
              ∧ ∀ name, nameFor now name? = .ok name → e ≠ .backupExists name →
                Apart root name b.storage →
                ∀ later again, nameFor later again = .ok name →
                  (create later root again b').value ≠ .error (.backupExists name)))
      ∧ ∀ name e, (restore now root name b).value = .error e →
        let b' := (restore now root name b).state
        Unharmed root b b' ∧ Retains b.storage b'.storage
          ∧ (list root b').value = (list root b).value := by
  refine ⟨fun name? e hvalue => ?_, fun name e hvalue => ?_⟩
  · have hmaking := making_create now root name? b
    rw [hvalue] at hmaking
    have hunharmed := hmaking.unharmed houtside
    refine ⟨hunharmed, ?_, fun hreaches =>
      ⟨?_, fun name hname hother hapart later again hagain => ?_⟩⟩
    · rcases hmaking.stores with ⟨-, hcontent⟩ | ⟨-, hretains⟩
      · exact Or.inl (hmaking.registry_eq ▸ hcontent)
      · exact Or.inr hretains
    · exact hunharmed.listing_eq houtside htree hreaches hmaking.accessed
    · intro hexists
      have hfree := hmaking.not_taken hname hother htree houtside hreaches hapart
      rw [(exists_of_create hexists).2] at hfree
      cases hfree
  · have hrestoring := restoring_restore now root name b
    rw [hvalue] at hrestoring
    generalize (restore now root name b).state = state at hrestoring ⊢
    cases hrestoring with
    | notRead => exact ⟨.refl root b, .refl b.storage, rfl⟩
    | @notWritten hname octets hread _ hwrite =>
      have haccessed := Storage.accessed_write b.storage now octets
      have hunharmed : Unharmed root b (replaced now octets b) :=
        unharmed_of_within houtside rfl haccessed.grows
          (Storage.onlyDocument_write b.storage now octets).disk
      exact ⟨hunharmed, Storage.retains_of_write hwrite, hunharmed.listing_eq houtside htree
        (reaches_of_read (isName_of_validName hname) hread) haccessed⟩

/-- A backup `a` is there when saving for a backup `c` is refused: `a` is listed as before, and `c`
can be tried again. Restoring a backup that is not there changes nothing. -/
theorem failures_are_atomic_refused :
    let bare : Bridge :=
      ⟨SortedMap.empty, .new (.file "data") (.fresh 0 []) ⟨fun _ => false, (· == 1)⟩⟩
    let b := (create 5 "backups" (some "a") bare).state
    let b' := (create 6 "backups" (some "c") b).state
    (list "backups" b').value = (list "backups" b).value
      ∧ b'.storage.disk.read (documentPath "backups" "a") = .ok (Registry.encode SortedMap.empty)
      ∧ (create 7 "backups" (some "c") b').value ≠ .error (.backupExists "c")
      ∧ (list "backups" (restore 8 "backups" "c" b').state).value = (list "backups" b').value := by
  intro bare b b'
  have hb : b = (create 5 "backups" (some "a") bare).state := rfl
  have hb' : b' = (create 6 "backups" (some "c") b).state := rfl
  have htree : b.storage.disk.IsTree := by
    rw [hb]
    exact (making_create 5 "backups" (some "a") bare).accessed.isTree (.fresh 0)
  have htree' : b'.storage.disk.IsTree := by
    rw [hb']
    exact (making_create 6 "backups" (some "c") b).accessed.isTree htree
  have hsite : ∀ {storage : Storage}, storage.site? = some ["data", "bridge-registry.json"] →
      ¬storage.disk.place "backups" <+: ["data", "bridge-registry.json"] →
      Outside "backups" storage := by
    intro storage hsite hnot l hl
    rw [hsite] at hl
    cases hl
    exact hnot
  have houtside : Outside "backups" b.storage := hsite (by decide +kernel) (by decide +kernel)
  have houtside' : Outside "backups" b'.storage := hsite (by decide +kernel) (by decide +kernel)
  have hup : ".." ∉ Path.names "backups" := by decide
  have hdata : b.storage.store.folder? = some "data" := by decide +kernel
  have hapart : Apart "backups" "c" b.storage := by
    refine apart_of_not_up houtside (by decide) hup fun folder hfolder => ?_
    rw [hdata] at hfolder
    cases hfolder
    decide
  have hrefused : (create 6 "backups" (some "c") b).value
      = .error (.io "/write" (.refused "write")) := by decide +kernel
  have hread : b.storage.disk.read (documentPath "backups" "a")
      = .ok (Registry.encode SortedMap.empty) := by decide +kernel
  have hmissing : (restore 8 "backups" "c" b').value = .error (.backupNotFound "c") := by
    decide +kernel
  have hfailed := (failures_are_atomic "backups" b 6 htree houtside).1 (some "c") _ hrefused
  have hreached := hfailed.2.2 (htree.reaches hup)
  have hrestored := (failures_are_atomic "backups" b' 8 htree' houtside').2 "c" _ hmissing
  rw [hb'] at hrestored ⊢
  exact ⟨hreached.1, hfailed.1.backup "a" _ (by decide) hread,
    hreached.2 "c" rfl (by simp) hapart 7 (some "c") rfl, hrestored.2.2⟩

/-- **Ways that go up again from what is missing.** The first root goes through a folder `x` that is
not there: a backup `old` is not listed below it until an attempt at another makes the folder. And
the way to the second store leads through the place of the document of a backup `n`: the attempt
that fails makes a folder there, and then `n` is said to exist. -/
theorem failures_not_atomic_on_winding_ways :
    (let bare : Bridge :=
        ⟨SortedMap.empty, .new (.memory none) (.fresh 0 ["home"]) ⟨fun _ => false, (· == 1)⟩⟩
      let b := (create 5 "backups" (some "old") bare).state
      let left := (create 6 "x/../backups" (some "n") b).state
      (create 6 "x/../backups" (some "n") b).value = .error (.io "/write" (.refused "write"))
        ∧ (list "x/../backups" b).value = []
        ∧ (list "x/../backups" left).value.map (·.name) = ["old"])
      ∧ let winding : Path := "backups/n/bridge-registry.json/../../../data"
        let b : Bridge := ⟨SortedMap.empty, .new (.file winding) (.fresh 0 ["home"]) .none⟩
        let left := (create 5 "backups" (some "n") b).state
        b.storage.site? = some ["home", "data", "bridge-registry.json"]
          ∧ b.storage.disk.place "backups" = ["home", "backups"]
          ∧ (create 5 "backups" (some "n") b).value
            = .error (.io "backups/n/bridge-registry.json" .isFolder)
          ∧ (create 6 "backups" (some "n") left).value = .error (.backupExists "n") := by
  decide +kernel

end Backup

end Rehearsal
