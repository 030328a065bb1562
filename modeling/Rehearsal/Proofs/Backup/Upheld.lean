import Rehearsal.Proofs.Backup.Names
import Rehearsal.Proofs.Backup.Run

/-!
# What is upheld of every registry there is

The registry in memory is not the only one. A write that fails leaves an older one in the store, and
each backup is one more. A load or a restored backup brings any of these back, so nothing holds of
the registry at all times that does not hold of **every registry there is** (`Backup.Upholds`): the
one in memory, the stored one, and those of the backups.

A step puts no document anywhere but one that was there or that of the registry in memory
(`Storage.Adds`). So a property is upheld by every step if it holds of the registries that the
operations save (`Backup.Upholds.after`), whatever the clock shows and whatever the store refuses.
-/

namespace Rehearsal

namespace Storage

/-! ## What accesses add -/

/-- **A storage to which only documents of some kind were added**: any other document, in memory or
in a file, was there before. -/
structure Adds (P : ByteArray → Prop) (s s' : Storage) : Prop where
  folder : s'.store.folder? = s.store.folder?
  home : s'.disk.home = s.disk.home
  memory : ∀ {octets : ByteArray}, s'.store = .memory (some octets) →
    s.store = .memory (some octets) ∨ P octets
  file : ∀ {l : Location} {octets : ByteArray}, s'.disk.node? l = some (.file octets) →
    s.disk.node? l = some (.file octets) ∨ P octets

variable {P : ByteArray → Prop} {s s' s'' : Storage}

namespace Adds

theorem trans (h : Adds P s s') (h' : Adds P s' s'') : Adds P s s'' where
  folder := h'.folder.trans h.folder
  home := h'.home.trans h.home
  memory hstore := (h'.memory hstore).elim h.memory Or.inr
  file hnode := (h'.file hnode).elim h.file Or.inr

/-- The document is where it was. -/
theorem site? (h : Adds P s s') : s'.site? = s.site? := by
  unfold Storage.site?
  rw [h.folder]
  congr 1
  funext folder
  exact Disk.place_eq_of_home h.home _

end Adds

theorem adds_read (P : ByteArray → Prop) (s : Storage) : Adds P s (read s).state :=
  ⟨rfl, rfl, Or.inl, Or.inl⟩

/-- Folders are no documents. -/
theorem adds_of_foldersMade {now : Instant} {d : Disk} (h : s.disk.FoldersMade now d) :
    Adds P s { s with disk := d } :=
  ⟨rfl, h.home, Or.inl, fun hnode => Or.inl (h.file_of_file hnode)⟩

section

variable {octets : ByteArray} (h : P octets)
include h

/-- A file that is written is all that is added. -/
theorem adds_of_diskWrite {p : Path} {d : Disk} (hwrite : s.disk.write p octets = .ok d) :
    Adds P s { s with disk := d } := by
  refine ⟨rfl, (Disk.grows_of_write hwrite).home, Or.inl, fun {l octets'} hnode => ?_⟩
  obtain ⟨-, -, -, rfl⟩ := Disk.write_eq_ok_iff.mp hwrite
  by_cases hl : l = s.disk.place p
  · subst hl
    rw [Disk.node?_put_self] at hnode
    cases hnode
    exact Or.inr h
  · rw [Disk.node?_put_of_ne _ hl] at hnode
    exact Or.inl hnode

theorem adds_replace (s : Storage) (now : Instant) : Adds P s (s.replace now octets).2 := by
  cases hstore : s.store with
  | memory document =>
    rw [replace_memory now octets document s hstore]
    refine ⟨by rw [hstore]; rfl, rfl, fun {octets'} hmemory => Or.inr ?_, Or.inl⟩
    cases hmemory
    exact h
  | file folder =>
    unfold replace
    rw [hstore]
    dsimp only
    have hmade := adds_of_foldersMade (P := P) (Disk.foldersMade_makeFolders s.disk now folder)
    split
    · next d hfolders =>
      rw [hfolders] at hmade
      exact hstore ▸ hmade
    · next d hfolders =>
      rw [hfolders] at hmade
      split
      · next d' hwrite => exact hstore ▸ hmade.trans (adds_of_diskWrite h hwrite)
      · exact hstore ▸ hmade

/-- **Writing adds what is written**, if anything. -/
theorem adds_write (s : Storage) (now : Instant) : Adds P s (write now octets s).state := by
  unfold write
  dsimp only
  have hreplace := adds_replace h { s with writes := s.writes + 1 } now
  split
  · exact ⟨rfl, rfl, Or.inl, Or.inl⟩
  · split
    · next s' heq =>
      rw [heq] at hreplace
      exact ⟨hreplace.folder, hreplace.home, hreplace.memory, hreplace.file⟩
    · next e s' heq =>
      rw [heq] at hreplace
      exact ⟨hreplace.folder, hreplace.home, hreplace.memory, hreplace.file⟩

end

end Storage

namespace Backup

open Bridge (Effect registryOf registryOf_encode)

/-! ## Every registry there is -/

/-- **The places of documents**: that of the stored document, if it is in a file, and those of the
backups. -/
inductive Site (root : Path) (s : Storage) : Location → Prop where
  | store {l : Location} (h : s.site? = some l) : Site root s l
  | backup {name : String} (h : validName name = true) :
    Site root s (s.disk.place (documentPath root name))

/-- The document of a registry with a property. -/
def DocumentOf (P : Registry → Prop) (octets : ByteArray) : Prop := ∃ r, P r ∧ octets = r.encode

/-- **A property upheld of every registry there is**: that in memory, and those whose documents are
in the store and in the backups. -/
structure Upholds (P : Registry → Prop) (root : Path) (b : Bridge) : Prop where
  registry : P b.registry
  memory : ∀ {octets : ByteArray}, b.storage.store = .memory (some octets) → DocumentOf P octets
  file : ∀ {l : Location} {octets : ByteArray}, Site root b.storage l →
    b.storage.disk.node? l = some (.file octets) → DocumentOf P octets

variable {P : Registry → Prop} {root : Path} {now : Instant} {b b' : Bridge}

/-- The documents are in the places where they were. -/
theorem Site.of_adds {Q : ByteArray → Prop} {s s' : Storage} (hadds : s.Adds Q s') {l : Location}
    (h : Site root s' l) : Site root s l := by
  cases h with
  | store hsite => exact .store (hadds.site? ▸ hsite)
  | backup hname => exact Disk.place_eq_of_home hadds.home _ ▸ .backup hname

namespace Upholds

/-- What is added is of the same kind. -/
theorem of_adds (h : Upholds P root b) (hadds : b.storage.Adds (DocumentOf P) b'.storage)
    (hregistry : P b'.registry) : Upholds P root b' where
  registry := hregistry
  memory hstore := (hadds.memory hstore).elim h.memory id
  file hsite hnode := (hadds.file hnode).elim (h.file (hsite.of_adds hadds)) id

/-- The stored document, if it can be read. -/
theorem content (h : Upholds P root b) {octets : ByteArray}
    (hcontent : b.storage.content = .ok (some octets)) : DocumentOf P octets := by
  cases hstore : b.storage.store with
  | memory document =>
    rw [Storage.content_memory document _ hstore] at hcontent
    exact h.memory (hstore.trans (congrArg Store.memory (Except.ok.inj hcontent)))
  | file folder =>
    refine h.file (.store ?_) (Storage.node?_of_content hstore hcontent)
    rw [Storage.site?, hstore]
    rfl

/-- The document of a backup, if it can be read. -/
theorem backup (h : Upholds P root b) {name : String} (hname : validName name = true)
    {octets : ByteArray} (hread : b.storage.disk.read (documentPath root name) = .ok octets) :
    DocumentOf P octets := by
  exact h.file (.backup hname) (Disk.of_read_eq_ok hread).2

/-- The document of the registry in memory. -/
theorem documentOf (h : Upholds P root b) : DocumentOf P b.registry.encode := ⟨_, h.registry, rfl⟩

/-- **What is loaded has the property**, also if nothing can be. -/
theorem load (h : Upholds P root b) (hempty : P SortedMap.empty) (now : Instant) :
    P (registryOf now (Storage.read b.storage).value) := by
  cases hread : (Storage.read b.storage).value with
  | error e => exact hempty
  | ok document =>
    cases document with
    | none => exact hempty
    | some octets =>
      obtain ⟨r, hr, rfl⟩ := h.content (Storage.content_of_read hread)
      rw [registryOf_encode]
      exact hr

/-! ## One step -/

theorem on (h : Upholds P root b) (hempty : P SortedMap.empty) {e : Effect}
    (hsaved : ∀ r, e = .save r → P r) : Upholds P root (e.on now b) := by
  cases e with
  | nothing => exact h
  | load => exact h.of_adds (Storage.adds_read _ _) (h.load hempty now)
  | save r =>
    have hr : P r := hsaved r rfl
    exact h.of_adds (Storage.adds_write ⟨r, hr, rfl⟩ _ now) hr

/-- The bridges on the way to a backup. -/
theorem reread (h : Upholds P root b) (name : String) :
    Upholds P root (prepared now root name b) ∧ Upholds P root (saved now root name b)
      ∧ Upholds P root (reread now root name b) := by
  have hprepared : Upholds P root (prepared now root name b) :=
    h.of_adds (Storage.adds_of_foldersMade (Disk.foldersMade_makeFolders _ now _)) h.registry
  have hsaved : Upholds P root (saved now root name b) := by
    rw [saved_eq]
    exact hprepared.of_adds (Storage.adds_write h.documentOf _ now) h.registry
  exact ⟨hprepared, hsaved, hsaved.of_adds (Storage.adds_read _ _) hsaved.registry⟩

theorem making (h : Upholds P root b) {name? : Option String}
    {value : Except StorageError Path} {state : Bridge}
    (hmaking : Making now root name? b value state) : Upholds P root state := by
  cases hmaking with
  | misnamed => exact h
  | taken => exact h
  | noFolder => exact (h.reread _).1
  | notSaved => exact (h.reread _).2.1
  | notRead => exact (h.reread _).2.2
  | notWritten => exact (h.reread _).2.2
  | @made name _ _ _ hsave _ hread _ hwrite =>
    -- what is copied is the document that was saved just before
    have hcontent := content_reread hsave
    obtain rfl := Except.ok.inj ((Storage.content_of_read hread).symm.trans hcontent)
    exact (h.reread name).2.2.of_adds (Storage.adds_of_diskWrite h.documentOf hwrite)
      (h.reread name).2.2.registry

theorem restoring (h : Upholds P root b) (hempty : P SortedMap.empty) {name : String}
    {value : Except StorageError Nat} {state : Bridge}
    (hrestoring : Restoring now root name b value state) : Upholds P root state := by
  have hreplaced : ∀ {octets : ByteArray}, validName name = true →
      b.storage.disk.read (documentPath root name) = .ok octets →
      Upholds P root (replaced now octets b) := fun hname hread =>
    h.of_adds (Storage.adds_write (h.backup hname hread) _ now) h.registry
  cases hrestoring with
  | notRead => exact h
  | notWritten hname hread => exact hreplaced hname hread
  | restored hname hread =>
    rw [Bridge.load_state]
    exact (hreplaced hname hread).of_adds (Storage.adds_read _ _)
      ((hreplaced hname hread).load hempty now)

/-- **A step upholds what its operation does**: a property of the empty registry and of the registry
that the operation saves, if it saves one. -/
theorem after (h : Upholds P root b) (hempty : P SortedMap.empty) (s : Step)
    (hsaved : ∀ op r, s = .bridge op → op.effect now b.registry = .save r → P r) :
    Upholds P root (s.after root now b) := by
  cases s with
  | bridge op =>
    show Upholds P root (op.after now b)
    rw [op.after_eq]
    exact h.on hempty fun r heffect => hsaved op r rfl heffect
  | create name? => exact h.making (making_create now root name? b)
  | restore name => exact h.restoring hempty (restoring_restore now root name b)

end Upholds

/-! ## Where runs begin -/

/-- **Nothing is stored**: no document, and no backup. -/
structure Bare (root : Path) (s : Storage) : Prop where
  memory : ∀ octets, s.store ≠ .memory (some octets)
  file : ∀ {l : Location}, Site root s l → ∀ octets, s.disk.node? l ≠ some (.file octets)

/-- A store in memory that was never written to, on a disk without files. -/
theorem bare_fresh (root : Path) (refusals : Refusals) :
    Bare root (.new (.memory none) (.fresh 0 []) refusals) where
  memory octets hstore := by cases hstore
  file := by
    intro l _ octets hnode
    have hroot : Disk.node? (.fresh 0 []) l
        = if compare l [] = .eq then some (.folder 0) else none := rfl
    replace hnode : Disk.node? (.fresh 0 []) l = some (.file octets) := hnode
    rw [hroot] at hnode
    split at hnode <;> cases hnode

/-- What holds of the empty registry is upheld where nothing is stored. -/
theorem Bare.upholds {s : Storage} (h : Bare root s) (hempty : P SortedMap.empty) (now : Instant) :
    Upholds P root (Bridge.connect now s).state := by
  have hstart : Upholds P root ⟨SortedMap.empty, s⟩ :=
    ⟨hempty, fun hstore => absurd hstore (h.memory _),
      fun hsite hnode => absurd hnode (h.file hsite _)⟩
  exact hstart.after hempty (.bridge .reopen) fun _ _ hop heffect => by
    cases hop
    cases heffect

/-! ## What others do -/

/-- **A storage whose documents others have not edited**: whatever else they did to the disk, a
document that is there was there before. -/
structure Untouched (root : Path) (s s' : Storage) : Prop where
  store : s'.store = s.store
  home : s'.disk.home = s.disk.home
  file : ∀ {l : Location} {octets : ByteArray}, Site root s l →
    s'.disk.node? l = some (.file octets) → s.disk.node? l = some (.file octets)

theorem Upholds.of_untouched {storage : Storage} (h : Upholds P root b)
    (huntouched : Untouched root b.storage storage) :
    Upholds P root { b with storage := storage } := by
  have hsite : ∀ {l : Location}, Site root storage l → Site root b.storage l := by
    intro l hl
    exact hl.of_adds (Q := fun _ => True)
      ⟨by rw [huntouched.store], huntouched.home, fun _ => Or.inr trivial, fun _ => Or.inr trivial⟩
  exact ⟨h.registry, fun hstore => h.memory (huntouched.store ▸ hstore),
    fun hl hnode => h.file (hsite hl) (huntouched.file (hsite hl) hnode)⟩

end Backup

end Rehearsal
