import Rehearsal.Proofs.Backup.Names
import Rehearsal.Proofs.Backup.Run

/-!
# Backups are snapshots

A backup is the document of the registry as it was when the backup was made, and it **stays
so** (`Backup.backup_is_snapshot`): through operations of the bridge, other backups, attempts
at a backup of the same name, restores, failures of the store, and anything that others do short
of touching the backup. Restoring it then brings back the registry to the last field.

The argument is about one file. It stays readable while no folder is lost and nothing is written
to its place, and each step writes to at most two places: that of the stored document, which
is outside of the root, and that of a new backup, which has another name, since one of the
same name is refused.
-/

namespace Rehearsal.Backup

open Bridge (registryOf registryOf_encode)

/-- **A store outside of the backups**: its document, if it is in a file, is not below the root. -/
def Outside (root : Path) (s : Storage) : Prop :=
  ∀ l, s.site? = some l → ¬ s.disk.place root <+: l

theorem outside_memory {root : Path} {s : Storage} {document : Option ByteArray}
    (h : s.store = .memory document) : Outside root s := by
  intro l hl
  rw [Storage.site?, h] at hl
  cases hl

/-- The document of a backup is not the stored document. -/
theorem Outside.site_ne {root : Path} {s : Storage} (h : Outside root s) {name : String}
    (hname : validName name = true) :
    s.site? ≠ some (s.disk.place (documentPath root name)) := by
  intro hsite
  refine h _ hsite ?_
  rw [place_documentPath _ root hname]
  exact List.prefix_append _ _

/-- A store stays outside on a disk that lost no folder. -/
theorem Outside.of_grows {root : Path} {s s' : Storage} (h : Outside root s)
    (hfolder : s'.store.folder? = s.store.folder?) (hgrows : s.disk.Grows s'.disk) :
    Outside root s' := by
  intro l hl
  rw [hgrows.place]
  exact h l (Storage.site?_eq_of_grows hfolder hgrows ▸ hl)

/-! ## One step -/

/-- **The backup is there**: its document reads as octets, and the store is elsewhere. -/
structure Holds (root : Path) (name : String) (octets : ByteArray) (b : Bridge) : Prop where
  outside : Outside root b.storage
  read : b.storage.disk.read (documentPath root name) = .ok octets

section

variable {root : Path} {name : String} {octets : ByteArray} {b : Bridge} {now : Instant}

theorem Holds.onward (h : Holds root name octets b) (hname : validName name = true) {b' : Bridge}
    (honward : b.storage.Onward b'.storage) : Holds root name octets b' :=
  ⟨h.outside.of_grows honward.folder honward.grows, honward.read (h.outside.site_ne hname) h.read⟩

/-! What a backup goes through on the way of making another. -/

theorem onward_prepared (now : Instant) (root : Path) (name : String) (b : Bridge) :
    b.storage.Onward (prepared now root name b).storage :=
  Storage.onward_of_foldersMade (Disk.foldersMade_makeFolders _ now _)

theorem onward_saved (now : Instant) (root : Path) (name : String) (b : Bridge) :
    b.storage.Onward (saved now root name b).storage := by
  rw [saved_eq]
  exact (onward_prepared now root name b).trans (Storage.onward_write _ now _)

theorem onward_reread (now : Instant) (root : Path) (name : String) (b : Bridge) :
    b.storage.Onward (reread now root name b).storage :=
  (onward_saved now root name b).trans (Storage.onward_read _)

/-- **A file written elsewhere leaves the backup.** -/
theorem Holds.write (h : Holds root name octets b) {p : Path} {octets' : ByteArray} {d : Disk}
    (hplace : b.storage.disk.place (documentPath root name) ≠ b.storage.disk.place p)
    (hwrite : b.storage.disk.write p octets' = .ok d) : Holds root name octets (onDisk d b) := by
  have hgrows := Disk.grows_of_write hwrite
  exact ⟨h.outside.of_grows rfl hgrows, hgrows.read h.read (Disk.node?_of_write hwrite hplace)⟩

theorem Holds.making (h : Holds root name octets b) (hname : validName name = true)
    {name? : Option String} {value : Except StorageError Path} {state : Bridge}
    (hmaking : Making now root name? b value state) : Holds root name octets state := by
  cases hmaking with
  | misnamed => exact h
  | taken => exact h
  | noFolder => exact h.onward hname (onward_prepared now root _ b)
  | notSaved => exact h.onward hname (onward_saved now root _ b)
  | notRead => exact h.onward hname (onward_reread now root _ b)
  | notWritten => exact h.onward hname (onward_reread now root _ b)
  | @made name' hname' hfree _ _ _ _ _ hwrite =>
    -- the backup that is there keeps another of its name from being made
    have hne : name ≠ name' := by
      rintro rfl
      rw [Disk.exists?_of_read h.read] at hfree
      cases hfree
    exact (h.onward hname (onward_reread now root name' b)).write
      (place_documentPath_ne _ root hname (validName_of_nameFor hname') hne) hwrite

theorem onward_restoring {name' : String} {value : Except StorageError Nat} {state : Bridge}
    (hrestoring : Restoring now root name' b value state) : b.storage.Onward state.storage := by
  cases hrestoring with
  | notRead => exact .refl _
  | notWritten => exact Storage.onward_write _ now _
  | restored =>
    rw [Bridge.load_state]
    exact (Storage.onward_write _ now _).trans (Storage.onward_read _)

/-- **A step leaves the backup.** -/
theorem Holds.after (h : Holds root name octets b) (hname : validName name = true) (s : Step) :
    Holds root name octets (s.after root now b) := by
  cases s with
  | bridge op => exact h.onward hname (op.onward_after now b)
  | create name? => exact h.making hname (making_create now root name? b)
  | restore name' => exact h.onward hname (onward_restoring (restoring_restore now root name' b))

end

/-! ## Any number of steps -/

/-- **What may happen after a backup was made**: any step at any time, whether or not it
succeeds; and anything that others do to the storage of the bridge, as long as the store stays
outside of the backups and the document of this backup reads as before. -/
inductive Later (root : Path) (name : String) (b : Bridge) : Bridge → Prop where
  | now : Later root name b b
  | step {b' : Bridge} (h : Later root name b b') (now : Instant) (s : Step) :
    Later root name b (s.after root now b')
  | others {b' : Bridge} (h : Later root name b b') (storage : Storage)
      (houtside : Outside root storage)
      (hread : storage.disk.read (documentPath root name)
        = b'.storage.disk.read (documentPath root name)) :
    Later root name b { b' with storage := storage }

theorem Holds.later {root : Path} {name : String} {octets : ByteArray} {b b' : Bridge}
    (h : Holds root name octets b) (hname : validName name = true)
    (hlater : Later root name b b') : Holds root name octets b' := by
  induction hlater with
  | now => exact h
  | step _ now s ih => exact ih.after hname s
  | others _ storage houtside hread ih => exact ⟨houtside, hread.trans ih.read⟩

/-! ## The snapshot -/

/-- **What a backup that was made leaves**: the registry as it was, its document both in the
store and in the backup. -/
theorem Holds.of_making {root : Path} {name? : Option String} {b : Bridge} {now : Instant}
    {path : Path} {state : Bridge} (houtside : Outside root b.storage)
    (hmaking : Making now root name? b (.ok path) state) :
    ∃ name, nameFor now name? = .ok name ∧ path = documentPath root name
      ∧ state.registry = b.registry
      ∧ state.storage.content = .ok (some b.registry.encode)
      ∧ Holds root name b.registry.encode state := by
  cases hmaking with
  | @made name hname _ _ hsave _ hread _ hwrite =>
    have hcontent := content_reread hsave
    obtain rfl := Except.ok.inj ((Storage.content_of_read hread).symm.trans hcontent)
    have honward := onward_reread now root name b
    refine ⟨name, hname, rfl, registry_reread now root name b, content_onDisk hcontent hwrite, ?_⟩
    exact ⟨(houtside.of_grows honward.folder honward.grows).of_grows rfl
      (Disk.grows_of_write hwrite), Disk.read_of_write hwrite⟩

/-- **A backup that is there is restored**, if the store takes its document and lets it be read. -/
theorem Holds.restore {root : Path} {name : String} {r : Registry} {b : Bridge} {now : Instant}
    (h : Holds root name r.encode b) (hname : validName name = true)
    (hwrite : (Storage.write now r.encode b.storage).value = .ok ())
    (hread : (Storage.read (Storage.write now r.encode b.storage).state).value.isOk = true) :
    (restore now root name b).value = .ok r.size ∧ (restore now root name b).state.registry = r
      ∧ (restore now root name b).state.storage.content = .ok (some r.encode) := by
  have hrestoring := restoring_restore now root name b
  generalize (Backup.restore now root name b).value = value,
    (Backup.restore now root name b).state = state at hrestoring ⊢
  cases hrestoring with
  | notRead hnot => exact absurd h.read (hnot _ hname)
  | notWritten _ hoctets hfailed =>
    obtain rfl := Except.ok.inj (hoctets.symm.trans h.read)
    rw [hwrite] at hfailed
    cases hfailed
  | restored _ hoctets _ =>
    obtain rfl := Except.ok.inj (hoctets.symm.trans h.read)
    have hcontent := Storage.content_of_write hwrite
    have hloaded : registryOf now
        (Storage.read (Storage.write now r.encode b.storage).state).value = r := by
      cases hdocument : (Storage.read (Storage.write now r.encode b.storage).state).value with
      | error e =>
        rw [hdocument] at hread
        cases hread
      | ok document =>
        rw [← Storage.content_of_read hdocument, hcontent, registryOf_encode]
    rw [Bridge.load_value, Bridge.load_state]
    exact ⟨congrArg (fun r => Except.ok (SortedMap.size r)) hloaded, hloaded, hcontent⟩

/-- **A backup is a snapshot, and stays one.** Take any bridge with a store outside of the
backups, and a backup of it that was made. Whatever happens later, its document is that of
the registry when the backup was made. Restoring it with a store that takes the document and lets
it be read gives the number of functions there were, and brings back both the registry and
the stored document as they were. -/
theorem backup_is_snapshot (root : Path) (b : Bridge) (now : Instant) (name? : Option String)
    (path : Path) (houtside : Outside root b.storage)
    (hmade : (create now root name? b).value = .ok path) :
    ∃ name, nameFor now name? = .ok name ∧ path = documentPath root name
      ∧ (create now root name? b).state.registry = b.registry
      ∧ (create now root name? b).state.storage.content = .ok (some b.registry.encode)
      ∧ ∀ b', Later root name (create now root name? b).state b' →
          b'.storage.disk.read path = .ok b.registry.encode
            ∧ ∀ later, (Storage.write later b.registry.encode b'.storage).value = .ok () →
              (Storage.read (Storage.write later b.registry.encode b'.storage).state).value.isOk
                = true →
              (restore later root name b').value = .ok b.registry.size
                ∧ (restore later root name b').state.registry = b.registry
                ∧ (restore later root name b').state.storage.content
                  = .ok (some b.registry.encode) := by
  have hmaking := making_create now root name? b
  rw [hmade] at hmaking
  obtain ⟨name, hname, hpath, hregistry, hcontent, hholds⟩ := Holds.of_making houtside hmaking
  refine ⟨name, hname, hpath, hregistry, hcontent, fun b' hlater => ?_⟩
  have hvalid := validName_of_nameFor hname
  have hholds' := hholds.later hvalid hlater
  refine ⟨hpath ▸ hholds'.read, fun later hwrite hread => ?_⟩
  exact hholds'.restore hvalid hwrite hread

/-- A bridge over a file is cleared after a backup, and a backup of the same name is tried: the
one function comes back. -/
theorem backup_is_snapshot_cleared :
    let r := Registry.register SortedMap.empty 5 "f" ⟨"python"⟩ ["x"] [⟨.returning "x", ⟨"python"⟩⟩]
    let b : Bridge := ⟨r, .new (.file "data") (.fresh 0 ["home"]) .none⟩
    let made := (create 7 "backups" (some "a") b).state
    let later : List Event := [(8, .bridge .clear), (9, .create (some "a"))]
    let b' := Run.state (Step.after "backups") later made
    b'.storage.disk.read "backups/a/bridge-registry.json" = .ok r.encode
      ∧ (restore 10 "backups" "a" b').value = .ok 1
      ∧ (restore 10 "backups" "a" b').state.registry = r := by
  intro r b made later b'
  have houtside : Outside "backups" b.storage := by
    intro l hl
    have hsite : b.storage.site? = some ["home", "data", "bridge-registry.json"] := by
      decide +kernel
    rw [hsite] at hl
    cases hl
    decide +kernel
  have hmade : (create 7 "backups" (some "a") b).value = .ok "backups/a/bridge-registry.json" := by
    decide +kernel
  obtain ⟨name, hname, -, -, -, hlater⟩ :=
    backup_is_snapshot "backups" b 7 (some "a") "backups/a/bridge-registry.json" houtside hmade
  obtain rfl : name = "a" := (Except.ok.inj hname).symm
  obtain ⟨hread, hrestore⟩ := hlater b'
    ((Later.now.step 8 (.bridge .clear)).step 9 (.create (some "a")))
  obtain ⟨hvalue, hregistry, -⟩ := hrestore 10 (by decide +kernel) (by decide +kernel)
  exact ⟨hread, hvalue, hregistry⟩

end Rehearsal.Backup
