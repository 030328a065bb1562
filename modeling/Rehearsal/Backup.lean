import Rehearsal.Bridge

/-!
# Backups of the registry

A backup is a folder of its own below the **backup root**, named for the backup and holding
one file, the document of the registry as it was. Nothing else makes a backup: a folder
without that file is none, and neither is a file in the root. A backup is made at the
instant its folder is made.

The name of a backup is the name of one folder, so making or reading a backup reaches no
place but its folder. A backup is never written over.
-/

namespace Rehearsal

/-- **A backup**, as it is listed. -/
structure Backup where
  name : String
  createdAt : Instant
  /-- The octets of its document. -/
  size : Nat
  /-- The path of its document. -/
  path : Path
deriving DecidableEq

namespace Backup

open Routine (note)

/-- **A name that a backup may have**: that of one folder. -/
def validName (name : String) : Bool :=
  name != "" && name != "." && name != ".." && !name.toList.contains '/'
    && !name.toList.contains '\\'

/-- The folder of a backup. -/
def folderPath (root : Path) (name : String) : Path := Path.join root name

/-- The document of a backup. -/
def documentPath (root : Path) (name : String) : Path := Store.documentPath (folderPath root name)

/-- The name of a backup that is not given one. -/
def defaultName (now : Instant) : String := "backup_" ++ toString now.toInt

/-- The name of a backup to be made: the one given, if it may be one. -/
def nameFor (now : Instant) : Option String → Except StorageError String
  | none => .ok (defaultName now)
  | some name => if validName name then .ok name else .error (.invalidBackupName name)

/-- A folder made with all that is missing above it, on the disk of a bridge. -/
def makeFolders (now : Instant) (p : Path) : Routine Bridge (Except StorageError Unit) := do
  let b ← get
  let (outcome, disk) := b.storage.disk.makeFolders now p
  set { b with storage := { b.storage with disk := disk } }
  pure (outcome.mapError (.io p))

/-- A file written, on the disk of a bridge, as a whole or not at all. -/
def writeFile (p : Path) (octets : ByteArray) : Routine Bridge (Except StorageError Unit) := do
  let b ← get
  match b.storage.disk.write p octets with
  | .error e => pure (.error (.io p e))
  | .ok disk =>
    set { b with storage := { b.storage with disk := disk } }
    pure (.ok ())

/-! ## Making a backup -/

/-- **Back up the registry**: save it, and copy the stored document into a folder of its
own. Gives the path of the copy. A fault leaves what was made before it. -/
def create (now : Instant) (root : Path) (name? : Option String) :
    Routine Bridge (Except StorageError Path) := do
  match nameFor now name? with
  | .error e => pure (.error e)
  | .ok name =>
    let b ← get
    if b.storage.disk.exists? (documentPath root name) then pure (.error (.backupExists name))
    else
      match ← makeFolders now (folderPath root name) with
      | .error e => pure (.error e)
      | .ok () =>
        match ← Bridge.save now with
        | .error e => pure (.error e)
        | .ok () =>
          match ← Bridge.onStorage Storage.read with
          | .error e => pure (.error e)
          | .ok document =>
            match ← writeFile (documentPath root name) (document.getD ByteArray.empty) with
            | .error e => pure (.error e)
            | .ok () =>
              note .info ("backup '" ++ name ++ "' created from " ++ b.storage.store.place)
              pure (.ok (documentPath root name))

/-! ## Listing backups -/

/-- The backup that something in the root is, if it is one. -/
def ofChild? (d : Disk) (root : Path) : String × Node → Option Backup
  | (_, .file _) => none
  | (name, .folder created) =>
    match d.find (documentPath root name) with
    | .ok (_, .file octets) => some ⟨name, created, octets.size, documentPath root name⟩
    | _ => none

/-- Backups by the instant they were made, latest first. -/
def newestFirst (backups : List Backup) : List Backup :=
  backups.mergeSort fun a b => decide (b.createdAt ≤ a.createdAt)

/-- **The backups below a root**, newest first. A root that is no folder has none. -/
def list (root : Path) : Routine Bridge (List Backup) := do
  let b ← get
  match b.storage.disk.list root with
  | .error e =>
    note .debug ("backup root " ++ root ++ " not readable: " ++ e.message)
    pure []
  | .ok (_, children) => pure (newestFirst (children.filterMap (ofChild? b.storage.disk root)))

/-! ## Restoring a backup -/

/-- **Restore a backup**: its document becomes the stored document, and the registry is loaded
from there. Gives the number of functions. -/
def restore (now : Instant) (root : Path) (name : String) :
    Routine Bridge (Except StorageError Nat) := do
  if validName name then
    let b ← get
    match b.storage.disk.read (documentPath root name) with
    | .error .notFound => pure (.error (.backupNotFound name))
    | .error e => pure (.error (.io (documentPath root name) e))
    | .ok octets =>
      match ← Bridge.onStorage (Storage.write now octets) with
      | .error e => pure (.error e)
      | .ok () =>
        let n ← Bridge.load now
        note .info ("backup '" ++ name ++ "' restored, " ++ toString n ++ " functions")
        pure (.ok n)
  else pure (.error (.invalidBackupName name))

end Backup

end Rehearsal
