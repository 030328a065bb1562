import Rehearsal.Disk
import Rehearsal.Routine

/-!
# Where the registry is stored

The registry is stored as one document, which is read and replaced as a whole. A
store holds the document **in memory** or **in a file** of a fixed name in a folder.
Nothing stored yet is no fault: reading such a store gives no document.

Any access may be **refused**, which stands for what can go wrong with a store from
outside. Which accesses are refused is part of the storage: the pattern says it of
each access of a kind by how many of that kind came before. A refused write changes nothing.
**A write that fails half way is left out**: a disk that is full, say, when the old document
is gone and the new one is there in part.
-/

namespace Rehearsal

/-! ## Faults -/

/-- **What can go wrong with the stored document and its backups.** -/
inductive StorageError where
  /-- A file could not be read or written. -/
  | io (path : Path) (cause : FileError)
  /-- The document is no registry. -/
  | malformed
  | backupNotFound (name : String)
  | backupExists (name : String)
  | invalidBackupName (name : String)
deriving DecidableEq

namespace StorageError

/-- The fault in words. -/
def message : StorageError → String
  | .io path cause => "IO error on " ++ path ++ ": " ++ cause.message
  | .malformed => "Serialization error"
  | .backupNotFound name => "Backup '" ++ name ++ "' not found"
  | .backupExists name => "Backup '" ++ name ++ "' already exists"
  | .invalidBackupName name => "Invalid backup name '" ++ name ++ "'"

/-- **The fault and what is behind it**, outermost first. -/
def chain : StorageError → List String
  | .io path cause => [message (.io path cause), cause.message]
  | e => [e.message]

/-- The fault with all that is behind it, in words. -/
def account (e : StorageError) : String := ": ".intercalate e.chain

end StorageError

/-! ## Stores -/

/-- **What holds the document.** -/
inductive Store where
  /-- The document itself, once there is one. -/
  | memory (document : Option ByteArray)
  /-- A file in this folder. -/
  | file (folder : Path)

/-- The name of the file that holds the document, also inside a backup. -/
def documentName : String := "bridge-registry.json"

namespace Store

/-- The path of the document in a folder. -/
def documentPath (folder : Path) : Path := Path.join folder documentName

/-- Where the document is, for the reader of a log. -/
def place : Store → String
  | .memory _ => "<memory>"
  | .file folder => documentPath folder

end Store

/-- **Which accesses are refused**: of each kind, the one with so many before it. -/
structure Refusals where
  reads : Nat → Bool
  writes : Nat → Bool

namespace Refusals

/-- The same answer to all accesses of a kind. -/
def always (read write : Bool) : Refusals := ⟨fun _ => read, fun _ => write⟩

/-- Nothing is refused. -/
def none : Refusals := always false false

end Refusals

/-- **A store on a disk**, with the accesses to it so far. -/
structure Storage where
  store : Store
  disk : Disk
  refusals : Refusals
  /-- Reads tried. -/
  reads : Nat
  /-- Writes tried. -/
  writes : Nat
  /-- Writes that succeeded. -/
  written : Nat

namespace Storage

/-- A store that has not been accessed yet. -/
def new (store : Store) (disk : Disk) (refusals : Refusals) : Storage :=
  ⟨store, disk, refusals, 0, 0, 0⟩

/-- **The stored document**, whether or not reading it is refused. -/
def content (s : Storage) : Except StorageError (Option ByteArray) :=
  match s.store with
  | .memory document => .ok document
  | .file folder =>
    match s.disk.read (Store.documentPath folder) with
    | .ok octets => .ok (some octets)
    | .error .notFound => .ok none
    | .error e => .error (.io (Store.documentPath folder) e)

@[simp] theorem content_memory (document : Option ByteArray) (s : Storage)
    (h : s.store = .memory document) : s.content = .ok document := by
  rw [content, h]

/-- The storage with the document replaced, whether or not writing it is refused. The
folder of a file is made first, and stays if the file cannot be written. -/
def replace (s : Storage) (now : Instant) (octets : ByteArray) :
    Except StorageError Unit × Storage :=
  match s.store with
  | .memory _ => (.ok (), { s with store := .memory (some octets) })
  | .file folder =>
    match s.disk.makeFolders now folder with
    | (.error e, d) => (.error (.io folder e), { s with disk := d })
    | (.ok (), d) =>
      match d.write (Store.documentPath folder) octets with
      | .ok d' => (.ok (), { s with disk := d' })
      | .error e => (.error (.io (Store.documentPath folder) e), { s with disk := d })

/-- A store in memory takes any document. -/
theorem replace_memory (now : Instant) (octets : ByteArray) (document : Option ByteArray)
    (s : Storage) (h : s.store = .memory document) :
    s.replace now octets = (.ok (), { s with store := .memory (some octets) }) := by
  rw [replace, h]

/-- **Read the document.** -/
def read : Routine Storage (Except StorageError (Option ByteArray)) := fun s =>
  let outcome :=
    if s.refusals.reads s.reads then .error (.io "/read" (.refused "read")) else s.content
  ⟨outcome, { s with reads := s.reads + 1 }, [], []⟩

/-- **Replace the document.** It is replaced as a whole or not at all. -/
def write (now : Instant) (octets : ByteArray) :
    Routine Storage (Except StorageError Unit) := fun s =>
  let tried := { s with writes := s.writes + 1 }
  if s.refusals.writes s.writes then ⟨.error (.io "/write" (.refused "write")), tried, [], []⟩
  else
    match tried.replace now octets with
    | (.ok (), s') => ⟨.ok (), { s' with written := s'.written + 1 }, [], []⟩
    | (.error e, s') => ⟨.error e, s', [], []⟩

end Storage

end Rehearsal
