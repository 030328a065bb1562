import Rehearsal.Disk.Path
import Rehearsal.Instant
import Rehearsal.SortedMap

/-!
# Files and folders

A disk is a value: the map from locations to what is there, a file with its octets
or a folder with the instant it was made. **A location** is the list of names from the
root down, so a path is *resolved* to a location before anything is looked up. One of the
folders is the working folder, where paths that are not absolute start.

Resolving walks the path name by name. Each name is looked up in what the names before
it lead to, which has to be a folder; `.` stays there and `..` goes up. What can go
wrong on the way comes first: a missing folder before a name that is too long, a
file in the place of a folder before either.

Writing a file either fails and leaves the disk as it is or changes one location. **A write
that fails half way is left out**, with the file emptied or its octets there in part.
`makeFolders` changes as many locations as it must: it makes the missing folders of a path
from the top down, and those made before a failure stay. `remove` takes away a location
with all that is below it.
-/

namespace Rehearsal

/-- **What can go wrong with a file.** -/
inductive FileError where
  | notFound
  | alreadyExists
  | notFolder
  | isFolder
  | nameTooLong
  /-- A path holds the character NUL. -/
  | nulInPath
  /-- The octets of a file are no text. -/
  | notText
  /-- The access was refused. -/
  | refused (access : String)
deriving DecidableEq

namespace FileError

/-- The fault in words. -/
def message : FileError → String
  | .notFound => "No such file or directory (os error 2)"
  | .alreadyExists => "File exists (os error 17)"
  | .notFolder => "Not a directory (os error 20)"
  | .isFolder => "Is a directory (os error 21)"
  | .nameTooLong => "File name too long (os error 36)"
  | .nulInPath => "file name contained an unexpected NUL byte"
  | .notText => "stream did not contain valid UTF-8"
  | .refused access => access ++ " refused"

end FileError

/-- **A place on a disk**: the names from the root down. -/
abbrev Location := List String

/-- **What is at a place.** -/
inductive Node where
  | file (octets : ByteArray)
  | folder (created : Instant)

/-- **A disk**: what is where, and the working folder. -/
structure Disk where
  nodes : SortedMap Location Node
  home : Location

namespace Disk

/-- The beginnings of a list, from the empty one to the list itself. -/
def beginnings (names : List String) : List (List String) :=
  (List.range (names.length + 1)).map names.take

/-- A disk with nothing in its working folder. -/
def fresh (now : Instant) (home : Location) : Disk :=
  ⟨SortedMap.ofList ((beginnings home).map fun l => (l, .folder now)), home⟩

/-- What is at a location. -/
def node? (d : Disk) (l : Location) : Option Node := d.nodes.get? l

/-- The disk with something at a location. -/
def put (d : Disk) (l : Location) (n : Node) : Disk := { d with nodes := d.nodes.insert l n }

/-- The longest name, in octets. -/
def nameLimit : Nat := 255

/-- The longest path, in octets. -/
def pathLimit : Nat := 4095

/-- **Walk down from a location** along names. Where the walk ends there may be nothing. -/
def walk (d : Disk) : Location → List String → Except FileError Location
  | here, [] => .ok here
  | here, name :: names =>
    match d.node? here with
    | none => .error .notFound
    | some (.file _) => .error .notFolder
    | some (.folder _) =>
      if name = "." then d.walk here names
      else if name = ".." then d.walk here.dropLast names
      else if nameLimit < name.utf8ByteSize then .error .nameTooLong
      else d.walk (here ++ [name]) names

/-- Where a path starts. -/
def startOf (d : Disk) (p : Path) : Location := if Path.isAbsolute p then [] else d.home

/-- **The location that a path leads to.** -/
def resolve (d : Disk) (p : Path) : Except FileError Location :=
  if '\x00' ∈ p.toList then .error .nulInPath
  else if p = "" then .error .notFound
  else if pathLimit < p.utf8ByteSize then .error .nameTooLong
  else d.walk (d.startOf p) (Path.names p)

/-- What a path leads to, with its location. -/
def find (d : Disk) (p : Path) : Except FileError (Location × Node) :=
  (d.resolve p).bind fun l =>
    match d.node? l with
    | none => .error .notFound
    | some (.file octets) =>
      if Path.asksFolder p then .error .notFolder else .ok (l, .file octets)
    | some (.folder created) => .ok (l, .folder created)

/-- There is something where a path leads. -/
def exists? (d : Disk) (p : Path) : Bool := (d.find p).toOption.isSome

/-- There is a folder where a path leads. -/
def isFolder (d : Disk) (p : Path) : Bool :=
  match d.find p with
  | .ok (_, .folder _) => true
  | _ => false

/-- **The octets of a file.** -/
def read (d : Disk) (p : Path) : Except FileError ByteArray :=
  match d.find p with
  | .ok (_, .file octets) => .ok octets
  | .ok (_, .folder _) => .error .isFolder
  | .error e => .error e

/-- The text of a file. -/
def readText (d : Disk) (p : Path) : Except FileError String :=
  (d.read p).bind fun octets =>
    match String.fromUTF8? octets with
    | some s => .ok s
    | none => .error .notText

/-- **The disk with a file written**, in place of any file there: as a whole, or not at all. -/
def write (d : Disk) (p : Path) (octets : ByteArray) : Except FileError Disk :=
  (d.resolve p).bind fun l =>
    match d.node? l with
    | some (.folder _) => .error .isFolder
    | some (.file _) =>
      if Path.asksFolder p then .error .notFolder else .ok (d.put l (.file octets))
    | none => if Path.asksFolder p then .error .isFolder else .ok (d.put l (.file octets))

/-! ## Folders -/

/-- The disk with a folder made at the end of a walk. -/
def makeFolderAt (d : Disk) (now : Instant) (start : Location) (names : List String) :
    Except FileError Disk :=
  (d.walk start names).bind fun l =>
    match d.node? l with
    | some _ => .error .alreadyExists
    | none => .ok (d.put l (.folder now))

/-- A walk ends at a folder. -/
def leadsToFolder (d : Disk) (start : Location) (names : List String) : Bool :=
  match (d.walk start names).map d.node? with
  | .ok (some (.folder _)) => true
  | _ => false

/-- A folder made at the end of a walk, or found there. -/
def ensureFolderAt (d : Disk) (now : Instant) (start : Location) (names : List String) :
    Except FileError Disk :=
  match d.makeFolderAt now start names with
  | .error .alreadyExists =>
    if d.leadsToFolder start names then .ok d else .error .alreadyExists
  | outcome => outcome

/-- The first walk of a list made a folder, those after it being the way there: if it cannot
be made for want of the way, the way is made first. The disk after a failure holds
the folders made before it. -/
def makeWay (now : Instant) (start : Location) :
    List (List String) → Disk → Except FileError Unit × Disk
  | [], d => (.ok (), d)
  | names :: way, d =>
    match d.ensureFolderAt now start names with
    | .ok d' => (.ok (), d')
    | .error .notFound =>
      match makeWay now start way d with
      | (.ok (), d') =>
        match d'.ensureFolderAt now start names with
        | .ok d'' => (.ok (), d'')
        | .error e => (.error e, d')
      | (.error e, d') => (.error e, d')
    | .error e => (.error e, d)

/-- The folders on the way to the end of a path, from the last to the first. -/
def wayTo (names : List String) : List (List String) :=
  ((beginnings (names.filter (· ≠ ".")).dropLast).filter (· ≠ [])).reverse

/-- **A folder made with all that is missing above it.** -/
def makeFolders (d : Disk) (now : Instant) (p : Path) : Except FileError Unit × Disk :=
  if p = "" then (.ok (), d)
  else if '\x00' ∈ p.toList then (.error .nulInPath, d)
  else if pathLimit < p.utf8ByteSize then (.error .nameTooLong, d)
  else makeWay now (d.startOf p) (Path.names p :: wayTo (Path.names p)) d

/-- What is directly in the folder at a location, by name. -/
def children (d : Disk) (l : Location) : List (String × Node) :=
  d.nodes.entries.filterMap fun (k, n) =>
    k.getLast?.bind fun name => if k.dropLast = l then some (name, n) else none

/-- **What is directly in a folder**, with the location of the folder. -/
def list (d : Disk) (p : Path) : Except FileError (Location × List (String × Node)) :=
  match d.find p with
  | .ok (l, .folder _) => .ok (l, d.children l)
  | .ok (_, .file _) => .error .notFolder
  | .error e => .error e

/-- The disk without what a path leads to and all that is below it. -/
def remove (d : Disk) (p : Path) : Disk :=
  match d.resolve p with
  | .ok l => { d with nodes := d.nodes.filterKeys fun k => ¬l.isPrefixOf k }
  | .error _ => d

/-- What is below the working folder, by the names from there. -/
def contents (d : Disk) : List (List String × Node) :=
  d.nodes.entries.filterMap fun (k, n) =>
    if d.home.isPrefixOf k ∧ k ≠ d.home then some (k.drop d.home.length, n) else none

/-! ## What a change does to the look-ups -/

@[simp] theorem node?_put_self (d : Disk) (l : Location) (n : Node) :
    (d.put l n).node? l = some n :=
  SortedMap.get?_insert_self _ _ _

theorem node?_put_of_ne (d : Disk) {l l' : Location} (h : l' ≠ l) (n : Node) :
    (d.put l n).node? l' = d.node? l' :=
  SortedMap.get?_insert_of_ne _ h _

@[simp] theorem home_put (d : Disk) (l : Location) (n : Node) : (d.put l n).home = d.home := rfl

end Disk

end Rehearsal
