import Rehearsal.CommandLine
import Std.Time

/-!
# The program

The shell works on a disk that is a value. The program gives it one: before each line it
looks at the places that the line may reach, and after the line it brings what has changed there
to the files. These places are the folder of the stored registry, the folder of the backups
with what is two levels below it, and whatever path a word of the line may be.
-/

namespace Rehearsal.Program

open CommandLine

/-- The instant that it is. -/
def clock : IO Instant := do
  let t ← Std.Time.Timestamp.now
  return Int64.ofInt t.toMillisecondsSinceUnixEpoch.val

/-- The instant of a time stamp of the file system. -/
def instantOf (t : IO.FS.SystemTime) : Instant :=
  Int64.ofInt (t.sec * 1000 + t.nsec.toNat / 1000000)

/-- The absolute path of a location. -/
def pathOf (l : Location) : String := "/" ++ "/".intercalate l

/-- What is at a location, if it is a file or a folder that can be looked at. -/
def look (l : Location) : IO (Option Node) := do
  let p := (← IO.currentDir) / pathOf l
  try
    let m ← p.metadata
    match m.type with
    | .dir => return some (.folder (instantOf m.modified))
    | .file => return some (.file (← IO.FS.readBinFile p))
    | _ => return none
  catch _ => return none

/-- A disk with what is at a location. -/
def lookAt (d : Disk) (l : Location) : IO Disk := do
  match ← look l with
  | some n => return d.put l n
  | none => return d

/-- A disk with what is below a location, so many levels. -/
def lookBelow : Nat → Location → Disk → IO Disk
  | 0, _, d => return d
  | levels + 1, l, d => do
    let entries ← try ((← IO.currentDir) / pathOf l).readDir catch _ => pure #[]
    entries.foldlM (fun d e => do
      let l' := l ++ [e.fileName]
      lookBelow levels l' (← lookAt d l')) d

/-- Where names lead from a location, if all on the way are folders. -/
def follow (l : Location) : List String → Location
  | [] => l
  | "." :: names => follow l names
  | ".." :: names => follow l.dropLast names
  | name :: names => follow (l ++ [name]) names

/-- A disk with what is on the way to the end of a path. -/
def lookAlong (d : Disk) (p : Path) : IO Disk :=
  (Disk.beginnings (Path.names p)).foldlM (fun d names => lookAt d (follow (d.startOf p) names)) d

/-- **The disk that a line may reach.** -/
def survey (settings : Settings) (line : String) : IO Disk := do
  let home := (← IO.currentDir).components.filter (· ≠ "")
  let d ← (Disk.beginnings home).foldlM lookAt ⟨SortedMap.empty, home⟩
  let d ← lookAlong d (Store.documentPath settings.storage)
  let d ← lookAlong d settings.backups
  let d ← lookBelow 2 (follow (d.startOf settings.backups) (Path.names settings.backups)) d
  (Text.wordsOf line).foldlM lookAlong d

/-- **Bring what has changed to the files.** -/
def settle (before after : Disk) : IO Unit :=
  after.nodes.entries.forM fun (l, n) =>
    match before.node? l, n with
    | some (.folder _), .folder _ => pure ()
    | _, .folder _ => IO.FS.createDirAll (pathOf l)
    | some (.file old), .file octets =>
      if old == octets then pure () else IO.FS.writeBinFile (pathOf l) octets
    | _, .file octets => IO.FS.writeBinFile (pathOf l) octets

/-- The shell on another disk. -/
def onDisk (sh : Shell) (d : Disk) : Shell :=
  let s := sh.session
  { sh with session :=
    { s with bridge := { s.bridge with storage := { s.bridge.storage with disk := d } } } }

/-- A shell that has just started. -/
def start (settings : Settings) : IO Shell := do
  return .standard (session (← clock) settings (← survey settings ""))

/-- A turn of the shell on account of a line, with its effect on the files. -/
def take (settings : Settings) (sh : Shell) (line : String) (turn : Instant → Shell → Turn) :
    IO Turn := do
  let before ← survey settings line
  let t := turn (← clock) (onDisk sh before)
  settle before t.shell.session.disk
  IO.print t.said
  (← IO.getStdout).flush
  return t

/-- Run commands, one after the other. -/
def runAll (settings : Settings) (sh : Shell) : List String → IO Unit
  | [] => return
  | c :: cs => do
    let t ← take settings sh c fun now sh => .ofLine now sh c
    runAll settings t.shell cs

/-- The octets of a line without its end, or nothing at the end of the input. -/
partial def readLine (input : IO.FS.Stream) (begun : ByteArray) : IO (Option ByteArray) := do
  let octet ← input.read 1
  if octet.isEmpty then return if begun.isEmpty then none else some begun
  else if octet = "\n".toUTF8 then return some begun
  else readLine input (begun ++ octet)

/-- Read lines and run them, until one asks to end. -/
partial def converse (settings : Settings) (input : IO.FS.Stream) (sh : Shell) : IO Unit := do
  unless sh.session.shouldExit do
    IO.print (prompt sh.session)
    (← IO.getStdout).flush
    let octets ← readLine input ByteArray.empty
    let line := Text.typed ((octets.bind String.fromUTF8?).getD "")
    let t ← take settings sh line fun now sh => turn now sh octets
    unless t.last do converse settings input t.shell

/-- The program with its settings read. -/
def runSettings (settings : Settings) : IO Unit := do
  let sh ← start settings
  if settings.commands.isEmpty then
    IO.print banner
    converse settings (← IO.getStdin) sh
  else runAll settings sh settings.commands

end Rehearsal.Program

open Rehearsal in
/-- **The program.** What it cannot read of its arguments it tells as `CommandLine.run` does. -/
def main (args : List String) : IO UInt32 := do
  match CommandLine.grammar.read args with
  | .ok arguments =>
    Program.runSettings (.ofArguments arguments)
    return 0
  | .error _ =>
    let r := CommandLine.run (Clock.still 0) args ByteArray.empty (Disk.fresh 0 [])
    IO.print r.stdout
    IO.eprint r.stderr
    return UInt32.ofNat r.status
