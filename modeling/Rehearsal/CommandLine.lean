import Rehearsal.Shell
import Rehearsal.Text.Typed

/-!
# The command line

Started with commands, the program runs them one after the other and ends, **even those after
an `exit`**. Started without, it reads lines: before each it shows a prompt, and it ends when
a line asked for it or when there are no more lines. Both ways a line goes through
`Shell.run`, so they narrate alike.

The clock is looked at when the program starts, and once for each line.

A line that is read is one that was typed: its backspaces take back what was typed before
them (`Text.typed`). In a command that is given they are characters like any other. A line
that is no text ends the reading.

The registry is stored in a file, and which folders
it and its backups are in can be chosen.
-/

namespace Rehearsal.CommandLine

/-! ## Arguments -/

/-- The folder of the stored registry, unless another is chosen. -/
def defaultStorage : Path := "./spu-bridge-storage"

/-- The folder of the backups, unless another is chosen. -/
def defaultBackups : Path := "./spu-backups"

/-- **What may be given to the program.** -/
def grammar : Grammar where
  name := "spu_shell"
  summary := "Simulated programming shell: narrates what short snippets of code would do."
  options :=
    [⟨"--storage-dir", none, "<storage-dir>", false,
        "directory holding the bridge registry (default ./spu-bridge-storage)."⟩,
      ⟨"--backup-dir", none, "<backup-dir>", false,
        "directory holding bridge backups (default ./spu-backups)."⟩,
      ⟨"--command", some "-c", "<command...>", true,
        "run this command and exit instead of starting the shell; may be repeated."⟩]
  places := []

/-- **What the program is to do.** -/
structure Settings where
  storage : Path
  backups : Path
  /-- The commands to run, if any, in the place of reading lines. -/
  commands : List String
deriving DecidableEq

/-- The settings that arguments make. -/
def Settings.ofArguments (a : Arguments) : Settings where
  storage := (a.values "--storage-dir").headD defaultStorage
  backups := (a.values "--backup-dir").headD defaultBackups
  commands := a.values "--command"

/-- What follows the reason for which arguments were not read. -/
def hint (r : Refusal) : String :=
  (if r = .afterHelp then "\n" else "\n\n") ++ "Run spu_shell --help for more information.\n"

/-! ## The shell -/

/-- A session as the program starts it, on a disk. -/
def session (now : Instant) (settings : Settings) (disk : Disk) : Session :=
  (Session.connect now (.new (.file settings.storage) disk .none) settings.backups).state

/-- What the shell says when it starts to read lines. -/
def banner : String :=
  "SPU started. Type commands to simulate programming, 'help' lists them.\n"

/-- What the shell shows before it reads a line. -/
def prompt (s : Session) : String := if s.awaitingClear then "> " else "spu> "

/-- What the shell says when there are no more lines. -/
def endOfInput : String := "Eof\n"

/-- What the shell says of a line that is no text. -/
def unreadable : String :=
  "Error: Io(Error \x7b kind: InvalidData, message: \"stream did not contain valid UTF-8\" \x7d)\n"

/-- **What the program wrote**, piece by piece, and the shell that it ended with. -/
structure Transcript where
  pieces : List String
  shell : Shell

/-- A transcript with a piece before it. -/
def Transcript.after (piece : String) (t : Transcript) : Transcript :=
  { t with pieces := piece :: t.pieces }

/-- **Run commands**, one after the other, each at its own instant. -/
def batch (clock : Clock) (sh : Shell) : List String → Transcript
  | [] => ⟨[], sh⟩
  | c :: cs =>
    let r := sh.run clock.now c
    (batch clock.later r.state cs).after r.narration

/-- **What comes of a line** that was read, or of the end of the input. -/
structure Turn where
  said : String
  shell : Shell
  /-- No line is to be read after this one, whatever the session says. -/
  last : Bool

/-- Run a line. -/
def Turn.ofLine (now : Instant) (sh : Shell) (line : String) : Turn :=
  let r := sh.run now line
  ⟨r.narration, r.state, false⟩

/-- **Take what was read**: a line as it was typed, or nothing at the end of the input. -/
def turn (now : Instant) (sh : Shell) : Option ByteArray → Turn
  | none => ⟨endOfInput, sh, true⟩
  | some octets =>
    match String.fromUTF8? octets with
    | none => ⟨unreadable, sh, true⟩
    | some line => .ofLine now sh (Text.typed line)

/-- **Read lines and run them**, each at its own instant, until one asks to end. -/
def interact (clock : Clock) (sh : Shell) (lines : List ByteArray) : Transcript :=
  if sh.session.shouldExit then ⟨[], sh⟩
  else
    match lines with
    | [] => ⟨[prompt sh.session, (turn clock.now sh none).said], sh⟩
    | l :: ls =>
      let t := turn clock.now sh (some l)
      if t.last then ⟨[prompt sh.session, t.said], t.shell⟩
      else ((interact clock.later t.shell ls).after t.said).after (prompt sh.session)

/-- The lines of an input. The last may lack its end. -/
def inputLines (input : ByteArray) : List ByteArray :=
  let pieces := input.toList.splitOn 0x0A
  let lines := if pieces.getLast? = some [] then pieces.dropLast else pieces
  lines.map fun piece => ⟨piece.toArray⟩

/-! ## The program -/

/-- **What the program came to**: its status, all it wrote, and the disk after it. -/
structure Result where
  status : Nat
  stdout : String
  stderr : String
  disk : Disk

/-- The result of a transcript. -/
def Transcript.result (t : Transcript) (opening : String) : Result :=
  ⟨0, opening ++ String.join t.pieces, "", t.shell.session.disk⟩

/-- The program with its settings read. -/
def runSettings (clock : Clock) (settings : Settings) (input : ByteArray) (disk : Disk) : Result :=
  let sh := Shell.standard (session clock.now settings disk)
  if settings.commands.isEmpty then
    (interact clock.later sh (inputLines input)).result banner
  else (batch clock.later sh settings.commands).result ""

/-- **The program**: from arguments, input and disk to its result, as the clock goes. -/
def run (clock : Clock) (args : List String) (input : ByteArray) (disk : Disk) : Result :=
  match grammar.read args with
  | .ok arguments => runSettings clock (.ofArguments arguments) input disk
  | .error .help => ⟨0, grammar.explain .help ++ "\n\n", "", disk⟩
  | .error r => ⟨1, "", grammar.explain r ++ hint r, disk⟩

end Rehearsal.CommandLine
