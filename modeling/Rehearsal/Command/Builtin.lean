import Rehearsal.Bridge.Statistics
import Rehearsal.Command
import Rehearsal.Command.Usage
import Rehearsal.Snippet

/-!
# The commands of the shell

There are fourteen commands. All but `simulate` read the rest of their line as words, by a
grammar that also writes their help; `simulate` takes the rest of the line as it is. What a
line asks for (`Builtin.request?`) is found without the session; what a command does
(`Builtin.attempt`) is a routine on it.

A command that fails says so under its own name and is done. `bridge-clear` only asks:
the line after it is the answer, and `Builtin.confirmClear` acts on that.
-/

namespace Rehearsal

/-- **A command of the shell**, with its arguments. -/
inductive Builtin where
  | load (library : String)
  | status
  | simulate (code : String)
  | runFile (path : Path)
  | bridgeStats
  | bridgeList
  | bridgeClear
  | bridgeRemove (name : String)
  | bridgeSave
  | bridgeBackup (name : Option String)
  | bridgeRestore (name : String)
  | bridgeListBackups
  | help
  | exit
deriving DecidableEq

namespace Builtin

open Routine (say sayAll)
open Text (wordsOf)

/-! ## Reading a line -/

/-- The word that names a command. -/
def name : Builtin → String
  | .load _ => "load"
  | .status => "status"
  | .simulate _ => "simulate"
  | .runFile _ => "run-file"
  | .bridgeStats => "bridge-stats"
  | .bridgeList => "bridge-list"
  | .bridgeClear => "bridge-clear"
  | .bridgeRemove _ => "bridge-remove"
  | .bridgeSave => "bridge-save"
  | .bridgeBackup _ => "bridge-backup"
  | .bridgeRestore _ => "bridge-restore"
  | .bridgeListBackups => "bridge-list-backups"
  | .help => "help"
  | .exit => "exit"

/-- **A command that reads words**: its grammar, and the command that the words in its places
make. -/
structure Reader where
  grammar : Grammar
  make : List String → Builtin

/-- A command without arguments. -/
def Reader.plain (b : Builtin) (summary : String) : Reader where
  grammar := ⟨b.name, summary, [], []⟩
  make _ := b

/-- A command of one word. -/
def Reader.ofWord (make : String → Builtin) (summary place description : String) : Reader where
  grammar := ⟨(make "").name, summary, [], [⟨place, .one, description⟩]⟩
  make words := make (words.headD "")

/-- **The commands that read words.** -/
def readers : List Reader :=
  [.ofWord .load "Load a simulated library so `library.method(...)` calls resolve to it."
      "library" "name of the library to load.",
    .plain .status "Show the variables held in virtual memory.",
    .ofWord .runFile "Read a file and simulate its contents." "path" "path of the source file.",
    .plain .bridgeStats "Show how many functions the bridge holds and which are called most.",
    .plain .bridgeList "List the functions registered in the bridge.",
    .plain .bridgeClear "Remove every function from the bridge. Asks for confirmation first.",
    .ofWord .bridgeRemove "Remove one function from the bridge."
      "name" "name of the function to remove.",
    .plain .bridgeSave "Write the bridge registry to storage now.",
    { grammar := ⟨"bridge-backup", "Copy the current bridge registry into a named backup.", [],
        [⟨"name", .optional, "backup name; defaults to one derived from the current time."⟩]⟩
      make := fun words => .bridgeBackup words.head? },
    .ofWord .bridgeRestore "Replace the bridge registry with a backup."
      "name" "name of the backup to restore.",
    .plain .bridgeListBackups "List available backups, newest first.",
    .plain .help "List the available commands.",
    { grammar := ⟨"exit", "Leave the interactive shell.", [], [⟨"args", .rest, "ignored."⟩]⟩
      make := fun _ => .exit }]

/-- **What a line asks for.** -/
inductive Request where
  | command (b : Builtin)
  /-- The words were not read. -/
  | refused (g : Grammar) (r : Refusal)
deriving DecidableEq

/-- What words ask for. -/
def Reader.request (r : Reader) (words : List String) : Request :=
  match r.grammar.read words with
  | .ok arguments => .command (r.make arguments.words)
  | .error refusal => .refused r.grammar refusal

/-- **What a line asks for**, by its first word and the rest. A word that names no command
asks for nothing. -/
def request? (word payload : String) : Option Request :=
  if word = "simulate" then some (.command (.simulate payload))
  else
    (readers.find? fun r => r.grammar.name == word).map fun r => r.request (wordsOf payload)

/-! ## What is shown -/

/-- A line between a title and what is below it. -/
def ruler : String := String.ofList (List.replicate 50 '=')

/-- The variables. -/
def statusLines (vars : Variables) : List String :=
  ("variables: " ++ toString vars.size)
    :: vars.entries.map fun (name, value) => "   " ++ name ++ " = " ++ value

/-- How many of the functions called most are shown. -/
def topCalled : Nat := 5

/-- The number of functions of a language. -/
def languageLine (tag : String) (n : Nat) : String :=
  "   " ++ tag ++ ": " ++ toString n ++ " functions"

/-- A function in the ranking by calls, with its place there. -/
def rankLine (place : Nat) (name : String) (f : FunctionRecord) : String :=
  "   " ++ toString place ++ ". " ++ name ++ " (" ++ f.lang.tag ++ "): " ++ toString f.callCount
    ++ " calls"

/-- **The statistics of a registry.** -/
def statisticsLines (r : Registry) : List String :=
  ["cross-language bridge statistics", ruler, "total functions: " ++ toString r.size, "",
      "by language:"]
    ++ r.byLanguage.entries.map (fun (tag, n) => languageLine tag n)
    ++ ["", "most called:"]
    ++ ((r.mostCalled.take topCalled).zipIdx 1).map fun ((name, f), place) =>
      rankLine place name f

/-- **The functions of a registry.** -/
def listLines (r : Registry) : List String :=
  if r.size = 0 then ["no functions registered"]
  else r.rows.map fun row =>
    "   " ++ row.name ++ "(" ++ row.params ++ ") [" ++ row.lang.tag ++ "]: " ++ toString row.calls
      ++ " calls, last called " ++ row.lastCalled

/-- Octets in units of 1024, rounded, a half upwards. -/
def kilobytes (octets : Nat) : Nat := (octets + 512) / 1024

/-- A backup in the list, with its place there. -/
def backupLines (place : Nat) (b : Backup) : List String :=
  [toString place ++ ". " ++ b.name,
    "   created: " ++ Instant.dateTimeText b.createdAt,
    "   size: " ++ toString (kilobytes b.size) ++ " KB"]

/-- **The list of backups.** -/
def backupListLines (backups : List Backup) : List String :=
  ["available backups:", ruler]
    ++ (if backups.isEmpty then ["   no backups found"]
        else (backups.zipIdx 1).flatMap fun (b, place) => backupLines place b)

/-- The commands, and what each is for. -/
def overview : List (String × String) :=
  [("load <lib>", "load a simulated library"),
    ("status", "show virtual memory"),
    ("simulate <code>", "simulate a snippet of code"),
    ("run-file <path>", "simulate the contents of a file"),
    ("bridge-stats", "bridge statistics"),
    ("bridge-list", "list registered functions"),
    ("bridge-clear", "remove all functions (asks for confirmation)"),
    ("bridge-remove <name>", "remove one function"),
    ("bridge-save", "save the bridge registry"),
    ("bridge-backup [name]", "back up the bridge registry"),
    ("bridge-restore <name>", "restore a backup"),
    ("bridge-list-backups", "list backups"),
    ("help", "show this list"),
    ("exit", "leave the shell")]

/-- The list of the commands. -/
def helpLines : List String :=
  "available commands:"
    :: overview.map fun (usage, purpose) => "   " ++ paddedTo 24 usage ++ " " ++ purpose

/-! ## What commands do -/

/-- A routine on the bridge that may fail, and what to say if it does not. -/
def onBridge {α : Type} (m : Routine Bridge (Except StorageError α)) (told : α → String) :
    Command := do
  match ← Session.onBridge m with
  | .error e => pure (.error (.ofStorage e))
  | .ok x =>
    say (told x)
    pure (.ok ())

/-- Load a library. -/
def loadLibrary (library : String) : Command := do
  if ← Session.onLibraries (Libraries.load library) then
    say ("library '" ++ library ++ "' loaded")
  else say ("library '" ++ library ++ "' is already loaded")
  pure (.ok ())

/-- Simulate a text. -/
def simulateText (now : Instant) (code : String) : Command := do
  let _ ← Snippet.simulate now code
  pure (.ok ())

/-- Simulate the text of a file. -/
def simulateFile (now : Instant) (path : Path) : Command := do
  let s ← get
  match s.disk.readText path with
  | .error e => pure (.error ⟨["can't read " ++ path, e.message]⟩)
  | .ok code => simulateText now code

/-- Ask whether all functions shall be removed. -/
def askClear : Command := do
  modify fun s => { s with awaitingClear := true }
  sayAll ["are you sure you want to remove ALL functions from the bridge?",
    "   type \"CONFIRM\" to proceed:"]
  pure (.ok ())

/-- Show something of the session. -/
def tell (lines : Session → List String) : Command := do
  let s ← get
  sayAll (lines s)
  pure (.ok ())

/-- Show the backups. -/
def tellBackups : Command := do
  let s ← get
  let backups ← Session.onBridge (Backup.list s.backupRoot)
  sayAll (backupListLines backups)
  pure (.ok ())

/-- Make a backup. -/
def backUp (now : Instant) (name : Option String) : Command := do
  let s ← get
  onBridge (Backup.create now s.backupRoot name) fun path => "backup created: " ++ path

/-- Restore a backup. -/
def restore (now : Instant) (name : String) : Command := do
  let s ← get
  onBridge (Backup.restore now s.backupRoot name) fun n =>
    "backup '" ++ name ++ "' restored, " ++ toString n ++ " functions loaded"

/-- **What a command does**, and whether it fails. -/
def attempt (now : Instant) : Builtin → Command
  | .load library => loadLibrary library
  | .status => tell fun s => statusLines s.vars
  | .simulate code => simulateText now code
  | .runFile path => simulateFile now path
  | .bridgeStats => tell fun s => statisticsLines s.bridge.registry
  | .bridgeList => tell fun s => listLines s.bridge.registry
  | .bridgeClear => askClear
  | .bridgeRemove name =>
    onBridge (Bridge.unregister now name) fun found =>
      "function '" ++ name ++ "' " ++ if found then "removed from the bridge" else "not found"
  | .bridgeSave => onBridge (Bridge.save now) fun _ => "bridge state saved"
  | .bridgeBackup name => backUp now name
  | .bridgeRestore name => restore now name
  | .bridgeListBackups => tellBackups
  | .help => tell fun _ => helpLines
  | .exit => do
    modify fun s => { s with shouldExit := true }
    pure (.ok ())

/-- **A command run.** A failure is said under its name. -/
def run (now : Instant) (b : Builtin) : Command := do
  match ← b.attempt now with
  | .ok () => pure (.ok ())
  | .error f =>
    say (b.name ++ ": " ++ f.account)
    pure (.ok ())

/-- What a line asks for, done. -/
def Request.run (now : Instant) : Request → Command
  | .command b => b.run now
  | .refused g r => do
    say (g.explain r)
    pure (.ok ())

/-- **The table of the commands of the shell.** -/
def table : CommandTable :=
  [fun now word payload => (request? word payload).map fun r => r.run now]

/-! ## The answer to `bridge-clear` -/

/-- The answer that removes all functions. -/
def confirmation : String := "CONFIRM"

/-- **Act on the answer** whether all functions shall be removed. -/
def confirmClear (now : Instant) (answer : String) : Command := do
  if answer = confirmation then
    match ← Session.onBridge (Bridge.clear now) with
    | .ok n => say (toString n ++ " functions removed from the bridge")
    | .error e => say ("error clearing the bridge: " ++ e.message)
  else say "operation cancelled"
  pure (.ok ())

end Builtin

end Rehearsal
