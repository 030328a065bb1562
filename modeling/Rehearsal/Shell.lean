import Rehearsal.Command.Builtin

/-!
# The shell

The shell takes a session and a table of commands from line to line. A line is trimmed;
its first word selects the command and the rest goes to it as it is. **After `bridge-clear` the
next line is the answer** and nothing else, whatever it holds.

No line fails: what no command knows is said to be unknown, and a command that
fails has its failure told.
-/

namespace Rehearsal

/-- **A shell**: its session, and the commands that it knows. -/
structure Shell where
  session : Session
  commands : CommandTable

namespace Shell

open Routine (say note)
open Text (isBlank trimStart trimmed)

/-- The first word of a trimmed line, and the rest without the blanks before it. -/
def splitLine (line : String) : String × String :=
  (String.ofList (line.toList.takeWhile fun c => !isBlank c),
    String.ofList (trimStart (line.toList.dropWhile fun c => !isBlank c)))

/-- Interpret a trimmed line that is not empty. -/
def interpret (commands : CommandTable) (now : Instant) (line : String) : Command := do
  note .debug ("interpreting command: " ++ line)
  match commands.find? now (splitLine line).1 (splitLine line).2 with
  | some command => command
  | none =>
    say ("command not recognized: " ++ line)
    pure (.ok ())

/-- **Act on a trimmed line**, which is an answer or a command. -/
def dispatch (commands : CommandTable) (now : Instant) (line : String) : Command := do
  let s ← get
  if s.awaitingClear then
    modify fun s => { s with awaitingClear := false }
    Builtin.confirmClear now line
  else if line = "" then pure (.ok ())
  else interpret commands now line

/-- **Run a line.** -/
def runLine (commands : CommandTable) (now : Instant) (line : String) : Routine Session Unit := do
  match ← dispatch commands now (trimmed line) with
  | .ok () => pure ()
  | .error f => say ("error executing command '" ++ trimmed line ++ "': " ++ f.account)

/-- A shell over a session, with all its commands. -/
def standard (s : Session) : Shell := ⟨s, Builtin.table⟩

/-- **A shell after a line**, with what it narrated and logged. -/
def run (sh : Shell) (now : Instant) (line : String) : Reply Shell Unit :=
  let r := runLine sh.commands now line sh.session
  ⟨(), { sh with session := r.state }, r.lines, r.log⟩

end Shell

end Rehearsal
