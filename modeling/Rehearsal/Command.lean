import Rehearsal.Session

/-!
# Commands

A command is a routine on the session that may fail. A failure is told with all that is
behind it. A **table of commands** is asked with the first word of a line and the rest of
it, entry by entry, and the first entry that knows the word makes the command.
-/

namespace Rehearsal

/-- **A failure**: what went wrong and what is behind it, outermost first. -/
structure Failure where
  chain : List String
deriving DecidableEq

namespace Failure

/-- The failure with all that is behind it, in words. -/
def account (f : Failure) : String := ": ".intercalate f.chain

/-- A fault of the storage as a failure. -/
def ofStorage (e : StorageError) : Failure := ⟨e.chain⟩

end Failure

/-- **A command.** -/
abbrev Command := Routine Session (Except Failure Unit)

/-- **What knows commands**: at an instant, for the first word of a line and the rest of it. -/
abbrev CommandTable := List (Instant → String → String → Option Command)

namespace CommandTable

/-- The command of the first entry that knows the word. -/
def find? (t : CommandTable) (now : Instant) (word payload : String) : Option Command :=
  t.findSome? fun entry => entry now word payload

end CommandTable

end Rehearsal
