import Rehearsal.Backup
import Rehearsal.Library

/-!
# Sessions

A session is all that a command may look at or change. Its parts do not know of each
other: the variables that snippets assigned, the loaded libraries, the bridge, and the
two flags by which one line acts on the next. The disk is in the storage of the bridge.
-/

namespace Rehearsal

/-- **The variables**: the text last assigned to each name, never evaluated. -/
abbrev Variables := SortedMap String String

/-- **A session of the shell.** -/
structure Session where
  vars : Variables
  libraries : Libraries
  bridge : Bridge
  /-- The folder below which the backups are. -/
  backupRoot : Path
  /-- The next line answers whether all functions shall be removed. -/
  awaitingClear : Bool
  /-- No further line is to be read. -/
  shouldExit : Bool

namespace Session

/-- The disk that the session works on. -/
def disk (s : Session) : Disk := s.bridge.storage.disk

/-- A routine on the bridge, on the session. -/
def onBridge {α : Type} (m : Routine Bridge α) : Routine Session α :=
  m.on Session.bridge fun b s => { s with bridge := b }

@[simp] theorem onBridge_apply {α : Type} (m : Routine Bridge α) (s : Session) :
    onBridge m s = ⟨(m s.bridge).value, { s with bridge := (m s.bridge).state },
      (m s.bridge).lines, (m s.bridge).log⟩ := rfl

/-- A routine on the libraries, on the session. -/
def onLibraries {α : Type} (m : Routine Libraries α) : Routine Session α :=
  m.on Session.libraries fun ls s => { s with libraries := ls }

@[simp] theorem onLibraries_apply {α : Type} (m : Routine Libraries α) (s : Session) :
    onLibraries m s = ⟨(m s.libraries).value, { s with libraries := (m s.libraries).state },
      (m s.libraries).lines, (m s.libraries).log⟩ := rfl

/-- Assign a variable. -/
def assign (name value : String) : Routine Session Unit :=
  modify fun s => { s with vars := s.vars.insert name value }

@[simp] theorem assign_apply (name value : String) (s : Session) :
    assign name value s
      = ⟨(), { s with vars := s.vars.insert name value }, [], []⟩ := rfl

/-- **A session over a storage**, with nothing in it but what is stored there. -/
def connect (now : Instant) (storage : Storage) (backupRoot : Path) : Reply Session Unit :=
  let r := Bridge.connect now storage
  ⟨(), ⟨SortedMap.empty, SortedMap.empty, r.state, backupRoot, false, false⟩, r.lines, r.log⟩

end Session

end Rehearsal
