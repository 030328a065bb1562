import Rehearsal.Proofs.Bridge.Run
import Rehearsal.Proofs.Shell.Mirrored

/-!
# Tasks, over one store or the other

All that a session can be asked for is a **task**: a line to run, or directly one of the things that
lines do, each with a result of its own kind (`Task.Result`). In between, something else may happen
to the disk (`Disk.Change`).

Where the document is kept makes no difference to any of it. A run of tasks over a store in a file
and the same run over a store in memory that begins with the same document give, task by task, the
same results, the same narration, the same session in memory, the same document and the same
backups (`Task.file_store_as_memory_store`). That is not so without condition. The folder of the
store has to be there or be one that can be made, for in memory there is nothing that could fail
(`Task.memory_store_below_file`). And nothing else may meddle with the store on the disk
(`Task.Avoids`).
-/

namespace Rehearsal

open Routine (Agree)
open Store (documentPath)

variable {d₀ : Disk} {folder root : Path} {now : Instant} {s s' : Session}

/-! ## Operations of the bridge -/

namespace Bridge

theorem agree_run (op : Operation) : Agree (Mirrors d₀ folder) (op.run now) (op.run now) := by
  cases op with
  | register name lang params body => exact agree_register name lang params body
  | unregister name => exact agree_unregister name
  | clear => exact agree_clear
  | call name args => exact agree_call name args
  | save => exact agree_save
  | load => exact agree_load
  | reopen => exact agree_connect

end Bridge

/-! ## What happens to the disk besides -/

/-- **A change of the disk** that is none of the session's. -/
inductive Disk.Change where
  | makeFolders (p : Path)
  | write (p : Path) (octets : ByteArray)
  | remove (p : Path)

namespace Disk.Change

/-- The disk after a change. What cannot be done leaves it as it is, but for folders made on the
way. -/
def on (now : Instant) : Change → Disk → Disk
  | .makeFolders p, d => (d.makeFolders now p).2
  | .write p octets, d => (outcomeOf d (d.write p octets)).2
  | .remove p, d => d.remove p

/-- **A change avoids a store**: it takes place past its footprint, and nothing is removed that the
store is in. -/
def Avoids (d₀ : Disk) (folder : Path) : Change → Prop
  | .makeFolders p => (d₀.footprint folder).Passes d₀ p
  | .write p _ => (d₀.footprint folder).Passes d₀ p
  | .remove p => (d₀.footprint folder).Passes d₀ p
    ∧ ∀ l ∈ d₀.home :: d₀.place (documentPath folder) :: d₀.route folder, ¬d₀.place p <+: l

end Disk.Change

/-- The session with a change made to its disk. -/
def Session.withChange (now : Instant) (c : Disk.Change) (s : Session) : Session :=
  s.withBridge { s.bridge with storage := { s.bridge.storage with disk := c.on now s.disk } }

/-- **A change that avoids the store** keeps sessions mirrors of each other. -/
theorem Session.Mirrors.withChange (hs : Session.Mirrors d₀ folder root s s') {c : Disk.Change}
    (hc : c.Avoids d₀ folder) (now : Instant) :
    Session.Mirrors d₀ folder root (s.withChange now c) (s'.withChange now c) := by
  refine ⟨{ hs.alike with }, hs.backups, hs.backups', ?_⟩
  cases c with
  | makeFolders p => exact (hs.storage.makeFolders hc now).2
  | write p octets => exact (hs.storage.writeFile hc octets).2
  | remove p => exact hs.storage.remove hc.1 hc.2

/-- The session with a document that it keeps in memory. -/
def Session.inMemory (document : Option ByteArray) (s : Session) : Session :=
  s.withBridge { s.bridge with
    storage := { s.bridge.storage with store := .memory document } }

/-! ## Tasks -/

/-- **What may happen to a session**: what it can be asked for, by a line or directly, and a change
of its disk from outside. -/
inductive Task where
  /-- Run a line. -/
  | line (text : String)
  | assign (name value : String)
  | load (library : String)
  | bridge (op : Bridge.Operation)
  /-- Make a backup. -/
  | create (name? : Option String)
  | restore (name : String)
  /-- List the backups. -/
  | backups
  | simulate (code : String)
  /-- Execute one action as one of a language. -/
  | execute (lang : Language) (kind : Action.Kind)
  | outside (change : Disk.Change)

namespace Task

open Session (Mirrors)

/-- What a task gives. -/
def Result : Task → Type
  | .line _ => Unit
  | .assign _ _ => Unit
  | .load _ => Bool
  | .bridge op => op.Result
  | .create _ => Except StorageError Path
  | .restore _ => Except StorageError Nat
  | .backups => List Backup
  | .simulate _ => List Outcome
  | .execute _ _ => Except StorageError Outcome
  | .outside _ => Unit

/-- **A task run.** -/
def run (now : Instant) : (t : Task) → Routine Session t.Result
  | .line text => Shell.runLine Builtin.table now text
  | .assign name value => Session.assign name value
  | .load library => Session.onLibraries (Libraries.load library)
  | .bridge op => Session.onBridge (op.run now)
  | .create name? => get >>= fun s => Session.onBridge (Backup.create now s.backupRoot name?)
  | .restore name => get >>= fun s => Session.onBridge (Backup.restore now s.backupRoot name)
  | .backups => get >>= fun s => Session.onBridge (Backup.list s.backupRoot)
  | .simulate code => Snippet.simulate now code
  | .execute lang kind => Snippet.execute now lang kind
  | .outside change => modify (Session.withChange now change)

/-- The session after a task. -/
def after (now : Instant) (t : Task) (s : Session) : Session := (t.run now s).state

/-- **A task avoids the store** on the disk: a line that simulates a file does not come by the
document of the store, and neither does what happens from outside. -/
def Avoids (d₀ : Disk) (folder : Path) (s : Session) : Task → Prop
  | .line text => s.awaitingClear = false → ∀ path, Shell.command? text = some (.runFile path) →
      (d₀.footprint folder).Clear (d₀.startOf path) (Path.names path)
  | .outside change => change.Avoids d₀ folder
  | _ => True

/-- **A task does the same** in sessions that mirror each other. -/
theorem agrees_run (hroot : (d₀.footprint folder).Spares d₀ root) {t : Task}
    (hs : Mirrors d₀ folder root s s') (ht : t.Avoids d₀ folder s) :
    (t.run now s).Agrees (Mirrors d₀ folder root) (t.run now s') := by
  cases t with
  | line text => exact Shell.agrees_runLine hroot hs ht
  | assign name value => exact Session.agree_assign name value s s' hs
  | load library => exact Session.agree_onLibraries _ s s' hs
  | bridge op => exact Session.agree_onBridge (Bridge.agree_run op) s s' hs
  | create name? =>
    exact Session.agree_backupRoot (m := fun root => Session.onBridge (Backup.create now root name?))
      (Session.agree_onBridge (Backup.agree_create hroot name?)) s s' hs
  | restore name =>
    exact Session.agree_backupRoot (m := fun root => Session.onBridge (Backup.restore now root name))
      (Session.agree_onBridge (Backup.agree_restore hroot name)) s s' hs
  | backups =>
    exact Session.agree_backupRoot (m := fun root => Session.onBridge (Backup.list root))
      (Session.agree_onBridge (Backup.agree_list hroot)) s s' hs
  | simulate code => exact Snippet.agree_simulate code s s' hs
  | execute lang kind => exact Snippet.agree_execute lang kind s s' hs
  | outside change => exact ⟨rfl, rfl, hs.withChange ht now⟩

/-- **A run of tasks** keeps sessions mirrors of each other. -/
theorem mirrors_run (hroot : (d₀.footprint folder).Spares d₀ root)
    (hs : Mirrors d₀ folder root s s') {tasks : List (Timed Task)}
    (htasks : ∀ before e later, tasks = before ++ e :: later →
      e.2.Avoids d₀ folder (Run.state after before s)) :
    Mirrors d₀ folder root (Run.state after tasks s) (Run.state after tasks s') := by
  induction tasks using List.reverseRecOn with
  | nil => exact hs
  | append_singleton tasks e ih =>
    rw [Run.state_concat, Run.state_concat]
    have hbefore := ih fun before e' later heq => htasks before e' (later ++ [e]) (by simp [heq])
    exact (agrees_run hroot hbefore (htasks tasks e [] rfl)).state

/-- **A store in a file does as a store in memory.** Of two sessions, one keeps its document in a file
in a folder, and the other is the same but keeps that document in memory. The folder of the file is
there, or it can be made by a first write and the document is not there. The store spares the folder
of the backups, and no task comes by the store on the disk.

Then whatever tasks are run on both, at the same instants, and whatever accesses are refused, each
task gives the same and narrates the same. After each, the two are alike in memory, they hold the same
document, and the same backups are there. -/
theorem file_store_as_memory_store (s : Session) (folder : Path) (document : Option ByteArray)
    (tasks : List (Timed Task)) (hstore : s.bridge.storage.store = .file folder)
    (htree : s.disk.IsTree) (hcontent : s.bridge.storage.content = .ok document)
    (hfolder : s.disk.isFolder folder = true
      ∨ s.disk.node? (s.disk.place (documentPath folder)) = none
        ∧ ∃ now octets, (s.bridge.storage.replace now octets).1 = .ok ())
    (hroot : (s.disk.footprint folder).Spares s.disk s.backupRoot)
    (htasks : ∀ before e later, tasks = before ++ e :: later →
      e.2.Avoids s.disk folder (Run.state after before s)) :
    ∀ before e later, tasks = before ++ e :: later →
      let file := e.2.run e.1 (Run.state after before s)
      let memory := e.2.run e.1 (Run.state after before (s.inMemory document))
      memory.value = file.value ∧ memory.lines = file.lines ∧ file.state.Alike memory.state
        ∧ memory.state.bridge.storage.content = file.state.bridge.storage.content
        ∧ ∀ l, s.disk.place s.backupRoot <+: l →
            memory.state.disk.node? l = file.state.disk.node? l := by
  intro before e later hsplit file memory
  obtain ⟨hreceives, hnode⟩ : s.disk.Receives folder
      ∧ s.disk.node? (s.disk.place (documentPath folder)) = document.map .file := by
    rcases hfolder with hfolder | ⟨hnone, now, octets, htakes⟩
    · exact Storage.receives_of_isFolder hstore hcontent hfolder
    · refine ⟨Storage.receives_of_replace hstore htree htakes, ?_⟩
      cases document with
      | none => exact hnone
      | some octets => exact Storage.node?_of_content hstore hcontent
  have hstart : Mirrors s.disk folder s.backupRoot s (s.inMemory document) :=
    ⟨⟨rfl, rfl, rfl, rfl, rfl⟩, rfl, rfl,
      Storage.mirrors_memory hstore htree hcontent hnode hreceives⟩
  have hbefore : Mirrors s.disk folder s.backupRoot (Run.state after before s)
      (Run.state after before (s.inMemory document)) :=
    mirrors_run hroot hstart fun before' e' later' heq =>
      htasks before' e' (later' ++ e :: later) (by rw [hsplit, heq, List.append_assoc]; rfl)
  obtain ⟨hvalue, hlines, hmirrors⟩ := agrees_run hroot hbefore (htasks before e later hsplit)
  exact ⟨hvalue, hlines, hmirrors.alike, hmirrors.storage.content_eq,
    fun l hl => hmirrors.storage.beside.node (hroot.below hl)⟩

/-- A disk with nothing on it and a store that refuses the first write. A function is registered all
the same, and then it is backed up. -/
theorem file_store_as_memory_store_fresh :
    let s : Session := ⟨SortedMap.empty, SortedMap.empty,
      ⟨SortedMap.empty, .new (.file "store") (.fresh 0 []) ⟨fun _ => false, fun n => n == 0⟩⟩,
      "backups", false, false⟩
    let before : List (Timed Task) := [(1, .line "simulate def f(x):")]
    let file := run 2 (.create (some "b")) (Run.state after before s)
    let memory := run 2 (.create (some "b")) (Run.state after before (s.inMemory none))
    memory.value = file.value ∧ memory.lines = file.lines := by
  intro s before file memory
  have hroot : (s.disk.footprint "store").Spares s.disk "backups" :=
    Footprint.spares_of_disjoint (by decide) (by decide) (by decide) (by decide +kernel)
      (by decide +kernel)
  have hplain : Shell.command? "simulate def f(x):" = some (.simulate "def f(x):") := by
    decide +kernel
  have htasks : ∀ first e later, before ++ [(2, .create (some "b"))] = first ++ e :: later →
      e.2.Avoids s.disk "store" (Run.state after first s) := by
    intro first e later hsplit
    have hmem : e ∈ before ++ [(2, .create (some "b"))] := by rw [hsplit]; simp
    rcases List.mem_append.mp hmem with hmem | hmem
    · rw [List.mem_singleton.mp hmem]
      intro _ path hpath
      rw [hplain] at hpath
      cases hpath
    · rw [List.mem_singleton.mp hmem]
      trivial
  have hsame := file_store_as_memory_store s "store" none (before ++ [(2, .create (some "b"))]) rfl
    (.fresh 0) (by decide +kernel) (Or.inr ⟨rfl, 0, ByteArray.empty, by decide +kernel⟩) hroot htasks
    before (2, .create (some "b")) [] rfl
  exact ⟨hsame.1, hsame.2.1⟩

/-- **In memory nothing fails that could fail in a file.** A file is where the folder of the store
would have to be made, so neither the folder nor the document is there, and the store has nothing to
do with the backups. To save fails, and it would not fail in memory. -/
theorem memory_store_below_file :
    let disk := (Disk.fresh 0 []).put ["f"] (.file ByteArray.empty)
    let s : Session := ⟨SortedMap.empty, SortedMap.empty,
      ⟨SortedMap.empty, .new (.file "f/s") disk .none⟩, "backups", false, false⟩
    disk.IsTree ∧ disk.exists? "f/s" = false ∧ disk.exists? (documentPath "f/s") = false
      ∧ (disk.footprint "f/s").Spares disk "backups"
      ∧ (run 0 (.line "bridge-save") s).lines
        = ["bridge-save: IO error on f/s: Not a directory (os error 20): "
          ++ "Not a directory (os error 20)"]
      ∧ (run 0 (.line "bridge-save") (s.inMemory none)).lines = ["bridge state saved"] := by
  intro disk s
  have hroot : (disk.footprint "f/s").Spares disk "backups" :=
    Footprint.spares_of_disjoint (by decide) (by decide) (by decide) (by decide +kernel)
      (by decide +kernel)
  have htree : ((Disk.fresh 0 []).put ([] ++ ["f"]) (.file ByteArray.empty)).IsTree :=
    (Disk.IsTree.fresh 0).put ⟨0, rfl⟩ ⟨by decide, by decide⟩ (by decide) (by decide)
      (fun ⟨t, h⟩ => by cases h) _
  exact ⟨htree, by decide +kernel, by decide +kernel, hroot, by decide +kernel, by decide +kernel⟩

end Task

end Rehearsal
