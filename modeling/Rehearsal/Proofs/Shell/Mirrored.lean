import Rehearsal.Proofs.Backup.Mirrored
import Rehearsal.Proofs.Shell.Failures
import Rehearsal.Proofs.Snippet.Agreement

/-!
# Sessions over mirrored stores

What a session does to its store it does through the bridge and the backups, so two sessions that
are alike but for the store (`Session.Mirrors`) agree on all that snippets and commands do. There is
one way round: a file that is simulated is read from the disk itself, and it may be the file of the
store. So the two agree on a line unless it simulates a file, the path of which is not clear of the
footprint of the store (`Shell.agrees_runLine`).
-/

namespace Rehearsal

open Routine (Agree)

variable {d₀ : Disk} {folder root : Path} {now : Instant} {s s' : Session}

/-- **Sessions that mirror each other**: alike, with their backups in one place, over stores that
do. -/
structure Session.Mirrors (d₀ : Disk) (folder root : Path) (s s' : Session) : Prop where
  alike : s.Alike s'
  backups : s.backupRoot = root
  backups' : s'.backupRoot = root
  storage : Storage.Mirrors d₀ folder s.bridge.storage s'.bridge.storage

namespace Session

theorem Mirrors.bridge (h : Mirrors d₀ folder root s s') :
    Bridge.Mirrors d₀ folder s.bridge s'.bridge := ⟨h.alike.registry, h.storage⟩

theorem agree_onBridge {α : Type} {m : Routine Bridge α}
    (h : Agree (Bridge.Mirrors d₀ folder) m m) :
    Agree (Mirrors d₀ folder root) (onBridge m) (onBridge m) :=
  h.on (fun _ _ hs => hs.bridge) fun _ _ _ _ hb hs =>
    ⟨{ hs.alike with registry := hb.registry }, hs.backups, hs.backups', hb.storage⟩

theorem agree_onLibraries {α : Type} (m : Routine Libraries α) :
    Agree (Mirrors d₀ folder root) (onLibraries m) (onLibraries m) := by
  refine Agree.on (Q := Eq) ?_ (fun _ _ hs => hs.alike.libraries.symm) ?_
  · rintro ls - rfl
    exact ⟨rfl, rfl, rfl⟩
  · rintro ls - s s' rfl hs
    exact ⟨{ hs.alike with libraries := rfl }, hs.backups, hs.backups', hs.storage⟩

theorem agree_assign (name value : String) :
    Agree (Mirrors d₀ folder root) (assign name value) (assign name value) :=
  .modify fun _ _ hs =>
    ⟨{ hs.alike with vars := congrArg (·.insert name value) hs.alike.vars }, hs.backups, hs.backups',
      hs.storage⟩

/-- **What is done with the folder of the backups** is done with the same one. -/
theorem agree_backupRoot {α : Type} {m : Path → Routine Session α}
    (h : Agree (Mirrors d₀ folder root) (m root) (m root)) :
    Agree (Mirrors d₀ folder root) (get >>= fun s => m s.backupRoot)
      (get >>= fun s => m s.backupRoot) := by
  refine .get_bind fun s s' hs => ?_
  rw [hs.backups, hs.backups']
  exact h s s' hs

end Session

open Session (Mirrors)

/-! ## Snippets -/

namespace Snippet

/-- **A target leads to the same** in both sessions. -/
theorem agree_call (target : String) (args : List String) :
    Agree (Mirrors d₀ folder root) (call now target args) (call now target args) :=
  fun _ _ hs => agrees_call hs (hs.alike.resolve_eq target) fun name =>
    Session.agree_onBridge (Bridge.agree_call name args)

theorem agree_execute (lang : Language) (kind : Action.Kind) :
    Agree (Mirrors d₀ folder root) (execute now lang kind) (execute now lang kind) := by
  cases kind with
  | definition name params =>
    refine (Session.agree_onBridge (Bridge.agree_register name lang params [])).bind fun r => ?_
    cases r with
    | error e => exact .pure _
    | ok u => exact (Agree.say _).bind fun _ => .pure _
  | assignment name value =>
    exact (Agree.say _).bind fun _ => (Session.agree_assign name value).bind fun _ => .pure _
  | call target args =>
    exact (Agree.say _).bind fun _ => (agree_call target args).bind fun _ => .pure _
  | returning value => exact (Agree.say _).bind fun _ => .pure _
  | unknown code => exact (Agree.say _).bind fun _ => .pure _

theorem agree_step (a : Action) :
    Agree (Mirrors d₀ folder root) (step now a) (step now a) := by
  unfold step
  refine (agree_execute a.lang a.kind).bind fun r => ?_
  cases r with
  | ok outcome => exact .pure _
  | error e => exact (Agree.say _).bind fun _ => .pure _

/-- **Simulating a snippet** agrees. -/
theorem agree_simulate (code : String) :
    Agree (Mirrors d₀ folder root) (simulate now code) (simulate now code) := by
  unfold simulate run
  exact (Agree.say _).bind fun _ => (Agree.note _ _ _).bind fun _ => .mapM agree_step

end Snippet

/-! ## Commands -/

namespace Builtin

theorem agree_onBridge {α : Type} {m : Routine Bridge (Except StorageError α)}
    (h : Agree (Bridge.Mirrors d₀ folder) m m) (told : α → String) :
    Agree (Mirrors d₀ folder root) (onBridge m told) (onBridge m told) := by
  unfold onBridge
  refine (Session.agree_onBridge h).bind fun r => ?_
  cases r with
  | error e => exact .pure _
  | ok x => exact (Agree.say _).bind fun _ => .pure _

/-- To show what the sessions have in common agrees. -/
theorem agree_tell {lines : Session → List String}
    (h : ∀ s s' : Session, s.Alike s' → lines s' = lines s) :
    Agree (Mirrors d₀ folder root) (tell lines) (tell lines) := by
  unfold tell
  refine .get_bind fun s s' hs => ?_
  rw [h s s' hs.alike]
  exact ((Agree.sayAll _).bind fun _ => .pure _) s s' hs

/-- To have the next line taken as an answer, or not, agrees. -/
theorem agree_awaiting (awaiting : Bool) :
    Agree (Mirrors d₀ folder root)
      (modify fun s => { s with awaitingClear := awaiting } : Routine Session Unit)
      (modify fun s => { s with awaitingClear := awaiting }) :=
  .modify fun _ _ hs =>
    ⟨{ hs.alike with awaitingClear := rfl }, hs.backups, hs.backups', hs.storage⟩

theorem agree_simulateText (code : String) :
    Agree (Mirrors d₀ folder root) (simulateText now code) (simulateText now code) := by
  unfold simulateText
  exact (Snippet.agree_simulate code).bind fun _ => .pure _

/-- **Simulating a file** agrees if the file is clear of the footprint. -/
theorem agree_simulateFile {path : Path}
    (hpath : (d₀.footprint folder).Clear (d₀.startOf path) (Path.names path)) :
    Agree (Mirrors d₀ folder root) (simulateFile now path) (simulateFile now path) := by
  unfold simulateFile
  refine .get_bind fun s s' hs => ?_
  have hstart : s.disk.startOf path = d₀.startOf path := by
    rw [Disk.startOf, Disk.startOf]
    exact congrArg _ hs.storage.home
  have hread : s'.disk.readText path = s.disk.readText path :=
    hs.storage.beside.readText_eq (hstart ▸ hpath)
  rw [hread]
  cases s.disk.readText path with
  | error e => exact Agree.pure _ s s' hs
  | ok code => exact agree_simulateText code s s' hs

variable (hroot : (d₀.footprint folder).Spares d₀ root)
include hroot

/-- **What a command does** agrees, if a file that it simulates is clear of the footprint. -/
theorem agree_attempt {b : Builtin} (hb : ∀ path, b = .runFile path →
      (d₀.footprint folder).Clear (d₀.startOf path) (Path.names path)) :
    Agree (Mirrors d₀ folder root) (b.attempt now) (b.attempt now) := by
  cases b with
  | load library =>
    refine (Session.agree_onLibraries _).bind fun loaded => ?_
    cases loaded
    · exact (Agree.say _).bind fun _ => .pure _
    · exact (Agree.say _).bind fun _ => .pure _
  | status => exact agree_tell fun s s' h => by rw [h.vars]
  | simulate code => exact agree_simulateText code
  | runFile path => exact agree_simulateFile (hb path rfl)
  | bridgeStats => exact agree_tell fun s s' h => by rw [h.registry]
  | bridgeList => exact agree_tell fun s s' h => by rw [h.registry]
  | bridgeClear =>
    exact (agree_awaiting true).bind fun _ => (Agree.sayAll _).bind fun _ => .pure _
  | bridgeRemove name => exact agree_onBridge (Bridge.agree_unregister name) _
  | bridgeSave => exact agree_onBridge Bridge.agree_save _
  | bridgeBackup name =>
    exact Session.agree_backupRoot (m := fun root => onBridge (Backup.create now root name) _)
      (agree_onBridge (Backup.agree_create hroot name) _)
  | bridgeRestore name =>
    exact Session.agree_backupRoot (m := fun root => onBridge (Backup.restore now root name) _)
      (agree_onBridge (Backup.agree_restore hroot name) _)
  | bridgeListBackups =>
    exact Session.agree_backupRoot (m := fun root => Session.onBridge (Backup.list root) >>= _)
      ((Session.agree_onBridge (Backup.agree_list hroot)).bind fun _ =>
        (Agree.sayAll _).bind fun _ => .pure _)
  | help => exact agree_tell fun _ _ _ => rfl
  | exit =>
    refine Agree.bind (.modify fun _ _ hs => ?_) fun _ => .pure _
    exact ⟨{ hs.alike with shouldExit := rfl }, hs.backups, hs.backups', hs.storage⟩

theorem agree_run {b : Builtin} (hb : ∀ path, b = .runFile path →
      (d₀.footprint folder).Clear (d₀.startOf path) (Path.names path)) :
    Agree (Mirrors d₀ folder root) (b.run now) (b.run now) := by
  unfold run
  refine (agree_attempt hroot hb).bind fun r => ?_
  cases r with
  | ok u => exact .pure _
  | error f => exact (Agree.say _).bind fun _ => .pure _

omit hroot in
theorem agree_confirmClear (answer : String) :
    Agree (Mirrors d₀ folder root) (confirmClear now answer) (confirmClear now answer) := by
  unfold confirmClear
  split
  · refine (Session.agree_onBridge Bridge.agree_clear).bind fun r => ?_
    cases r with
    | ok n => exact (Agree.say _).bind fun _ => .pure _
    | error e => exact (Agree.say _).bind fun _ => .pure _
  · exact (Agree.say _).bind fun _ => .pure _

end Builtin

/-! ## Lines -/

namespace Shell

open Text (trimmed)

variable (hroot : (d₀.footprint folder).Spares d₀ root)
include hroot

theorem agree_interpret {line : String} (hline : ∀ path,
      Builtin.request? (splitLine line).1 (splitLine line).2 = some (.command (.runFile path)) →
        (d₀.footprint folder).Clear (d₀.startOf path) (Path.names path)) :
    Agree (Mirrors d₀ folder root) (interpret Builtin.table now line)
      (interpret Builtin.table now line) := by
  unfold interpret
  refine (Agree.note _ _ _).bind fun _ => ?_
  rw [find?_table]
  cases hrequest : Builtin.request? (splitLine line).1 (splitLine line).2 with
  | none => exact (Agree.say _).bind fun _ => .pure _
  | some r =>
    cases r with
    | command b =>
      refine Builtin.agree_run hroot fun path hb => hline path ?_
      rw [hrequest, hb]
    | refused g r => exact (Agree.say _).bind fun _ => .pure _

/-- **A line** does the same in sessions that mirror each other. If it is no answer and simulates a
file, the file has to be clear of the footprint. -/
theorem agrees_runLine (hs : Mirrors d₀ folder root s s') {line : String}
    (hline : s.awaitingClear = false → ∀ path, command? line = some (.runFile path) →
      (d₀.footprint folder).Clear (d₀.startOf path) (Path.names path)) :
    (runLine Builtin.table now line s).Agrees (Mirrors d₀ folder root)
      (runLine Builtin.table now line s') := by
  have hdispatch : (dispatch Builtin.table now (trimmed line) s).Agrees (Mirrors d₀ folder root)
      (dispatch Builtin.table now (trimmed line) s') := by
    unfold dispatch
    rw [Routine.get_bind_apply, Routine.get_bind_apply, hs.alike.awaitingClear]
    by_cases hawaiting : s.awaitingClear = true
    · rw [if_pos hawaiting]
      exact ((Builtin.agree_awaiting false).bind fun _ => Builtin.agree_confirmClear _) s s' hs
    · rw [if_neg hawaiting]
      by_cases hempty : trimmed line = ""
      · rw [if_pos hempty]
        exact Agree.pure _ s s' hs
      · rw [if_neg hempty]
        refine agree_interpret hroot (fun path hrequest => ?_) s s' hs
        refine hline (by simpa using hawaiting) path ?_
        rw [command?, if_neg hempty, hrequest]
  refine Routine.agrees_bind hdispatch fun r => ?_
  cases r with
  | ok u => exact .pure _
  | error f => exact .say _

end Shell

end Rehearsal
