import Rehearsal.Proofs.Backup.Outward
import Rehearsal.Shell

/-!
# What lines do

A line is an answer, or a command, or nothing. Whatever it is, it does no more than a few things
to the session, one after the other, and there are twelve such **deeds**, each of which
changes one part of it. What is narrated and logged in between changes nothing.

The list of the deeds of a line is found from the line, the flag and, for a file that is
simulated, the disk (`Shell.deeds`), and the session after the line is the session after its
deeds (`Shell.after_eq`). So a run of lines is a run of deeds (`Shell.state_trail`), and what is
proved of all lines is proved by the cases of a deed, without opening the commands again.
-/

namespace Rehearsal

/-- **What a line may do to a session**, one thing at a time. -/
inductive Deed where
  | assign (name value : String)
  | load (library : String)
  | define (name : String) (lang : Language) (params : List String)
  | call (target : String) (args : List String)
  | remove (name : String)
  | clear
  | save
  | backUp (name? : Option String)
  | restore (name : String)
  /-- Ask whether all functions shall be removed. -/
  | ask
  /-- Take a line as the answer. -/
  | settle
  | exit
deriving DecidableEq

/-- The session with another bridge. -/
def Session.withBridge (s : Session) (b : Bridge) : Session := { s with bridge := b }

namespace Deed

/-- **The session after a deed.** -/
def after (now : Instant) : Deed → Session → Session
  | .assign name value, s => { s with vars := s.vars.insert name value }
  | .load library, s => { s with libraries := (Libraries.load library s.libraries).state }
  | .define name lang params, s =>
    s.withBridge (Bridge.register now name lang params [] s.bridge).state
  | .call target args, s =>
    match Callee.resolve s target with
    | .function name => s.withBridge (Bridge.call now name args s.bridge).state
    | _ => s
  | .remove name, s => s.withBridge (Bridge.unregister now name s.bridge).state
  | .clear, s => s.withBridge (Bridge.clear now s.bridge).state
  | .save, s => s.withBridge (Bridge.save now s.bridge).state
  | .backUp name?, s => s.withBridge (Backup.create now s.backupRoot name? s.bridge).state
  | .restore name, s => s.withBridge (Backup.restore now s.backupRoot name s.bridge).state
  | .ask, s => { s with awaitingClear := true }
  | .settle, s => { s with awaitingClear := false }
  | .exit, s => { s with shouldExit := true }

/-- A call concerns the bridge if it leads to a function. -/
theorem after_call (now : Instant) (target : String) (args : List String) (s : Session) :
    (Deed.call target args).after now s
      = match Callee.resolve s target with
        | .function name => s.withBridge (Bridge.call now name args s.bridge).state
        | _ => s := rfl

/-- Deeds that are all done at one instant. -/
abbrev timed (now : Instant) (deeds : List Deed) : List (Timed Deed) := deeds.map fun d => (now, d)

/-- **The session after deeds**, one after the other at one instant. -/
abbrev run (now : Instant) (deeds : List Deed) (s : Session) : Session :=
  Run.state after (timed now deeds) s

theorem run_append (now : Instant) (first second : List Deed) (s : Session) :
    run now (first ++ second) s = run now second (run now first s) := by
  rw [run, timed, List.map_append, Run.state_append]

/-! ### What deeds do to the bridge -/

/-- **The step of the bridge that a deed is**, if it is one. -/
def step? (s : Session) : Deed → Option Backup.Step
  | .define name lang params => some (.bridge (.register name lang params []))
  | .call target args =>
    match Callee.resolve s target with
    | .function name => some (.bridge (.call name args))
    | _ => none
  | .remove name => some (.bridge (.unregister name))
  | .clear => some (.bridge .clear)
  | .save => some (.bridge .save)
  | .backUp name? => some (.create name?)
  | .restore name => some (.restore name)
  | .assign _ _ => none
  | .load _ => none
  | .ask => none
  | .settle => none
  | .exit => none

theorem step?_call (s : Session) (target : String) (args : List String) :
    (Deed.call target args).step? s
      = match Callee.resolve s target with
        | .function name => some (.bridge (.call name args))
        | _ => none := rfl

variable {d : Deed} {now : Instant} {s : Session}

/-- **A deed does to the bridge what its step does**, and nothing if it is none. -/
theorem bridge_after (d : Deed) (now : Instant) (s : Session) :
    (d.after now s).bridge
      = (d.step? s).elim s.bridge fun step => step.after s.backupRoot now s.bridge := by
  cases d with
  | call target args =>
    rw [after_call, step?_call]
    cases Callee.resolve s target <;> rfl
  | _ => rfl

/-- Only a restored backup takes anything from the store. -/
theorem outward_of_step? {step : Backup.Step} (h : d.step? s = some step)
    (hd : ∀ name, d ≠ .restore name) : step.Outward := by
  cases d with
  | restore name => exact absurd rfl (hd name)
  | call target args =>
    rw [step?_call] at h
    split at h
    · obtain rfl := Option.some.inj h
      trivial
    · cases h
  | assign | load | ask | settle | exit => cases h
  | define | remove | clear | save | backUp => exact Option.some.inj h ▸ trivial

/-- **The registry after a deed** other than to restore a backup, whatever the store does. -/
theorem registry_after (hd : ∀ name, d ≠ .restore name) :
    (d.after now s).bridge.registry
      = (d.step? s).elim s.bridge.registry fun step => step.registry now s.bridge.registry := by
  rw [bridge_after]
  cases hstep : d.step? s with
  | none => rfl
  | some step => exact Backup.Step.registry_after (outward_of_step? hstep hd)

end Deed

/-! ## Snippets -/

/-- **The deed of an action**, if it does anything but say so. -/
def Action.deeds (a : Action) : List Deed :=
  match a.kind with
  | .definition name params => [.define name a.lang params]
  | .assignment name value => [.assign name value]
  | .call target args => [.call target args]
  | .returning _ => []
  | .unknown _ => []

namespace Snippet

variable (now : Instant) (s : Session)

theorem callMethod_state (library method : String) (args : List String) :
    (callMethod library method args s).state = s := by
  unfold callMethod
  cases Libraries.invoke? library method args <;> rfl

theorem callFunction_state (name : String) (args : List String) :
    (callFunction now name args s).state = s.withBridge (Bridge.call now name args s.bridge).state := by
  unfold callFunction
  rw [Routine.bind_state_of_still fun r _ => by cases r <;> rfl]
  rfl

/-- **A call changes nothing** unless it is one of a function of the bridge. -/
theorem call_state (target : String) (args : List String) :
    (call now target args s).state = (Deed.call target args).after now s := by
  unfold call
  rw [Routine.get_bind_apply, Deed.after_call]
  cases Callee.resolve s target with
  | method library method => exact callMethod_state s library method args
  | function name => exact callFunction_state now s name args
  | print => rfl
  | nothing => rfl

/-- **An action does its deed**, whether or not that fails. -/
theorem step_state (a : Action) : (step now a s).state = Deed.run now a.deeds s := by
  obtain ⟨kind, lang⟩ := a
  have hstep : (step now ⟨kind, lang⟩ s).state = (execute now lang kind s).state := by
    unfold step
    rw [Routine.bind_state_of_still fun r _ => by cases r <;> rfl]
  rw [hstep]
  cases kind with
  | definition name params =>
    unfold execute
    rw [Routine.bind_state_of_still fun r _ => by cases r <;> rfl]
    rfl
  | assignment name value => rfl
  | call target args => exact call_state now s target args
  | returning value => rfl
  | unknown code => rfl

/-- What actions at once come to, in two parts. -/
theorem run_append_apply (first second : List Action) :
    let r₁ := run now first s
    let r₂ := run now second r₁.state
    (run now (first ++ second) s).value = r₁.value ++ r₂.value
      ∧ (run now (first ++ second) s).state = r₂.state
      ∧ (run now (first ++ second) s).lines = r₁.lines ++ r₂.lines := by
  intro r₁ r₂
  rw [run_append]
  exact ⟨rfl, rfl, congrArg (r₁.lines ++ ·) (List.append_nil _)⟩

theorem run_cons_state (a : Action) (actions : List Action) :
    (run now (a :: actions) s).state = (run now actions (step now a s).state).state := by
  unfold run
  rw [List.mapM_cons]
  rfl

theorem run_cons_value (a : Action) (actions : List Action) :
    (run now (a :: actions) s).value
      = (step now a s).value :: (run now actions (step now a s).state).value := by
  unfold run
  rw [List.mapM_cons]
  rfl

/-- **Actions do their deeds**, one after the other. -/
theorem run_state (actions : List Action) :
    (run now actions s).state = Deed.run now (actions.flatMap Action.deeds) s := by
  induction actions generalizing s with
  | nil => rfl
  | cons a actions ih =>
    rw [List.flatMap_cons, Deed.run_append, ← step_state, ← ih, run_cons_state]

/-- **There is an outcome for each action.** -/
theorem length_run_value (actions : List Action) :
    (run now actions s).value.length = actions.length := by
  induction actions generalizing s with
  | nil => rfl
  | cons a actions ih => rw [run_cons_value, List.length_cons, List.length_cons, ih]

/-- **The outcome of an action** is what it comes to after the actions before it, whatever these
came to. -/
theorem run_value_getElem? (before later : List Action) (a : Action) :
    (run now (before ++ a :: later) s).value[before.length]?
      = some (step now a (run now before s).state).value := by
  rw [(run_append_apply now s before (a :: later)).1, run_cons_value,
    List.getElem?_append_right (length_run_value now s before).le, length_run_value,
    Nat.sub_self, List.getElem?_cons_zero]

end Snippet

/-! ## Commands -/

/-- The deeds of a snippet. -/
def snippetDeeds (code : String) : List Deed := (Action.parse code).flatMap Action.deeds

/-- **A deed of a snippet**: to assign, to define or to call. -/
inductive Deed.Simulated : Deed → Prop where
  | assign (name value : String) : Simulated (.assign name value)
  | define (name : String) (lang : Language) (params : List String) :
    Simulated (.define name lang params)
  | call (target : String) (args : List String) : Simulated (.call target args)

theorem simulated_of_mem_snippetDeeds {code : String} {d : Deed} (h : d ∈ snippetDeeds code) :
    d.Simulated := by
  obtain ⟨a, -, hd⟩ := List.mem_flatMap.mp h
  unfold Action.deeds at hd
  split at hd
  · exact List.mem_singleton.mp hd ▸ .define _ _ _
  · exact List.mem_singleton.mp hd ▸ .assign _ _
  · exact List.mem_singleton.mp hd ▸ .call _ _
  · cases hd
  · cases hd

namespace Builtin

/-- **The deeds of a command** on a disk. -/
def deeds (disk : Disk) : Builtin → List Deed
  | .load library => [.load library]
  | .simulate code => snippetDeeds code
  | .runFile path =>
    match disk.readText path with
    | .ok code => snippetDeeds code
    | .error _ => []
  | .bridgeClear => [.ask]
  | .bridgeRemove name => [.remove name]
  | .bridgeSave => [.save]
  | .bridgeBackup name? => [.backUp name?]
  | .bridgeRestore name => [.restore name]
  | .exit => [.exit]
  | .status => []
  | .bridgeStats => []
  | .bridgeList => []
  | .bridgeListBackups => []
  | .help => []

/-- **Which deeds a command may do.** -/
inductive Does : Builtin → Deed → Prop where
  | load (library : String) : Does (.load library) (.load library)
  | simulate (code : String) {d : Deed} (h : d.Simulated) : Does (.simulate code) d
  | runFile (path : Path) {d : Deed} (h : d.Simulated) : Does (.runFile path) d
  | ask : Does .bridgeClear .ask
  | remove (name : String) : Does (.bridgeRemove name) (.remove name)
  | save : Does .bridgeSave .save
  | backUp (name? : Option String) : Does (.bridgeBackup name?) (.backUp name?)
  | restore (name : String) : Does (.bridgeRestore name) (.restore name)
  | exit : Does .exit .exit

theorem does_of_mem_deeds {b : Builtin} {disk : Disk} {d : Deed} (h : d ∈ b.deeds disk) :
    b.Does d := by
  cases b with
  | simulate code => exact .simulate code (simulated_of_mem_snippetDeeds h)
  | runFile path =>
    rw [deeds] at h
    split at h
    · exact .runFile path (simulated_of_mem_snippetDeeds h)
    · cases h
  | load library => exact List.mem_singleton.mp h ▸ .load library
  | bridgeClear => exact List.mem_singleton.mp h ▸ .ask
  | bridgeRemove name => exact List.mem_singleton.mp h ▸ .remove name
  | bridgeSave => exact List.mem_singleton.mp h ▸ .save
  | bridgeBackup name? => exact List.mem_singleton.mp h ▸ .backUp name?
  | bridgeRestore name => exact List.mem_singleton.mp h ▸ .restore name
  | exit => exact List.mem_singleton.mp h ▸ .exit
  | status | bridgeStats | bridgeList | bridgeListBackups | help => cases h

/-- Only the command for it restores a backup. -/
theorem Does.eq_bridgeRestore {b : Builtin} {name : String} (h : b.Does (.restore name)) :
    b = .bridgeRestore name := by
  cases h with
  | simulate _ h | runFile _ h => cases h
  | restore => rfl

variable (now : Instant) (s : Session)

theorem onBridge_state {α : Type} (m : Routine Bridge (Except StorageError α)) (told : α → String) :
    (onBridge m told s).state = s.withBridge (m s.bridge).state := by
  unfold onBridge
  rw [Routine.bind_state_of_still fun r _ => by cases r <;> rfl]
  rfl

theorem simulateText_state (code : String) :
    (simulateText now code s).state = Deed.run now (snippetDeeds code) s :=
  Snippet.run_state now s (Action.parse code)

/-- Listing the backups leaves the bridge as it is. -/
theorem list_state (root : Path) (b : Bridge) : (Backup.list root b).state = b := by
  unfold Backup.list
  rw [Routine.get_bind_apply]
  cases b.storage.disk.list root <;> rfl

/-- **A command does its deeds**, whether or not it fails. -/
theorem attempt_state (b : Builtin) : (b.attempt now s).state = Deed.run now (b.deeds s.disk) s := by
  cases b with
  | load library =>
    show (loadLibrary library s).state = _
    unfold loadLibrary
    rw [Routine.bind_state_of_still fun r _ => by cases r <;> rfl]
    rfl
  | simulate code => exact simulateText_state now s code
  | runFile path =>
    show (simulateFile now path s).state
      = Deed.run now (match s.disk.readText path with
          | .ok code => snippetDeeds code
          | .error _ => []) s
    unfold simulateFile
    rw [Routine.get_bind_apply]
    cases s.disk.readText path with
    | error e => rfl
    | ok code => exact simulateText_state now s code
  | bridgeRemove name => exact onBridge_state s _ _
  | bridgeSave => exact onBridge_state s _ _
  | bridgeBackup name? => exact onBridge_state s _ _
  | bridgeRestore name => exact onBridge_state s _ _
  | bridgeListBackups =>
    show { s with bridge := (Backup.list s.backupRoot s.bridge).state } = s
    rw [list_state]
  | status => rfl
  | bridgeStats => rfl
  | bridgeList => rfl
  | bridgeClear => rfl
  | help => rfl
  | exit => rfl

theorem run_state (b : Builtin) : (b.run now s).state = Deed.run now (b.deeds s.disk) s := by
  rw [← attempt_state]
  unfold run
  rw [Routine.bind_state_of_still fun r _ => by cases r <;> rfl]

end Builtin

/-! ## Lines -/

namespace Shell

open Text (trimmed)

/-- **The command that a line is**, if its words are read. -/
def command? (line : String) : Option Builtin :=
  if trimmed line = "" then none
  else
    match Builtin.request? (splitLine (trimmed line)).1 (splitLine (trimmed line)).2 with
    | some (.command b) => some b
    | _ => none

/-- **The deeds of a line.** -/
def deeds (line : String) (s : Session) : List Deed :=
  if s.awaitingClear then
    if trimmed line = Builtin.confirmation then [.settle, .clear] else [.settle]
  else (command? line).elim [] (Builtin.deeds s.disk)

/-- A deed of a line that is no answer is one that its command may do. -/
theorem exists_does_of_mem {line : String} {disk : Disk} {d : Deed}
    (h : d ∈ (command? line).elim [] (Builtin.deeds disk)) :
    ∃ b, command? line = some b ∧ b.Does d := by
  cases hcommand : command? line with
  | none =>
    rw [hcommand] at h
    cases h
  | some b =>
    rw [hcommand] at h
    exact ⟨b, rfl, Builtin.does_of_mem_deeds h⟩

/-- **The session after a line**, in a shell with all its commands. -/
def after (now : Instant) (line : String) (s : Session) : Session :=
  (runLine Builtin.table now line s).state

theorem confirmClear_state (now : Instant) (answer : String) (s : Session) :
    (Builtin.confirmClear now answer s).state
      = Deed.run now (if answer = Builtin.confirmation then [.clear] else []) s := by
  unfold Builtin.confirmClear
  split
  · rw [Routine.bind_state_of_still fun r _ => by cases r <;> rfl]
    rfl
  · rfl

/-- The table is asked what a line asks for. -/
theorem find?_table (now : Instant) (word payload : String) :
    CommandTable.find? Builtin.table now word payload
      = (Builtin.request? word payload).map fun r => r.run now := by
  unfold CommandTable.find? Builtin.table
  rw [List.findSome?_cons]
  dsimp only
  cases Builtin.request? word payload <;> rfl

theorem interpret_state (now : Instant) (line : String) (s : Session) :
    (interpret Builtin.table now line s).state
      = match Builtin.request? (splitLine line).1 (splitLine line).2 with
        | some (.command b) => Deed.run now (b.deeds s.disk) s
        | _ => s := by
  unfold interpret
  rw [Routine.bind_state, find?_table]
  cases Builtin.request? (splitLine line).1 (splitLine line).2 with
  | none => rfl
  | some r =>
    cases r with
    | command b => exact Builtin.run_state now s b
    | refused g r => rfl

/-- **A line does its deeds.** -/
theorem after_eq (now : Instant) (line : String) (s : Session) :
    after now line s = Deed.run now (deeds line s) s := by
  have hline : after now line s = (dispatch Builtin.table now (trimmed line) s).state := by
    unfold after runLine
    rw [Routine.bind_state_of_still fun r _ => by cases r <;> rfl]
  rw [hline]
  unfold dispatch deeds
  rw [Routine.get_bind_apply]
  by_cases hawaiting : s.awaitingClear = true
  · rw [if_pos hawaiting, if_pos hawaiting, Routine.bind_state, confirmClear_state]
    split <;> rfl
  · rw [if_neg hawaiting, if_neg hawaiting, command?]
    by_cases hempty : trimmed line = ""
    · rw [if_pos hempty, if_pos hempty]
      rfl
    · rw [if_neg hempty, if_neg hempty, interpret_state]
      split <;> rfl

/-! ## Runs of lines -/

/-- **The deeds of a run of lines**, each with the instant of its line. -/
def trail : List (Timed String) → Session → List (Timed Deed)
  | [], _ => []
  | e :: events, s => Deed.timed e.1 (deeds e.2 s) ++ trail events (after e.1 e.2 s)

/-- **A run of lines is a run of deeds.** -/
theorem state_trail (lines : List (Timed String)) (s : Session) :
    Run.state Deed.after (trail lines s) s = Run.state after lines s := by
  induction lines generalizing s with
  | nil => rfl
  | cons e lines ih =>
    rw [trail, Run.state_append]
    show Run.state Deed.after _ (Deed.run e.1 (deeds e.2 s) s) = _
    rw [← after_eq, ih]
    rfl

end Shell

end Rehearsal
