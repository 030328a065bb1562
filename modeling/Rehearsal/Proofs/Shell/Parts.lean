import Rehearsal.Proofs.Backup.Bounds
import Rehearsal.Proofs.Shell.Confirmation

/-!
# Each command changes its own part

A session is made of parts, and each command has its own: one changes a flag, another the libraries,
a third the registry and the stored document (`Builtin.ChangesPart`). The rest of the session is as
it was, whatever the command was given and whatever failed. A line that is no command, or that a
command does not understand or answers with its help, changes nothing.

The document is a part by itself, with the folders above it that a store in a file makes
(`Storage.OnlyDocument`). Where it is apart from the backups, no command but the one that makes a
backup changes anything at their root or below it (`Shell.command_changes_its_part`).
-/

namespace Rehearsal

/-! ## Maps that are not changed -/

section

variable {κ α : Type} [Ord κ] [Std.LawfulEqOrd κ] [Std.TransOrd κ] {m : SortedMap κ α} {k : κ}

theorem SortedMap.erase_of_get?_eq_none (h : m.get? k = none) : m.erase k = m := by
  refine ext_get? fun k' => ?_
  rw [get?_erase]
  split
  · next heq => rw [Std.LawfulEqCmp.eq_of_compare heq, h]
  · rfl

theorem SortedMap.insert_of_get?_eq_some {x : α} (h : m.get? k = some x) : m.insert k x = m := by
  refine ext_get? fun k' => ?_
  rw [get?_insert]
  split
  · next heq => rw [Std.LawfulEqCmp.eq_of_compare heq, h]
  · rfl

end

/-- To load a library that is loaded does nothing. -/
theorem Libraries.load_state (library : String) (ls : Libraries) :
    (Libraries.load library ls).state = ls.insert library () := by
  unfold Libraries.load
  rw [Routine.get_bind_apply]
  split
  · next hloaded =>
    obtain ⟨u, hu⟩ := Option.isSome_iff_exists.mp hloaded
    exact (SortedMap.insert_of_get?_eq_some hu).symm
  · rfl

/-- The registry after a removal, also of a name that is not there. -/
theorem Bridge.unregister_registry (now : Instant) (name : String) (b : Bridge) :
    (Bridge.unregister now name b).state.registry = b.registry.erase name := by
  cases h : b.registry.contains name with
  | true => rw [unregister_state_of_contains now name b h]; rfl
  | false =>
    rw [unregister_of_not_contains now name b h]
    exact (SortedMap.erase_of_get?_eq_none (SortedMap.contains_eq_false_iff.mp h)).symm

/-! ## The parts of commands -/

/-- **The part of the session that a command may change**, from one session to the next. -/
def Builtin.ChangesPart (b : Builtin) (s s' : Session) : Prop :=
  match b with
  | .status => s' = s
  | .bridgeStats => s' = s
  | .bridgeList => s' = s
  | .bridgeListBackups => s' = s
  | .help => s' = s
  | .load library => s' = { s with libraries := s.libraries.insert library () }
  | .exit => s' = { s with shouldExit := true }
  | .bridgeClear => s' = { s with awaitingClear := true }
  | .bridgeSave => ∃ storage, s' = s.withBridge ⟨s.bridge.registry, storage⟩
    ∧ s.bridge.storage.OnlyDocument storage
  | .bridgeBackup _ => ∃ storage, s' = s.withBridge ⟨s.bridge.registry, storage⟩
    ∧ s.bridge.storage.OnlyBackups s.backupRoot storage
  | .bridgeRemove name => ∃ storage, s' = s.withBridge ⟨s.bridge.registry.erase name, storage⟩
    ∧ s.bridge.storage.OnlyDocument storage
  | .bridgeRestore _ => ∃ registry storage, s' = s.withBridge ⟨registry, storage⟩
    ∧ s.bridge.storage.OnlyDocument storage
  | .simulate _ => ∃ vars registry storage, s' = { s.withBridge ⟨registry, storage⟩ with vars := vars }
    ∧ s.bridge.storage.OnlyDocument storage
  | .runFile _ => ∃ vars registry storage, s' = { s.withBridge ⟨registry, storage⟩ with vars := vars }
    ∧ s.bridge.storage.OnlyDocument storage

/-- **A session changed by a simulation**: in its variables, its registry and the document. -/
structure Session.Simulates (s s' : Session) : Prop where
  libraries : s'.libraries = s.libraries
  backupRoot : s'.backupRoot = s.backupRoot
  awaitingClear : s'.awaitingClear = s.awaitingClear
  shouldExit : s'.shouldExit = s.shouldExit
  storage : s.bridge.storage.OnlyDocument s'.bridge.storage

namespace Session.Simulates

variable {s s' s'' : Session}

theorem refl (s : Session) : Simulates s s := ⟨rfl, rfl, rfl, rfl, .refl _⟩

theorem trans (h : Simulates s s') (h' : Simulates s' s'') : Simulates s s'' :=
  ⟨h'.libraries.trans h.libraries, h'.backupRoot.trans h.backupRoot,
    h'.awaitingClear.trans h.awaitingClear, h'.shouldExit.trans h.shouldExit,
    h.storage.trans h'.storage⟩

/-- What it says of the session as a whole. -/
theorem exists_eq (h : Simulates s s') : ∃ vars registry storage,
    s' = { s.withBridge ⟨registry, storage⟩ with vars := vars }
      ∧ s.bridge.storage.OnlyDocument storage := by
  obtain ⟨vars, libraries, ⟨registry, storage⟩, root, awaiting, exiting⟩ := s'
  obtain ⟨rfl, rfl, rfl, rfl, hstorage⟩ := h
  exact ⟨vars, registry, storage, rfl, hstorage⟩

/-- **A deed of a snippet** is a simulation. -/
theorem of_deed {d : Deed} (hd : d.Simulated) (now : Instant) (s : Session) :
    Simulates s (d.after now s) := by
  cases hd with
  | assign name value => exact ⟨rfl, rfl, rfl, rfl, .refl _⟩
  | define name lang params =>
    exact ⟨rfl, rfl, rfl, rfl,
      (Bridge.Operation.register name lang params []).onlyDocument_after now s.bridge⟩
  | call target args =>
    rw [Deed.after_call]
    cases Callee.resolve s target with
    | function name =>
      exact ⟨rfl, rfl, rfl, rfl, (Bridge.Operation.call name args).onlyDocument_after now s.bridge⟩
    | method | print | nothing => exact .refl s

/-- **A run of deeds of snippets** is a simulation, however long. -/
theorem of_run {deeds : List Deed} (h : ∀ d ∈ deeds, d.Simulated) (now : Instant) (s : Session) :
    Simulates s (Deed.run now deeds s) := by
  refine Run.state_of_forall (P := Simulates s) (fun e he s' hs' => ?_) (.refl s)
  obtain ⟨d, hd, rfl⟩ := List.mem_map.mp he
  exact hs'.trans (.of_deed (h d hd) now s')

end Session.Simulates

/-- **A command changes its part** of the session. -/
theorem Builtin.changesPart_run (b : Builtin) (now : Instant) (s : Session) :
    b.ChangesPart s (Deed.run now (b.deeds s.disk) s) := by
  cases b with
  | status | bridgeStats | bridgeList | bridgeListBackups | help | exit | bridgeClear => rfl
  | load library =>
    exact congrArg (fun ls => ({ s with libraries := ls } : Session)) (Libraries.load_state ..)
  | simulate code =>
    exact (Session.Simulates.of_run (fun d => simulated_of_mem_snippetDeeds) now s).exists_eq
  | runFile path =>
    refine (Session.Simulates.of_run (fun d hd => ?_) now s).exists_eq
    rw [deeds] at hd
    split at hd
    · exact simulated_of_mem_snippetDeeds hd
    · cases hd
  | bridgeSave =>
    exact ⟨_, congrArg s.withBridge (Bridge.save_state now s.bridge),
      Storage.onlyDocument_write _ now _⟩
  | bridgeBackup name? =>
    obtain ⟨hregistry, hstorage⟩ :=
      (Backup.making_create now s.backupRoot name? s.bridge).onlyBackups
    exact ⟨_, congrArg (fun r => s.withBridge ⟨r, _⟩) hregistry, hstorage⟩
  | bridgeRemove name =>
    exact ⟨_, congrArg (fun r => s.withBridge ⟨r, _⟩) (Bridge.unregister_registry now name s.bridge),
      (Bridge.Operation.unregister name).onlyDocument_after now s.bridge⟩
  | bridgeRestore name =>
    exact ⟨_, _, rfl, (Backup.restoring_restore now s.backupRoot name s.bridge).onlyDocument⟩

/-- **Only the command that makes a backup changes more of the storage** than the document. -/
theorem Builtin.ChangesPart.onlyDocument {b : Builtin} {s s' : Session} (h : b.ChangesPart s s')
    (hb : ∀ name?, b ≠ .bridgeBackup name?) :
    s.bridge.storage.OnlyDocument s'.bridge.storage := by
  cases b with
  | bridgeBackup name? => exact absurd rfl (hb name?)
  | status | bridgeStats | bridgeList | bridgeListBackups | help | exit | bridgeClear | load _ =>
    obtain rfl := h
    exact .refl _
  | bridgeSave | bridgeRemove _ =>
    obtain ⟨storage, rfl, hstorage⟩ := h
    exact hstorage
  | bridgeRestore _ =>
    obtain ⟨registry, storage, rfl, hstorage⟩ := h
    exact hstorage
  | simulate _ | runFile _ =>
    obtain ⟨vars, registry, storage, rfl, hstorage⟩ := h
    exact hstorage

/-! ## Lines -/

/-- **A document apart from the backups**: neither it nor a folder that is missing above it is at
their root or below. -/
def Storage.Apart (root : Path) (s : Storage) : Prop :=
  ∀ l, s.disk.place root <+: l →
    s.site? ≠ some l ∧ (s.OnWay l → s.disk.node? l ≠ none)

theorem Storage.Apart.node?_eq {root : Path} {s s' : Storage} (h : s.Apart root)
    (honly : s.OnlyDocument s') {l : Location} (hl : s.disk.place root <+: l) :
    s'.disk.node? l = s.disk.node? l :=
  honly.disk.node?_eq (h l hl).2 (h l hl).1

namespace Shell

open Text (trimmed)

variable {now : Instant} {line : String} {s : Session}

/-- **Which lines are no command**: empty ones, those that begin with the word of none, and those
whose words are not read, also because they ask for help. -/
theorem command?_eq_none_iff : command? line = none ↔ trimmed line = ""
    ∨ Builtin.request? (splitLine (trimmed line)).1 (splitLine (trimmed line)).2 = none
    ∨ ∃ g r, Builtin.request? (splitLine (trimmed line)).1 (splitLine (trimmed line)).2
      = some (.refused g r) := by
  unfold command?
  by_cases hempty : trimmed line = ""
  · exact iff_of_true (if_pos hempty) (Or.inl hempty)
  · rw [if_neg hempty, or_iff_right hempty]
    cases Builtin.request? (splitLine (trimmed line)).1 (splitLine (trimmed line)).2 with
    | none => simp
    | some request => cases request <;> simp

/-- **Each command changes only its own part of the session.** Take any line in any session that
does not wait for an answer. If it is empty, begins with a word that is no command, or has words
that its command does not read or answers with help, nothing changes. If it is a command, the part
of the command changes and nothing else. And if the document is apart from the backups, a command
that does not make a backup changes nothing at their root or below it. -/
theorem command_changes_its_part (now : Instant) (line : String)
    (hawaiting : s.awaitingClear = false) :
    (trimmed line = ""
        ∨ Builtin.request? (splitLine (trimmed line)).1 (splitLine (trimmed line)).2 = none
        ∨ (∃ g r, Builtin.request? (splitLine (trimmed line)).1 (splitLine (trimmed line)).2
          = some (.refused g r)) →
        after now line s = s)
      ∧ ∀ b, command? line = some b →
        b.ChangesPart s (after now line s)
          ∧ ((∀ name?, b ≠ .bridgeBackup name?) → s.bridge.storage.Apart s.backupRoot →
            ∀ l, s.disk.place s.backupRoot <+: l →
              (after now line s).disk.node? l = s.disk.node? l) := by
  refine ⟨fun hnone => ?_, fun b hline => ?_⟩
  · rw [after_of_not_awaiting hawaiting, command?_eq_none_iff.mpr hnone]
    rfl
  · have hpart : b.ChangesPart s (after now line s) := by
      rw [after_of_not_awaiting hawaiting, hline]
      exact b.changesPart_run now s
    exact ⟨hpart, fun hb hapart l hl => hapart.node?_eq (hpart.onlyDocument hb) hl⟩

/-- A definition with a store in a folder beside the backups, and a word too many. -/
theorem command_changes_its_part_beside :
    let s : Session := ⟨SortedMap.empty, SortedMap.empty,
      ⟨SortedMap.empty, .new (.file "store") (.fresh 0 ["work"]) .none⟩, "backups", false, false⟩
    let later := after 1 "simulate def f(x):" s
    (Builtin.simulate "def f(x):").ChangesPart s later
      ∧ (∀ l, ["work", "backups"] <+: l → later.disk.node? l = s.disk.node? l)
      ∧ after 1 "status now" s = s := by
  intro s later
  have hline : command? "simulate def f(x):" = some (.simulate "def f(x):") := by decide +kernel
  have hrefused : Builtin.request? (splitLine (trimmed "status now")).1
      (splitLine (trimmed "status now")).2
        = some (.refused ⟨"status", "Show the variables held in virtual memory.", [], []⟩
            (.unrecognized "now")) := by decide +kernel
  have hplace : s.disk.place s.backupRoot = ["work", "backups"] := by decide +kernel
  have hsite : s.bridge.storage.site? = some ["work", "store", "bridge-registry.json"] := by
    decide +kernel
  have hroute : s.disk.route "store" = [["work"], ["work", "store"]] := by decide +kernel
  have hapart : s.bridge.storage.Apart s.backupRoot := by
    rintro l ⟨rest, rfl⟩
    rw [show s.bridge.storage.disk.place s.backupRoot = _ from hplace, hsite]
    refine ⟨by simp, fun ⟨folder, hfolder, hl⟩ => ?_⟩
    obtain rfl : "store" = folder := Option.some.inj hfolder
    rw [show s.bridge.storage.disk.route "store" = _ from hroute] at hl
    simp at hl
  obtain ⟨hpart, hbackups⟩ := (command_changes_its_part (s := s) 1 "simulate def f(x):" rfl).2 _ hline
  refine ⟨hpart, fun l hl => hbackups (by simp) hapart l (hplace ▸ hl), ?_⟩
  exact (command_changes_its_part 1 "status now" rfl).1 (Or.inr (Or.inr ⟨_, _, hrefused⟩))

end Shell

end Rehearsal
