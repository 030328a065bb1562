import Rehearsal.Proofs.Shell.Deeds

/-!
# What failed writes do not change

A write that fails is told, or only logged, and then the session goes on as if it had succeeded. So
two sessions that are alike in memory stay alike over any lines, **whatever their stores do**, as
long as no line takes something from the disk into memory (`Session.Alike`,
`Shell.TakesNothing`).

The store is behind then, but by how much is known: its document is the one that the registry had
when a write last succeeded (`Shell.lastSaved`), and the document that was there at first if none
has. So the first write that succeeds brings it up to date.
-/

namespace Rehearsal

/-- **Sessions that are alike in memory**, whatever is stored. -/
structure Session.Alike (s s' : Session) : Prop where
  vars : s'.vars = s.vars
  libraries : s'.libraries = s.libraries
  registry : s'.bridge.registry = s.bridge.registry
  awaitingClear : s'.awaitingClear = s.awaitingClear
  shouldExit : s'.shouldExit = s.shouldExit

variable {now : Instant} {s s' : Session} {d : Deed}

/-! ## Memory -/

namespace Session.Alike

/-- A target leads to the same in sessions that are alike. -/
theorem resolve_eq (h : s.Alike s') (target : String) :
    Callee.resolve s' target = Callee.resolve s target := by
  rw [Callee.resolve, Callee.resolve, h.libraries, h.registry]

theorem step?_eq (h : s.Alike s') (d : Deed) : d.step? s' = d.step? s := by
  cases d with
  | call target args => rw [Deed.step?_call, Deed.step?_call, h.resolve_eq]
  | _ => rfl

/-- **A deed keeps sessions alike**, if it is not to restore a backup. -/
theorem after (h : s.Alike s') (hd : ∀ name, d ≠ .restore name) (now : Instant) :
    (d.after now s).Alike (d.after now s') := by
  have hregistry : (d.after now s').bridge.registry = (d.after now s).bridge.registry := by
    rw [Deed.registry_after hd, Deed.registry_after hd, h.step?_eq, h.registry]
  cases d with
  | assign name value => exact { h with vars := congrArg (·.insert name value) h.vars }
  | load library =>
    exact { h with libraries := congrArg (fun ls => (Libraries.load library ls).state) h.libraries }
  | ask => exact { h with awaitingClear := rfl }
  | settle => exact { h with awaitingClear := rfl }
  | exit => exact { h with shouldExit := rfl }
  | call target args =>
    -- whatever the target leads to, all but the bridge is left as it is
    have hbridge : ∀ s, (Deed.call target args).after now s
        = s.withBridge ((Deed.call target args).after now s).bridge := by
      intro s
      rw [Deed.after_call]
      cases Callee.resolve s target <;> rfl
    rw [hbridge s, hbridge s']
    exact ⟨h.vars, h.libraries, hregistry, h.awaitingClear, h.shouldExit⟩
  | define | remove | clear | save | backUp | restore =>
    exact ⟨h.vars, h.libraries, hregistry, h.awaitingClear, h.shouldExit⟩

end Session.Alike

namespace Shell

variable {line : String} {lines : List (Timed String)}

/-- **A line that takes nothing from the disk into memory**: it restores no backup and simulates no
file. -/
structure TakesNothing (line : String) : Prop where
  restore : ∀ name, command? line ≠ some (.bridgeRestore name)
  runFile : ∀ path, command? line ≠ some (.runFile path)

/-- Only a line that asks for it restores a backup. -/
theorem ne_restore_of_mem_deeds (hline : TakesNothing line) (hd : d ∈ deeds line s) :
    ∀ name, d ≠ .restore name := by
  rintro name rfl
  unfold deeds at hd
  split at hd
  · split at hd <;> simp at hd
  · obtain ⟨b, hcommand, hdoes⟩ := exists_does_of_mem hd
    rw [hdoes.eq_bridgeRestore] at hcommand
    exact hline.restore name hcommand

/-- A line that takes nothing from the disk does the same deeds in sessions that are alike. -/
theorem deeds_eq_of_alike (hline : TakesNothing line) (h : s.Alike s') :
    deeds line s' = deeds line s := by
  unfold deeds
  rw [h.awaitingClear]
  congr 1
  cases hcommand : command? line with
  | none => rfl
  | some b =>
    cases b with
    | runFile path => exact absurd hcommand (hline.runFile path)
    | _ => rfl

/-- **A line keeps sessions alike.** -/
theorem alike_after (hline : TakesNothing line) (h : s.Alike s') :
    (after now line s).Alike (after now line s') := by
  rw [after_eq, after_eq, deeds_eq_of_alike hline h]
  refine Run.related_of_forall (fun e he _ _ halike => ?_) h
  obtain ⟨d, hd, rfl⟩ := List.mem_map.mp he
  exact halike.after (ne_restore_of_mem_deeds hline hd) now

theorem ne_restore_of_mem_trail (hlines : ∀ e ∈ lines, TakesNothing e.2) {e : Timed Deed}
    (he : e ∈ trail lines s) : ∀ name, e.2 ≠ .restore name := by
  induction lines generalizing s with
  | nil => cases he
  | cons line lines ih =>
    rcases List.mem_append.mp he with he | he
    · obtain ⟨d, hd, rfl⟩ := List.mem_map.mp he
      exact ne_restore_of_mem_deeds (hlines line List.mem_cons_self) hd
    · exact ih (fun e he => hlines e (List.mem_cons_of_mem _ he)) he

/-! ## The document -/

/-- **A deed leaves the document of the registry** or the one that was there. -/
theorem stores_after (hd : ∀ name, d ≠ .restore name) :
    Backup.Stores s.bridge (d.after now s).bridge := by
  rw [Deed.bridge_after]
  cases hstep : d.step? s with
  | none => exact Or.inr ⟨rfl, .refl _⟩
  | some step => exact Backup.Step.stores_after (Deed.outward_of_step? hstep hd)

/-- **The registry as it was when a write last succeeded**, on a run of deeds. A deed changes the
registry first and writes then, so that is the registry after the deed. -/
def lastSaved : List (Timed Deed) → Session → Option Registry → Option Registry
  | [], _, saved => saved
  | e :: events, s, saved =>
    let later := e.2.after e.1 s
    lastSaved events later
      (if later.bridge.storage.written = s.bridge.storage.written then saved
        else some later.bridge.registry)

/-- **What is stored after a run**, by what was last saved: its document, and what was there before
the run if nothing was saved. -/
def StoredAs (first last : Storage) : Option Registry → Prop
  | none => last.written = first.written ∧ first.Retains last
  | some r => last.content = .ok (some r.encode)

theorem storedAs_after {first : Storage} {saved : Option Registry}
    (h : StoredAs first s.bridge.storage saved) (hd : ∀ name, d ≠ .restore name) :
    StoredAs first (d.after now s).bridge.storage
      (if (d.after now s).bridge.storage.written = s.bridge.storage.written then saved
        else some (d.after now s).bridge.registry) := by
  rcases stores_after hd with ⟨hwritten, hcontent⟩ | ⟨hwritten, hretains⟩
  · rw [if_neg (Nat.ne_of_gt hwritten)]
    exact hcontent
  · rw [if_pos hwritten]
    cases saved with
    | none => exact ⟨hwritten.trans h.1, h.2.trans hretains⟩
    | some r => exact hretains.content h

/-- **What is stored is what was last saved**, after any deeds but restored backups. -/
theorem storedAs_run {first : Storage} {saved : Option Registry} {events : List (Timed Deed)}
    (h : StoredAs first s.bridge.storage saved)
    (hevents : ∀ e ∈ events, ∀ name, e.2 ≠ .restore name) :
    StoredAs first (Run.state Deed.after events s).bridge.storage (lastSaved events s saved) := by
  induction events generalizing s saved with
  | nil => exact h
  | cons e events ih =>
    exact ih (storedAs_after h (hevents e List.mem_cons_self))
      fun e he => hevents e (List.mem_cons_of_mem _ he)

/-- **Failed writes change nothing that the shell remembers.** Take two sessions that are alike in
memory, such as one whose store fails and one whose store does not, and any lines that take
nothing from the disk. After every line the two are still alike. And in each of them the document
in its place is, after every line, that of the registry as it was when a write last succeeded,
and the one of the beginning if none has succeeded; a deed by which a write succeeds leaves
the document of the registry as it is then. -/
theorem failed_writes_forget_nothing (lines : List (Timed String))
    (hlines : ∀ e ∈ lines, TakesNothing e.2) (s s' : Session) (h : s.Alike s') :
    (∀ before, before <+: lines →
        (Run.state after before s).Alike (Run.state after before s'))
      ∧ (∀ before, before <+: lines →
          let saved := lastSaved (trail before s') s' none
          let later := (Run.state after before s').bridge.storage
          (saved = none → later.written = s'.bridge.storage.written
              ∧ later.document? = s'.bridge.storage.document?)
            ∧ ∀ r, saved = some r → later.document? = some r.encode
              ∧ later.content = .ok (some r.encode))
      ∧ ∀ past e, past ++ [e] <+: trail lines s' →
          let earlier := (Run.state Deed.after past s').bridge
          let later := (Run.state Deed.after (past ++ [e]) s').bridge
          earlier.storage.written < later.storage.written →
            later.storage.content = .ok (some later.registry.encode) := by
  refine ⟨fun before hbefore => ?_, fun before hbefore => ?_, fun past e hpast => ?_⟩
  · refine Run.related_of_forall (fun e he _ _ halike => ?_) h
    exact alike_after (hlines e (hbefore.mem he)) halike
  · intro saved later
    have hstored : StoredAs s'.bridge.storage s'.bridge.storage none := ⟨rfl, .refl _⟩
    have htrail : ∀ e ∈ trail before s', ∀ name, e.2 ≠ .restore name := fun e he =>
      ne_restore_of_mem_trail (fun e he => hlines e (hbefore.mem he)) he
    have hrun := storedAs_run hstored htrail
    rw [state_trail] at hrun
    refine ⟨fun hnone => ?_, fun r hsome => ?_⟩
    · rw [show lastSaved (trail before s') s' none = none from hnone] at hrun
      exact ⟨hrun.1, hrun.2.document⟩
    · rw [show lastSaved (trail before s') s' none = some r from hsome] at hrun
      exact ⟨Storage.document?_of_content hrun, hrun⟩
  · intro earlier later hwritten
    have hmem : e ∈ trail lines s' := hpast.mem (by simp)
    have hstores : Backup.Stores (Run.state Deed.after past s').bridge
        (Run.state Deed.after (past ++ [e]) s').bridge := by
      rw [Run.state_concat]
      exact stores_after (ne_restore_of_mem_trail hlines hmem)
    rcases hstores with ⟨-, hcontent⟩ | ⟨hsame, -⟩
    · exact hcontent
    · exact absurd hsame (Nat.ne_of_gt hwritten)

/-- A function is defined, and the first write is refused: it is remembered all the same, and stored
by the next line. -/
theorem failed_writes_forget_nothing_refused_once :
    let lines : List (Timed String) := [(1, "simulate def f(x):"), (2, "bridge-save")]
    let session : Refusals → Session := fun refusals =>
      ⟨SortedMap.empty, SortedMap.empty,
        ⟨SortedMap.empty, .new (.memory none) (.fresh 0 []) refusals⟩, "backups", false, false⟩
    let s' := session ⟨fun _ => false, fun n => n == 0⟩
    (Run.state after lines (session .none)).Alike (Run.state after lines s')
      ∧ (Run.state after lines s').bridge.storage.content
        = .ok (some (Run.state after lines s').bridge.registry.encode) := by
  intro lines session s'
  have htrail : trail lines s' = [(1, .define "f" ⟨"python"⟩ ["x"]), (2, .save)] := by
    decide +kernel
  have hlines : ∀ e ∈ lines, TakesNothing e.2 := by
    have hdefine : command? "simulate def f(x):" = some (.simulate "def f(x):") := by decide
    have hsave : command? "bridge-save" = some .bridgeSave := by decide
    intro e he
    rcases List.mem_pair.mp he with rfl | rfl
    · exact ⟨fun name => by simp [hdefine], fun path => by simp [hdefine]⟩
    · exact ⟨fun name => by simp [hsave], fun path => by simp [hsave]⟩
  have hforget := failed_writes_forget_nothing lines hlines (session .none) s'
    ⟨rfl, rfl, rfl, rfl, rfl⟩
  refine ⟨hforget.1 lines (List.prefix_refl lines), ?_⟩
  have hcontent := hforget.2.2 [(1, .define "f" ⟨"python"⟩ ["x"])] (2, .save)
    (htrail ▸ List.prefix_refl _) (by decide +kernel)
  rw [← state_trail, htrail]
  exact hcontent

end Shell

end Rehearsal
