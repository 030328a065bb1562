import Rehearsal.Proofs.Shell.Deeds

/-!
# No function is lost unasked

A line removes all functions only as the answer to a question that the line before it has asked, and
only with one answer. The flag that makes a line an answer is set by no line but `bridge-clear`, and
by that only when it is not itself an answer; an answer, whatever it is, resets the flag and is
nothing else (`Shell.after_of_awaiting`).

Besides, functions are lost by asking for it with their names or by restoring a backup. No other
line does that: not a failed save, not a snippet that defines, calls or fails
(`Shell.Asked`, `Shell.exists_asked_of_lost`).
-/

namespace Rehearsal

variable {now : Instant} {r : Registry} {name other : String}

/-! ## Names in a registry -/

theorem Registry.contains_insert (h : r.contains name = true) (f : FunctionRecord) :
    SortedMap.contains (r.insert other f) name = true := by
  unfold SortedMap.contains at h ⊢
  rw [SortedMap.get?_insert]
  split
  · rfl
  · exact h

theorem Registry.contains_erase (h : r.contains name = true) (hne : name ≠ other) :
    SortedMap.contains (r.erase other) name = true := by
  unfold SortedMap.contains at h ⊢
  rw [SortedMap.get?_erase_of_ne r hne]
  exact h

theorem Registry.contains_recordCall (h : r.contains name = true) :
    SortedMap.contains (r.recordCall now other) name = true := by
  unfold Registry.recordCall
  split
  · exact contains_insert h _
  · exact h

/-- **A step loses a name** only if it is to remove that name or all. -/
theorem Backup.Step.lost {step : Backup.Step} (h : r.contains name = true)
    (h' : (step.registry now r).contains name = false) :
    step = .bridge (.unregister name) ∨ step = .bridge .clear := by
  -- every other step keeps the name
  have hkept : ∀ {P : Prop}, (step.registry now r).contains name = true → P :=
    fun hkept => absurd (h'.symm.trans hkept) (by simp)
  cases step with
  | create name? => exact hkept h
  | restore backup => exact hkept h
  | bridge op =>
    cases op with
    | clear => exact Or.inr rfl
    | unregister other =>
      by_cases hname : other = name
      · exact Or.inl (by rw [hname])
      · refine hkept ?_
        rw [Backup.Step.registry, Bridge.Operation.effect]
        split
        · exact Registry.contains_erase h (Ne.symm hname)
        · exact h
    | register other lang params body => exact hkept (Registry.contains_insert h _)
    | call other args =>
      refine hkept ?_
      rw [Backup.Step.registry, Bridge.Operation.effect]
      split
      · exact Registry.contains_recordCall h
      · exact h
    | save => exact hkept h
    | load => exact hkept h
    | reopen => exact hkept h

namespace Deed

variable {d : Deed} {s : Session}

theorem eq_remove_of_step? (h : d.step? s = some (.bridge (.unregister name))) :
    d = .remove name := by
  cases d with
  | remove other =>
    cases h
    rfl
  | call target args =>
    rw [step?_call] at h
    split at h <;> cases h
  | _ => cases h

theorem eq_clear_of_step? (h : d.step? s = some (.bridge .clear)) : d = .clear := by
  cases d with
  | clear => rfl
  | call target args =>
    rw [step?_call] at h
    split at h <;> cases h
  | _ => cases h

/-- **A deed loses a name** only if it is to remove that name, to remove all, or to restore a
backup. -/
theorem lost (h : s.bridge.registry.contains name = true)
    (h' : (d.after now s).bridge.registry.contains name = false) :
    d = .remove name ∨ d = .clear ∨ ∃ backup, d = .restore backup := by
  by_cases hrestore : ∃ backup, d = .restore backup
  · exact Or.inr (Or.inr hrestore)
  · rw [registry_after fun backup hd => hrestore ⟨backup, hd⟩] at h'
    cases hstep : d.step? s with
    | none =>
      rw [hstep] at h'
      exact absurd (h.symm.trans h') (by simp)
    | some step =>
      rw [hstep] at h'
      rcases Backup.Step.lost h h' with rfl | rfl
      · exact Or.inl (eq_remove_of_step? hstep)
      · exact Or.inr (Or.inl (eq_clear_of_step? hstep))

end Deed

namespace Shell

open Text (trimmed)

variable {line : String} {s : Session}

/-! ## The flag -/

/-- Only the question and its answer concern the flag. -/
theorem awaitingClear_after_deed {d : Deed} (hask : d ≠ .ask) (hsettle : d ≠ .settle) :
    (d.after now s).awaitingClear = s.awaitingClear := by
  cases d with
  | ask => exact absurd rfl hask
  | settle => exact absurd rfl hsettle
  | call target args =>
    rw [Deed.after_call]
    cases Callee.resolve s target <;> rfl
  | _ => rfl

/-- **A command that is not `bridge-clear`** leaves the flag as it is. -/
theorem awaitingClear_run_deeds {b : Builtin} (hb : b ≠ .bridgeClear) (disk : Disk) :
    (Deed.run now (b.deeds disk) s).awaitingClear = s.awaitingClear := by
  refine Run.state_of_forall (P := fun s' : Session => s'.awaitingClear = s.awaitingClear)
    (fun e he s' hs' => ?_) rfl
  obtain ⟨d, hd, rfl⟩ := List.mem_map.mp he
  have hdoes := Builtin.does_of_mem_deeds hd
  rw [← hs']
  refine awaitingClear_after_deed ?_ ?_
  · rintro rfl
    cases hdoes with
    | simulate _ h | runFile _ h => cases h
    | ask => exact hb rfl
  · rintro rfl
    cases hdoes with
    | simulate _ h | runFile _ h => cases h

/-- **A line that is an answer** is that and nothing else. -/
theorem after_of_awaiting (h : s.awaitingClear = true) :
    after now line s
      = if trimmed line = Builtin.confirmation then
          { s with bridge := (Bridge.clear now s.bridge).state, awaitingClear := false }
        else { s with awaitingClear := false } := by
  rw [after_eq, deeds, if_pos h]
  split <;> rfl

/-- A line that is no answer does what its command does. -/
theorem after_of_not_awaiting (h : s.awaitingClear = false) :
    after now line s
      = Deed.run now ((command? line).elim [] (Builtin.deeds s.disk)) s := by
  rw [after_eq, deeds, if_neg (by simp [h])]

/-- **The flag after a line**: set by `bridge-clear`, unless that was an answer. -/
theorem awaitingClear_after :
    (after now line s).awaitingClear = true
      ↔ s.awaitingClear = false ∧ command? line = some .bridgeClear := by
  cases h : s.awaitingClear with
  | true =>
    rw [after_of_awaiting h]
    split <;> simp
  | false =>
    rw [after_of_not_awaiting h]
    cases hline : command? line with
    | none =>
      show s.awaitingClear = true ↔ _
      simp [h]
    | some b =>
      by_cases hb : b = .bridgeClear
      · subst hb
        exact iff_of_true rfl ⟨rfl, rfl⟩
      · show (Deed.run now (b.deeds s.disk) s).awaitingClear = true ↔ _
        rw [awaitingClear_run_deeds hb, h]
        simp [hb]

/-! ## Names that are lost -/

/-- **What asks for a name to be removed**: the answer that removes all, the command that removes the
name, or a backup restored. -/
inductive Asked (s : Session) (line name : String) : Prop where
  | confirmed (h : s.awaitingClear = true) (hanswer : trimmed line = Builtin.confirmation)
  | removed (h : s.awaitingClear = false) (hline : command? line = some (.bridgeRemove name))
  | restored (h : s.awaitingClear = false) (backup : String)
      (hline : command? line = some (.bridgeRestore backup))

/-- **A name is lost by a line** only if that was asked for. -/
theorem asked_of_lost (h : s.bridge.registry.contains name = true)
    (h' : (after now line s).bridge.registry.contains name = false) : Asked s line name := by
  cases hawaiting : s.awaitingClear with
  | true =>
    refine .confirmed hawaiting (Decidable.byContradiction fun hanswer => ?_)
    rw [after_of_awaiting hawaiting, if_neg hanswer] at h'
    exact absurd (h.symm.trans h') (by simp)
  | false =>
    rw [after_of_not_awaiting hawaiting] at h'
    obtain ⟨before, e, later, hdeeds, hbefore, hlost⟩ := Run.exists_event_of_lost
      (P := fun s : Session => s.bridge.registry.contains name = true) h (ne_true_of_eq_false h')
    have he : e ∈ Deed.timed now ((command? line).elim [] (Builtin.deeds s.disk)) :=
      hdeeds ▸ by simp
    obtain ⟨d, hd, rfl⟩ := List.mem_map.mp he
    obtain ⟨b, hline, hdoes⟩ := exists_does_of_mem hd
    rcases Deed.lost hbefore (by simpa using hlost) with rfl | rfl | ⟨backup, rfl⟩
    · cases hdoes with
      | simulate _ h | runFile _ h => cases h
      | remove => exact .removed hawaiting hline
    · cases hdoes with
      | simulate _ h | runFile _ h => cases h
    · rw [hdoes.eq_bridgeRestore] at hline
      exact .restored hawaiting backup hline

/-- **A name is lost on a run of lines** only if some line asked for it. -/
theorem exists_asked_of_lost {lines : List (Timed String)}
    (h : s.bridge.registry.contains name = true)
    (h' : (Run.state after lines s).bridge.registry.contains name = false) :
    ∃ before e later, lines = before ++ e :: later ∧ Asked (Run.state after before s) e.2 name := by
  obtain ⟨before, e, later, hlines, hbefore, hlost⟩ := Run.exists_event_of_lost
    (P := fun s : Session => s.bridge.registry.contains name = true) h (ne_true_of_eq_false h')
  exact ⟨before, e, later, hlines, asked_of_lost hbefore (by simpa using hlost)⟩

/-- **No function is lost unasked.** Take any lines from any session on, then one more line. A line is
an answer after it if and only if it was `bridge-clear`, read as a command and not as an answer. A
name that was registered and is not any more was lost to the answer that confirms, and then all
were; or to a command that removes it; or to one that restores a backup. An answer that does not
confirm changes nothing but the flag. -/
theorem no_function_lost_unasked (s : Session) (lines : List (Timed String)) (now : Instant)
    (line : String) :
    let before := Run.state after lines s
    let later := after now line before
    (later.awaitingClear = true
        ↔ before.awaitingClear = false ∧ command? line = some .bridgeClear)
      ∧ (∀ name, before.bridge.registry.contains name = true →
          later.bridge.registry.contains name = false →
          before.awaitingClear = true ∧ trimmed line = "CONFIRM"
              ∧ later.bridge.registry = SortedMap.empty
            ∨ before.awaitingClear = false ∧ command? line = some (.bridgeRemove name)
            ∨ before.awaitingClear = false
              ∧ ∃ backup, command? line = some (.bridgeRestore backup))
      ∧ (before.awaitingClear = true → trimmed line ≠ "CONFIRM" →
          later = { before with awaitingClear := false }) := by
  intro before later
  refine ⟨awaitingClear_after, fun name h h' => ?_, fun h hanswer => ?_⟩
  · cases asked_of_lost h h' with
    | confirmed hawaiting hanswer =>
      refine Or.inl ⟨hawaiting, hanswer, ?_⟩
      show (after now line before).bridge.registry = SortedMap.empty
      rw [after_of_awaiting hawaiting, if_pos hanswer, Bridge.clear_state]
      rfl
    | removed hawaiting hline => exact Or.inr (Or.inl ⟨hawaiting, hline⟩)
    | restored hawaiting backup hline => exact Or.inr (Or.inr ⟨hawaiting, backup, hline⟩)
  · exact (after_of_awaiting h).trans (if_neg hanswer)

/-- A function that is registered: the answer that confirms removes it, and one in small letters
does not. -/
theorem no_function_lost_unasked_confirmed :
    let r := Registry.register SortedMap.empty 1 "f" ⟨"python"⟩ [] []
    let s : Session := ⟨SortedMap.empty, SortedMap.empty,
      ⟨r, .new (.memory none) (.fresh 0 []) .none⟩, "backups", false, false⟩
    let asked := Run.state after [(2, "bridge-clear")] s
    (after 3 "CONFIRM" asked).bridge.registry = SortedMap.empty
      ∧ after 3 "confirm" asked = { asked with awaitingClear := false } := by
  intro r s asked
  have hasked : asked.awaitingClear = true :=
    (no_function_lost_unasked s [] 2 "bridge-clear").1.mpr ⟨rfl, by decide⟩
  have hf : asked.bridge.registry.contains "f" = true := rfl
  have hgone : (after 3 "CONFIRM" asked).bridge.registry.contains "f" = false := by
    rw [after_of_awaiting hasked, if_pos (by decide), Bridge.clear_state]
    rfl
  refine ⟨?_, (no_function_lost_unasked s [(2, "bridge-clear")] 3 "confirm").2.2 hasked (by decide)⟩
  rcases (no_function_lost_unasked s [(2, "bridge-clear")] 3 "CONFIRM").2.1 "f" hf hgone with
    ⟨-, -, h⟩ | ⟨h, -⟩ | ⟨h, -⟩
  · exact h
  · exact absurd (hasked.symm.trans h) (by simp)
  · exact absurd (hasked.symm.trans h) (by simp)

end Shell

end Rehearsal
