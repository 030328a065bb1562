import Rehearsal.Proofs.Backup.Outcome

/-!
# Runs of a bridge with backups

A run with backups is a run of a bridge in which backups are made and restored in between,
all of them below one root. The root is not part of the steps, since it is fixed when backups are
set up, and neither is the outcome of a step.
-/

namespace Rehearsal.Backup

/-- **A step of a bridge with backups.** -/
inductive Step where
  | bridge (op : Bridge.Operation)
  /-- Make a backup, of a given name or of the one that the instant gives. -/
  | create (name? : Option String)
  | restore (name : String)

/-- The bridge after a step. -/
def Step.after (root : Path) (now : Instant) : Step → Bridge → Bridge
  | .bridge op, b => op.after now b
  | .create name?, b => (Backup.create now root name? b).state
  | .restore name, b => (Backup.restore now root name b).state

/-- **A step and when it happens.** -/
abbrev Event := Timed Step

/-! ## Runs in memory -/

section

variable {now : Instant} {root : Path} {b : Bridge}

theorem unfailing_onDisk {d : Disk} (h : b.storage.Unfailing) :
    (onDisk d b).storage.Unfailing := ⟨h.store, h.refusals, h.writes⟩

theorem unfailing_saved {name : String} (h : b.storage.Unfailing) :
    (saved now root name b).storage.Unfailing := by
  rw [saved_eq]
  exact (unfailing_onDisk h).write

theorem unfailing_reread {name : String} (h : b.storage.Unfailing) :
    (reread now root name b).storage.Unfailing := (unfailing_saved h).read

theorem Making.unfailing {name? : Option String} {value : Except StorageError Path}
    {state : Bridge} (hmaking : Making now root name? b value state) (h : b.storage.Unfailing) :
    state.storage.Unfailing := by
  cases hmaking with
  | misnamed => exact h
  | taken => exact h
  | noFolder => exact unfailing_onDisk h
  | notSaved => exact unfailing_saved h
  | notRead => exact unfailing_reread h
  | notWritten => exact unfailing_reread h
  | made => exact unfailing_onDisk (unfailing_reread h)

theorem Restoring.unfailing {name : String} {value : Except StorageError Nat} {state : Bridge}
    (hrestoring : Restoring now root name b value state) (h : b.storage.Unfailing) :
    state.storage.Unfailing := by
  cases hrestoring with
  | notRead => exact h
  | notWritten => exact h.write
  | restored =>
    rw [Bridge.load_state]
    exact h.write.read

/-- **In memory no step meets a failure of the store.** -/
theorem Step.unfailing_after (root : Path) (now : Instant) (s : Step) (b : Bridge)
    (h : b.storage.Unfailing) : (s.after root now b).storage.Unfailing := by
  cases s with
  | bridge op => exact op.unfailing_after now b h
  | create name? => exact (making_create now root name? b).unfailing h
  | restore name => exact (restoring_restore now root name b).unfailing h

end

end Rehearsal.Backup
