import Rehearsal.Proofs.Backup.Run
import Rehearsal.Proofs.Storage.Refused

/-!
# Steps that take nothing from the store

Most steps of a bridge go outward: what changes the registry is done in memory first, and then
the store is told. Only loading and restoring go the other way. A step that goes outward changes
the registry in the same way **whatever the store does** (`Step.registry_after`), and leaves
behind it one of two things, the document of the registry or the document that was there
(`Step.stores_after`).
-/

namespace Rehearsal.Backup

open Bridge (Effect)
open Storage (Retains retains_of_foldersMade)

variable {root : Path} {now : Instant} {b : Bridge}

/-- **A step that takes nothing from the store** into memory. -/
def Step.Outward : Step → Prop
  | .bridge .load => False
  | .bridge .reopen => False
  | .restore _ => False
  | _ => True

/-- **The registry after a step**, as memory has it. -/
def Step.registry (now : Instant) (r : Registry) : Step → Registry
  | .bridge op => (op.effect now r).registry r
  | _ => r

/-! ## Memory -/

/-- An operation that goes outward does not load. -/
theorem effect_ne_load {op : Bridge.Operation} (h : (Step.bridge op).Outward) (now : Instant)
    (r : Registry) : op.effect now r ≠ .load := by
  cases op with
  | load => exact h.elim
  | reopen => exact h.elim
  | unregister name =>
    rw [Bridge.Operation.effect]
    split <;> simp
  | call name args =>
    rw [Bridge.Operation.effect]
    split <;> simp
  | register name lang params body => simp [Bridge.Operation.effect]
  | clear => simp [Bridge.Operation.effect]
  | save => simp [Bridge.Operation.effect]

/-- **Whatever the store does**, the registry after the step is what memory makes of it. -/
theorem Step.registry_after {s : Step} (h : s.Outward) :
    (s.after root now b).registry = s.registry now b.registry := by
  cases s with
  | bridge op =>
    show (op.after now b).registry = _
    rw [op.after_eq, Step.registry]
    cases heffect : op.effect now b.registry with
    | nothing => rfl
    | load => exact absurd heffect (effect_ne_load h now b.registry)
    | save r => rfl
  | create name? => exact (making_create now root name? b).registry_eq
  | restore name => exact h.elim

/-! ## The store -/

/-- **What an outward step leaves in the store**: the document of the registry after it, if a write
has succeeded, and else the document that was there. -/
def Stores (b b' : Bridge) : Prop :=
  b.storage.written < b'.storage.written ∧ b'.storage.content = .ok (some b'.registry.encode)
    ∨ b'.storage.written = b.storage.written ∧ Retains b.storage b'.storage

theorem stores_effect {e : Effect} (h : e ≠ .load) (now : Instant) (b : Bridge) :
    Stores b (e.on now b) := by
  cases e with
  | nothing => exact Or.inr ⟨rfl, .refl _⟩
  | load => exact absurd rfl h
  | save r =>
    rcases Storage.written_or_retains b.storage now r.encode with ⟨hwritten, hcontent⟩ | hretains
    · exact Or.inl ⟨hwritten ▸ Nat.lt_succ_self _, hcontent⟩
    · exact Or.inr hretains

/-- Saving for a backup, on a disk on which folders have been made. -/
theorem stores_saved (now : Instant) (root : Path) (name : String) (b : Bridge) :
    Stores b (saved now root name b) := by
  have hfolders := Disk.foldersMade_makeFolders b.storage.disk now (folderPath root name)
  have hprepared : Retains b.storage (prepared now root name b).storage :=
    retains_of_foldersMade hfolders
  rw [saved_eq]
  rcases Storage.written_or_retains (prepared now root name b).storage now b.registry.encode with
    ⟨hwritten, hcontent⟩ | ⟨hwritten, hretains⟩
  · exact Or.inl ⟨hwritten ▸ Nat.lt_succ_self _, hcontent⟩
  · exact Or.inr ⟨hwritten, hprepared.trans hretains⟩

/-- A backup that gets as far as reading the document again has written it. -/
theorem written_saved {name : String}
    (h : (Bridge.save now (prepared now root name b)).value = .ok ()) :
    b.storage.written < (saved now root name b).storage.written := by
  rw [Bridge.save_value] at h
  rw [saved_eq]
  rcases Storage.write_cases (prepared now root name b).storage now b.registry.encode with
    ⟨-, -, hwritten⟩ | ⟨⟨e, he⟩, -⟩
  · exact hwritten ▸ Nat.lt_succ_self _
  · exact absurd (h.symm.trans he) (by simp)

theorem Making.stores {name? : Option String} {value : Except StorageError Path} {state : Bridge}
    (h : Making now root name? b value state) : Stores b state := by
  cases h with
  | misnamed => exact Or.inr ⟨rfl, .refl _⟩
  | taken => exact Or.inr ⟨rfl, .refl _⟩
  | noFolder =>
    exact Or.inr ⟨rfl, retains_of_foldersMade (Disk.foldersMade_makeFolders _ _ _)⟩
  | notSaved => exact stores_saved now root _ b
  | notRead _ _ _ hsave =>
    exact Or.inl ⟨written_saved hsave, (registry_reread now root _ b).symm ▸ content_reread hsave⟩
  | notWritten _ _ _ hsave =>
    exact Or.inl ⟨written_saved hsave, (registry_reread now root _ b).symm ▸ content_reread hsave⟩
  | made _ _ _ hsave hread hwrite =>
    have hcontent := content_reread hsave
    -- what is copied is the stored document, so the copy may even be written over it
    obtain rfl := Except.ok.inj ((Storage.content_of_read hread).symm.trans hcontent)
    refine Or.inl ⟨written_saved hsave, ?_⟩
    rw [content_onDisk hcontent hwrite]
    exact congrArg (fun r => Except.ok (some (Registry.encode r))) (registry_reread _ _ _ b).symm

/-- **An outward step leaves the document of the registry**, or the one that was there. -/
theorem Step.stores_after {s : Step} (h : s.Outward) : Stores b (s.after root now b) := by
  cases s with
  | bridge op =>
    show Stores b (op.after now b)
    rw [op.after_eq]
    exact stores_effect (effect_ne_load h now b.registry) now b
  | create name? => exact (making_create now root name? b).stores
  | restore name => exact h.elim

end Rehearsal.Backup
