import Rehearsal.Proofs.Agreement
import Rehearsal.Proofs.Backup.Outcome

/-!
# Bridges that agree

A bridge reaches its storage by reads and writes of the document, and a backup also by folders that
are made and files that are written. So two bridges with the same functions (`Bridge.Over`) agree on
all that is asked of them, if their storages do: it is enough that reads and writes agree
(`Storage.Agreeing`), and for backups that the disks are found alike and changed alike.

What it is that the storages may differ in is not said here. They are related in some way, and each
access keeps them so.
-/

namespace Rehearsal

open Routine (Agree)

variable {Q : Storage → Storage → Prop} {now : Instant}

/-- **Storages that agree** on reads and writes of the document. -/
structure Storage.Agreeing (Q : Storage → Storage → Prop) (now : Instant) : Prop where
  read : Agree Q Storage.read Storage.read
  write : ∀ octets, Agree Q (Storage.write now octets) (Storage.write now octets)

/-- **Reads and writes agree** if the storages have the same document and have had the same
accesses, and the document is replaced on both or on neither. -/
theorem Storage.agreeing_of_replace
    (hcontent : ∀ s s', Q s s' → s'.content = s.content)
    (hcounts : ∀ s s', Q s s' →
      s'.refusals = s.refusals ∧ s'.reads = s.reads ∧ s'.writes = s.writes)
    (hcounted : ∀ s s', Q s s' → ∀ reads writes written : Nat → Nat,
      Q { s with reads := reads s.reads, writes := writes s.writes, written := written s.written }
        { s' with
          reads := reads s'.reads
          writes := writes s'.writes
          written := written s'.written })
    (hreplace : ∀ s s', Q s s' → ∀ octets,
      (s'.replace now octets).1 = (s.replace now octets).1
        ∧ Q (s.replace now octets).2 (s'.replace now octets).2) : Storage.Agreeing Q now := by
  constructor
  · intro s s' h
    obtain ⟨hrefusals, hreads, -⟩ := hcounts s s' h
    refine ⟨?_, rfl, hcounted s s' h (· + 1) id id⟩
    unfold Storage.read
    dsimp only
    rw [hrefusals, hreads, hcontent s s' h]
  · intro octets s s' h
    obtain ⟨hrefusals, -, hwrites⟩ := hcounts s s' h
    have htried := hcounted s s' h id (· + 1) id
    have hrefused' : s'.refusals.writes s'.writes = s.refusals.writes s.writes := by
      rw [hrefusals, hwrites]
    unfold Storage.write
    dsimp only
    rw [hrefused']
    by_cases hrefused : s.refusals.writes s.writes = true
    · rw [if_pos hrefused, if_pos hrefused]
      exact ⟨rfl, rfl, htried⟩
    · rw [if_neg hrefused, if_neg hrefused]
      obtain ⟨hvalue, hreplaced⟩ := hreplace _ _ htried octets
      dsimp only [id] at hvalue hreplaced
      generalize Storage.replace { s with writes := s.writes + 1 } now octets = r
        at hvalue hreplaced ⊢
      generalize Storage.replace { s' with writes := s'.writes + 1 } now octets = r'
        at hvalue hreplaced ⊢
      obtain ⟨outcome, s₁⟩ := r
      obtain ⟨outcome', s₁'⟩ := r'
      obtain rfl : outcome' = outcome := hvalue
      cases outcome' with
      | error e => exact ⟨rfl, rfl, hreplaced⟩
      | ok u => exact ⟨rfl, rfl, hcounted _ _ hreplaced id id (· + 1)⟩

namespace Bridge

/-- **Bridges over storages that are related**, with the same functions. -/
structure Over (Q : Storage → Storage → Prop) (b b' : Bridge) : Prop where
  registry : b'.registry = b.registry
  storage : Q b.storage b'.storage

namespace Over

theorem agree_onStorage {α : Type} {m : Routine Storage α} (h : Agree Q m m) :
    Agree (Over Q) (onStorage m) (onStorage m) :=
  h.on (fun _ _ hb => hb.storage) fun _ _ _ _ ht hb => ⟨hb.registry, ht⟩

theorem agree_withRegistry (f : Registry → Registry) :
    Agree (Over Q) (withRegistry f) (withRegistry f) :=
  .modify fun _ _ hb => ⟨congrArg f hb.registry, hb.storage⟩

section

variable (h : Storage.Agreeing Q now)
include h

/-- Saving agrees. -/
theorem agree_save : Agree (Over Q) (save now) (save now) := by
  unfold save
  refine .get_bind fun b b' hb => ?_
  rw [hb.registry]
  refine (agree_onStorage (h.write _)).bind (fun r => ?_) b b' hb
  cases r with
  | error e => exact .pure _
  | ok u => exact (Agree.note _ _ _).bind fun _ => .pure _

/-- Loading agrees. -/
theorem agree_load : Agree (Over Q) (load now) (load now) := by
  unfold load
  refine (agree_onStorage h.read).bind fun r => ?_
  cases decoded now r with
  | ok r => exact (agree_withRegistry _).bind fun _ => .pure _
  | error e =>
    refine .get_bind fun b b' hb => ?_
    exact ((Agree.note _ _ _).bind fun _ => (agree_withRegistry _).bind fun _ => .pure 0) b b' hb

theorem agree_begin : Agree (Over Q) (begin now) (begin now) := by
  unfold begin
  refine (agree_load h).bind fun n => .get_bind fun b b' hb => ?_
  exact Agree.note _ _ _ b b' hb

theorem agree_register (name : String) (lang : Language) (params : List String)
    (body : List Action) :
    Agree (Over Q) (register now name lang params body) (register now name lang params body) := by
  unfold register
  exact (Agree.note _ _ _).bind fun _ => (agree_withRegistry _).bind fun _ => agree_save h

theorem agree_unregister (name : String) :
    Agree (Over Q) (unregister now name) (unregister now name) := by
  unfold unregister
  refine .get_bind fun b b' hb => ?_
  rw [hb.registry]
  split
  · refine ((agree_withRegistry _).bind fun _ => (Agree.note _ _ _).bind fun _ =>
      (agree_save h).bind fun r => ?_) b b' hb
    cases r with
    | error e => exact .pure _
    | ok u => exact .pure _
  · exact Agree.pure _ b b' hb

theorem agree_clear : Agree (Over Q) (clear now) (clear now) := by
  unfold clear
  refine .get_bind fun b b' hb => ?_
  rw [hb.registry]
  refine ((agree_withRegistry _).bind fun _ => (agree_save h).bind fun r => ?_) b b' hb
  cases r with
  | error e => exact .pure _
  | ok u => exact (Agree.note _ _ _).bind fun _ => .pure _

theorem agree_saveCall (name : String) :
    Agree (Over Q) (saveCall now name) (saveCall now name) := by
  unfold saveCall
  refine (agree_save h).bind fun r => ?_
  cases r with
  | error e => exact .note _ _ _
  | ok u => exact .pure _

theorem agree_call (name : String) (args : List String) :
    Agree (Over Q) (call now name args) (call now name args) := by
  unfold call
  refine .get_bind fun b b' hb => ?_
  rw [hb.registry]
  cases b.registry.get? name with
  | none => exact Agree.pure _ b b' hb
  | some f =>
    exact ((agree_withRegistry _).bind fun _ => (agree_saveCall h name).bind fun _ =>
      (Agree.note _ _ _).bind fun _ => .pure _) b b' hb

/-- Connecting anew agrees. -/
theorem agree_connect :
    Agree (Over Q) (fun b => connect now b.storage) (fun b => connect now b.storage) :=
  fun _ _ hb => agree_begin h _ _ ⟨rfl, hb.storage⟩

end

end Over

end Bridge

namespace Backup

open Bridge (Over)

variable {root p : Path} {name : String}

theorem writeFile_apply (p : Path) (octets : ByteArray) (b : Bridge) :
    writeFile p octets b
      = ⟨(Disk.outcomeOf b.storage.disk (b.storage.disk.write p octets)).1.mapError (.io p),
          onDisk (Disk.outcomeOf b.storage.disk (b.storage.disk.write p octets)).2 b, [], []⟩ := by
  cases hwrite : b.storage.disk.write p octets with
  | error e =>
    rw [writeFile_of_error hwrite]
    rfl
  | ok d =>
    rw [writeFile_of_ok hwrite]
    rfl

/-- Folders made on related storages, with the same result. -/
theorem agree_makeFolders
    (h : ∀ s s', Q s s' → (s'.disk.makeFolders now p).1 = (s.disk.makeFolders now p).1
      ∧ Q { s with disk := (s.disk.makeFolders now p).2 }
        { s' with disk := (s'.disk.makeFolders now p).2 }) :
    Agree (Over Q) (makeFolders now p) (makeFolders now p) := by
  intro b b' hb
  obtain ⟨hvalue, hstorage⟩ := h _ _ hb.storage
  rw [makeFolders_apply, makeFolders_apply]
  refine ⟨?_, rfl, hb.registry, hstorage⟩
  rw [hvalue]

/-- A file written on related storages, with the same result. -/
theorem agree_writeFile (octets : ByteArray)
    (h : ∀ s s', Q s s' →
      (Disk.outcomeOf s'.disk (s'.disk.write p octets)).1
          = (Disk.outcomeOf s.disk (s.disk.write p octets)).1
        ∧ Q { s with disk := (Disk.outcomeOf s.disk (s.disk.write p octets)).2 }
          { s' with disk := (Disk.outcomeOf s'.disk (s'.disk.write p octets)).2 }) :
    Agree (Over Q) (writeFile p octets) (writeFile p octets) := by
  intro b b' hb
  obtain ⟨hvalue, hstorage⟩ := h _ _ hb.storage
  rw [writeFile_apply, writeFile_apply]
  refine ⟨?_, rfl, hb.registry, hstorage⟩
  rw [hvalue]

section

variable (h : Storage.Agreeing Q now)
include h

/-- **Making a backup agrees**, if the accesses to its folder and its document do. -/
theorem agree_create_over {name? : Option String}
    (hfind : ∀ name, nameFor now name? = .ok name → ∀ s s', Q s s' →
      s'.disk.find (documentPath root name) = s.disk.find (documentPath root name))
    (hfolders : ∀ name, nameFor now name? = .ok name →
      Agree (Over Q) (makeFolders now (folderPath root name))
        (makeFolders now (folderPath root name)))
    (hfile : ∀ name, nameFor now name? = .ok name → ∀ octets,
      Agree (Over Q) (writeFile (documentPath root name) octets)
        (writeFile (documentPath root name) octets)) :
    Agree (Over Q) (create now root name?) (create now root name?) := by
  unfold create
  cases hfor : nameFor now name? with
  | error e => exact .pure _
  | ok name =>
    refine .get_bind fun b b' hb => ?_
    have hexists : b'.storage.disk.exists? (documentPath root name)
        = b.storage.disk.exists? (documentPath root name) := by
      rw [Disk.exists?, Disk.exists?, hfind name hfor _ _ hb.storage]
    rw [hexists]
    by_cases htaken : b.storage.disk.exists? (documentPath root name) = true
    · rw [if_pos htaken, if_pos htaken]
      exact Agree.pure _ b b' hb
    · rw [if_neg htaken, if_neg htaken]
      refine ((hfolders name hfor).bind fun made => ?_) b b' hb
      cases made with
      | error e => exact .pure _
      | ok u =>
        refine (Over.agree_save h).bind fun saved => ?_
        cases saved with
        | error e => exact .pure _
        | ok u =>
          refine (Over.agree_onStorage h.read).bind fun document => ?_
          cases document with
          | error e => exact .pure _
          | ok document =>
            refine (hfile name hfor _).bind fun written => ?_
            cases written with
            | error e => exact .pure _
            | ok u => exact (Agree.note _ _ _).bind fun _ => .pure _

/-- **Restoring a backup agrees**, if reading its document does. -/
theorem agree_restore_over
    (hread : validName name = true → ∀ s s', Q s s' →
      s'.disk.read (documentPath root name) = s.disk.read (documentPath root name)) :
    Agree (Over Q) (restore now root name) (restore now root name) := by
  unfold restore
  by_cases hvalid : validName name = true
  · rw [if_pos hvalid]
    refine .get_bind fun b b' hb => ?_
    rw [hread hvalid _ _ hb.storage]
    cases b.storage.disk.read (documentPath root name) with
    | error e => cases e <;> exact Agree.pure _ b b' hb
    | ok octets =>
      refine ((Over.agree_onStorage (h.write octets)).bind fun written => ?_) b b' hb
      cases written with
      | error e => exact .pure _
      | ok u =>
        exact (Over.agree_load h).bind fun n => (Agree.note _ _ _).bind fun _ => .pure _
  · rw [if_neg hvalid]
    exact .pure _

end

end Backup

end Rehearsal
