import Rehearsal.Proofs.Backup.Run

/-!
# The stored document follows the registry

The bridge writes through: what changes the registry in memory saves it as a whole. So the
registry in memory is at any time **what the stored document is loaded as**, with the clock of
the latest loading (`Backup.Kept.loaded`), and as soon as anything has been saved since,
the stored document is the document of the registry to the octet (`Backup.Kept.saved`).

The clock matters before that. A document that was not written here may leave out instants,
and a load fills them in: the registry has them, the document does not yet, and another load
would fill in others. A `Trail` records which of the two is the case, and nothing the
bridge does depends on it.

The invariant is carried over one step by the cases of what a step comes to
(`Backup.Kept.after`). Where the store never fails, only one outcome leaves a trace on the disk
without a save: a backup whose folder could be made in part. That the folders made do not turn
up a document is where `Storage.Attached` is needed.
-/

namespace Rehearsal.Backup

open Bridge (Effect Served registryOf registryOf_encode)

/-! ## The trail of a run -/

/-- **What is known about a registry and its document**: when the registry was last loaded, and
whether it has been saved since. -/
structure Trail where
  loadedAt : Instant
  saved : Bool

/-- The trail after a step. A function that is not there cannot be removed or called, and a
backup that fails changes nothing about the trail, even if it has saved the registry. -/
def Step.trail (root : Path) (now : Instant) (b : Bridge) (t : Trail) : Step → Trail
  | .bridge (.register _ _ _ _) => { t with saved := true }
  | .bridge (.unregister name) =>
    if b.registry.contains name = true then { t with saved := true } else t
  | .bridge .clear => { t with saved := true }
  | .bridge (.call name _) =>
    if b.registry.contains name = true then { t with saved := true } else t
  | .bridge .save => { t with saved := true }
  | .bridge .load => ⟨now, false⟩
  | .bridge .reopen => ⟨now, false⟩
  | .create name? =>
    if (Backup.create now root name? b).value.isOk = true then { t with saved := true } else t
  | .restore name =>
    if (Backup.restore now root name b).value.isOk = true then ⟨now, false⟩ else t

/-- **The trail after a run.** -/
def trail (root : Path) : List Event → Bridge → Trail → Trail
  | [], _, t => t
  | e :: events, b, t => trail root events (e.2.after root e.1 b) (e.2.trail root e.1 b t)

/-- The trail after an effect. -/
def Effect.trail (now : Instant) (t : Trail) : Effect → Trail
  | .nothing => t
  | .load => ⟨now, false⟩
  | .save _ => { t with saved := true }

theorem trail_bridge (root : Path) (now : Instant) (b : Bridge) (t : Trail)
    (op : Bridge.Operation) :
    (Step.bridge op).trail root now b t = Effect.trail now t (op.effect now b.registry) := by
  cases op with
  | unregister name =>
    rw [Step.trail, Bridge.Operation.effect]
    split <;> rfl
  | call name args =>
    rw [Step.trail, Bridge.Operation.effect]
    split <;> rfl
  | _ => rfl

/-! ## What is kept -/

/-- **The document is kept with the registry**: loading it gives the registry, at least with the
clock of the latest loading, and once the registry was saved the document is its own. -/
structure Kept (b : Bridge) (t : Trail) : Prop where
  attached : b.storage.Attached
  loaded : b.registry = registryOf t.loadedAt b.storage.content
  saved : t.saved = true → b.storage.content = .ok (some b.registry.encode)

/-- With the document of the registry stored, all is kept whatever the trail. -/
theorem kept_of_content {b : Bridge} {r : Registry} (hregistry : b.registry = r)
    (h : b.storage.content = .ok (some r.encode)) (t : Trail) : Kept b t := by
  subst hregistry
  refine ⟨Storage.attached_of_content h, ?_, fun _ => h⟩
  rw [h, registryOf_encode]

section

variable {root : Path} {now : Instant} {b : Bridge} {t : Trail}

theorem Kept.on {e : Effect} (h : Kept b t) (hserves : b.storage.Serves)
    (hserves' : (e.on now b).storage.Serves) : Kept (e.on now b) (Effect.trail now t e) := by
  cases e with
  | nothing => exact h
  | load =>
    refine ⟨h.attached, Effect.registry_on_load hserves, fun hsaved => ?_⟩
    cases hsaved
  | save r => exact kept_of_content rfl (Effect.content_on_save hserves hserves') _

/-- The folders made for a backup keep what is kept. -/
theorem Kept.prepared {name : String} (h : Kept b t) (hserves : b.storage.Serves)
    (hserves' : (prepared now root name b).storage.Serves) : Kept (prepared now root name b) t := by
  have hmade := Disk.foldersMade_makeFolders b.storage.disk now (folderPath root name)
  have hcontent := h.attached.content_eq hmade hserves.content hserves'.content
  refine ⟨h.attached.of_foldersMade hmade, ?_, fun hsaved => ?_⟩
  · exact h.loaded.trans (congrArg (registryOf t.loadedAt) hcontent.symm)
  · exact hcontent.trans (h.saved hsaved)

/-- Where all writes have succeeded, saving for a backup has. -/
theorem save_prepared_value {name : String} (hserves : b.storage.Serves)
    (hserves' : (saved now root name b).storage.Serves) :
    (Bridge.save now (prepared now root name b)).value = .ok () := by
  rw [Bridge.save_value]
  have hwrites := hserves'.writes
  rw [saved_eq] at hwrites
  exact Storage.write_value_of_writes hserves.writes hwrites

theorem Kept.making {name? : Option String} {value : Except StorageError Path} {state : Bridge}
    (hmaking : Making now root name? b value state) (h : Kept b t) (hserves : b.storage.Serves)
    (hserves' : state.storage.Serves) :
    Kept state (if value.isOk = true then { t with saved := true } else t) := by
  cases hmaking with
  | misnamed => exact h
  | taken => exact h
  | noFolder =>
    -- the one outcome that touches the disk and saves nothing
    exact h.prepared hserves hserves'
  | notSaved _ _ _ hsave =>
    rw [save_prepared_value hserves hserves'] at hsave
    cases hsave
  | notRead _ _ _ hsave => exact kept_of_content (registry_reread _ _ _ b) (content_reread hsave) t
  | notWritten _ _ _ hsave =>
    exact kept_of_content (registry_reread _ _ _ b) (content_reread hsave) t
  | made _ _ _ hsave hread hwrite =>
    have hcontent := content_reread hsave
    -- what is copied is the stored document, so the copy may even be written over it
    obtain rfl := Except.ok.inj ((Storage.content_of_read hread).symm.trans hcontent)
    refine kept_of_content ?_ (content_onDisk hcontent hwrite) _
    exact registry_reread _ _ _ b

theorem Kept.restoring {name : String} {value : Except StorageError Nat} {state : Bridge}
    (hrestoring : Restoring now root name b value state) (h : Kept b t)
    (hserves : b.storage.Serves) (hserves' : state.storage.Serves) :
    Kept state (if value.isOk = true then ⟨now, false⟩ else t) := by
  cases hrestoring with
  | notRead => exact h
  | notWritten _ _ hwrite =>
    rw [Storage.write_value_of_writes hserves.writes hserves'.writes] at hwrite
    cases hwrite
  | restored _ _ hwrite =>
    have hcontent := Storage.content_of_write hwrite
    rw [Bridge.load_state] at hserves' ⊢
    refine ⟨Storage.attached_of_content hcontent, ?_, fun hsaved => ?_⟩
    · exact congrArg (registryOf now) hserves'.of_read.read
    · cases hsaved

/-- **A step keeps the document with the registry**, if the store does not fail. -/
theorem Kept.after {s : Step} (h : Kept b t) (hserves : b.storage.Serves)
    (hserves' : (s.after root now b).storage.Serves) :
    Kept (s.after root now b) (s.trail root now b t) := by
  cases s with
  | bridge op =>
    rw [trail_bridge]
    show Kept (op.after now b) _
    have hserves' : (op.after now b).storage.Serves := hserves'
    rw [op.after_eq] at hserves' ⊢
    exact h.on hserves hserves'
  | create name? => exact h.making (making_create now root name? b) hserves hserves'
  | restore name => exact h.restoring (restoring_restore now root name b) hserves hserves'

/-- **A run keeps the document with the registry**, if the store never fails. -/
theorem Kept.run {events : List Event} (h : Kept b t)
    (hserved : Served (Step.after root) events b) :
    Kept (Run.state (Step.after root) events b) (trail root events b t) := by
  induction events generalizing b t with
  | nil => exact h
  | cons e events ih => exact ih (h.after hserved.first hserved.tail.first) hserved.tail

end

/-! ## Steps that save nothing -/

/-- **A step that asks for nothing to be saved**: a load, a removal or a call of a name that is not
registered, and a backup of a name that no backup may have or that one has. -/
def Step.Idle (root : Path) (now : Instant) (b : Bridge) : Step → Prop
  | .bridge .load => True
  | .bridge .reopen => True
  | .bridge (.unregister name) => b.registry.contains name = false
  | .bridge (.call name _) => b.registry.contains name = false
  | .create name? =>
    match nameFor now name? with
    | .error _ => True
    | .ok name => b.storage.disk.exists? (documentPath root name) = true
  | _ => False

/-- A backup that is refused for its name leaves the bridge as it is. -/
theorem Making.writes_eq {root : Path} {now : Instant} {b : Bridge} {name? : Option String}
    {value : Except StorageError Path} {state : Bridge}
    (hmaking : Making now root name? b value state)
    (h : (Step.create name?).Idle root now b) : state.storage.content = b.storage.content
      ∧ state.storage.writes = b.storage.writes := by
  have hfree : ∀ {name : String} {P : Prop}, nameFor now name? = .ok name →
      b.storage.disk.exists? (documentPath root name) = false → P := by
    intro name P hname hnone
    unfold Step.Idle at h
    dsimp only at h
    rw [hname] at h
    exact absurd (h.symm.trans hnone) (by simp)
  cases hmaking with
  | misnamed => exact ⟨rfl, rfl⟩
  | taken => exact ⟨rfl, rfl⟩
  | noFolder hname hnone => exact hfree hname hnone
  | notSaved hname hnone => exact hfree hname hnone
  | notRead hname hnone => exact hfree hname hnone
  | notWritten hname hnone => exact hfree hname hnone
  | made hname hnone => exact hfree hname hnone

/-- **Nothing is written by a step that asks for nothing to be saved.** -/
theorem Step.Idle.writes_eq {root : Path} {now : Instant} {b : Bridge} {s : Step}
    (h : s.Idle root now b) : (s.after root now b).storage.content = b.storage.content
      ∧ (s.after root now b).storage.writes = b.storage.writes := by
  cases s with
  | bridge op =>
    show (op.after now b).storage.content = _ ∧ (op.after now b).storage.writes = _
    rw [op.after_eq]
    cases op with
    | load => exact ⟨rfl, rfl⟩
    | reopen => exact ⟨rfl, rfl⟩
    | unregister name =>
      have hname : b.registry.contains name = false := h
      rw [Bridge.Operation.effect, if_neg (by simp [hname])]
      exact ⟨rfl, rfl⟩
    | call name args =>
      have hname : b.registry.contains name = false := h
      rw [Bridge.Operation.effect, if_neg (by simp [hname])]
      exact ⟨rfl, rfl⟩
    | register name lang params body => exact h.elim
    | clear => exact h.elim
    | save => exact h.elim
  | create name? => exact (making_create now root name? b).writes_eq h
  | restore name => exact h.elim

/-! ## Write-through -/

/-- **The bridge writes through.** Take any run with backups that starts by connecting to a
storage, whatever is stored there, whose document nothing but the bridge touches (a file that is
in its place is the document), and in which the store never fails. Then the registry is what the
stored document is loaded as, with the clock of the latest loading. Once it has been saved since,
the document is its own to the octet, so that connecting anew at any time brings it back. And a
step that asks for nothing to be saved writes nothing. -/
theorem write_through (root : Path) (t : Instant) (storage : Storage) (events : List Event)
    (hattached : storage.Attached)
    (hserved : Served (Step.after root) events (Bridge.connect t storage).state) :
    let b := Run.state (Step.after root) events (Bridge.connect t storage).state
    let past := trail root events (Bridge.connect t storage).state ⟨t, false⟩
    b.registry = registryOf past.loadedAt b.storage.content
      ∧ (past.saved = true → b.storage.content = .ok (some b.registry.encode)
          ∧ ∀ later, (Bridge.connect later b.storage).state.registry = b.registry)
      ∧ (∀ now (s : Step), s.Idle root now b →
          (s.after root now b).storage.content = b.storage.content
            ∧ (s.after root now b).storage.writes = b.storage.writes)
      ∧ (Bridge.connect t storage).state.storage.content = storage.content
      ∧ (Bridge.connect t storage).state.storage.writes = storage.writes := by
  intro b past
  have hkept : Kept (Bridge.connect t storage).state ⟨t, false⟩ := by
    refine ⟨?_, ?_, fun hsaved => ?_⟩
    · rw [Bridge.connect_state]
      exact hattached
    · rw [Bridge.registry_connect hserved.first, Bridge.connect_state]
      rfl
    · cases hsaved
  obtain ⟨-, hloaded, hsaved⟩ := hkept.run hserved
  refine ⟨hloaded, fun hpast => ⟨hsaved hpast, fun later => ?_⟩, fun now s h => h.writes_eq, ?_⟩
  · have hserves : b.storage.Serves := hserved.last
    rw [Bridge.connect_state]
    show registryOf later (Storage.read b.storage).value = b.registry
    rw [hserves.read, hsaved hpast, registryOf_encode]
  · rw [Bridge.connect_state]
    exact ⟨rfl, rfl⟩

/-- A run over a store in memory that holds no registry at first: whatever is restored and called on
the way, connecting after the last save brings back the registry. -/
theorem write_through_memory :
    let storage : Storage := .new (.memory (some "\x7b".toUTF8)) (.fresh 0 ["home"]) .none
    let events : List Event := [(5, .bridge (.register "f" ⟨"python"⟩ ["x"] [])),
      (7, .create (some "a")), (9, .bridge (.unregister "f")), (8, .restore "a"),
      (6, .bridge (.call "f" ["1"])), (12, .bridge .save)]
    (Bridge.connect 1 (Run.state (Step.after "backups") events
        (Bridge.connect 3 storage).state).storage).state.registry
      = (Run.state (Step.after "backups") events (Bridge.connect 3 storage).state).registry := by
  intro storage events
  have hserved : Served (Step.after "backups") events (Bridge.connect 3 storage).state := by
    rw [Bridge.connect_state]
    exact Bridge.served_of_unfailing (Step.unfailing_after "backups") events
      (Storage.Unfailing.read ⟨⟨_, rfl⟩, rfl, rfl⟩)
  have hpast := (write_through "backups" 3 storage events (Storage.attached_memory rfl) hserved).2.1
  refine (hpast ?_).2 1
  simp only [events, trail, Step.trail]

end Rehearsal.Backup
