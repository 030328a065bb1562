import Rehearsal.Proofs.Bridge.Persistence
import Rehearsal.Proofs.Run

/-!
# Runs of a bridge

An event of a bridge is an operation at some instant. There are seven operations, and they come to
only three things (`Bridge.Effect`): saving some registry, loading the stored one, nothing. Which
of the three depends on the registry alone (`Operation.effect`), and every fact about all runs is
proved from that (`Operation.after_eq`), without opening the operations again.
-/

namespace Rehearsal.Bridge

/-- **What can be asked of a bridge** that may change it. -/
inductive Operation where
  | register (name : String) (lang : Language) (params : List String) (body : List Action)
  | unregister (name : String)
  | clear
  | call (name : String) (args : List String)
  | save
  | load
  /-- Connect to the storage anew. -/
  | reopen

/-- The bridge after an operation. -/
def Operation.after (now : Instant) : Operation → Bridge → Bridge
  | .register name lang params body, b => (Bridge.register now name lang params body b).state
  | .unregister name, b => (Bridge.unregister now name b).state
  | .clear, b => (Bridge.clear now b).state
  | .call name args, b => (Bridge.call now name args b).state
  | .save, b => (Bridge.save now b).state
  | .load, b => (Bridge.load now b).state
  | .reopen, b => (Bridge.connect now b.storage).state

/-- What an operation gives. -/
def Operation.Result : Operation → Type
  | .register _ _ _ _ => Except StorageError Unit
  | .unregister _ => Except StorageError Bool
  | .clear => Except StorageError Nat
  | .call _ _ => Except BridgeError CallResult
  | .save => Except StorageError Unit
  | .load => Nat
  | .reopen => Unit

/-- **An operation run**, with what it gives. -/
def Operation.run (now : Instant) : (op : Operation) → Routine Bridge op.Result
  | .register name lang params body => Bridge.register now name lang params body
  | .unregister name => Bridge.unregister now name
  | .clear => Bridge.clear now
  | .call name args => Bridge.call now name args
  | .save => Bridge.save now
  | .load => Bridge.load now
  | .reopen => fun b => Bridge.connect now b.storage

/-- The bridge after an operation is the one that running it goes over to. -/
theorem Operation.run_state (op : Operation) (now : Instant) (b : Bridge) :
    (op.run now b).state = op.after now b := by
  cases op <;> rfl

/-- **An operation and when it happens.** -/
abbrev Event := Timed Operation

/-! ## What an operation comes to -/

/-- **What an operation comes to.** -/
inductive Effect where
  | nothing
  /-- The registry becomes the stored one. -/
  | load
  /-- The registry becomes this one, and is saved. -/
  | save (r : Registry)

/-- The bridge after an effect. -/
def Effect.on (now : Instant) : Effect → Bridge → Bridge
  | .nothing, b => b
  | .load, b => ⟨registryOf now (Storage.read b.storage).value, (Storage.read b.storage).state⟩
  | .save r, b => ⟨r, (Storage.write now r.encode b.storage).state⟩

/-- The registry after an effect on a storage that holds it. -/
def Effect.registry : Effect → Registry → Registry
  | .save r, _ => r
  | _, r => r

/-- **What an operation comes to**, by the registry it meets. -/
def Operation.effect (now : Instant) (r : Registry) : Operation → Effect
  | .register name lang params body => .save (r.register now name lang params body)
  | .unregister name => if r.contains name then .save (r.erase name) else .nothing
  | .clear => .save SortedMap.empty
  | .call name _ => if r.contains name then .save (r.recordCall now name) else .nothing
  | .save => .save r
  | .load => .load
  | .reopen => .load

section

variable (now : Instant) (name : String) (b : Bridge)

theorem register_state (lang : Language) (params : List String) (body : List Action) :
    (register now name lang params body b).state
      = (Effect.save (b.registry.register now name lang params body)).on now b := by
  unfold register
  rw [Routine.bind_state, Routine.bind_state, save_state]
  rfl

theorem register_value (lang : Language) (params : List String) (body : List Action) :
    (register now name lang params body b).value
      = (Storage.write now (b.registry.register now name lang params body).encode
          b.storage).value := by
  unfold register
  rw [Routine.bind_value, Routine.bind_value, save_value]
  rfl

theorem unregister_state_of_contains (h : b.registry.contains name = true) :
    (unregister now name b).state = (Effect.save (b.registry.erase name)).on now b := by
  unfold unregister
  rw [Routine.get_bind_apply, if_pos h, Routine.bind_state, Routine.bind_state, Routine.bind_state]
  have hsave := save_state now ⟨b.registry.erase name, b.storage⟩
  dsimp only [withRegistry_apply, Routine.note_apply]
  cases (save now ⟨b.registry.erase name, b.storage⟩).value <;> exact hsave

theorem unregister_value_of_contains (h : b.registry.contains name = true) :
    (unregister now name b).value
      = (Storage.write now (Registry.encode (b.registry.erase name)) b.storage).value.map
          fun _ => true := by
  unfold unregister
  rw [Routine.get_bind_apply, if_pos h, Routine.bind_value, Routine.bind_value, Routine.bind_value,
    ← save_value now ⟨b.registry.erase name, b.storage⟩]
  dsimp only [withRegistry_apply, Routine.note_apply]
  cases (save now ⟨b.registry.erase name, b.storage⟩).value <;> rfl

/-- A removal is only logged. -/
theorem unregister_lines : (unregister now name b).lines = [] := by
  unfold unregister
  rw [Routine.get_bind_apply]
  split
  · rw [Routine.bind_lines, Routine.bind_lines, Routine.bind_lines]
    dsimp only [withRegistry_apply, Routine.note_apply]
    rw [save_lines]
    cases (save now ⟨b.registry.erase name, b.storage⟩).value <;> rfl
  · rfl

/-- **What is not registered cannot be removed**, and nothing is tried. -/
theorem unregister_of_not_contains (h : b.registry.contains name = false) :
    unregister now name b = ⟨.ok false, b, [], []⟩ := by
  unfold unregister
  rw [Routine.get_bind_apply, if_neg (by simp [h])]
  rfl

theorem clear_state : (clear now b).state = (Effect.save SortedMap.empty).on now b := by
  unfold clear
  rw [Routine.get_bind_apply, Routine.bind_state, Routine.bind_state]
  have hsave := save_state now ⟨SortedMap.empty, b.storage⟩
  dsimp only [withRegistry_apply]
  cases (save now ⟨SortedMap.empty, b.storage⟩).value <;> exact hsave

/-- A fault of the save after a call is not the fault of the call. -/
theorem saveCall_state : (saveCall now name b).state = (save now b).state := by
  unfold saveCall
  rw [Routine.bind_state]
  cases (save now b).value <;> rfl

theorem call_state_of_get? (args : List String) {f : FunctionRecord}
    (h : b.registry.get? name = some f) :
    (call now name args b).state = (Effect.save (b.registry.recordCall now name)).on now b := by
  unfold call
  rw [Routine.get_bind_apply, h]
  dsimp only
  rw [Routine.bind_state, Routine.bind_state, saveCall_state, save_state]
  rfl

theorem call_value_of_get? (args : List String) {f : FunctionRecord}
    (h : b.registry.get? name = some f) :
    (call now name args b).value = .ok ((f.called now).simulate now args) := by
  unfold call
  rw [Routine.get_bind_apply, h]
  rfl

/-- **What is not registered cannot be called**, and nothing is tried. -/
theorem call_of_not_contains (args : List String) (h : b.registry.contains name = false) :
    call now name args b = ⟨.error (.notRegistered name), b, [], []⟩ := by
  unfold call
  rw [Routine.get_bind_apply, SortedMap.contains_eq_false_iff.mp h]
  rfl

end

/-- **An operation does what it comes to.** -/
theorem Operation.after_eq (op : Operation) (now : Instant) (b : Bridge) :
    op.after now b = (op.effect now b.registry).on now b := by
  cases op with
  | register name lang params body => exact register_state now name b lang params body
  | unregister name =>
    by_cases h : b.registry.contains name = true
    · rw [Operation.effect, if_pos h]
      exact unregister_state_of_contains now name b h
    · rw [Operation.effect, if_neg h]
      exact congrArg Reply.state (unregister_of_not_contains now name b (by simpa using h))
  | clear => exact clear_state now b
  | call name args =>
    by_cases h : b.registry.contains name = true
    · rw [Operation.effect, if_pos h]
      obtain ⟨f, hf⟩ := Option.isSome_iff_exists.mp h
      exact call_state_of_get? now name b args hf
    · rw [Operation.effect, if_neg h]
      exact congrArg Reply.state (call_of_not_contains now name b args (by simpa using h))
  | save => exact save_state now b
  | load => exact load_state now b
  | reopen => exact connect_state now b.storage

/-! ## What a run does to the storage -/

/-- **An effect reaches no file but the document.** -/
theorem Effect.onward_on (e : Effect) (now : Instant) (b : Bridge) :
    b.storage.Onward (e.on now b).storage := by
  cases e with
  | nothing => exact .refl _
  | load => exact Storage.onward_read b.storage
  | save r => exact Storage.onward_write b.storage now r.encode

theorem Operation.onward_after (op : Operation) (now : Instant) (b : Bridge) :
    b.storage.Onward (op.after now b).storage := by
  rw [op.after_eq]
  exact Effect.onward_on _ now b

/-! ## Runs in which the store never fails -/

/-- **A run in which the store never fails**: no state on the way has seen a failure. -/
abbrev Served {α : Type} (step : Instant → α → Bridge → Bridge) (events : List (Timed α))
    (b : Bridge) : Prop :=
  Run.Throughout step (fun b => b.storage.Serves) events b

/-- A run that keeps to a store in memory that refuses nothing meets no failure. -/
theorem served_of_unfailing {α : Type} {step : Instant → α → Bridge → Bridge}
    (hstep : ∀ now a b, b.storage.Unfailing → (step now a b).storage.Unfailing)
    (events : List (Timed α)) {b : Bridge} (h : b.storage.Unfailing) : Served step events b :=
  (Run.throughout_of_step hstep events h).imp fun _ h => h.serves

/-- **What a saved registry is stored as**, if the write has succeeded. -/
theorem Effect.content_on_save {r : Registry} {now : Instant} {b : Bridge}
    (h : b.storage.Serves) (h' : ((Effect.save r).on now b).storage.Serves) :
    ((Effect.save r).on now b).storage.content = .ok (some r.encode) :=
  Storage.content_of_write (Storage.write_value_of_writes h.writes h'.writes)

/-- What is loaded, if the read has succeeded. -/
theorem Effect.registry_on_load {now : Instant} {b : Bridge} (h : b.storage.Serves) :
    (Effect.load.on now b).registry = registryOf now b.storage.content := by
  show registryOf now (Storage.read b.storage).value = _
  rw [h.read]

/-- **In memory no operation meets a failure.** -/
theorem Effect.unfailing_on {e : Effect} {now : Instant} {b : Bridge}
    (h : b.storage.Unfailing) : (e.on now b).storage.Unfailing := by
  cases e with
  | nothing => exact h
  | load => exact h.read
  | save r => exact h.write

theorem Operation.unfailing_after (now : Instant) (op : Operation) (b : Bridge)
    (h : b.storage.Unfailing) : (op.after now b).storage.Unfailing := by
  rw [op.after_eq]
  exact Effect.unfailing_on h

/-- **What a bridge starts with**: the stored registry. -/
theorem registry_connect {now : Instant} {storage : Storage}
    (h : (connect now storage).state.storage.Serves) :
    (connect now storage).state.registry = registryOf now storage.content := by
  rw [connect_state] at h ⊢
  exact congrArg (registryOf now) h.of_read.read

end Rehearsal.Bridge
