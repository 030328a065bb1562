import Rehearsal.Bridge.Call
import Rehearsal.Registry.Document
import Rehearsal.Storage

/-!
# The bridge between languages

The bridge is the registry together with the storage that keeps its document. What
changes the registry changes it in memory first and **then saves it as a whole**, so a
write that fails leaves the registry ahead of the document, and the next write
that does not fail brings the document up to date. Reading goes the other way: the
registry becomes what the document says, and empty if the document cannot be read or
is no registry.

Every operation takes the instant at which it happens.
-/

namespace Rehearsal

/-- **What can go wrong with a call.** -/
inductive BridgeError where
  | notRegistered (name : String)
deriving DecidableEq

/-- The fault in words. -/
def BridgeError.message : BridgeError → String
  | .notRegistered name => "function '" ++ name ++ "' is not registered in the bridge"

/-- **The bridge**: the functions it knows, and where they are stored. -/
structure Bridge where
  registry : Registry
  storage : Storage

namespace Bridge

open Routine (note)

/-- A routine on the storage, on the bridge. -/
def onStorage {α : Type} (m : Routine Storage α) : Routine Bridge α :=
  m.on Bridge.storage fun s b => { b with storage := s }

@[simp] theorem onStorage_apply {α : Type} (m : Routine Storage α) (b : Bridge) :
    onStorage m b = ⟨(m b.storage).value, { b with storage := (m b.storage).state },
      (m b.storage).lines, (m b.storage).log⟩ := rfl

/-- The bridge with another registry, not saved. -/
def withRegistry (f : Registry → Registry) : Routine Bridge Unit :=
  modify fun b => { b with registry := f b.registry }

@[simp] theorem withRegistry_apply (f : Registry → Registry) (b : Bridge) :
    withRegistry f b = ⟨(), { b with registry := f b.registry }, [], []⟩ := rfl

/-! ## Between memory and storage -/

/-- **Save the registry**: the stored document becomes the document of the registry. -/
def save (now : Instant) : Routine Bridge (Except StorageError Unit) := do
  let b ← get
  match ← onStorage (Storage.write now b.registry.encode) with
  | .error e => pure (.error e)
  | .ok () =>
    note .debug ("bridge: " ++ toString b.registry.size ++ " functions saved")
    pure (.ok ())

/-- The registry of what was read. No document stands for the empty registry. -/
def decoded (now : Instant) :
    Except StorageError (Option ByteArray) → Except StorageError Registry
  | .error e => .error e
  | .ok none => .ok SortedMap.empty
  | .ok (some octets) =>
    match Registry.decode? now octets with
    | some r => .ok r
    | none => .error .malformed

/-- **Load the registry** that is stored, or the empty one if that fails. Gives the number of
functions. -/
def load (now : Instant) : Routine Bridge Nat := do
  match decoded now (← onStorage Storage.read) with
  | .ok r =>
    withRegistry fun _ => r
    pure r.size
  | .error e =>
    let b ← get
    note .warn ("bridge: registry at " ++ b.storage.store.place
      ++ " could not be loaded, starting empty: " ++ e.message)
    withRegistry fun _ => SortedMap.empty
    pure 0

/-- Load what is stored, and say so. -/
def begin (now : Instant) : Routine Bridge Unit := do
  let n ← load now
  let b ← get
  note .info ("bridge: " ++ toString n ++ " functions loaded from " ++ b.storage.store.place)

/-- **A bridge over a storage**, with what is stored there loaded. -/
def connect (now : Instant) (storage : Storage) : Reply Bridge Unit :=
  begin now ⟨SortedMap.empty, storage⟩

/-! ## Changes -/

/-- **Register a function**, in place of any of that name, and save. -/
def register (now : Instant) (name : String) (lang : Language) (params : List String)
    (body : List Action) : Routine Bridge (Except StorageError Unit) := do
  note .info ("bridge: function '" ++ name ++ "' registered [" ++ lang.tag ++ "]")
  withRegistry fun r => r.register now name lang params body
  save now

/-- **Remove a function**, and save if there was one. Tells whether there was. -/
def unregister (now : Instant) (name : String) : Routine Bridge (Except StorageError Bool) := do
  let b ← get
  if b.registry.contains name then
    withRegistry fun r => r.erase name
    note .info ("bridge: function '" ++ name ++ "' removed")
    match ← save now with
    | .error e => pure (.error e)
    | .ok () => pure (.ok true)
  else pure (.ok false)

/-- **Remove all functions** and save. Gives their number. -/
def clear (now : Instant) : Routine Bridge (Except StorageError Nat) := do
  let b ← get
  withRegistry fun _ => SortedMap.empty
  match ← save now with
  | .error e => pure (.error e)
  | .ok () =>
    note .info ("bridge: " ++ toString b.registry.size ++ " functions removed")
    pure (.ok b.registry.size)

/-- Save after a call. A fault is logged and does not keep the call from its result. -/
def saveCall (now : Instant) (name : String) : Routine Bridge Unit := do
  match ← save now with
  | .ok () => pure ()
  | .error e =>
    note .warn ("bridge: call statistics for '" ++ name ++ "' not saved: " ++ e.message)

/-- **Call a function**: count the call, save, and simulate it. -/
def call (now : Instant) (name : String) (args : List String) :
    Routine Bridge (Except BridgeError CallResult) := do
  let b ← get
  match b.registry.get? name with
  | none => pure (.error (.notRegistered name))
  | some f =>
    let f := f.called now
    withRegistry fun r => r.recordCall now name
    saveCall now name
    note .info ("bridge: calling '" ++ name ++ "' (" ++ f.lang.tag ++ ") with args ["
      ++ Action.Kind.listed args ++ "], " ++ toString f.callCount ++ " calls")
    pure (.ok (f.simulate now args))

end Bridge

end Rehearsal
