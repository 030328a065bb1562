import Rehearsal.Bridge
import Rehearsal.Proofs.Registry.RoundTrip
import Rehearsal.Proofs.Storage

/-!
# Saving and loading

Saving makes the document of the registry the stored document, and loading makes the registry
what the stored document says. The two are inverse to each other in both directions that make
sense: a registry saved and loaded is the same registry (`Bridge.persistence_roundTrip`),
and a document loaded and saved is *normalised*, so that doing it a second time changes no
octet. It may change some the first time, since a document that was not written here may have
its members in another order, or leave out instants that the loading then fills in from the
clock.
-/

namespace Rehearsal

/-- **What loading a document and saving it again writes**, if it is the document of a
registry. -/
def Registry.resaved? (now : Instant) (octets : ByteArray) : Option ByteArray :=
  (decode? now octets).map encode

namespace Bridge

/-! ## What is saved and what is loaded -/

section

variable (now : Instant) (b : Bridge)

theorem save_value :
    (save now b).value = (Storage.write now b.registry.encode b.storage).value := by
  unfold save
  rw [Routine.get_bind_apply, Routine.bind_value, onStorage_apply]
  cases (Storage.write now b.registry.encode b.storage).value <;> rfl

/-- A save is only logged. -/
theorem save_lines : (save now b).lines = [] := by
  unfold save
  rw [Routine.get_bind_apply, Routine.bind_lines, onStorage_apply]
  dsimp only
  rw [Storage.lines_write]
  cases (Storage.write now b.registry.encode b.storage).value <;> rfl

theorem save_state :
    (save now b).state = ⟨b.registry, (Storage.write now b.registry.encode b.storage).state⟩ := by
  unfold save
  rw [Routine.get_bind_apply, Routine.bind_state, onStorage_apply]
  cases (Storage.write now b.registry.encode b.storage).value <;> rfl

/-- **What is loaded when a document is read**: its registry, or the empty one if there is no
document or it is no registry. -/
def registryOf (outcome : Except StorageError (Option ByteArray)) : Registry :=
  (decoded now outcome).toOption.getD SortedMap.empty

theorem load_state :
    (load now b).state
      = ⟨registryOf now (Storage.read b.storage).value, (Storage.read b.storage).state⟩ := by
  unfold load registryOf
  rw [Routine.bind_state, onStorage_apply]
  dsimp only
  cases decoded now (Storage.read b.storage).value <;> rfl

theorem load_value :
    (load now b).value = (registryOf now (Storage.read b.storage).value).size := by
  unfold load registryOf
  rw [Routine.bind_value, onStorage_apply]
  dsimp only
  cases decoded now (Storage.read b.storage).value <;> rfl

/-- Connecting to a storage loads what is stored there. -/
theorem connect_state (storage : Storage) :
    (connect now storage).state
      = ⟨registryOf now (Storage.read storage).value, (Storage.read storage).state⟩ :=
  load_state now ⟨SortedMap.empty, storage⟩

end

@[simp] theorem registryOf_none (now : Instant) : registryOf now (.ok none) = SortedMap.empty := rfl

/-- A document that denotes a registry is loaded as it. -/
theorem registryOf_some {now : Instant} {octets : ByteArray} {r : Registry}
    (h : Registry.decode? now octets = some r) : registryOf now (.ok (some octets)) = r := by
  have hdecoded : decoded now (.ok (some octets)) = .ok r := by
    unfold decoded
    dsimp only
    rw [h]
  rw [registryOf, hdecoded]
  rfl

/-- **The document of a registry is loaded as the registry**, at any time. -/
@[simp] theorem registryOf_encode (now : Instant) (r : Registry) :
    registryOf now (.ok (some r.encode)) = r :=
  registryOf_some (Registry.decode?_encode now r)

/-- **After a save the stored document is that of the registry.** -/
theorem content_of_save {now : Instant} {b : Bridge} (h : (save now b).value = .ok ()) :
    (save now b).state.storage.content = .ok (some b.registry.encode) := by
  rw [save_value] at h
  rw [save_state]
  exact Storage.content_of_write h

/-- A load that is not refused loads the stored document. -/
theorem registry_of_load {now : Instant} {b : Bridge} {document : Option ByteArray}
    (h : (Storage.read b.storage).value = .ok document) :
    (load now b).state.registry = registryOf now b.storage.content := by
  rw [load_state, h, Storage.content_of_read h]

/-! ## The round trip -/

/-- **Registries and documents determine each other.** A registry that was saved is stored as
octets that denote it at any time, and loading brings it back. A document that is loaded as a
registry is saved as octets that denote the same registry at any time. And what
is written when a document is loaded and saved again is the same whether that is done once or,
at another time, twice. -/
theorem persistence_roundTrip :
    (∀ (b : Bridge) (now later : Instant), (save now b).value = .ok () →
      (save now b).state.storage.content = .ok (some b.registry.encode)
        ∧ Registry.decode? later b.registry.encode = some b.registry
        ∧ ((Storage.read (save now b).state.storage).value.isOk = true →
            (load later (save now b).state).state.registry = b.registry))
      ∧ (∀ (b : Bridge) (octets : ByteArray) (r : Registry) (t later : Instant),
          (Storage.read b.storage).value = .ok (some octets) →
          Registry.decode? t octets = some r →
          (load t b).state.registry = r ∧ Registry.decode? later r.encode = some r)
      ∧ ∀ (octets : ByteArray) (t later : Instant),
          (Registry.resaved? t octets).bind (Registry.resaved? later)
            = Registry.resaved? t octets := by
  refine ⟨fun b now later hsave => ?_, fun b octets r t later hread hdecode => ?_,
    fun octets t later => ?_⟩
  · have hcontent := content_of_save hsave
    refine ⟨hcontent, Registry.decode?_encode later b.registry, fun hread => ?_⟩
    cases hdocument : (Storage.read (save now b).state.storage).value with
    | error e =>
      rw [hdocument] at hread
      cases hread
    | ok document => rw [registry_of_load hdocument, hcontent, registryOf_encode]
  · rw [registry_of_load hread, Storage.content_of_read hread]
    exact ⟨registryOf_some hdecode, Registry.decode?_encode later r⟩
  · unfold Registry.resaved?
    cases Registry.decode? t octets with
    | none => rfl
    | some r =>
      show (Registry.decode? later r.encode).map Registry.encode = some r.encode
      rw [Registry.decode?_encode, Option.map_some]

/-- A function saved in memory and loaded an hour before: the record is the same, with the
instant of its registration later than the clock. -/
theorem persistence_roundTrip_memory :
    let r := Registry.register SortedMap.empty 7200000 "füge zu" ⟨"python"⟩ ["a", "b"]
      [⟨.returning "a + \"b\"", ⟨"python"⟩⟩]
    let b : Bridge := ⟨r, .new (.memory none) (.fresh 0 []) .none⟩
    (save 7200000 b).state.storage.content = .ok (some r.encode)
      ∧ (load 3600000 (save 7200000 b).state).state.registry = r
      ∧ Registry.decode? 3600000 r.encode = some r := by
  intro r b
  obtain ⟨hcontent, hdecode, hload⟩ := persistence_roundTrip.1 b 7200000 3600000 rfl
  refine ⟨hcontent, hload rfl, ?_⟩
  exact (persistence_roundTrip.2.1 (save 7200000 b).state r.encode r 0 3600000 rfl
    (Registry.decode?_encode 0 r)).2

end Bridge

end Rehearsal
