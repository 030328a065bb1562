import Rehearsal.Proofs.Json.RoundTrip
import Rehearsal.Registry.Document

/-!
# The document of a registry is read back

Whatever is registered, the document it is stored as denotes it again
(`Registry.decode?_encode`): every name and every text in any characters, every kind of action,
instants and counts up to the ends of their ranges, and the instants that may be missing. The
clock of the reading plays no part, since a record that is written always names its last activity.

The proof goes up the layers of the document. A part is read back, so the
parts of a kind are, so an action is; instants, counts and bodies are, so a record is; and a
registry is its entries. At each layer the reader picks members out by their names, and the
names that a record is written with are different.
-/

namespace Rehearsal.Action

open Rehearsal.Json (Written valuesOf)

theorem isIntegral_toJson (a : Action) : a.toJson.isIntegral = true := by
  obtain ⟨kind, lang⟩ := a
  cases kind <;> simp [toJson, Kind.details, Json.isIntegral, Json.membersIntegral]

/-- The parts of a kind are read back. -/
theorem kind?_details (k : Kind) :
    kind? k.typeName (k.details.map fun m => (m.1, m.2.written)) = some k := by
  cases k <;>
    simp [kind?, Kind.typeName, Kind.details, textPart?, textsPart?, only?, valuesOf,
      Json.text?_written_string, Json.texts?_written_strings]

/-- The parts of a kind can be kept. -/
theorem value?_details (levels : Nat) (k : Kind) :
    ((Json.object k.details).written.value? (levels + 2)).isSome = true := by
  cases k <;>
    simp [Kind.details, Json.written, Json.writtenMembers, Written.value?, Written.memberValues?,
      Json.value?_written_strings]

theorem value?_toJson (levels : Nat) (a : Action) :
    (a.toJson.written.value? (levels + 3)).isSome = true := by
  obtain ⟨details, hdetails⟩ := Option.isSome_iff_exists.mp (value?_details levels a.kind)
  have htree : a.toJson.written = .object [(some "type", .string (some a.kind.typeName)),
      (some "details", (Json.object a.kind.details).written),
      (some "lang", .string (some a.lang.tag))] := by
    simp [toJson, Json.written, Json.writtenMembers]
  rw [htree, Written.value?, if_neg (by omega)]
  simp [Written.memberValues?, Written.value?, hdetails]

/-- **An action is read back.** -/
theorem ofWritten?_toJson (levels : Nat) (a : Action) :
    ofWritten? (levels + 3) a.toJson.written = some a := by
  obtain ⟨value, hvalue⟩ := Option.isSome_iff_exists.mp (value?_toJson levels a)
  have htype : only? "type" [("type", (Json.string a.kind.typeName).written),
      ("details", (Json.object a.kind.details).written), ("lang", (Json.string a.lang.tag).written)]
      = some (.string (some a.kind.typeName)) := by
    simp [only?, valuesOf, Json.written]
  have hdetails : only? "details" [("type", (Json.string a.kind.typeName).written),
      ("details", (Json.object a.kind.details).written), ("lang", (Json.string a.lang.tag).written)]
      = some (Json.object a.kind.details).written := by
    simp [only?, valuesOf]
  have hlang : textPart? "lang" [("type", (Json.string a.kind.typeName).written),
      ("details", (Json.object a.kind.details).written), ("lang", (Json.string a.lang.tag).written)]
      = some a.lang.tag := by
    simp [textPart?, only?, valuesOf, Json.text?_written_string]
  rw [ofWritten?, hvalue, toJson, Json.members?_written_object]
  simp [htype, hdetails, hlang, typeName?, Json.members?_written_object, kind?_details]

end Rehearsal.Action

namespace Rehearsal.FunctionRecord

open Rehearsal.Json (Written valuesOf)

/-- **An instant is read back.** -/
theorem instant?_int (t : Instant) : instant? (Json.int t.toInt).written = some t := by
  have hhalf : (Decimal.twoTo 63 : Int) = 9223372036854775808 := rfl
  have hword : (Json.wordMax : Int) = 18446744073709551615 := rfl
  have hlow : -9223372036854775808 ≤ t.toInt := t.le_toInt
  have hhigh : t.toInt < 9223372036854775808 := t.toInt_lt
  have hint : (Json.int t.toInt).written.int? = some t.toInt := by
    show (Json.Number.int t.toInt).literal.int? = some t.toInt
    rw [Json.Number.literal_int, Json.Literal.int?_ofInt (by omega) (by omega)]
  rw [instant?, hint, Option.bind_some, if_pos ⟨t.minValue_le_toInt, t.toInt_le⟩,
    Int64.ofInt_toInt]

theorem nullableInstant?_int (t : Instant) :
    nullableInstant? (Json.int t.toInt).written = some (some t) := by
  show (instant? (Json.int t.toInt).written).map some = some (some t)
  rw [instant?_int, Option.map_some]

/-- **A count is read back.** -/
theorem count?_int (n : UInt64) : count? (Json.int n.toNat).written = some n := by
  have hint : (Json.int n.toNat).written.int? = some (n.toNat : Int) := by
    show (Json.Number.int n.toNat).literal.int? = some (n.toNat : Int)
    have hword : (Json.wordMax : Int) = 18446744073709551615 := rfl
    have hlt : n.toNat < 18446744073709551616 := n.toNat_lt
    rw [Json.Number.literal_int, Json.Literal.int?_ofInt (by omega) (by omega)]
  rw [count?, hint, Option.bind_some, if_pos (by omega)]
  simp

/-- **A body is read back.** -/
theorem body?_toJson (levels : Nat) (body : List Action) :
    body? (levels + 3) (Json.array (body.map Action.toJson)).written = some body := by
  rw [Json.written, Json.writtenItems_eq_map, body?]
  show ((body.map Action.toJson).map Json.written).mapM (Action.ofWritten? (levels + 3)) = some body
  rw [List.map_map]
  exact (Json.mapM_map_of_some (Action.ofWritten?_toJson levels) body).trans (by rw [List.map_id'])

/-- The trees of the parts of a record. -/
def parts (f : FunctionRecord) : Parts where
  lang := some (Json.string f.lang.tag).written
  params := some (Json.strings f.params).written
  body := some (Json.array (f.body.map Action.toJson)).written
  timestamp := some (Json.int f.timestamp.toInt).written
  registeredAt := f.registeredAt.map fun t => (Json.int t.toInt).written
  lastCalled := f.lastCalled.map fun t => (Json.int t.toInt).written
  callCount := some (Json.int f.callCount.toNat).written

theorem ofWritten?_parts (f : FunctionRecord) :
    Parts.ofWritten? f.toJson.written = some f.parts := by
  obtain ⟨lang, params, body, timestamp, registeredAt, lastCalled, callCount⟩ := f
  show Option.bind (Json.object _).written.members? Parts.ofMembers? = _
  rw [Json.members?_written_object]
  cases registeredAt <;> cases lastCalled <;>
    simp [Parts.ofMembers?, atMostOne?, valuesOf, optionalMember, parts]

/-- **The parts of a record make the record.** -/
theorem record?_parts (now : Instant) (levels : Nat) (f : FunctionRecord) :
    f.parts.record? now (levels + 3) = some f := by
  obtain ⟨lang, params, body, timestamp, registeredAt, lastCalled, callCount⟩ := f
  cases registeredAt <;> cases lastCalled <;>
    simp [Parts.record?, parts, orDefault, Json.text?_written_string,
      Json.texts?_written_strings, body?_toJson, instant?_int, nullableInstant?_int, count?_int]

/-- **A record is read back**, whatever the clock. -/
theorem ofWritten?_toJson (now : Instant) (levels : Nat) (f : FunctionRecord) :
    ofWritten? now (levels + 5) f.toJson.written = some f := by
  rw [ofWritten?, ofWritten?_parts, Option.bind_some]
  exact record?_parts now levels f

theorem isIntegral_toJson (f : FunctionRecord) : f.toJson.isIntegral = true := by
  obtain ⟨lang, params, body, timestamp, registeredAt, lastCalled, callCount⟩ := f
  cases registeredAt <;> cases lastCalled <;>
    simp [toJson, optionalMember, Json.isIntegral, Json.membersIntegral, Json.areIntegral_eq_all,
      Action.isIntegral_toJson, Json.int, Json.Number.isInt]

end Rehearsal.FunctionRecord


namespace Rehearsal.Registry

open Rehearsal.Json (Written)

theorem isIntegral_toJson (r : Registry) : r.toJson.isIntegral = true := by
  simp [toJson, Json.isIntegral, Json.membersIntegral_eq_all, FunctionRecord.isIntegral_toJson]

/-- The records of the members of a registry are its entries. -/
theorem records?_toJson (now : Instant) (es : List (String × FunctionRecord)) :
    records? now (es.map fun e => (e.1, e.2.toJson.written)) = some es := by
  have hread : ∀ e : String × FunctionRecord,
      (FunctionRecord.ofWritten? now (Written.depthLimit - 1) e.2.toJson.written).map
        (fun f => (e.1, f)) = some e := by
    intro e
    rw [show Written.depthLimit - 1 = 121 + 5 from rfl, FunctionRecord.ofWritten?_toJson,
      Option.map_some]
  rw [records?, Json.mapM_map_of_some hread, List.map_id']

theorem ofWritten?_toJson (now : Instant) (r : Registry) :
    ofWritten? now r.toJson.written = some r := by
  rw [ofWritten?, toJson, Json.members?_written_object, Option.bind_some, List.map_map]
  show (records? now (r.entries.map fun e => (e.1, e.2.toJson.written))).map SortedMap.ofList = _
  rw [records?_toJson, Option.map_some, SortedMap.ofList_entries]

/-- **The document of a registry is read back** as the registry, whatever the clock. -/
theorem decode?_encode (now : Instant) (r : Registry) : decode? now r.encode = some r := by
  rw [decode?, encode, document, Json.ofOctets?_document _ (isIntegral_toJson r), Option.bind_some,
    ofWritten?_toJson]

end Rehearsal.Registry
