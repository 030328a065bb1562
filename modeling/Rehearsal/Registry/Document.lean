import Rehearsal.Registry
import Rehearsal.Action.Document

/-!
# The stored document

The whole registry is one JSON document: an object with a member for each function,
ascending by name. `Registry.encode` writes it, `Registry.decode?` reads one.

Reading is more generous than writing. A record may have its members in any
order and other members beside them, which are not looked at; all but `lang` may
be missing. It may also be an array of the members' values in the order
they are written, cut short anywhere after the first. **One fault anywhere** in what is
looked at, and the document as a whole is no registry.
-/

namespace Rehearsal

open Rehearsal.Json (Written valuesOf)

namespace FunctionRecord

/-- A member that may be missing. -/
def optionalMember (name : String) : Option Instant → List (String × Json)
  | none => []
  | some t => [(name, .int t.toInt)]

/-- **A record as a value.** -/
def toJson (f : FunctionRecord) : Json :=
  .object ([("lang", .string f.lang.tag), ("params", .strings f.params),
      ("bodyActions", .array (f.body.map Action.toJson)),
      ("timestamp", .int f.timestamp.toInt)]
    ++ optionalMember "registeredAt" f.registeredAt
    ++ optionalMember "lastCalled" f.lastCalled
    ++ [("callCount", .int f.callCount.toNat)])

/-- An instant, as an integer of 63 bits and sign. -/
def instant? (w : Written) : Option Instant :=
  w.int?.bind fun n =>
    if Int64.minValue.toInt ≤ n ∧ n ≤ Int64.maxValue.toInt then some (Int64.ofInt n) else none

/-- An instant or `null`. -/
def nullableInstant? : Written → Option (Option Instant)
  | .null => some none
  | w => (instant? w).map some

/-- A count, as an integer of 64 bits without sign. -/
def count? (w : Written) : Option UInt64 :=
  w.int?.bind fun n => if 0 ≤ n then some (UInt64.ofNat n.toNat) else none

/-- **What a tree says of a record**: the tree of each member, if it is there. -/
structure Parts where
  lang : Option Written
  params : Option Written
  body : Option Written
  timestamp : Option Written
  registeredAt : Option Written
  lastCalled : Option Written
  callCount : Option Written

/-- The one value under a name or none; it is a fault if the name stands twice. -/
def atMostOne? (name : String) (members : List (String × Written)) : Option (Option Written) :=
  match valuesOf name members with
  | [] => some none
  | [w] => some (some w)
  | _ => none

/-- The parts of an object, by name. -/
def Parts.ofMembers? (members : List (String × Written)) : Option Parts := do
  let lang ← atMostOne? "lang" members
  let params ← atMostOne? "params" members
  let body ← atMostOne? "bodyActions" members
  let timestamp ← atMostOne? "timestamp" members
  let registeredAt ← atMostOne? "registeredAt" members
  let lastCalled ← atMostOne? "lastCalled" members
  let callCount ← atMostOne? "callCount" members
  pure ⟨lang, params, body, timestamp, registeredAt, lastCalled, callCount⟩

/-- The parts of an array, by place. -/
def Parts.ofItems? (items : List Written) : Option Parts :=
  if items.length ≤ 7 then
    some ⟨items[0]?, items[1]?, items[2]?, items[3]?, items[4]?, items[5]?, items[6]?⟩
  else none

/-- The parts of an object or an array. -/
def Parts.ofWritten? : Written → Option Parts
  | .array items => ofItems? items
  | w => w.members?.bind ofMembers?

/-- A part read, or what it is when it is missing. -/
def orDefault {α : Type} (missing : α) (read : Written → Option α) : Option Written → Option α
  | none => some missing
  | some w => read w

/-- The actions of a body. -/
def body? (levels : Nat) (w : Written) : Option (List Action) :=
  w.items?.bind (·.mapM (Action.ofWritten? levels))

/-- The record of its parts. `now` is the activity of a record that names none. -/
def Parts.record? (now : Instant) (levels : Nat) (p : Parts) : Option FunctionRecord := do
  let tag ← p.lang.bind Written.text?
  let params ← orDefault [] Written.texts? p.params
  let body ← orDefault [] (body? levels) p.body
  let timestamp ← orDefault now instant? p.timestamp
  let registeredAt ← orDefault none nullableInstant? p.registeredAt
  let lastCalled ← orDefault none nullableInstant? p.lastCalled
  let callCount ← orDefault 0 count? p.callCount
  pure ⟨⟨tag⟩, params, body, timestamp, registeredAt, lastCalled, callCount⟩

/-- **The record that a tree stands for**, with so many levels left to nest in. The
actions of its body are two levels further down. -/
def ofWritten? (now : Instant) (levels : Nat) (w : Written) : Option FunctionRecord :=
  (Parts.ofWritten? w).bind (Parts.record? now (levels - 2))

/-- The record that a JSON text stands for. -/
def ofText? (now : Instant) (s : String) : Option FunctionRecord :=
  (Written.ofText? s).bind (ofWritten? now Written.depthLimit)

end FunctionRecord

namespace Registry

/-- A registry as a value. -/
def toJson (r : Registry) : Json := .object (r.entries.map fun e => (e.1, e.2.toJson))

/-- **The document of a registry**, as a text. -/
def document (r : Registry) : String := r.toJson.document

/-- **The document of a registry**, as it is stored. -/
def encode (r : Registry) : ByteArray := r.document.toUTF8

/-- The records of members. -/
def records? (now : Instant) (members : List (String × Written)) :
    Option (List (String × FunctionRecord)) :=
  members.mapM fun (name, w) =>
    (FunctionRecord.ofWritten? now (Written.depthLimit - 1) w).map fun f => (name, f)

/-- The registry that a tree stands for. Of two functions with one name the last counts. -/
def ofWritten? (now : Instant) (w : Written) : Option Registry :=
  w.members?.bind fun members => (records? now members).map SortedMap.ofList

/-- **The registry of a stored document**, if it is one. -/
def decode? (now : Instant) (octets : ByteArray) : Option Registry :=
  (Written.ofOctets? octets).bind (ofWritten? now)

end Registry

end Rehearsal
