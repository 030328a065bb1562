import Rehearsal.Action
import Rehearsal.Json.Reader

/-!
# Actions in JSON

An action is written as an object of three members: `type` names its kind, `details`
holds the parts of that kind, and `lang` is the tag of its language.

Reading asks for each of the three exactly once, in any order, and for each part of the
kind exactly once in `details`, with the right type. Members beyond these are
dropped, but they are **kept while reading**: an action with a member that has no
value, being nested too deep or a number too great, is refused. The kind may also
be named by an object with that one name and nothing under it.
-/

namespace Rehearsal.Action

open Rehearsal.Json (Written valuesOf)

namespace Kind

/-- The name of a kind in a document. -/
def typeName : Kind → String
  | .definition _ _ => "function_definition"
  | .assignment _ _ => "assignment"
  | .call _ _ => "call"
  | .returning _ => "return"
  | .unknown _ => "unknown"

/-- The parts of a kind by name. -/
def details : Kind → List (String × Json)
  | .definition name params => [("name", .string name), ("params", .strings params)]
  | .assignment target value => [("variable", .string target), ("value", .string value)]
  | .call target args => [("function", .string target), ("args", .strings args)]
  | .returning value => [("value", .string value)]
  | .unknown code => [("code", .string code)]

end Kind

/-- **An action as a value.** -/
def toJson (a : Action) : Json :=
  .object [("type", .string a.kind.typeName), ("details", .object a.kind.details),
    ("lang", .string a.lang.tag)]

/-- The one value under a name; there is none if the name stands twice. -/
def only? (name : String) (members : List (String × Written)) : Option Written :=
  match valuesOf name members with
  | [w] => some w
  | _ => none

/-- A part that is a text. -/
def textPart? (name : String) (details : List (String × Written)) : Option String :=
  (only? name details).bind Written.text?

/-- A part that is a list of texts. -/
def textsPart? (name : String) (details : List (String × Written)) : Option (List String) :=
  (only? name details).bind Written.texts?

/-- The name of a kind, as a text or as the one name of an object with nothing under it. -/
def typeName? : Written → Option String
  | .string s => s
  | .object [(k, .null)] => k
  | .object [(k, .object [])] => k
  | _ => none

/-- The kind of a name, with its parts. -/
def kind? (typeName : String) (details : List (String × Written)) : Option Kind :=
  if typeName = "function_definition" then do
    let name ← textPart? "name" details
    let params ← textsPart? "params" details
    pure (.definition name params)
  else if typeName = "assignment" then do
    let target ← textPart? "variable" details
    let value ← textPart? "value" details
    pure (.assignment target value)
  else if typeName = "call" then do
    let target ← textPart? "function" details
    let args ← textsPart? "args" details
    pure (.call target args)
  else if typeName = "return" then do
    let value ← textPart? "value" details
    pure (.returning value)
  else if typeName = "unknown" then do
    let code ← textPart? "code" details
    pure (.unknown code)
  else none

/-- **The action that a tree stands for**, with so many levels left to nest in. -/
def ofWritten? (levels : Nat) (w : Written) : Option Action := do
  let members ← w.members?
  let _ ← w.value? levels
  let typeName ← (only? "type" members).bind typeName?
  let details ← (only? "details" members).bind Written.members?
  let tag ← textPart? "lang" members
  let kind ← kind? typeName details
  pure ⟨kind, ⟨tag⟩⟩

/-- The action that a JSON text stands for. -/
def ofText? (s : String) : Option Action :=
  (Written.ofText? s).bind (ofWritten? Written.depthLimit)

end Rehearsal.Action
