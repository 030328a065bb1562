import Rehearsal.Action
import Rehearsal.Instant
import Rehearsal.SortedMap

/-!
# The registry of functions

A registered function is known by its name, and under the name is a record: what
it is (language, parameters, body) and what has happened to it (when it was
registered and last called, how many times). The registry is the map from names to
records, and `Registry.register`, `Registry.recordCall` and the map's own `erase` and
`empty` are all that ever happens to it.

A clock may go backwards, an activity may not: a call is dated no earlier than the
activity before it.
-/

namespace Rehearsal

/-- **The record of a registered function.** -/
structure FunctionRecord where
  lang : Language
  params : List String
  body : List Action
  /-- The last activity: the registration or the latest call. -/
  timestamp : Instant
  /-- When it was registered, unless the document it came from does not say. -/
  registeredAt : Option Instant
  /-- When it was last called, if it was. -/
  lastCalled : Option Instant
  /-- How many times it was called since it was registered. -/
  callCount : UInt64
deriving DecidableEq

namespace FunctionRecord

/-- **A function as it is registered** at an instant, never called. -/
def fresh (now : Instant) (lang : Language) (params : List String) (body : List Action) :
    FunctionRecord where
  lang := lang
  params := params
  body := body
  timestamp := now
  registeredAt := some now
  lastCalled := none
  callCount := 0

/-- **A function after one more call.** -/
def called (now : Instant) (f : FunctionRecord) : FunctionRecord :=
  let at' := max now f.timestamp
  { f with timestamp := at', lastCalled := some at', callCount := f.callCount + 1 }

@[simp] theorem lang_called (now : Instant) (f : FunctionRecord) :
    (f.called now).lang = f.lang := rfl

@[simp] theorem params_called (now : Instant) (f : FunctionRecord) :
    (f.called now).params = f.params := rfl

@[simp] theorem body_called (now : Instant) (f : FunctionRecord) :
    (f.called now).body = f.body := rfl

@[simp] theorem callCount_called (now : Instant) (f : FunctionRecord) :
    (f.called now).callCount = f.callCount + 1 := rfl

/-- A call is the last activity. -/
@[simp] theorem lastCalled_called (now : Instant) (f : FunctionRecord) :
    (f.called now).lastCalled = some (f.called now).timestamp := rfl

end FunctionRecord

/-- **The registry**: the record under each name. -/
abbrev Registry := SortedMap String FunctionRecord

namespace Registry

/-- The registry with a function registered, in place of any of that name. -/
def register (r : Registry) (now : Instant) (name : String) (lang : Language)
    (params : List String) (body : List Action) : Registry :=
  r.insert name (FunctionRecord.fresh now lang params body)

/-- The registry with one more call of a function, of a name that is registered. -/
def recordCall (r : Registry) (now : Instant) (name : String) : Registry :=
  match r.get? name with
  | some f => r.insert name (f.called now)
  | none => r

end Registry

end Rehearsal
