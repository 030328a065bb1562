import Rehearsal.Action.Classify
import Rehearsal.Session

/-!
# Snippets

A snippet is simulated action by action. Each action is narrated, and what it came to is
its **outcome**. An action that fails is an outcome like any other: the actions after
it take place as if nothing had happened. A snippet runs within one instant, at which
all its actions take place.

The target of a call is resolved in this order: a method of a loaded library, by the
text before the first dot; a function of the bridge, by its full name; printing.
**A loaded library hides the functions** whose names begin with it and a dot, and a function
hides printing.
-/

namespace Rehearsal

/-- **What an action came to.** -/
inductive Outcome where
  | registered (name : String) (lang : Language)
  | assigned (name value : String)
  | libraryResult (value : Json)
  | missingMethod (library method : String)
  | bridgeResult (result : CallResult)
  | bridgeFailed (reason : String)
  | printed (text : String)
  | notFound (target : String)
  | returned (value : String)
  | unrecognized (code : String)
  | failed (reason : String)

/-! ## Targets of calls -/

/-- **What a call leads to.** -/
inductive Callee where
  | method (library method : String)
  | function (name : String)
  | print
  | nothing
deriving DecidableEq

namespace Callee

/-- The parts of a target between its dots. -/
def segments (target : String) : List String := (target.toList.splitOn '.').map String.ofList

/-- The library that a target names. -/
def libraryOf (target : String) : String := (segments target)[0]?.getD ""

/-- The method that a target names, if any: what is between the first dot and the next. -/
def methodOf (target : String) : String := (segments target)[1]?.getD ""

/-- The targets that print. -/
def printing : List String := ["print", "console.log"]

/-- **What a target leads to** in a session. -/
def resolve (s : Session) (target : String) : Callee :=
  if s.libraries.isLoaded (libraryOf target) then .method (libraryOf target) (methodOf target)
  else if s.bridge.registry.contains target then .function target
  else if printing.contains target then .print
  else .nothing

end Callee

namespace Snippet

open Routine (say sayAll note)
open Action.Kind (listed)

/-- How much of the result of a method is narrated. -/
def previewLength : Nat := 100

/-- The start of a value's text. -/
def preview (value : Json) : String := String.ofList (value.text.toList.take previewLength)

/-! ## Calls -/

/-- Call a method of a loaded library. -/
def callMethod (library method : String) (args : List String) : Routine Session Outcome :=
  match Libraries.invoke? library method args with
  | some value => do
    say ("    result: " ++ preview value)
    pure (.libraryResult value)
  | none => do
    say ("    method '" ++ method ++ "' not found in library '" ++ library ++ "'")
    pure (.missingMethod library method)

/-- Call a function of the bridge. -/
def callFunction (now : Instant) (name : String) (args : List String) :
    Routine Session Outcome := do
  match ← Session.onBridge (Bridge.call now name args) with
  | .ok result =>
    sayAll (result.trace.map ("    -> " ++ ·))
    say ("    cross-language result: " ++ result.toJson.text)
    pure (.bridgeResult result)
  | .error e =>
    say ("    bridge error: " ++ e.message)
    pure (.bridgeFailed e.message)

/-- Print the first argument. -/
def print (args : List String) : Routine Session Outcome := do
  let text := args.head?.getD ""
  say ("    output: " ++ text)
  pure (.printed text)

/-- **Call a target.** -/
def call (now : Instant) (target : String) (args : List String) : Routine Session Outcome := do
  let s ← get
  match Callee.resolve s target with
  | .method library method => callMethod library method args
  | .function name => callFunction now name args
  | .print => print args
  | .nothing =>
    say ("    function '" ++ target ++ "' not found")
    pure (.notFound target)

/-! ## Actions -/

/-- **Execute an action** as one of a language. -/
def execute (now : Instant) (lang : Language) :
    Action.Kind → Routine Session (Except StorageError Outcome)
  | .definition name params => do
    match ← Session.onBridge (Bridge.register now name lang params []) with
    | .error e => pure (.error e)
    | .ok () =>
      say ("function '" ++ name ++ "' registered (" ++ lang.tag ++ ")")
      pure (.ok (.registered name lang))
  | .assignment name value => do
    say ("  assigning: " ++ name ++ " = " ++ value)
    Session.assign name value
    pure (.ok (.assigned name value))
  | .call target args => do
    say ("  executing: " ++ target ++ "(" ++ listed args ++ ")")
    let outcome ← call now target args
    pure (.ok outcome)
  | .returning value => do
    say ("  returning: " ++ value)
    pure (.ok (.returned value))
  | .unknown code => do
    say ("  unknown action: " ++ code)
    pure (.ok (.unrecognized code))

/-- Execute an action of a snippet, in its own language. A fault is narrated. -/
def step (now : Instant) (a : Action) : Routine Session Outcome := do
  match ← execute now a.lang a.kind with
  | .ok outcome => pure outcome
  | .error e =>
    say ("error executing action '" ++ a.kind.source ++ "': " ++ e.account)
    pure (.failed e.message)

/-- **Execute actions** one after the other, all within one instant. -/
def run (now : Instant) (actions : List Action) : Routine Session (List Outcome) :=
  actions.mapM (step now)

/-- **Two runs are one**: actions run at once come to what they come to in two parts. -/
theorem run_append (now : Instant) (first second : List Action) :
    run now (first ++ second)
      = run now first >>= fun outcomes => run now second >>= fun more => pure (outcomes ++ more) :=
  List.mapM_append

/-- **Simulate a snippet**: show it, and execute the action of each of its lines. -/
def simulate (now : Instant) (code : String) : Routine Session (List Outcome) := do
  say ("simulating code: " ++ Text.trimmed code)
  let actions := Action.parse code
  note .debug (toString actions.length ++ " actions classified")
  run now actions

end Snippet

end Rehearsal
