import Rehearsal.Language

/-!
# Actions

A line of a snippet asks for one thing: to define a function, to assign a variable,
to call something, to return something. A line that asks for none of these is kept
as it is. Nothing inside the parts is understood; a value, a parameter and an
argument are texts.

An action is such a **kind** with the language it is in. The body of a registered
function is a list of actions, and narration shows an action in its source form.
-/

namespace Rehearsal

/-- **What a line asks for.** -/
inductive Action.Kind where
  /-- Define a function with parameters. -/
  | definition (name : String) (params : List String)
  /-- Assign a value to a variable. -/
  | assignment (target value : String)
  /-- Call a target with arguments. -/
  | call (target : String) (args : List String)
  /-- Return a value. -/
  | returning (value : String)
  /-- Anything else, verbatim. -/
  | unknown (code : String)
deriving DecidableEq

/-- **An action**: what it asks for, and the language it is in. -/
structure Action where
  kind : Action.Kind
  lang : Language
deriving DecidableEq

namespace Action.Kind

/-- Texts with a comma and a blank between them. -/
def listed (items : List String) : String := ", ".intercalate items

/-- **The source form of an action**: a line that asks for it. -/
def source : Kind → String
  | .definition name params => "def " ++ name ++ "(" ++ listed params ++ "):"
  | .assignment target value => target ++ " = " ++ value
  | .call target args => target ++ "(" ++ listed args ++ ")"
  | .returning value => "return " ++ value
  | .unknown code => code

@[simp] theorem source_returning (value : String) :
    (returning value).source = "return " ++ value := rfl

@[simp] theorem source_unknown (code : String) : (unknown code).source = code := rfl

end Action.Kind

end Rehearsal
