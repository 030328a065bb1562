import Rehearsal.Action
import Rehearsal.Json.Basic
import Rehearsal.Routine
import Rehearsal.SortedMap

/-!
# Simulated libraries

Loading a library takes no more than its name. Every library has the same one
method, which tells that it was called; any other method is missing.
-/

namespace Rehearsal

/-- **The loaded libraries**, by name. -/
abbrev Libraries := SortedMap String Unit

namespace Libraries

open Routine (note)

/-- A library is loaded. -/
def isLoaded (ls : Libraries) (name : String) : Bool := ls.contains name

/-- The names of the loaded libraries. -/
def loaded (ls : Libraries) : List String := ls.keys

/-- The method that every library has. -/
def exampleMethod : String := "exampleMethod"

/-- **Call a method of a library.** A method that it does not have gives nothing. -/
def invoke? (library method : String) (args : List String) : Option Json :=
  if method = exampleMethod then
    some (.object [("result", .string ("Executed " ++ library ++ ".exampleMethod with arguments: "
      ++ Action.Kind.listed args))])
  else none

/-- **Load a library.** Tells whether it was not loaded before. -/
def load (name : String) : Routine Libraries Bool := do
  let ls ← get
  if ls.isLoaded name then
    note .debug ("library '" ++ name ++ "' is already loaded")
    pure false
  else
    set (ls.insert name ())
    note .info ("library '" ++ name ++ "' loaded")
    pure true

end Libraries

end Rehearsal
