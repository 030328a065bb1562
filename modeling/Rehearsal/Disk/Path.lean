/-!
# Paths

A path is a text, and it is shown as it was given: `./x`, `x/` and `x` lead to one
place and are three paths. Names are separated by slashes, of which any number
counts as one. A slash at the start makes the path absolute; one at the end asks for a
folder.
-/

namespace Rehearsal

/-- **A path**, as it was given. -/
abbrev Path := String

namespace Path

/-- The names of a path, in order. -/
def names (p : Path) : List String :=
  ((p.toList.splitOn '/').filter (· ≠ [])).map String.ofList

/-- The path starts at the root and not at the working folder. -/
def isAbsolute (p : Path) : Bool := p.toList.head? == some '/'

/-- The path can only lead to a folder. -/
def asksFolder (p : Path) : Bool := p.toList.getLast? == some '/'

/-- **A path continued by another**: with a slash between them, unless one is there,
or the second alone if it is absolute. -/
def join (p q : Path) : Path :=
  if isAbsolute q ∨ p = "" then q
  else if asksFolder p then p ++ q
  else p ++ "/" ++ q

end Path

end Rehearsal
