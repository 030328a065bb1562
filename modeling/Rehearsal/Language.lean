/-!
# Languages

Every action and every registered function carries the tag of a language. Two tags
name dialects that the shell gives results of their own: `python` and
`javascript`. Any other tag is carried along and never looked at.

A language *is* its tag, so two languages are equal when their tags are, and a tag
is read and written without loss. The dialect is computed from it.
-/

namespace Rehearsal

/-- The dialects that results are shown in. -/
inductive Dialect where
  /-- Tagged `python`. -/
  | python
  /-- Tagged `javascript`. -/
  | javascript
deriving DecidableEq

/-- **A language**, which is no more than its tag. -/
structure Language where
  tag : String
deriving DecidableEq

namespace Language

/-- The language tagged `python`. -/
def python : Language := ⟨"python"⟩

/-- The language tagged `javascript`. -/
def javascript : Language := ⟨"javascript"⟩

/-- The dialect of a language, if its tag names one. -/
def dialect? (l : Language) : Option Dialect :=
  if l = python then some .python
  else if l = javascript then some .javascript
  else none

@[simp] theorem dialect?_python : python.dialect? = some .python := rfl

@[simp] theorem dialect?_javascript : javascript.dialect? = some .javascript := rfl

end Language

end Rehearsal
