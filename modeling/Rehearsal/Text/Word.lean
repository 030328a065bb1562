import Rehearsal.Text.Word.Table

/-!
# Word characters

The name of a function in a definition is a run of **word characters**: letters
of any script, marks, decimal digits, connectors such as `_`, and the two joiners.
A circled letter and a Roman numeral are word characters too, being alphabetic; a
superscript digit, a fraction and an emoji are not.

A *name start* is narrower, an ASCII letter or `_`, and a *name character* is a word
character or a dot. The two are the classes a call is found by.
-/

namespace Rehearsal.Text

/-- **A word character**: a letter, mark, decimal digit, connector or joiner. -/
def isWord (c : Char) : Bool := wordRanges.contains c

/-- The first character of a call's target: an ASCII letter or `_`. -/
def isNameStart (c : Char) : Bool := c.isAlpha || c == '_'

/-- A later character of a call's target: a word character or a dot. -/
def isNameChar (c : Char) : Bool := isWord c || c == '.'

end Rehearsal.Text
