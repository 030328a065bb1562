import Rehearsal.Action
import Rehearsal.Text.Blank
import Rehearsal.Text.Word
import Rehearsal.Text.Pieces

/-!
# From lines to actions

There is no grammar. Each line is looked at on its own and held against four shapes
in a fixed order, and **the first shape that fits decides**:

* a *definition*: `def`, blanks, a word, then parameters from `(` to the first `):`;
* a *return*: `return` alone or followed by blanks, up to the end of the line;
* an *assignment*: any line with a `=`, split at the first one;
* a *call*: somewhere in the line a name directly before a `(` that is closed.

A line that fits none is kept as it is, so classifying never fails. `y = f(1)` is
an assignment and not a call; `def f(a)` without its colon is a call of `f`.

The shapes are recognisers on lists of characters, and go through a line once. What
they find is what a search for patterns finds (`Action.kindOf_eq_iff_searched`). A line
given by itself may hold line breaks, and then only what stands before the break can be
inside brackets, while blanks may be line breaks.
-/

namespace Rehearsal.Action

open Rehearsal.Text

/-- The pieces between commas, each without the blanks at its ends. The empty list
of characters has one piece, the empty one. -/
def commaPieces (cs : List Char) : List String :=
  (cs.splitOn ',').map fun piece => String.ofList (trim piece)

/-- What stands before the first occurrence of a mark, provided no line break does. -/
def beforeInLine (mark cs : List Char) : Option (List Char) :=
  match cut mark cs with
  | some (before, _) => if '\n' ∈ before then none else some before
  | none => none

/-- The characters after a word at the start of a line, if they start with a blank. -/
def afterKeyword (keyword cs : List Char) : Option (List Char) :=
  if keyword.isPrefixOf cs then
    match cs.drop keyword.length with
    | c :: rest => if isBlank c then some (c :: rest) else none
    | [] => none
  else none

/-- **A definition**: name and parameters, the empty parameters dropped. -/
def definition? (line : List Char) : Option Kind :=
  (afterKeyword "def".toList line).bind fun rest =>
    let header := trimStart rest
    let name := header.takeWhile isWord
    match name, header.dropWhile isWord with
    | _ :: _, '(' :: body =>
      (beforeInLine [')', ':'] body).map fun params =>
        .definition (String.ofList name) ((commaPieces params).filter (· ≠ ""))
    | _, _ => none

/-- **A return** and its value, which may be empty. -/
def returning? (line : List Char) : Option Kind :=
  if line = "return".toList then some (.returning "")
  else (afterKeyword "return".toList line).bind fun rest =>
    let value := trimStart rest
    if '\n' ∈ value then none else some (.returning (String.ofList (trim value)))

/-- **An assignment**, split at the first `=`. -/
def assignment? (line : List Char) : Option Kind :=
  (cut ['='] line).map fun (target, value) =>
    .assignment (String.ofList (trim target)) (String.ofList (trim value))

/-- **The name at the end of a text**, last character first, when the text goes on by one
character. A name begins at a name start and goes on with name characters; at any other
character there is none. -/
def nameAfter (name : List Char) (c : Char) : List Char :=
  if isNameChar c ∧ (name ≠ [] ∨ isNameStart c) then c :: name else []

/-- The first call in the rest of a line, where what stands before the rest ends in a name.
Only the first bracket after a name is looked at: if it is not closed in the line, no
later one is. -/
def callAfter (name : List Char) : List Char → Option Kind
  | [] => none
  | c :: cs =>
    if c = '(' ∧ name ≠ [] then
      (cut [')'] cs).map fun (args, _) =>
        .call (String.ofList name.reverse) (commaPieces args)
    else callAfter (nameAfter name c) cs

/-- **The first call in the line.** Neither a name nor a pair of brackets goes across a
line break, so each stretch between breaks is looked at by itself. -/
def call? (line : List Char) : Option Kind := (line.splitOn '\n').findSome? (callAfter [])

/-- What a line asks for: the first shape that fits. -/
def kindOf (line : List Char) : Kind :=
  ((((definition? line).or (returning? line)).or (assignment? line)).or (call? line)).getD
    (.unknown (String.ofList line))

/-- The language that a shape belongs to. -/
def Kind.hint : Kind → Language
  | .definition _ _ => .python
  | .assignment _ _ => .python
  | .returning _ => .python
  | .call _ _ => .javascript
  | .unknown _ => .javascript

/-- **The action of one line**, given without the blanks at its ends. -/
def ofLine (line : List Char) : Action := ⟨kindOf line, (kindOf line).hint⟩

/-- The lines of a text that hold something, without the blanks at their ends. -/
def lines (source : List Char) : List (List Char) :=
  ((source.splitOn '\n').map trim).filter (· ≠ [])

/-- **The actions of a snippet**, one for each line that holds something, in order. -/
def parse (source : String) : List Action := (lines source.toList).map ofLine

/-- The action of a line as it is, whatever stands at its ends. -/
def classify (line : String) : Action := ofLine line.toList

@[simp] theorem lang_ofLine (line : List Char) : (ofLine line).lang = (ofLine line).kind.hint := rfl

/-- One action stands for each line that holds something. -/
theorem length_parse (source : String) : (parse source).length = (lines source.toList).length :=
  List.length_map _

end Rehearsal.Action
