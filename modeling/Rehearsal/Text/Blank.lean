import Rehearsal.Text.Ranges

/-!
# Blank characters, trimming and words

A snippet is read line by line, and a line is read with the blanks at its ends
taken away. **Blank** is the Unicode property `White_Space`, wider than the
ASCII blanks: a no-break space or an ideographic space at the end of a line is
no part of it, while a zero-width space is.

Everything here works on lists of characters, which is what the recognisers
of snippets recurse on. `trimmed` and `wordsOf` are the same operations on texts.
-/

namespace Rehearsal.Text

/-- The ranges of the Unicode property `White_Space`. -/
def blankRanges : CharRanges :=
  { ranges :=
      [(0x09, 0x0D), (0x20, 0x20), (0x85, 0x85), (0xA0, 0xA0), (0x1680, 0x1680),
        (0x2000, 0x200A), (0x2028, 0x2029), (0x202F, 0x202F), (0x205F, 0x205F),
        (0x3000, 0x3000)] }

/-- **A blank character**: one that separates words and is trimmed off lines. -/
def isBlank (c : Char) : Bool := blankRanges.contains c

/-- The text from its first character that is not blank. -/
def trimStart (cs : List Char) : List Char := cs.dropWhile isBlank

/-- The text up to its last character that is not blank. -/
def trimEnd (cs : List Char) : List Char := (trimStart cs.reverse).reverse

/-- The text without the blanks at its two ends. -/
def trim (cs : List Char) : List Char := trimEnd (trimStart cs)

/-- The longest runs of characters that are not blank, in order. -/
def words (cs : List Char) : List (List Char) :=
  (cs.splitOnP isBlank).filter (· ≠ [])

/-- `trim` on a text. -/
def trimmed (s : String) : String := String.ofList (trim s.toList)

/-- `words` on a text. -/
def wordsOf (s : String) : List String := (words s.toList).map String.ofList

@[simp] theorem toList_trimmed (s : String) : (trimmed s).toList = trim s.toList :=
  String.toList_ofList

@[simp] theorem trimStart_nil : trimStart [] = [] := rfl

@[simp] theorem trim_nil : trim [] = [] := rfl

/-- A leading blank is dropped. -/
theorem trimStart_cons_of_blank {c : Char} (h : isBlank c = true) (cs : List Char) :
    trimStart (c :: cs) = trimStart cs := by
  simp [trimStart, h]

/-- A leading character that is not blank stops the trimming. -/
theorem trimStart_cons_of_not_blank {c : Char} (h : isBlank c = false) (cs : List Char) :
    trimStart (c :: cs) = c :: cs := by
  simp [trimStart, h]

end Rehearsal.Text
