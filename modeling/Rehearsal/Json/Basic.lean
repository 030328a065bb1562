import Rehearsal.Decimal.Layout

/-!
# JSON values and their text

The shell writes JSON in three places: the stored registry, the result of a call and
the result of a library method. A value is what is written; `text` writes it on
one line and `document` over many, one member a line and two blanks a level. Both
write the pieces of a value one after the other with a comma between them, and
`toList_quoted` says which characters stand for a text.

**Numbers are of two kinds**, since a whole double is written with `.0` and an integer
without: `7` and `7.0` are different texts and so different values. A double is written
with the digits of `Decimal.shortest` and, in a layout of its own, shown in narration
(`Json.shown`) without an exponent.
-/

namespace Rehearsal

/-- **A JSON number**: an integer or a double. -/
inductive Json.Number where
  | int (n : Int)
  | real (x : Float)
deriving DecidableEq

/-- **A JSON value**, its members in the order they are written. -/
inductive Json where
  | null
  | bool (b : Bool)
  | number (n : Json.Number)
  | string (s : String)
  | array (items : List Json)
  | object (members : List (String × Json))

namespace Json

instance : Inhabited Json := ⟨null⟩

/-- An integer as a value. -/
def int (n : Int) : Json := number (.int n)

/-- A double as a value. -/
def real (x : Float) : Json := number (.real x)

/-- Texts as an array. -/
def strings (ss : List String) : Json := array (ss.map string)

/-! ## Texts in quotes -/

/-- A hexadecimal digit in lower case. -/
def hexDigit (n : Nat) : Char := Nat.digitChar n

/-- **A character between quotes.** The quote, the backslash and the control
characters are escaped, five of these by a letter, and nothing else is. -/
def escaped (c : Char) : List Char :=
  if c = '"' then ['\\', '"']
  else if c = '\\' then ['\\', '\\']
  else if c = '\x08' then ['\\', 'b']
  else if c = '\x0c' then ['\\', 'f']
  else if c = '\n' then ['\\', 'n']
  else if c = '\r' then ['\\', 'r']
  else if c = '\t' then ['\\', 't']
  else if c.toNat < 0x20 then
    ['\\', 'u', '0', '0', hexDigit (c.toNat / 16), hexDigit (c.toNat % 16)]
  else [c]

/-- A character that stands for itself between quotes. -/
def isPlain (c : Char) : Bool := 0x20 ≤ c.toNat && c != '"' && c != '\\'

theorem escaped_of_isPlain {c : Char} (h : isPlain c = true) : escaped c = [c] := by
  simp only [isPlain, Bool.and_eq_true, decide_eq_true_eq, bne_iff_ne] at h
  obtain ⟨⟨hc, hq⟩, hb⟩ := h
  have hne : ∀ d : Char, d.toNat < 0x20 → c ≠ d := by
    rintro d hd rfl
    exact Nat.not_lt.mpr hc hd
  simp [escaped, hq, hb, hne, Nat.not_lt.mpr hc]

/-- A text continued by a character as it stands between quotes. -/
def putEscaped (t : String) (c : Char) : String :=
  if isPlain c then t.push c else (escaped c).foldl String.push t

/-- **A text between quotes.** -/
def quoted (s : String) : String := (s.foldl putEscaped "\"").push '"'

theorem toList_foldl_push (cs : List Char) (t : String) :
    (cs.foldl String.push t).toList = t.toList ++ cs := by
  induction cs generalizing t with
  | nil => simp
  | cons c cs ih => simp [ih]

@[simp] theorem toList_putEscaped (t : String) (c : Char) :
    (putEscaped t c).toList = t.toList ++ escaped c := by
  rw [putEscaped]
  split
  · next h => rw [escaped_of_isPlain h, String.toList_push]
  · exact toList_foldl_push _ _

theorem toList_foldl_putEscaped (cs : List Char) (t : String) :
    (cs.foldl putEscaped t).toList = t.toList ++ cs.flatMap escaped := by
  induction cs generalizing t with
  | nil => simp
  | cons c cs ih => simp [ih]

/-- **Each character of a text is escaped by itself.** -/
@[simp] theorem toList_quoted (s : String) :
    (quoted s).toList = '"' :: (s.toList.flatMap escaped ++ ['"']) := by
  simp [quoted, String.foldl_eq_foldl_toList, toList_foldl_putEscaped]

/-! ## Numbers -/

/-- Doubles are written out between `0.00001` and `10 ^ 16`, and whole ones end in `.0`. -/
def layout : Decimal.Layout := ⟨some (-5, 16), true, .even⟩

/-- Narration never uses an exponent and shows whole doubles like integers. -/
def shownLayout : Decimal.Layout := ⟨none, false, .up⟩

/-- A number, written. -/
def Number.text : Number → String
  | .int n => toString n
  | .real x => layout.write x

/-! ## The two forms of a value -/

/-- A word of the notation: `true` or `false`. -/
def boolText (b : Bool) : String := if b then "true" else "false"

mutual

/-- **A value on one line**, without blanks. -/
def text : Json → String
  | .null => "null"
  | .bool b => boolText b
  | .number n => n.text
  | .string s => quoted s
  | .array items => "[" ++ ",".intercalate (itemTexts items) ++ "]"
  | .object members => "\x7b" ++ ",".intercalate (memberTexts members) ++ "\x7d"

/-- Each item on one line. -/
def itemTexts : List Json → List String
  | [] => []
  | j :: rest => text j :: itemTexts rest

/-- Each member on one line. -/
def memberTexts : List (String × Json) → List String
  | [] => []
  | (k, j) :: rest => (quoted k ++ ":" ++ text j) :: memberTexts rest

end

/-- The start of a line at a level. -/
def lineBreak (level : Nat) : String := "\n".pushn ' ' (2 * level)

theorem toList_pushn (s : String) (c : Char) (n : Nat) :
    (s.pushn c n).toList = s.toList ++ List.replicate n c := by
  rw [String.pushn_eq_repeat_push]
  induction n with
  | zero => simp [Nat.repeat]
  | succ n ih => simp [Nat.repeat, ih, List.replicate_succ']

@[simp] theorem toList_lineBreak (level : Nat) :
    (lineBreak level).toList = '\n' :: List.replicate (2 * level) ' ' := by
  simp [lineBreak, toList_pushn]

mutual

/-- **A value over many lines**, from a level on. Empty arrays and objects stay on
their line. -/
def pretty (level : Nat) : Json → String
  | .array [] => "[]"
  | .object [] => "\x7b\x7d"
  | .array items =>
    "[" ++ ",".intercalate (itemLines (level + 1) items) ++ lineBreak level ++ "]"
  | .object members =>
    "\x7b" ++ ",".intercalate (memberLines (level + 1) members) ++ lineBreak level ++ "\x7d"
  | .null => "null"
  | .bool b => boolText b
  | .number n => n.text
  | .string s => quoted s

/-- Each item on a line of its own. -/
def itemLines (level : Nat) : List Json → List String
  | [] => []
  | j :: rest => (lineBreak level ++ pretty level j) :: itemLines level rest

/-- Each member on a line of its own. -/
def memberLines (level : Nat) : List (String × Json) → List String
  | [] => []
  | (k, j) :: rest =>
    (lineBreak level ++ quoted k ++ ": " ++ pretty level j) :: memberLines level rest

end

/-- The value over many lines. -/
def document (j : Json) : String := j.pretty 0

theorem itemTexts_eq_map (items : List Json) : itemTexts items = items.map text := by
  induction items with
  | nil => rfl
  | cons j rest ih => rw [itemTexts, ih, List.map_cons]

theorem memberTexts_eq_map (members : List (String × Json)) :
    memberTexts members = members.map fun m => quoted m.1 ++ ":" ++ m.2.text := by
  induction members with
  | nil => rfl
  | cons m rest ih => rw [memberTexts, ih, List.map_cons]

theorem itemLines_eq_map (level : Nat) (items : List Json) :
    itemLines level items = items.map fun j => lineBreak level ++ j.pretty level := by
  induction items with
  | nil => rfl
  | cons j rest ih => rw [itemLines, ih, List.map_cons]

theorem memberLines_eq_map (level : Nat) (members : List (String × Json)) :
    memberLines level members
      = members.map fun m => lineBreak level ++ quoted m.1 ++ ": " ++ m.2.pretty level := by
  induction members with
  | nil => rfl
  | cons m rest ih => rw [memberLines, ih, List.map_cons]

/-- **How narration shows a value**: a text without quotes, a double without an exponent
and without `.0`, anything else on one line. -/
def shown : Json → String
  | .string s => s
  | .number (.real x) => shownLayout.write x
  | j => j.text

@[simp] theorem shown_string (s : String) : (string s).shown = s := rfl

end Json

end Rehearsal
