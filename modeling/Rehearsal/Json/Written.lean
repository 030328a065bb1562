import Rehearsal.Json.Basic
import Rehearsal.Decimal.Reading
import Rehearsal.SortedMap

/-!
# JSON as it is written

Reading a text gives back more than a value, and less. **More**: members stand in the
order of the text, a name may stand twice, a number is spelled in one of many ways.
**Less**: a string whose escapes denote half of a surrogate pair is no text, and a
number may be too great for a double. Whether these are faults depends on who asks:
a reader that skips a member does not mind what it holds. So the tree of a text is
a type of its own, and `Written.value?` gives the value of the trees that have one.

A value is **kept** only to a depth of 127, and in kept objects the last of two
members with one name counts.
-/

namespace Rehearsal.Json

/-- **A number as spelled**: sign, whole digits, digits after the point, and the sign
and digits of the exponent. -/
structure Literal where
  negative : Bool
  whole : List Char
  fraction : List Char
  exponent : Option (Bool × List Char)
deriving DecidableEq

/-- **A JSON text as a tree.** A string or name that denotes no text is `none`. -/
inductive Written where
  | null
  | bool (b : Bool)
  | number (l : Literal)
  | string (s : Option String)
  | array (items : List Written)
  | object (members : List (Option String × Written))

/-! ## The value of a numeral -/

/-- The greatest number that 64 bits hold. -/
def wordMax : Nat := Decimal.twoTo 64 - 1

/-- **The leading digits that fit a word**, as a number continuing `n`, and the digits
that no longer fit. -/
def leadingWord (n : Nat) : List Char → Nat × List Char
  | [] => (n, [])
  | c :: cs =>
    let n' := n * 10 + (c.toNat - '0'.toNat)
    if n' ≤ wordMax then leadingWord n' cs else (n, c :: cs)

/-- A power of ten as a double. -/
def powerOfTen (n : Nat) : Float := Float.ofScientific 1 false n

/-- **The double of a significand and a power of ten.** Both are rounded to doubles
first, so the result may be one unit off the nearest double. `none` stands for
a number beyond the greatest double. -/
def scaledReal (significand : Nat) (exponent : Int) : Option Float :=
  let x := Float.ofScientific significand false 0
  let e := exponent.natAbs
  if significand = 0 then some x
  else if 0 ≤ exponent then
    let y := if e ≤ 308 then x * powerOfTen e else Decimal.infinity
    if y.isInf then none else some y
  else if e ≤ 308 then some (x / powerOfTen e)
  else if e ≤ 616 then some (x / powerOfTen 308 / powerOfTen (e - 308))
  else some 0.0

/-- A numeral without point and exponent. -/
def Literal.isInteger (l : Literal) : Bool := l.fraction.isEmpty && l.exponent.isNone

/-- The exponent that is spelled. -/
def Literal.power (l : Literal) : Int :=
  match l.exponent with
  | none => 0
  | some (negative, digits) =>
    let n : Int := Nat.ofDigitChars 10 digits 0
    if negative then -n else n

/-- The double that a numeral denotes: the digits beyond the first word count only as
places. -/
def Literal.real? (l : Literal) : Option Float :=
  let (n, beyond) := leadingWord 0 l.whole
  let (n, left) := leadingWord n l.fraction
  let places : Int := l.fraction.length - left.length
  (scaledReal n (beyond.length - places + l.power)).map (Decimal.signed l.negative)

/-- **The number that a numeral denotes.** An integer is kept as one if 64 bits hold it,
signed when it is negative; a negative zero is a double. -/
def Literal.number? (l : Literal) : Option Number :=
  let n := Nat.ofDigitChars 10 l.whole 0
  if l.isInteger ∧ ¬l.negative ∧ n ≤ wordMax then some (.int n)
  else if l.isInteger ∧ l.negative ∧ n ≠ 0 ∧ n ≤ Decimal.twoTo 63 then some (.int (-n))
  else l.real?.map .real

/-- The integer that a numeral denotes, if it is one of 64 bits. -/
def Literal.int? (l : Literal) : Option Int :=
  match l.number? with
  | some (.int n) => some n
  | _ => none

/-! ## The value of a tree -/

/-- Members by name, the last of a name counting. -/
def sortedMembers (members : List (String × Json)) : List (String × Json) :=
  (SortedMap.ofList members).entries

namespace Written

mutual

/-- **The value of a tree** that is kept with so many levels left. -/
def value? (levels : Nat) : Written → Option Json
  | .null => some .null
  | .bool b => some (.bool b)
  | .number l => l.number?.map .number
  | .string s => s.map .string
  | .array items => if levels = 0 then none else (values? (levels - 1) items).map .array
  | .object members =>
    if levels = 0 then none
    else (memberValues? (levels - 1) members).map fun ms => .object (sortedMembers ms)

/-- The values of items. -/
def values? (levels : Nat) : List Written → Option (List Json)
  | [] => some []
  | w :: rest => (value? levels w).bind fun j => (values? levels rest).map (j :: ·)

/-- The values of members. -/
def memberValues? (levels : Nat) : List (Option String × Written) → Option (List (String × Json))
  | [] => some []
  | (k, w) :: rest =>
    k.bind fun k => (value? levels w).bind fun j =>
      (memberValues? levels rest).map ((k, j) :: ·)

end

/-- How deep kept values may be. -/
def depthLimit : Nat := 127

/-- The text of a string. -/
def text? : Written → Option String
  | .string s => s
  | _ => none

/-- The integer of a numeral. -/
def int? : Written → Option Int
  | .number l => l.int?
  | _ => none

/-- The items of an array. -/
def items? : Written → Option (List Written)
  | .array items => some items
  | _ => none

/-- The members of an object whose names are all texts. -/
def members? : Written → Option (List (String × Written))
  | .object members => members.mapM fun (k, w) => k.map fun k => (k, w)
  | _ => none

/-- The texts of an array of strings. -/
def texts? (w : Written) : Option (List String) := w.items?.bind (·.mapM text?)

end Written

/-- The values that members have under one name, in order. -/
def valuesOf (name : String) (members : List (String × Written)) : List Written :=
  (members.filter fun m => m.1 == name).map Prod.snd

end Rehearsal.Json
