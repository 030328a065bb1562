/-!
# Reading a double

An argument counts as a number if the whole of it spells one: digits with an
optional point and exponent, at least one digit before the exponent, or one of the
words for infinity and not-a-number in any case. The value is the double nearest to
what is spelled.
-/

namespace Rehearsal.Decimal

/-- The infinite double. -/
def infinity : Float := 1.0 / 0.0

/-- **The double nearest to `digits · 10 ^ exponent`.** A number far beyond the range
of doubles is infinite or zero, and is not computed. -/
def nearest (digits : Nat) (exponent : Int) : Float :=
  let e := exponent + (Nat.toDigits 10 digits).length
  if digits = 0 ∨ e < -400 then 0.0
  else if 400 < e then infinity
  else Float.ofScientific digits (exponent < 0) exponent.natAbs

/-- A double with a sign. -/
def signed (negative : Bool) (x : Float) : Float := if negative then -x else x

/-- The sign at the start of a text, and the rest. -/
def takeSign : List Char → Bool × List Char
  | '-' :: cs => (true, cs)
  | '+' :: cs => (false, cs)
  | cs => (false, cs)

/-- An ASCII letter in lower case. -/
def lower (c : Char) : Char := c.toLower

/-- The exponent at the end of a number: nothing, or a mark, a sign and digits. -/
def readExponent? : List Char → Option Int
  | [] => some 0
  | c :: cs =>
    if c = 'e' ∨ c = 'E' then
      let (negative, digits) := takeSign cs
      if digits ≠ [] ∧ digits.all Char.isDigit then
        let n : Int := Nat.ofDigitChars 10 digits 0
        some (if negative then -n else n)
      else none
    else none

/-- A number without its sign. -/
def readMagnitude? (cs : List Char) : Option Float :=
  let word := cs.map lower
  if word = "inf".toList ∨ word = "infinity".toList then some infinity
  else if word = "nan".toList then some (0.0 / 0.0)
  else
    let whole := cs.takeWhile Char.isDigit
    let rest := cs.dropWhile Char.isDigit
    let (fraction, rest) := match rest with
      | '.' :: more => (more.takeWhile Char.isDigit, more.dropWhile Char.isDigit)
      | _ => ([], rest)
    if whole = [] ∧ fraction = [] then none
    else (readExponent? rest).map fun e =>
      nearest (Nat.ofDigitChars 10 (whole ++ fraction) 0) (e - fraction.length)

/-- **The double that a text spells**, if the whole text spells one. -/
def read? (cs : List Char) : Option Float :=
  let (negative, rest) := takeSign cs
  (readMagnitude? rest).map (signed negative)

end Rehearsal.Decimal
