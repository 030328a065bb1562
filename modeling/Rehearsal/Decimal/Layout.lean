import Rehearsal.Decimal.Shortest

/-!
# How a double is written

The digits of a double are one matter and their layout is another. A `Layout` holds
the decisions of one format: between which exponents the digits are written out
with a decimal point, whether a whole number gets `.0`, and how a tie between
two nearest decimals is broken. Outside the plain range there is one digit, a point
if more follow, and the exponent with its sign.
-/

namespace Rehearsal.Decimal

/-- **The decisions of a number format.** -/
structure Layout where
  /-- The exponents of the leading digit that are written out, from the first and
  below the second. Without a range all are. -/
  plain : Option (Int × Int)
  /-- A whole number ends in `.0`. -/
  pointZero : Bool
  /-- Which of two equally near decimals is written. -/
  tie : Tie
deriving DecidableEq

/-- Digits with a point so many places from the left; zeros fill the places that
have no digit. -/
def pointed (pointZero : Bool) (digits : List Char) (places : Int) : List Char :=
  if places ≤ 0 then
    '0' :: '.' :: (List.replicate (-places).toNat '0' ++ digits)
  else if digits.length ≤ places.toNat then
    digits ++ List.replicate (places.toNat - digits.length) '0'
      ++ (if pointZero then ['.', '0'] else [])
  else digits.take places.toNat ++ '.' :: digits.drop places.toNat

/-- Digits with a point after the first and a power of ten. -/
def withExponent (digits : List Char) (e : Int) : List Char :=
  let sign := if e < 0 then '-' else '+'
  let power := Nat.toDigits 10 e.natAbs
  match digits with
  | [] => []
  | [d] => d :: 'e' :: sign :: power
  | d :: more => d :: '.' :: (more ++ 'e' :: sign :: power)

/-- The magnitude of a double, written. -/
def Layout.magnitude (layout : Layout) (b : Binary) : List Char :=
  if b.mantissa = 0 then if layout.pointZero then ['0', '.', '0'] else ['0']
  else
    let d := b.shortest layout.tie
    let digits := Nat.toDigits 10 d.digits
    let e := d.exponent + digits.length - 1
    let isPlain := match layout.plain with
      | some (first, bound) => first ≤ e && e < bound
      | none => true
    if isPlain then pointed layout.pointZero digits (e + 1) else withExponent digits e

/-- **A finite double, written** in a layout. A negative zero keeps its sign. -/
def Layout.write (layout : Layout) (x : Float) : String :=
  String.ofList ((if isNegative x then ['-'] else []) ++ layout.magnitude (Binary.ofFloat x))

end Rehearsal.Decimal
