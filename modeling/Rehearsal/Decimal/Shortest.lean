import Rehearsal.Decimal.Binary

/-!
# The shortest decimal of a double

Many decimals read back as the same double. The one that is written has **the fewest
digits of those that read back**, and is the nearest of those to the exact value. Where
two are equally near, a rule decides, and it is the reader of the text who chooses
the rule: `Tie.even` or `Tie.up`.

The search is the definition turned into a loop. On the grid of the multiples of a
power of ten only the two neighbours of the value can be the nearest, so the grids
are tried from the coarsest one, that of the leading digit, and the first of them
with a neighbour that reads back decides. A grid of seventeen digits always has one.
-/

namespace Rehearsal.Decimal

/-- A power of ten. -/
def tenTo (n : Nat) : Nat := Nat.pow 10 n

/-- **A decimal number**, `digits · 10 ^ exponent`. -/
structure Figures where
  digits : Nat
  exponent : Int
deriving DecidableEq

/-- What to do when two decimals are equally near to a value. -/
inductive Tie where
  /-- Take the one with the even last digit. -/
  | even
  /-- Take the greater one. -/
  | up
deriving DecidableEq

/-- Compare a decimal with a fraction. -/
def Figures.compareWith (d : Figures) (r : Ratio) : Ordering :=
  compare (d.digits * tenTo d.exponent.toNat * r.den) (r.num * tenTo (-d.exponent).toNat)

/-- **The decimal reads back as the double**: it lies in the double's interval. -/
def Binary.readsBack (b : Binary) (d : Figures) : Bool :=
  let low := d.compareWith b.lower
  let high := d.compareWith b.upper
  (low == .gt || (b.closed && low == .eq)) && (high == .lt || (b.closed && high == .eq))

/-- The greatest decimal on the grid of `10 ^ e` that does not exceed the fraction. -/
def Ratio.floorOn (r : Ratio) (e : Int) : Figures :=
  ⟨r.num * tenTo (-e).toNat / (r.den * tenTo e.toNat), e⟩

/-- **The number of digits before the decimal point**: the least `k` such that the
fraction is below `10 ^ k`. It is negative for a fraction with zeros after the point. -/
def Ratio.scale (r : Ratio) : Int :=
  if r.den ≤ r.num then (Nat.toDigits 10 (r.num / r.den)).length
  else 1 - ((Nat.toDigits 10 ((r.den - 1) / r.num)).length : Int)

/-- Of the two neighbours of a value on a grid, the nearer one. -/
def nearer (tie : Tie) (r : Ratio) (low high : Figures) : Figures :=
  -- the point halfway between two neighbours, on a grid ten times as fine
  match Figures.compareWith ⟨10 * low.digits + 5, low.exponent - 1⟩ r with
  | .gt => low
  | .lt => high
  | .eq => match tie with
    | .even => if low.digits % 2 = 0 then low else high
    | .up => high

/-- The decimal that stands for a double on one grid, if one there reads back. -/
def Binary.onGrid? (tie : Tie) (b : Binary) (e : Int) : Option Figures :=
  let low := b.value.floorOn e
  let high := { low with digits := low.digits + 1 }
  match b.readsBack low, b.readsBack high with
  | true, true => some (nearer tie b.value low high)
  | true, false => some low
  | false, true => some high
  | false, false => none

/-- A decimal with its trailing zeros moved into the exponent, at most `n` of them. -/
def Figures.strip : Nat → Figures → Figures
  | 0, d => d
  | n + 1, d =>
    if d.digits % 10 = 0 ∧ d.digits ≠ 0 then Figures.strip n ⟨d.digits / 10, d.exponent + 1⟩
    else d

/-- The exact value of a double, for which no grid is too fine. -/
def Binary.exact (b : Binary) : Figures :=
  ⟨b.mantissa * twoTo b.exponent.toNat * Nat.pow 5 (-b.exponent).toNat, min b.exponent 0⟩

/-- **The shortest decimal that reads back**, nearest to the value, for a magnitude
other than zero. -/
def Binary.shortest (tie : Tie) (b : Binary) : Figures :=
  let k := b.value.scale
  let found := (List.range 17).findSome? fun (n : Nat) => b.onGrid? tie (k - 1 - n)
  Figures.strip 17 (found.getD b.exact)

end Rehearsal.Decimal
