/-!
# Doubles as exact numbers

A finite double is a natural number times a power of two. Its sign apart, that is
all the decimal writer needs to know of it, so the bits are taken apart once, here,
and everything after is arithmetic on naturals.

**The interval** of a double is the set of reals that round to it: half way to the
neighbour on each side, the ends included exactly when the mantissa is even. Just
above a power of two the neighbour below is only half as far away as the one above.
-/

namespace Rehearsal.Decimal

/-- A power of two. -/
def twoTo (n : Nat) : Nat := Nat.pow 2 n

/-- **The magnitude of a finite double**, `mantissa · 2 ^ exponent`. -/
structure Binary where
  /-- The significant bits as a number. -/
  mantissa : Nat
  /-- The power of two they are scaled by. -/
  exponent : Int
  /-- The neighbour below is half as far away as the neighbour above. -/
  closeBelow : Bool
deriving DecidableEq

/-- The bits of a double that is neither infinite nor a NaN, taken apart. A zero
exponent field means no implicit leading bit. -/
def Binary.ofFloat (x : Float) : Binary :=
  let bits := x.toBits.toNat
  let field : Nat := bits / twoTo 52 % twoTo 11
  let fraction : Nat := bits % twoTo 52
  if field = 0 then ⟨fraction, -1074, false⟩
  else ⟨twoTo 52 + fraction, (field : Int) - 1075, fraction == 0 && field != 1⟩

/-- The sign bit is set. It is for a negative zero too. -/
def isNegative (x : Float) : Bool := twoTo 63 ≤ x.toBits.toNat

/-- A fraction, as a numerator and a denominator. -/
structure Ratio where
  num : Nat
  den : Nat
deriving DecidableEq

/-- `n · 2 ^ e` as a fraction. -/
def Ratio.scaled (n : Nat) (e : Int) : Ratio := ⟨n * twoTo e.toNat, twoTo (-e).toNat⟩

/-- The value of a double's magnitude. -/
def Binary.value (b : Binary) : Ratio := Ratio.scaled b.mantissa b.exponent

/-- The lower end of the interval. -/
def Binary.lower (b : Binary) : Ratio :=
  Ratio.scaled (4 * b.mantissa - if b.closeBelow then 1 else 2) (b.exponent - 2)

/-- The upper end of the interval. -/
def Binary.upper (b : Binary) : Ratio :=
  Ratio.scaled (4 * b.mantissa + 2) (b.exponent - 2)

/-- The ends belong to the interval. -/
def Binary.closed (b : Binary) : Bool := b.mantissa % 2 == 0

end Rehearsal.Decimal
