/-!
# Doubles as exact numbers

A finite double is `mantissa · 2 ^ exponent` with a sign. `nearest` is the correctly rounded double
of a quotient of natural numbers, so decimal text can be read without a rounding of its own.
-/

namespace Spreadsheet.Binary64

/-- The magnitude of a finite double: `mantissa · 2 ^ exponent`. -/
structure Magnitude where
  mantissa : Nat
  exponent : Int
deriving DecidableEq, Repr

def isNegative (x : Float) : Bool :=
  Nat.pow 2 63 ≤ x.toBits.toNat

/-- The fraction bits, with the hidden bit of a normal number. -/
def magnitude (x : Float) : Magnitude :=
  let fraction : Nat := x.toBits.toNat % Nat.pow 2 52
  let biased : Nat := x.toBits.toNat / Nat.pow 2 52 % Nat.pow 2 11
  if biased = 0 then ⟨fraction, -1074⟩ else ⟨fraction + Nat.pow 2 52, (biased : Int) - 1075⟩

/-- What every value beyond the range rounds to. -/
def infinity : Float :=
  1 / 0

/-- A quotient rounded to a natural number, halves to the even neighbour. -/
def roundQuotient (num den : Nat) : Nat :=
  let q := num / den
  let r := num % den
  if den < 2 * r ∨ (2 * r = den ∧ q % 2 = 1) then q + 1 else q

/-- The quotient `num / (den · 2 ^ e)` as numerator and denominator. -/
def unscaled (num den : Nat) (e : Int) : Nat × Nat :=
  (num * Nat.pow 2 (-e).toNat, den * Nat.pow 2 e.toNat)

/-- The exponent at which `num / den` has 53 binary digits, or the least one there is. -/
def exponentFor (num den : Nat) : Int :=
  let guess := (num.log2 : Int) - den.log2 - 52
  let (n, d) := unscaled num den guess
  max (if n / d < Nat.pow 2 52 then guess - 1 else guess) (-1074)

/-- The bits of the double nearest to `num / den`, a tie going to the even mantissa. The hidden bit
of the rounded mantissa adds itself to the exponent field, and so does a carry out of it. -/
def nearestBits (num den : Nat) : Nat :=
  if num = 0 then 0
  else
    let e := exponentFor num den
    let (n, d) := unscaled num den e
    min ((e + 1074).toNat * Nat.pow 2 52 + roundQuotient n d) (2047 * Nat.pow 2 52)

/-- The double nearest to `num / den`; infinite from the end of the range on. -/
def nearest (num den : Nat) : Float :=
  Float.ofBits (UInt64.ofNat (nearestBits num den))

/-- The double nearest to a natural number. -/
def ofNat (n : Nat) : Float :=
  nearest n 1

end Spreadsheet.Binary64
