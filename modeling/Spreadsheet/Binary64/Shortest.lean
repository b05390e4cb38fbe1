import Spreadsheet.Text
import Spreadsheet.Binary64

/-!
# The fewest digits that read back

A positive double owns the interval of numbers that round to it, ends included when its mantissa is
even. `shortest` tries the decimal grids of 1, 2, … 17 digits in turn and takes the first with a
point in the interval: if any point of a grid lies in it, one of the value's two neighbours does.
Of two such points the nearer is taken.
-/

namespace Spreadsheet.Binary64

/-- Where an exact tie between two candidates of equal length goes. -/
inductive Tie where
  | up
  | even
deriving DecidableEq, Repr

/-- `0.d₁d₂… · 10 ^ point`, with no zero at either end of the digits. -/
structure Decimal where
  digits : Text
  point : Int
deriving DecidableEq, Repr

/-- A value and the ends of its interval, as numerators over one denominator. -/
structure Interval where
  low : Nat
  value : Nat
  high : Nat
  den : Nat
  closed : Bool
deriving DecidableEq, Repr

namespace Interval

/-- Below a power of two the neighbour is half as far. -/
def ofMagnitude (x : Magnitude) : Interval :=
  let below := if x.mantissa = Nat.pow 2 52 ∧ x.exponent ≠ -1074 then 1 else 2
  let e := x.exponent - 2
  let up := Nat.pow 2 e.toNat
  ⟨(4 * x.mantissa - below) * up, 4 * x.mantissa * up, (4 * x.mantissa + 2) * up,
    Nat.pow 2 (-e).toNat, x.mantissa % 2 = 0⟩

/-- The same interval measured in units of `10 ^ s`. -/
def inUnits (i : Interval) (s : Int) : Interval :=
  let up := Nat.pow 10 (-s).toNat
  ⟨i.low * up, i.value * up, i.high * up, i.den * Nat.pow 10 s.toNat, i.closed⟩

def Contains (i : Interval) (d : Nat) : Prop :=
  if i.closed then i.low ≤ d * i.den ∧ d * i.den ≤ i.high
  else i.low < d * i.den ∧ d * i.den < i.high

instance (i : Interval) (d : Nat) : Decidable (i.Contains d) := by
  unfold Contains; infer_instance

/-- The grid point next to the value, if one of its two neighbours lies in the interval. -/
def candidate? (tie : Tie) (i : Interval) : Option Nat :=
  let d := i.value / i.den
  let r := i.value % i.den
  if i.Contains d then
    if i.Contains (d + 1) then
      if 2 * r < i.den then some d
      else if i.den < 2 * r then some (d + 1)
      else match tie with
        | .up => some (d + 1)
        | .even => some (if d % 2 = 0 then d else d + 1)
    else some d
  else if i.Contains (d + 1) then some (d + 1)
  else none

/-- The power of ten just above the value: `10 ^ (point - 1) ≤ value < 10 ^ point`. -/
def point (i : Interval) : Int :=
  if i.den ≤ i.value then ((Text.ofNat (i.value / i.den)).length : Int)
  else 1 - ((Text.ofNat (i.den / i.value)).length : Int)

end Interval

/-- A natural number of units `10 ^ s` with the zeros at its end taken off. -/
def Decimal.ofNat (d : Nat) (s : Int) : Decimal :=
  let all := Text.ofNat d
  ⟨(all.reverse.dropWhile (· == '0')).reverse, s + all.length⟩

/-- Tries grids of `n`, `n + 1`, … digits, `left` of them. -/
def shortestFrom (tie : Tie) (i : Interval) : Nat → Nat → Decimal
  | _, 0 => Decimal.ofNat 0 0
  | n, left + 1 =>
    let s := i.point - n
    match (i.inUnits s).candidate? tie with
    | some d => Decimal.ofNat d s
    | none => shortestFrom tie i (n + 1) left

/-- The shortest decimal that reads back as a positive finite double. -/
def shortest (tie : Tie) (x : Magnitude) : Decimal :=
  shortestFrom tie (Interval.ofMagnitude x) 1 17

end Spreadsheet.Binary64
