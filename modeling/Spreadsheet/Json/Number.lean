import Spreadsheet.Json
import Spreadsheet.Number.Numeral

/-!
# The numbers of JSON

A whole number is a literal without sign, fraction and exponent. Any literal has a value as a double
unless it is too large. The value is not always the nearest double: the leading digits that fit
64 bits are converted first, and the result is multiplied or divided by a power of ten, each step
rounding on its own.
-/

namespace Spreadsheet.Json

/-- The parts of a literal. -/
structure Literal where
  negative : Bool
  whole : Text
  fraction : Text
  /-- Whether there is a fraction or an exponent. -/
  isWhole : Bool
  exponent : Int
deriving DecidableEq, Repr

/-- Takes a literal apart. -/
def Literal.ofText (t : Text) : Literal :=
  let negative := t.head? = some '-'
  let unsigned := if negative then t.drop 1 else t
  let (whole, rest) := Numeral.digitRun unsigned
  let (fraction, afterFraction) :=
    match rest with
    | '.' :: after => Numeral.digitRun after
    | rest => ([], rest)
  ⟨negative, whole, fraction, rest.isEmpty, (Numeral.exponentPart afterFraction).1⟩

/-- A size no greater than `greatest`. -/
def toNat? (greatest : Nat) : Json → Option Nat
  | number literal =>
    let l := Literal.ofText literal
    let n := Text.toNat l.whole
    if !l.negative ∧ l.isWhole ∧ n ≤ greatest then some n else none
  | _ => none

/-- Takes digits into a number as long as it fits 64 bits, and returns those left. -/
def takeDigits : Nat → Text → Nat × Text
  | n, [] => (n, [])
  | n, c :: rest =>
    let next := n * 10 + Text.toNat [c]
    if next < sizeBound then takeDigits next rest else (n, c :: rest)

/-- Multiplies by a power of ten; there is no value beyond the range. Powers too small for a double
are divided out a part at a time. -/
def scale? : Nat → Float → Int → Option Float
  | 0, x, _ => some x
  | fuel + 1, x, e =>
    if e.natAbs ≤ 308 then
      let power := Binary64.ofNat (Nat.pow 10 e.natAbs)
      let result := if 0 ≤ e then x * power else x / power
      if result.isInf then none else some result
    else if x == 0 then some x
    else if 0 ≤ e then none
    else scale? fuel (x / Binary64.ofNat (Nat.pow 10 308)) (e + 308)

/-- Exponents are counted in 32 bits. A larger one leaves zero if it is negative or belongs to a
zero. -/
def exponentLimit : Int := 2147483647

def Literal.magnitude? (l : Literal) : Option Float :=
  let (n, skipped) := takeDigits 0 l.whole
  let (n', unread) := takeDigits n l.fraction
  let point : Int := skipped.length - (l.fraction.length - unread.length : Nat)
  if exponentLimit < l.exponent.natAbs then
    if n' ≠ 0 ∧ 0 < l.exponent then none else some (Binary64.ofNat 0)
  else scale? ((point + l.exponent).natAbs + 1) (Binary64.ofNat n') (point + l.exponent)

/-- The value of a number, if it is within the range. -/
def toFloat? : Json → Option Float
  | number literal =>
    let l := Literal.ofText literal
    l.magnitude?.map fun x => if l.negative then -x else x
  | _ => none

end Spreadsheet.Json
