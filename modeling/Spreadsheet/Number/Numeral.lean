import Spreadsheet.Text
import Spreadsheet.Binary64

/-!
# Reading numbers

A numeral is an optional sign, digits with an optional point and at least one digit, and an optional
exponent. `Numeral.scan?` takes the longest one off the front of a text and says what is left.
-/

namespace Spreadsheet

/-- The number `± digits · 10 ^ exponent`. -/
structure Numeral where
  negative : Bool
  digits : Nat
  exponent : Int
deriving DecidableEq, Repr

namespace Numeral

/-- An optional sign. -/
def sign : Text → Bool × Text
  | '+' :: rest => (false, rest)
  | '-' :: rest => (true, rest)
  | t => (false, t)

/-- The digits at the front of a text and the rest. -/
def digitRun (t : Text) : Text × Text :=
  (t.takeWhile Char.isDigit, t.dropWhile Char.isDigit)

/-- Digits with an optional point: those before it, those after it, and the rest. A point alone is
no mantissa. -/
def mantissa? (t : Text) : Option (Text × Text × Text) :=
  match digitRun t with
  | ([], '.' :: after) =>
    match digitRun after with
    | ([], _) => none
    | (fraction, rest) => some ([], fraction, rest)
  | ([], _) => none
  | (whole, '.' :: after) =>
    let (fraction, rest) := digitRun after
    some (whole, fraction, rest)
  | (whole, rest) => some (whole, [], rest)

/-- An exponent mark counts only with a digit after it; otherwise nothing is taken. -/
def exponentPart (t : Text) : Int × Text :=
  match t with
  | mark :: after =>
    if mark = 'e' ∨ mark = 'E' then
      let (negative, unsigned) := sign after
      match digitRun unsigned with
      | ([], _) => (0, t)
      | (digits, rest) =>
        (if negative then -(Text.toNat digits : Int) else Text.toNat digits, rest)
    else (0, t)
  | [] => (0, [])

/-- The longest numeral at the front of a text, and what follows it. -/
def scan? (t : Text) : Option (Numeral × Text) :=
  let (negative, unsigned) := sign t
  (mantissa? unsigned).map fun (whole, fraction, afterMantissa) =>
    let (exponent, rest) := exponentPart afterMantissa
    (⟨negative, Text.toNat (whole ++ fraction), exponent - fraction.length⟩, rest)

/-- A text that is one numeral from end to end. -/
def read? (t : Text) : Option Numeral :=
  match scan? t with
  | some (n, []) => some n
  | _ => none

/-- The nearest double. Exponents far outside the range are settled without computing the power. -/
def magnitude (n : Numeral) : Float :=
  let size := (Text.ofNat n.digits).length + n.exponent
  if n.digits = 0 ∨ size < -400 then Binary64.nearest 0 1
  else if 400 < size then Binary64.infinity
  else Binary64.nearest (n.digits * Nat.pow 10 n.exponent.toNat) (Nat.pow 10 (-n.exponent).toNat)

def value (n : Numeral) : Float :=
  if n.negative then -n.magnitude else n.magnitude

/-- The value, unless it lies beyond the range of finite doubles. -/
def finiteValue? (n : Numeral) : Option Float :=
  if n.value.isFinite then some n.value else none

end Numeral

namespace Number

/-- The number at the start of a text, whatever follows it. -/
def leading? (t : Text) : Option Float :=
  (Numeral.scan? t).bind fun (n, _) => n.finiteValue?

/-- A text that is a finite number from end to end. -/
def whole? (t : Text) : Option Float :=
  (Numeral.read? t).bind Numeral.finiteValue?

/-- Also reads the names of the infinities and of NaN, in any case. -/
def read? (t : Text) : Option Float :=
  let (negative, unsigned) := Numeral.sign t
  let name := unsigned.map Char.toLower
  let special? : Option Float :=
    if name = "inf".toList ∨ name = "infinity".toList then some Binary64.infinity
    else if name = "nan".toList then some (0 / 0)
    else none
  match special? with
  | some x => some (if negative then -x else x)
  | none => (Numeral.read? t).map Numeral.value

end Number

end Spreadsheet
