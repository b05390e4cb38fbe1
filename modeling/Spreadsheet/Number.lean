import Spreadsheet.Binary64.Shortest

/-!
# How numbers are written

Which digits a number has is settled by `Binary64.shortest`; a `Layout` says how they are set. There
are two layouts: cells and answers write every number positionally, stored workbooks mark whole
numbers and use an exponent for the very large and the very small.
-/

namespace Spreadsheet.Number

open Binary64

structure Layout where
  tie : Tie
  /-- What follows a whole number. -/
  wholeMark : Text
  /-- Whether a decimal with this point is written without an exponent. -/
  positional : Int → Bool

/-- Digits around a point, zeros filling the gaps. -/
def setPositional (layout : Layout) (d : Decimal) : Text :=
  if d.point ≤ 0 then
    "0.".toList ++ List.replicate (-d.point).toNat '0' ++ d.digits
  else if d.digits.length ≤ d.point.toNat then
    d.digits ++ List.replicate (d.point.toNat - d.digits.length) '0' ++ layout.wholeMark
  else
    d.digits.take d.point.toNat ++ '.' :: d.digits.drop d.point.toNat

/-- One digit before the point and a signed exponent. -/
def setExponent (d : Decimal) : Text :=
  let e := d.point - 1
  let sign := if e < 0 then '-' else '+'
  let fraction := if d.digits.length ≤ 1 then [] else '.' :: d.digits.drop 1
  d.digits.take 1 ++ fraction ++ 'e' :: sign :: Text.ofNat e.natAbs

def Layout.magnitude (layout : Layout) (x : Float) : Text :=
  if x == 0 then '0' :: layout.wholeMark
  else
    let d := shortest layout.tie (Binary64.magnitude x)
    if layout.positional d.point then setPositional layout d else setExponent d

/-- A finite number with its sign; a negative zero keeps it. -/
def Layout.write (layout : Layout) (x : Float) : Text :=
  if isNegative x then '-' :: layout.magnitude x else layout.magnitude x

/-- Always positional, whole numbers without a fraction. -/
def plainLayout : Layout :=
  ⟨.up, [], fun _ => true⟩

/-- Whole numbers end in `.0`; an exponent is used from `10 ^ 16` up and below `10 ^ -5`. -/
def storedLayout : Layout :=
  ⟨.even, ".0".toList, fun point => -5 < point && point ≤ 16⟩

/-- Every number as itself, the infinities and NaN by their names. -/
def plain (x : Float) : Text :=
  if x.isNaN then "NaN".toList
  else if x.isInf then (if isNegative x then "-inf" else "inf").toList
  else plainLayout.write x

/-- What a cell shows: a token for what is no finite number, and zero without a sign. -/
def display (x : Float) : Text :=
  if x.isNaN then "#NAN!".toList
  else if x.isInf then "#INF!".toList
  else if x == 0 then "0".toList
  else plainLayout.write x

end Spreadsheet.Number
