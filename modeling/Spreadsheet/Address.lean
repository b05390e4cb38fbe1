import Spreadsheet.Text

/-!
# Cell addresses

A row, counted from zero, and a column label. Written, the label comes first and the row counts
from one: `B3` is row 2 of column `B`.
-/

namespace Spreadsheet

structure Address where
  row : Nat
  col : Text
deriving DecidableEq, Repr

namespace Address

def toText (a : Address) : Text :=
  a.col ++ Text.ofNat (a.row + 1)

/-- A row as written, counted from one; it has to be a size. -/
def row? (digits : Text) : Option Nat :=
  let n := Text.toNat digits
  if 1 ≤ n ∧ n < sizeBound then some (n - 1) else none

/-- A plain address: capital letters, then digits, and nothing else. -/
def parse? (t : Text) : Option Address :=
  let col := t.takeWhile Char.isUpper
  let digits := t.dropWhile Char.isUpper
  if col ≠ [] ∧ digits ≠ [] ∧ digits.all Char.isDigit then
    (row? digits).map fun row => ⟨row, col⟩
  else none

end Address

end Spreadsheet
