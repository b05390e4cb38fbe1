import Spreadsheet.Text

/-!
# Column labels

Columns are counted in letters: `A` to `Z`, then `AA`, `AB` and so on. There is no letter for zero,
so every nonempty run of capital letters is the label of exactly one column. Ordinals count from
zero and are sizes: labels of columns past the last size have none.
-/

namespace Spreadsheet.Column

def letter (n : Nat) : Char :=
  Char.ofNat ('A'.toNat + n)

/-- What a capital letter counts as: `A` is one and `Z` is twenty-six. -/
def letterValue (c : Char) : Nat :=
  c.toNat - 'A'.toNat + 1

/-- Puts the label of column `n` in front of the letters so far. -/
def labelFrom : Nat → Nat → Text → Text
  | 0, _, letters => letters
  | fuel + 1, n, letters =>
    if n < 26 then letter n :: letters
    else labelFrom fuel (n / 26 - 1) (letter (n % 26) :: letters)

/-- The label of the column with ordinal `n`. -/
def label (n : Nat) : Text :=
  labelFrom (n + 1) n []

/-- The labels of the first `width` columns. -/
def labels (width : Nat) : List Text :=
  (List.range width).map label

/-- One more letter of a label, as long as the count stays a size. -/
def appendLetter? (count : Nat) (c : Char) : Option Nat :=
  let next := count * 26 + letterValue c
  if c.isUpper ∧ next < sizeBound then some next else none

/-- The ordinal of a label, if it is one. -/
def ordinal? (label : Text) : Option Nat :=
  if label = [] then none
  else (label.foldlM appendLetter? 0).map (· - 1)

/-- The label `delta` columns further on; there is none before `A` or past the last size. -/
def shift? (text : Text) (delta : Int) : Option Text :=
  (ordinal? text).bind fun n =>
    let target := (n : Int) + delta
    if 0 ≤ target ∧ target < sizeBound then some (label target.toNat) else none

end Spreadsheet.Column
