import Spreadsheet.Grid
import Spreadsheet.Sheet

/-!
# Selections

A rectangle on a sheet, remembered by its rows and the labels of its first and last column. On the
sheet it was made on, the corners are in order whichever way it was drawn.
-/

namespace Spreadsheet

structure Selection where
  top : Nat
  bottom : Nat
  first : Text
  last : Text
deriving DecidableEq, Repr

namespace Selection

/-- The rectangle between two corners, which both have to be in the sheet. -/
def between? (s : Sheet) (a b : Address) : Option Selection := do
  let (row₁, col₁) ← s.position? a
  let (row₂, col₂) ← s.position? b
  let first ← s.headers[min col₁ col₂]?
  let last ← s.headers[max col₁ col₂]?
  return ⟨min row₁ row₂, max row₁ row₂, first, last⟩

def isSingle (x : Selection) : Bool :=
  x.top == x.bottom && x.first == x.last

def topLeft (x : Selection) : Address :=
  ⟨x.top, x.first⟩

def bottomRight (x : Selection) : Address :=
  ⟨x.bottom, x.last⟩

/-- The selection as a range: its corners around a colon. -/
def toText (x : Selection) : Text :=
  x.topLeft.toText ++ ':' :: x.bottomRight.toText

/-- The block that the selection covers on a sheet that has both columns. -/
def block? (x : Selection) (s : Sheet) : Option Block := do
  let left ← s.column? x.first
  let right ← s.column? x.last
  return ⟨x.top, x.bottom, left, right⟩

/-- Whether an address of the sheet lies inside. -/
def contains (x : Selection) (s : Sheet) (a : Address) : Bool :=
  match x.block? s, s.position? a with
  | some b, some (row, col) => b.contains row col
  | _, _ => false

end Selection

end Spreadsheet
