import Spreadsheet.Sheet

/-!
# Rows and columns of a sheet

Inserting, deleting and moving rows and columns. Rows make way at the end: a sheet that is at its
limit loses its last row when one is inserted, and gets an empty row at the end when one is deleted.
A sheet keeps at least one column. Formulas stay as they are.
-/

namespace Spreadsheet

/-- Changes next to a cell or of its own row or column. -/
inductive StructuralEdit where
  | insertRowAbove
  | insertRowBelow
  | deleteRow
  | deleteRowAbove
  | deleteRowBelow
  | insertColumnLeft
  | insertColumnRight
  | deleteColumn
  | deleteColumnLeft
  | deleteColumnRight
deriving DecidableEq, Repr

/-- The list with the element at `i` taken out and put in again at `j`. -/
def moveElement {α : Type} (i j : Nat) (xs : List α) : List α :=
  match xs[i]? with
  | some x => (xs.eraseIdx i).insertIdx j x
  | none => xs

namespace Sheet

/-- An empty row in front of row `i`, which may be one past the last. The sheet becomes no taller
than the limit, or than it is. -/
def insertRow? (limit i : Nat) (s : Sheet) : Option Sheet :=
  if i ≤ s.height then
    some { s with rows := (s.rows.insertIdx i s.blankRow).take (max limit s.height) }
  else none

def deleteRow? (i : Nat) (s : Sheet) : Option Sheet :=
  if i < s.height then some { s with rows := s.rows.eraseIdx i ++ [s.blankRow] } else none

/-- Other cells under generated headers. -/
def withColumns (s : Sheet) (width : Nat) (rows : Grid) : Sheet :=
  { s with headers := Column.labels width, rows := rows }

def insertColumn? (i : Nat) (s : Sheet) : Option Sheet :=
  if i ≤ s.width then
    some (s.withColumns (s.width + 1) (s.rows.map fun row => row.insertIdx i .empty))
  else none

/-- The last column that is left cannot be deleted. -/
def deleteColumn? (i : Nat) (s : Sheet) : Option Sheet :=
  if i < s.width ∧ 1 < s.width then
    some (s.withColumns (s.width - 1) (s.rows.map fun row => row.eraseIdx i))
  else none

def moveRow? (i j : Nat) (s : Sheet) : Option Sheet :=
  if i ≠ j ∧ i < s.height ∧ j < s.height then some { s with rows := moveElement i j s.rows }
  else none

def moveColumn? (i j : Nat) (s : Sheet) : Option Sheet :=
  if i ≠ j then some (s.withColumns s.width (s.rows.map (moveElement i j))) else none

/-- The sheet after an edit at an anchor, if there is anything to edit. Edits of rows look at the
row of the anchor only and edits of columns at its column only. -/
def edited? (limit : Nat) (edit : StructuralEdit) (anchor : Address) (s : Sheet) :
    Option Sheet :=
  let row := anchor.row
  match edit with
  | .insertRowAbove => s.insertRow? limit row
  | .insertRowBelow => s.insertRow? limit (row + 1)
  | .deleteRow => s.deleteRow? row
  | .deleteRowAbove => if 0 < row then s.deleteRow? (row - 1) else none
  | .deleteRowBelow => s.deleteRow? (row + 1)
  | .insertColumnLeft => do s.insertColumn? (← s.column? anchor.col)
  | .insertColumnRight => do s.insertColumn? ((← s.column? anchor.col) + 1)
  | .deleteColumn => do s.deleteColumn? (← s.column? anchor.col)
  | .deleteColumnLeft => do
    let col ← s.column? anchor.col
    if 0 < col then s.deleteColumn? (col - 1) else none
  | .deleteColumnRight => do s.deleteColumn? ((← s.column? anchor.col) + 1)

end Sheet

end Spreadsheet
