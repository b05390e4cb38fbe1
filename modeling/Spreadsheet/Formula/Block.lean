import Spreadsheet.Cell
import Spreadsheet.Reference

/-!
# Blocks

The rectangle that a range covers on a grid. Rows are taken literally from the range and columns are
positions among the headers, in their order. A range whose end comes before its start covers
nothing; one that covers any row has to end inside the grid.
-/

namespace Spreadsheet

/-- Rows from `top` to `bottom` and columns from `left` to `right`, all included. -/
structure Block where
  top : Nat
  bottom : Nat
  left : Nat
  right : Nat
deriving DecidableEq, Repr

namespace Block

def column (headers : List Text) (label : Text) : Except FormulaError Nat :=
  match headers.idxOf? label with
  | some col => .ok col
  | none => .error (.unknownColumn label)

/-- The block of a range. The start column is looked up first, then the end column, then the rows
are checked. -/
def ofRange (grid : Grid) (headers : List Text) (r : RangeReference) :
    Except FormulaError Block := do
  let left ← column headers r.start.col
  let right ← column headers r.stop.col
  if r.start.row ≤ r.stop.row ∧ grid.length ≤ r.stop.row then
    throw (.rowOutOfBounds r.stop.row grid.length)
  return ⟨r.start.row, r.stop.row, left, right⟩

/-- The block that the text of a range covers. -/
def resolve (grid : Grid) (headers : List Text) (range : Text) : Except FormulaError Block := do
  ofRange grid headers (← RangeReference.parse range)

/-- The elements from one position to another, both included, as far as there are any. -/
def span {α : Type} (first last : Nat) (xs : List α) : List α :=
  (xs.drop first).take (last + 1 - first)

/-- The whole rows that the block reaches. -/
def rows (b : Block) (grid : Grid) : List Row :=
  span b.top b.bottom grid

/-- The cells of a row that lie in the block; a row too short for some columns has fewer. -/
def cells (b : Block) (row : Row) : Row :=
  span b.left b.right row

/-- The part of a row between the block's columns, nothing if the row does not reach the last. -/
def slice (b : Block) (row : Row) : Row :=
  if b.right < row.length then b.cells row else []

/-- The numeric values of the block, row by row. -/
def values (b : Block) (grid : Grid) : List Float :=
  (b.rows grid).flatMap fun row => (b.cells row).filterMap Cell.numericValue?

/-- Changes the cells of the block and no others. -/
def modify (b : Block) (f : Cell → Cell) (grid : Grid) : Grid :=
  grid.mapIdx fun i row =>
    if b.top ≤ i ∧ i ≤ b.bottom then
      row.mapIdx fun j cell => if b.left ≤ j ∧ j ≤ b.right then f cell else cell
    else row

end Block

end Spreadsheet
