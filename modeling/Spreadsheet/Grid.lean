import Spreadsheet.Formula.Block
import Spreadsheet.Reference.Relocation

/-!
# Changing grids

Each change says of every position what it holds afterwards, in terms of what the grid held before.
Positions outside the grid are lost: nothing here makes a grid larger.
-/

namespace Spreadsheet

/-- A formula moved by some rows and columns; other cells stay as they are. -/
def Cell.relocated (rows cols : Int) (c : Cell) : Cell :=
  match c.formula? with
  | some t => ofText (Relocation.formula rows cols t)
  | none => c

def Block.contains (b : Block) (row col : Nat) : Bool :=
  b.top ≤ row && row ≤ b.bottom && b.left ≤ col && col ≤ b.right

/-- The block of one cell. -/
def Block.single (row col : Nat) : Block :=
  ⟨row, row, col, col⟩

/-- The number of positions in the block. -/
def Block.size (b : Block) : Nat :=
  (b.bottom + 1 - b.top) * (b.right + 1 - b.left)

namespace Grid

def cell? (g : Grid) (row col : Nat) : Option Cell :=
  g[row]?.bind (·[col]?)

/-- Changes every cell, given its position. -/
def mapCells (f : Nat → Nat → Cell → Cell) (g : Grid) : Grid :=
  g.mapIdx fun row cells => cells.mapIdx fun col cell => f row col cell

/-- Puts a cell at a position. -/
def setCell (g : Grid) (row col : Nat) (value : Cell) : Grid :=
  mapCells (fun r c cell => if r = row ∧ c = col then value else cell) g

/-- The cells of a block, row by row. -/
def extract (g : Grid) (b : Block) : Grid :=
  (b.rows g).map b.cells

/-- Empties a block. -/
def erase (g : Grid) (b : Block) : Grid :=
  b.modify (fun _ => .empty) g

/-- Puts cells down with their first one at a position. -/
def write (g : Grid) (top left : Nat) (cells : Grid) : Grid :=
  mapCells (fun r c cell =>
    if top ≤ r ∧ left ≤ c then (cells.cell? (r - top) (c - left)).getD cell else cell) g

/-- How many cells find a place in the grid when they are put down at a position. -/
def fitting (g : Grid) (top left : Nat) (cells : Grid) : Nat :=
  (List.zipWith (fun row new => min new.length (row.length - left)) (g.drop top) cells).foldl
    (· + ·) 0

/-- Fills the block below its first row with that row's cells, formulas moved along. -/
def fillDown (g : Grid) (b : Block) : Grid :=
  mapCells (fun r c cell =>
    if b.contains r c ∧ b.top < r then
      ((g.cell? b.top c).getD .empty).relocated ((r : Int) - b.top) 0
    else cell) g

/-- Fills the block right of its first column with that column's cells, formulas moved along. -/
def fillRight (g : Grid) (b : Block) : Grid :=
  mapCells (fun r c cell =>
    if b.contains r c ∧ b.left < c then
      ((g.cell? r b.left).getD .empty).relocated 0 ((c : Int) - b.left)
    else cell) g

/-- The position that lies a distance before another; there is none before the first. -/
def before? (n : Nat) (delta : Int) : Option Nat :=
  if 0 ≤ (n : Int) - delta then some ((n : Int) - delta).toNat else none

/-- Moves a block by some rows and columns. What it held is lost where it leaves the grid, and
replaces what stood where it comes to lie. -/
def moveBlock (g : Grid) (b : Block) (rows cols : Int) : Grid :=
  mapCells (fun r c cell =>
    let moved : Option Cell := do
      let r ← before? r rows
      let c ← before? c cols
      if b.contains r c then g.cell? r c else none
    match moved with
    | some cell => cell
    | none => if b.contains r c then .empty else cell) g

end Grid

end Spreadsheet
