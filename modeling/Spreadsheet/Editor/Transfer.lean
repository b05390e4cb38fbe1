import Spreadsheet.Editor
import Spreadsheet.Tsv

/-!
# Copying, cutting, pasting and filling

A copy is text for other programs and a snapshot of the cells for this one; where there is a
snapshot, a paste does not look at text. Formulas move along with a copy and with a fill, and stay
as they are after a cut or a drag. Cells that come to lie outside the sheet are dropped.
-/

namespace Spreadsheet.Editor

/-- The snapshot of a block, and its text. -/
def snapshot (e : Editor) (b : Block) (cut : Bool) : Text × Clipboard :=
  let cells := e.sheet.rows.extract b
  (Tsv.printCells cells, ⟨cells, b.top, b.left, cut⟩)

def copy? (e : Editor) : Option (Text × Editor) :=
  e.selectedBlock?.map fun b =>
    let (text, clipboard) := e.snapshot b false
    (text, { e with clipboard := some clipboard })

/-- Copies and then empties the cells. -/
def cut? (e : Editor) : Option (Text × Editor) :=
  e.selectedBlock?.map fun b =>
    let (text, clipboard) := e.snapshot b true
    (text, { e with clipboard := some clipboard }.putRows (e.sheet.rows.erase b))

/-- The cells that a paste at a position brings, from the snapshot or else from text. -/
def pasted (e : Editor) (row col : Nat) (text : Option Text) : Grid :=
  match e.clipboard, text with
  | some c, _ =>
    let rows : Int := (row : Int) - c.row
    let cols : Int := (col : Int) - c.col
    if c.cut then c.cells else c.cells.map fun cells => cells.map (·.relocated rows cols)
  | none, some t => Tsv.parseCells t
  | none, none => []

/-- Pastes at an address and counts the cells written. Texts lose the blanks around them. -/
def paste (e : Editor) (target : Address) (text : Option Text) : Nat × Editor :=
  match e.sheet.position? target with
  | none => (0, e)
  | some (row, col) =>
    let cells := e.pasted row col text
    let rows := e.sheet.rows
    match rows.fitting row col cells with
    | 0 => (0, e)
    | n => (n, e.putRows (rows.write row col (cells.map fun cells => cells.map Cell.trimmed)))

/-- Fills the selection from its first row. -/
def fillDown? (e : Editor) : Option Editor :=
  e.selectedRange?.bind fun b =>
    if b.top = b.bottom then none else some (e.putRows (e.sheet.rows.fillDown b))

/-- Fills the selection from its first column. -/
def fillRight? (e : Editor) : Option Editor :=
  e.selectedRange?.bind fun b =>
    if b.left = b.right then none else some (e.putRows (e.sheet.rows.fillRight b))

/-- Drags the selection, held at one of its cells, to another place. -/
def moveBlock? (e : Editor) (source target : Address) : Option Editor := do
  let x ← e.selection
  if !x.contains e.sheet source then none
  let b ← x.block? e.sheet
  let (row, col) ← e.sheet.position? source
  let (row', col') ← e.sheet.position? target
  return e.putRows (e.sheet.rows.moveBlock b ((row' : Int) - row) ((col' : Int) - col))

end Spreadsheet.Editor
