import Spreadsheet.Editor.Entry

/-!
# Selecting

With the pointer a selection is drawn from the cell where the button went down to the cell the
pointer is over; corners that are not in the sheet are passed over. With the keys the selected cell
moves by one. A selection of one cell shows that cell in the formula bar, and a larger one is put in
as a range while the bar has the focus, unless a cell is being edited in its place.
-/

namespace Spreadsheet

inductive Direction where
  | up
  | down
  | left
  | right
deriving DecidableEq, Repr

namespace Editor

/-- The formula bar once a selection has been drawn. -/
def barAfter (e : Editor) (x : Selection) : FormulaBar :=
  if e.editing.isSome then e.bar
  else if x.isSingle then e.bar.setText (e.raw x.topLeft)
  else if e.bar.focused then e.bar.insertRange x.toText
  else e.bar

/-- Selects what lies between the corners, if both are in the sheet. -/
def reselect (e : Editor) : Editor :=
  match e.drag.bind fun d => Selection.between? e.sheet d.start d.stop with
  | some x => { e with bar := e.barAfter x, selection := some x }
  | none => e

/-- The button goes down on a cell. -/
def press (e : Editor) (a : Address) : Editor :=
  { e with
    dragging := true, selected := some a, drag := some ⟨a, a⟩, bar := e.bar.settle }.reselect

/-- The pointer comes over a cell. -/
def dragOver (e : Editor) (a : Address) : Editor :=
  match e.drag with
  | some d => if e.dragging then { e with drag := some ⟨d.start, a⟩ }.reselect else e
  | none => e

def release (e : Editor) : Editor :=
  { e with dragging := false, bar := e.bar.settle }

/-- Selects one cell. -/
def click (e : Editor) (a : Address) : Editor :=
  { e with selected := some a, drag := some ⟨a, a⟩, bar := e.bar.unfocus }.reselect

def focusBar (e : Editor) : Editor :=
  { e with bar := e.bar.focus }

def blurBar (e : Editor) : Editor :=
  { e with bar := e.bar.unfocus.settle }

def beginEdit (e : Editor) (a : Address) : Editor :=
  { e with editing := some a }

def cancelEdit (e : Editor) : Editor :=
  { e with editing := none }

/-- Where the selected cell is. -/
def selectedPosition? (e : Editor) : Option (Nat × Nat) :=
  e.selected.bind e.sheet.position?

/-- Clicks on the cell at a position. -/
def clickAt? (e : Editor) (row col : Nat) : Option (Address × Editor) :=
  (e.sheet.address? row col).map fun a => (a, e.click a)

/-- The position one step away, or the same one at the edge. -/
def neighbour (s : Sheet) (row col : Nat) : Direction → Nat × Nat
  | .up => (row - 1, col)
  | .down => (min (row + 1) (s.height - 1), col)
  | .left => (row, col - 1)
  | .right => (row, min (col + 1) (s.width - 1))

/-- Moves the selected cell by one, if there is room. -/
def step? (e : Editor) (d : Direction) : Option (Address × Editor) := do
  let (row, col) ← e.selectedPosition?
  let (row', col') := neighbour e.sheet row col d
  if (row', col') = (row, col) then none else e.clickAt? row' col'

/-- The position after another, row by row. -/
def nextPosition? (s : Sheet) (row col : Nat) : Option (Nat × Nat) :=
  if col + 1 < s.width then some (row, col + 1)
  else if row + 1 < s.height then some (row + 1, 0)
  else none

/-- The position before another, row by row. -/
def previousPosition? (s : Sheet) (row col : Nat) : Option (Nat × Nat) :=
  if 0 < col then some (row, col - 1)
  else if 0 < row then some (row - 1, s.width - 1)
  else none

/-- Moves the selected cell to the next or the previous one, across the ends of rows. -/
def tab? (e : Editor) (back : Bool) : Option (Address × Editor) := do
  let (row, col) ← e.selectedPosition?
  let (row, col) ←
    if back then previousPosition? e.sheet row col else nextPosition? e.sheet row col
  e.clickAt? row col

end Editor

end Spreadsheet
