import Spreadsheet.CellFormat
import Spreadsheet.Config
import Spreadsheet.FormulaBar
import Spreadsheet.Selection
import Spreadsheet.Sheet.Order
import Spreadsheet.Store

/-!
# The editor

A workbook that is being worked on, with everything a user sees of it: what is selected, the formula
bar, the clipboard, the declared kinds and formats of cells, and how the active sheet is sorted.
Every change of the workbook is written to the store at once. A store that cannot be read or holds
no sound workbook is passed over, and one that cannot be written does not stop the work.
-/

namespace Spreadsheet

/-- Cells that were copied or cut, and the position of the first of them. -/
structure Clipboard where
  cells : Grid
  row : Nat
  col : Nat
  cut : Bool
deriving DecidableEq, Repr

/-- The corners of a selection while it is drawn. -/
structure Drag where
  start : Address
  stop : Address
deriving DecidableEq, Repr

structure SortState where
  column : Text
  direction : SortDirection
  /-- When the sort was asked for, in milliseconds. -/
  lastClick : Nat
  /-- For each row, the position that it had before any sort. -/
  order : List Nat
deriving DecidableEq, Repr

structure Editor where
  config : Config
  workbook : Workbook
  /-- The id of the next new sheet. -/
  nextId : Nat
  selected : Option Address
  selection : Option Selection
  drag : Option Drag
  /-- Whether the button is held. -/
  dragging : Bool
  bar : FormulaBar
  /-- The cell that is edited in its place. -/
  editing : Option Address
  /-- Kinds and formats belong to addresses, whatever comes to stand there. -/
  kinds : Address → CellKind
  formats : Address → CellFormat
  clipboard : Option Clipboard
  sort : Option SortState
  modified : Bool
  store : Store

namespace Editor

/-- The first `n` fresh sheets of a workbook. -/
def freshSheets (c : Config) (n : Nat) : List Sheet :=
  (List.range n).map fun i =>
    Sheet.blank (Workbook.numberedName (i + 1)) (i + 1) c.maxRows c.columns

/-- An editor with fresh sheets and nothing selected. -/
def fresh (c : Config) (store : Store) : Editor where
  config := c
  workbook := ⟨freshSheets c c.initialSheets, 0⟩
  nextId := c.initialSheets + 1
  selected := none
  selection := none
  drag := none
  dragging := false
  bar := .empty
  editing := none
  kinds := fun _ => .text
  formats := fun _ => {}
  clipboard := none
  sort := none
  modified := false
  store := store

def sheet (e : Editor) : Sheet :=
  e.workbook.sheet

/-- Gives the sheets the ids from one on. -/
def renumbered (e : Editor) : Editor :=
  { e with
    workbook := { e.workbook with sheets := Workbook.renumber e.workbook.sheets }
    nextId := e.workbook.sheets.length + 1 }

/-- Goes on with a workbook from the store. Its ids stay unless they are used up. -/
def adopt (e : Editor) (w : Workbook) : Editor :=
  let greatest := (w.sheets.map Sheet.id).foldl max 0
  let e := { e with workbook := w }
  if greatest + 1 < Sheet.idBound then { e with nextId := greatest + 1 } else e.renumbered

/-- Why what a store holds is not used. -/
inductive LoadProblem where
  | unsound (e : WorkbookError)
  | failed (e : WorkbookError)
deriving DecidableEq, Repr

/-- The sound workbook in a store, if there is any workbook. -/
def stored (s : Store) : Except LoadProblem (Option Workbook) :=
  match s.load with
  | .error err => .error (.failed err)
  | .ok none => .ok none
  | .ok (some w) =>
    match w.checked with
    | .ok w => .ok (some w)
    | .error err => .error (.unsound err)

/-- The editor of the workbook in a store. -/
def start (c : Config) (store : Store) : Editor :=
  let e := fresh c.normalized store
  match stored store with
  | .ok (some w) => e.adopt w
  | _ => e

/-- Writes the workbook to the store. -/
def saved (e : Editor) : Editor :=
  { e with modified := true, store := e.store.save e.workbook }

/-- Replaces the active sheet and saves. -/
def put (e : Editor) (s : Sheet) : Editor :=
  { e with workbook := e.workbook.setSheet s }.saved

/-- Replaces the cells of the active sheet and saves. -/
def putRows (e : Editor) (rows : Grid) : Editor :=
  e.put { e.sheet with rows := rows }

def clearSelection (e : Editor) : Editor :=
  { e with selection := none, drag := none, dragging := false }

/-- Forgets what belongs to the layout of one sheet. -/
def resetView (e : Editor) : Editor :=
  { e.clearSelection with selected := none, editing := none, sort := none }

/-- The block of the selection. -/
def selectedRange? (e : Editor) : Option Block :=
  e.selection.bind (·.block? e.sheet)

/-- The block of the selection or, without one, the selected cell. -/
def selectedBlock? (e : Editor) : Option Block :=
  match e.selection with
  | some x => x.block? e.sheet
  | none => do
    let (row, col) ← e.sheet.position? (← e.selected)
    return .single row col

end Editor

end Spreadsheet
