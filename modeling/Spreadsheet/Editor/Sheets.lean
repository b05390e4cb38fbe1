import Spreadsheet.Editor

/-!
# Working with sheets

Adding, removing and selecting sheets, and replacing the whole workbook. A workbook always has a
sheet. Whatever changes the active sheet also forgets what was selected on the old one.
-/

namespace Spreadsheet.Editor

/-- Ids are given out in order; when they are used up all sheets get new ones. -/
def withFreeId (e : Editor) : Editor :=
  if e.nextId + 1 = Sheet.idBound then e.renumbered else e

/-- Adds a blank sheet at the end and selects it. -/
def addSheet (e : Editor) : Editor :=
  let e := e.withFreeId
  let n := e.workbook.sheets.length
  let s := Sheet.blank (Workbook.numberedName (n + 1)) e.nextId e.config.maxRows e.config.columns
  { e.resetView with workbook := ⟨e.workbook.sheets ++ [s], n⟩, nextId := e.nextId + 1 }.saved

/-- The index of the active one among `n` sheets once another has been removed. -/
def activeAfterRemove (active removed n : Nat) : Nat :=
  if removed < active ∨ n ≤ active then active - 1 else active

/-- Removes a sheet and names the others by their places. The last sheet stays. -/
def removeSheet? (e : Editor) (i : Nat) : Option Editor :=
  let sheets := e.workbook.sheets
  if 1 < sheets.length ∧ i < sheets.length then
    let rest := Workbook.renameAll (sheets.eraseIdx i)
    let active := activeAfterRemove e.workbook.active i rest.length
    some { e.resetView with workbook := ⟨rest, active⟩ }.saved
  else none

def selectSheet? (e : Editor) (i : Nat) : Option Editor :=
  if i < e.workbook.sheets.length ∧ i ≠ e.workbook.active then
    some { e.resetView with workbook := { e.workbook with active := i } }.saved
  else none

/-- Starts over with one blank sheet. -/
def newFile (e : Editor) : Editor :=
  { e.resetView with
    workbook := ⟨freshSheets e.config 1, 0⟩
    nextId := 2
    bar := .empty
    kinds := fun _ => .text
    formats := fun _ => {}
    clipboard := none }.saved

/-- Replaces the workbook by a sound one, with its first sheet active and new ids. Kinds, formats
and the clipboard stay. -/
def openWorkbook (e : Editor) (w : Workbook) : Except WorkbookError Editor := do
  let w ← w.checked
  return { { e with workbook := ⟨w.sheets, 0⟩ }.renumbered.resetView with bar := .empty }.saved

end Spreadsheet.Editor
