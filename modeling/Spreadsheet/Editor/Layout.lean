import Spreadsheet.Editor
import Spreadsheet.Sheet.Layout

/-!
# Changing the layout of the active sheet

Insertions, deletions and moves of rows and columns end a sort. Deleting the column left or right of
an anchor also clears the selection, and the selected cell follows its content when a column before
it goes away.
-/

namespace Spreadsheet.Editor

/-- Where a cell is addressed once the column at an index has been deleted before it. -/
def addressAfterDelete (old new : Sheet) (deleted : Nat) (a : Address) : Address :=
  match old.column? a.col with
  | some i => if deleted < i then { a with col := new.headers.getD (i - 1) a.col } else a
  | none => a

/-- The selections after an edit that turned the active sheet into another. -/
def selectionsAfter (e : Editor) (edit : StructuralEdit) (anchor : Address) (new : Sheet) :
    Editor :=
  match edit with
  | .deleteColumnLeft =>
    let deleted := (e.sheet.column? anchor.col).getD 0 - 1
    { e.clearSelection with
      selected := e.selected.map (addressAfterDelete e.sheet new deleted) }
  | .deleteColumnRight => e.clearSelection
  | _ => e

/-- Applies a structural edit. One that has nothing to edit changes nothing. -/
def edit (e : Editor) (edit : StructuralEdit) (anchor : Address) : Editor :=
  match e.sheet.edited? e.config.maxRows edit anchor with
  | some s => { e.selectionsAfter edit anchor s with sort := none }.put s
  | none => e

/-- Drags a row to the place of another. -/
def moveRow? (e : Editor) (i j : Nat) : Option Editor :=
  (e.sheet.moveRow? i j).map { e with sort := none }.put

/-- Drags a column to the place of another. -/
def moveColumn? (e : Editor) (source target : Text) : Option Editor := do
  let i ← e.sheet.column? source
  let j ← e.sheet.column? target
  return { e with sort := none }.put (← e.sheet.moveColumn? i j)

end Spreadsheet.Editor
