import Spreadsheet.Editor.Appearance
import Spreadsheet.Editor.Layout
import Spreadsheet.Editor.Pointer
import Spreadsheet.Editor.Sheets
import Spreadsheet.Editor.Sorting
import Spreadsheet.Editor.Transfer

/-!
# Actions

Everything that can be done to an editor, as data, and what comes back. An action that fails or
finds nothing to do leaves the editor as it was.
-/

namespace Spreadsheet

inductive Action where
  | write (a : Address) (t : Text)
  | commit (a : Address) (t : Text)
  | press (a : Address)
  | dragOver (a : Address)
  | release
  | click (a : Address)
  | focusBar
  | blurBar
  | beginEdit (a : Address)
  | cancelEdit
  | setBar (t : Text)
  | setCaret (n : Nat)
  /-- Replaces the text of the formula bar behind the back of its caret. -/
  | overwriteBar (t : Text)
  | submit
  | step (d : Direction)
  | tab (back : Bool)
  | edit (edit : StructuralEdit) (anchor : Address)
  | moveRow (i j : Nat)
  | moveColumn (source target : Text)
  | moveBlock (source target : Address)
  | copy
  | cut
  | paste (target : Address) (text : Option Text)
  | fillDown
  | fillRight
  | sortBy (label : Text) (direction : SortDirection) (time : Nat)
  | clickHeader (label : Text) (time : Nat)
  | restoreOrder
  | setKind (a : Address) (kind : CellKind)
  | format (a : Address) (p : FormatPatch)
  | formatSelection (p : FormatPatch)
  | addSheet
  | removeSheet (i : Nat)
  | selectSheet (i : Nat)
  | newFile
  | openWorkbook (w : Workbook)
deriving DecidableEq, Repr

/-- What comes back from an action. -/
inductive Reply where
  | nothing
  | done (b : Bool)
  | count (n : Nat)
  | address (a : Option Address)
  | text (t : Option Text)
  | size (height width : Nat)
  | failed (e : WorkbookError)
deriving DecidableEq, Repr

namespace Editor

/-- The editor after what may have been impossible. -/
def ifDone (e : Editor) : Option Editor → Reply × Editor
  | some e' => (.done true, e')
  | none => (.done false, e)

def ifAccepted (e : Editor) : Except WorkbookError Editor → Reply × Editor
  | .ok e' => (.nothing, e')
  | .error err => (.failed err, e)

def ifMoved (e : Editor) : Option (Address × Editor) → Reply × Editor
  | some (a, e') => (.address (some a), e')
  | none => (.address none, e)

def ifTaken (e : Editor) : Option (Text × Editor) → Reply × Editor
  | some (t, e') => (.text (some t), e')
  | none => (.text none, e)

/-- What an action answers and the editor after it. -/
def perform (e : Editor) : Action → Reply × Editor
  | .write a t => e.ifAccepted (e.write a t)
  | .commit a t => e.ifAccepted (e.commit a t)
  | .press a => (.nothing, e.press a)
  | .dragOver a => (.nothing, e.dragOver a)
  | .release => (.nothing, e.release)
  | .click a => (.nothing, e.click a)
  | .focusBar => (.nothing, e.focusBar)
  | .blurBar => (.nothing, e.blurBar)
  | .beginEdit a => (.nothing, e.beginEdit a)
  | .cancelEdit => (.nothing, e.cancelEdit)
  | .setBar t => (.nothing, { e with bar := e.bar.setText t })
  | .setCaret n => (.nothing, { e with bar := e.bar.setCaret n })
  | .overwriteBar t => (.nothing, { e with bar := { e.bar with text := t } })
  | .submit =>
    match e.submit with
    | .ok moved => e.ifMoved moved
    | .error err => (.failed err, e)
  | .step d => e.ifMoved (e.step? d)
  | .tab back => e.ifMoved (e.tab? back)
  | .edit edit anchor =>
    let e := e.edit edit anchor
    (.size e.sheet.height e.sheet.width, e)
  | .moveRow i j => e.ifDone (e.moveRow? i j)
  | .moveColumn source target => e.ifDone (e.moveColumn? source target)
  | .moveBlock source target => e.ifDone (e.moveBlock? source target)
  | .copy => e.ifTaken e.copy?
  | .cut => e.ifTaken e.cut?
  | .paste target text =>
    let (n, e) := e.paste target text
    (.count n, e)
  | .fillDown => e.ifDone e.fillDown?
  | .fillRight => e.ifDone e.fillRight?
  | .sortBy label direction time => (.nothing, e.sortBy label direction time)
  | .clickHeader label time => (.nothing, e.clickHeader label time)
  | .restoreOrder => (.nothing, e.restoreOrder)
  | .setKind a kind => (.nothing, e.setKind a kind)
  | .format a p => (.nothing, e.format a p)
  | .formatSelection p =>
    let (n, e) := e.formatSelection p
    (.count n, e)
  | .addSheet =>
    let e := e.addSheet
    (.count e.workbook.active, e)
  | .removeSheet i => e.ifDone (e.removeSheet? i)
  | .selectSheet i => e.ifDone (e.selectSheet? i)
  | .newFile => (.nothing, e.newFile)
  | .openWorkbook w => e.ifAccepted (e.openWorkbook w)

/-- The editor after a run of actions. -/
def run (e : Editor) (actions : List Action) : Editor :=
  actions.foldl (fun e action => (e.perform action).2) e

end Editor

end Spreadsheet
