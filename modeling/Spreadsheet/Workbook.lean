import Spreadsheet.Sheet

/-!
# Workbooks

The sheets in order and the index of the active one. A workbook is sound when it has a sheet, every
sheet is sound, and the active one is among them. Written, it is one line of JSON.
-/

namespace Spreadsheet

structure Workbook where
  sheets : List Sheet
  active : Nat
deriving DecidableEq, Repr

namespace Workbook

/-- What keeps a workbook from being sound, the first thing found. -/
def defect? (w : Workbook) : Option Defect :=
  if w.sheets = [] then some .noSheets
  else
    match w.sheets.findSome? Sheet.defect? with
    | some defect => some defect
    | none =>
      if w.active < w.sheets.length then none
      else some (.noActiveSheet w.active w.sheets.length)

/-- A sound workbook as it is, and otherwise its defect. -/
def checked (w : Workbook) : Except WorkbookError Workbook :=
  match w.defect? with
  | none => .ok w
  | some defect => .error (.unsound defect)

/-- Where there is no active sheet, this stands in. -/
def noSheet : Sheet :=
  ⟨[], 0, [], []⟩

def sheet (w : Workbook) : Sheet :=
  w.sheets.getD w.active noSheet

/-- Replaces the active sheet. -/
def setSheet (w : Workbook) (s : Sheet) : Workbook :=
  { w with sheets := w.sheets.set w.active s }

/-- Gives the sheets the ids from one on, in order. -/
def renumber (sheets : List Sheet) : List Sheet :=
  sheets.mapIdx fun i s => { s with id := i + 1 }

/-- The name of the sheet that is the `n`-th, counted from one. -/
def numberedName (n : Nat) : Text :=
  "Sheet ".toList ++ Text.ofNat n

/-- Names the sheets by their places. -/
def renameAll (sheets : List Sheet) : List Sheet :=
  sheets.mapIdx fun i s => { s with name := numberedName (i + 1) }

def sheetsField : Text := "sheets".toList

def activeField : Text := "activeSheetIndex".toList

def toJson (w : Workbook) : Json :=
  .object [(sheetsField, .array (w.sheets.map Sheet.toJson)), (activeField, .ofNat w.active)]

def ofJson? (value : Json) : Option Workbook := do
  match ← Json.fields? [sheetsField, activeField] value with
  | [sheets, active] =>
    return ⟨← (← sheets.elements?).mapM Sheet.ofJson?, ← active.toNat? (sizeBound - 1)⟩
  | _ => none

def print (w : Workbook) : Text :=
  w.toJson.render

def parse (t : Text) : Except WorkbookError Workbook :=
  match (Json.parse? t).bind ofJson? with
  | some w => .ok w
  | none => .error .malformed

end Workbook

end Spreadsheet
