import Spreadsheet.Editor

/-!
# Reading and entering cells

What a cell shows is computed from the sheet each time. Text is entered in three ways: directly into
a cell, which its kind may refuse; from a program, which no kind refuses; and from the formula bar,
which may name the cell it is meant for.
-/

namespace Spreadsheet.Editor

/-- What a cell evaluates to. What is not in the sheet is blank. -/
def value (e : Editor) (a : Address) : Value :=
  match e.sheet.find? a with
  | some (.number x) => .number x
  | some (.text t) =>
    if Cell.isFormulaText t then Formula.evaluate t e.sheet.rows e.sheet.headers else .text t
  | _ => .text []

def display (e : Editor) (a : Address) : Text :=
  (e.value a).display

/-- The text that an edit of the cell starts from. -/
def raw (e : Editor) (a : Address) : Text :=
  match e.sheet.find? a with
  | some c => c.toText
  | none => []

/-- What a formula that is in no cell evaluates to on the active sheet. -/
def formulaValue (e : Editor) (t : Text) : Value :=
  Formula.evaluateFormula t e.sheet.rows e.sheet.headers

/-- Enters text as it is. -/
def write (e : Editor) (a : Address) (t : Text) : Except WorkbookError Editor := do
  let (row, col) ← e.sheet.position a
  return e.putRows (e.sheet.rows.setCell row col (Cell.ofText t))

/-- Enters text without the blanks around it if the kind of the cell accepts it, which ends an edit
in place. -/
def commit (e : Editor) (a : Address) (t : Text) : Except WorkbookError Editor :=
  match (e.kinds a).refusal? t.trim with
  | some reason => .error (.refused reason)
  | none => do
    let e ← e.write a t.trim
    return { e with editing := none }

/-- Enters the text of the formula bar into the cell that it names, or the selected one. Nothing
happens without a text or without a cell. -/
def submit (e : Editor) : Except WorkbookError (Option (Address × Editor)) :=
  let input := e.bar.text.trim
  if input = [] then .ok none
  else
    let entry := Formula.Entry.parse input
    match entry.target.or e.selected with
    | none => .ok none
    | some target => do
      let e ← e.write target entry.formula
      return some (target, { e with bar := e.bar.unfocus })

end Spreadsheet.Editor
