import Spreadsheet.Address
import Spreadsheet.Cell
import Spreadsheet.Column
import Spreadsheet.Json.Reader
import Spreadsheet.Workbook.Error

/-!
# Sheets

A sheet is a grid under a row of column headers. A header labels a position: after any change of the
columns the headers are the generated labels again, and the cells of a moved column answer to the
label of their new place. A sheet is sound when it has a name and columns, no header twice, and
every row as wide as the headers.
-/

namespace Spreadsheet

structure Sheet where
  name : Text
  id : Nat
  headers : List Text
  rows : Grid
deriving DecidableEq, Repr

namespace Sheet

/-- A sheet of empty cells with generated headers. -/
def blank (name : Text) (id height width : Nat) : Sheet :=
  ⟨name, id, Column.labels width, List.replicate height (List.replicate width .empty)⟩

def width (s : Sheet) : Nat :=
  s.headers.length

def height (s : Sheet) : Nat :=
  s.rows.length

def blankRow (s : Sheet) : Row :=
  List.replicate s.width .empty

def column? (s : Sheet) (label : Text) : Option Nat :=
  s.headers.idxOf? label

/-- The row and column index of an address, or what is missing. The column is looked up first. -/
def position (s : Sheet) (a : Address) : Except WorkbookError (Nat × Nat) :=
  match s.column? a.col with
  | none => .error (.unknownColumn a.col)
  | some col =>
    if a.row < s.height then .ok (a.row, col) else .error (.rowOutOfBounds a.row s.height)

def position? (s : Sheet) (a : Address) : Option (Nat × Nat) :=
  (s.position a).toOption

def cell? (s : Sheet) (row col : Nat) : Option Cell :=
  s.rows[row]?.bind (·[col]?)

/-- The cell at an address, if the sheet has it. -/
def find? (s : Sheet) (a : Address) : Option Cell :=
  (s.position? a).bind fun (row, col) => s.cell? row col

/-- The address of a position; only the column has to be in the sheet. -/
def address? (s : Sheet) (row col : Nat) : Option Address :=
  s.headers[col]?.map fun label => ⟨row, label⟩

/-- Addresses and cells, row by row. -/
def cells (s : Sheet) : List (Address × Cell) :=
  s.rows.zipIdx.flatMap fun (row, i) =>
    (s.headers.zip row).map fun (label, cell) => (⟨i, label⟩, cell)

/-- The first element that stands in the list before. -/
def firstRepeated? (labels : List Text) : Option Text :=
  go [] labels
where
  go (seen : List Text) : List Text → Option Text
    | [] => none
    | label :: rest => if label ∈ seen then some label else go (label :: seen) rest

/-- What keeps a sheet from being sound, the first thing found. -/
def defect? (s : Sheet) : Option Defect :=
  if s.name.trim = [] then some (.unnamed s.id)
  else if s.headers = [] then some (.noColumns s.name)
  else
    match firstRepeated? s.headers with
    | some label => some (.repeatedHeader s.name label)
    | none =>
      (s.rows.zipIdx.find? fun (row, _) => row.length ≠ s.width).map fun (row, i) =>
        .unevenRow s.name (i + 1) row.length s.width

def nameField : Text := "name".toList

def idField : Text := "id".toList

def headersField : Text := "columnHeaders".toList

def rowsField : Text := "data".toList

/-- Ids have 32 bits: they are below this bound. -/
def idBound : Nat := 4294967296

def toJson (s : Sheet) : Json :=
  .object
    [(nameField, .text s.name), (idField, .ofNat s.id),
      (headersField, .array (s.headers.map .text)),
      (rowsField, .array (s.rows.map fun row => .array (row.map Cell.toJson)))]

def ofJson? (value : Json) : Option Sheet := do
  match ← Json.fields? [nameField, idField, headersField, rowsField] value with
  | [name, id, headers, rows] =>
    let row? (row : Json) : Option Row := do (← row.elements?).mapM Cell.ofJson?
    return ⟨← name.text?, ← id.toNat? (idBound - 1), ← (← headers.elements?).mapM Json.text?,
      ← (← rows.elements?).mapM row?⟩
  | _ => none

end Sheet

end Spreadsheet
