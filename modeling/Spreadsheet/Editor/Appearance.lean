import Spreadsheet.Editor

/-!
# Kinds and formats of cells

Neither belongs to the workbook: declaring a kind or changing a format saves nothing.
-/

namespace Spreadsheet.Editor

def setKind (e : Editor) (a : Address) (kind : CellKind) : Editor :=
  let kinds := e.kinds
  { e with kinds := fun x => if x = a then kind else kinds x }

/-- Applies a patch to the formats of some addresses. -/
def formatWhere (e : Editor) (p : FormatPatch) (chosen : Address → Bool) : Editor :=
  let formats := e.formats
  { e with formats := fun x => if chosen x then p.apply (formats x) else formats x }

def format (e : Editor) (a : Address) (p : FormatPatch) : Editor :=
  e.formatWhere p fun x => x = a

/-- Whether the cell at an address lies in a block. -/
def inBlock (s : Sheet) (b : Block) (a : Address) : Bool :=
  match s.column? a.col with
  | some col => b.contains a.row col
  | none => false

/-- Applies a patch to the selected cells and counts them. -/
def formatSelection (e : Editor) (p : FormatPatch) : Nat × Editor :=
  match e.selectedRange? with
  | some b =>
    let s := e.sheet
    (b.size, e.formatWhere p (inBlock s b))
  | none => (0, e)

end Spreadsheet.Editor
