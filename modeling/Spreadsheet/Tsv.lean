import Spreadsheet.Cell

/-!
# Tab-separated values

Rows on lines, fields between tabs, nothing quoted. A text without a tab and a line feed is one
field.
-/

namespace Spreadsheet.Tsv

/-- The rows of fields that a text holds. -/
def parse (t : Text) : List (List Text) :=
  (t.splitOn '\n').map fun line => line.splitOn '\t'

def print (rows : List (List Text)) : Text :=
  Text.join ['\n'] (rows.map (Text.join ['\t']))

/-- The fields of cells are their texts. -/
def printCells (cells : Grid) : Text :=
  print (cells.map fun row => row.map Cell.toText)

def parseCells (t : Text) : Grid :=
  (parse t).map fun row => row.map Cell.ofText

end Spreadsheet.Tsv
