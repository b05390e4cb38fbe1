import Spreadsheet.Json.Number
import Spreadsheet.Json.Reader

/-!
# Settings of an editor

Sizes of fresh sheets and workbooks, and how quickly a second click on a header has to follow the
first. Every setting has a default.
-/

namespace Spreadsheet

structure Config where
  /-- The height of a fresh sheet; inserting rows makes no sheet taller than this. -/
  maxRows : Nat
  columns : Nat
  initialSheets : Nat
  /-- In milliseconds. -/
  repeatWindow : Nat
deriving DecidableEq, Repr

namespace Config

/-- The given settings, and the defaults of the others. -/
def ofGiven (maxRows columns initialSheets repeatWindow : Option Nat) : Config :=
  ⟨maxRows.getD 100, columns.getD 26, initialSheets.getD 2, repeatWindow.getD 300⟩

/-- The settings when none is given. -/
def standard : Config :=
  ofGiven none none none none

/-- At least one row, one column and one sheet. -/
def normalized (c : Config) : Config :=
  { c with
    maxRows := max c.maxRows 1
    columns := max c.columns 1
    initialSheets := max c.initialSheets 1 }

def maxRowsField : Text := "max_rows".toList

def columnsField : Text := "columns".toList

def initialSheetsField : Text := "initial_sheets".toList

def repeatWindowField : Text := "sort_double_click_ms".toList

def fieldNames : List Text :=
  [maxRowsField, columnsField, initialSheetsField, repeatWindowField]

/-- Settings from the values of the fields in order. A value that is given has to be readable. -/
def ofFields? {α : Type} (read : α → Option Nat) : List (Option α) → Option Config
  | [maxRows, columns, initialSheets, repeatWindow] => do
    return ofGiven (← maxRows.mapM read) (← columns.mapM read) (← initialSheets.mapM read)
      (← repeatWindow.mapM read)
  | _ => none

def ofJson? (value : Json) : Option Config :=
  (Json.optionalFields? fieldNames value).bind (ofFields? (Json.toNat? (sizeBound - 1)))

def toJson (c : Config) : Json :=
  .object
    [(maxRowsField, Json.ofNat c.maxRows), (columnsField, Json.ofNat c.columns),
      (initialSheetsField, Json.ofNat c.initialSheets),
      (repeatWindowField, Json.ofNat c.repeatWindow)]

end Config

end Spreadsheet
