import Spreadsheet.CellKind

/-!
# What can go wrong with a workbook
-/

namespace Spreadsheet

/-- Why a workbook is not sound. -/
inductive Defect where
  | noSheets
  | unnamed (id : Nat)
  | noColumns (sheet : Text)
  | repeatedHeader (sheet label : Text)
  /-- Rows are counted from one here. -/
  | unevenRow (sheet : Text) (row cells width : Nat)
  | noActiveSheet (index sheets : Nat)
deriving DecidableEq, Repr

def Defect.message : Defect → Text
  | noSheets => "no sheets".toList
  | unnamed id => "sheet ".toList ++ Text.ofNat id ++ " has no name".toList
  | noColumns sheet => "sheet '".toList ++ sheet ++ "' has no columns".toList
  | repeatedHeader sheet label =>
    "sheet '".toList ++ sheet ++ "' has duplicate column header ".toList ++ label
  | unevenRow sheet row cells width =>
    "sheet '".toList ++ sheet ++ "' row ".toList ++ Text.ofNat row ++ " has ".toList ++
      Text.ofNat cells ++ " cells, expected ".toList ++ Text.ofNat width
  | noActiveSheet index sheets =>
    "active sheet ".toList ++ Text.ofNat index ++ " out of range (".toList ++ Text.ofNat sheets ++
      " sheets)".toList

inductive WorkbookError where
  /-- The declared kind of the cell does not accept the entry. -/
  | refused (reason : EntryError)
  | unsound (defect : Defect)
  | unknownColumn (label : Text)
  | rowOutOfBounds (row rows : Nat)
  /-- The text of a workbook is not the JSON of one. -/
  | malformed
  /-- The store could not be read or written. -/
  | unavailable
deriving DecidableEq, Repr

def WorkbookError.message : WorkbookError → Text
  | refused reason => reason.message
  | unsound defect => "Invalid sheet set: ".toList ++ defect.message
  | unknownColumn label => "Column ".toList ++ label ++ " is not in the sheet".toList
  | rowOutOfBounds row rows =>
    "Row ".toList ++ Text.ofNat row ++ " is outside the sheet (".toList ++ Text.ofNat rows ++
      " rows)".toList
  | malformed => "JSON error: not a workbook".toList
  | unavailable => "IO error: store not available".toList

end Spreadsheet
