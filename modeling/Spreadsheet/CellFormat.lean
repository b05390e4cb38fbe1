import Spreadsheet.Text

/-!
# Cell formats

How a cell is presented. A patch names the attributes that change and leaves the others.
-/

namespace Spreadsheet

structure CellFormat where
  bold : Bool := false
  italic : Bool := false
  fontSize : Nat := 12
  color : Text := "black".toList
deriving DecidableEq, Repr, Inhabited

structure FormatPatch where
  bold : Option Bool := none
  italic : Option Bool := none
  fontSize : Option Nat := none
  color : Option Text := none
deriving DecidableEq, Repr, Inhabited

def FormatPatch.apply (p : FormatPatch) (f : CellFormat) : CellFormat where
  bold := p.bold.getD f.bold
  italic := p.italic.getD f.italic
  fontSize := p.fontSize.getD f.fontSize
  color := p.color.getD f.color

end Spreadsheet
