import Spreadsheet.Json.Number
import Spreadsheet.Number
import Spreadsheet.Text.Blank

/-!
# Cells

A cell holds what was put into it and never what that evaluates to. Text that begins with an equals
sign is a formula; to everything but evaluation it is text like any other.
-/

namespace Spreadsheet

inductive Cell where
  | empty
  | number (x : Float)
  | text (t : Text)
deriving DecidableEq, Repr, Inhabited

abbrev Row := List Cell

abbrev Grid := List Row

namespace Cell

/-- What is typed into a cell; nothing typed leaves it empty. -/
def ofText (t : Text) : Cell :=
  if t = [] then empty else text t

def isEmpty : Cell → Bool
  | empty => true
  | _ => false

/-- Whether a text begins with an equals sign. -/
def isFormulaText (t : Text) : Bool :=
  t.head? == some '='

def formula? : Cell → Option Text
  | text t => if isFormulaText t then some t else none
  | _ => none

/-- The text that an edit of the cell starts from, which is also what it shows unless it holds a
formula. -/
def toText : Cell → Text
  | empty => []
  | number x => Number.display x
  | text t => t

/-- What the cell counts as in an aggregate: a finite number, or the number at the start of its
text. A formula counts as nothing, whatever it evaluates to. -/
def numericValue? : Cell → Option Float
  | empty => none
  | number x => if x.isFinite then some x else none
  | text t => if isFormulaText t then none else Number.leading? t.trimStart

/-- The cell without blanks around its text. -/
def trimmed : Cell → Cell
  | text t => ofText t.trim
  | c => c

/-- The literal of a stored number; what is no finite number has none. -/
def numberJson (x : Float) : Json :=
  if x.isFinite then .number (Number.storedLayout.write x) else .null

def toJson : Cell → Json
  | empty => .text []
  | number x => numberJson x
  | text t => .text t

def ofJson? : Json → Option Cell
  | .null => some empty
  | .text t => some (ofText t)
  | .number literal => (Json.toFloat? (.number literal)).map number
  | _ => none

end Cell

end Spreadsheet
