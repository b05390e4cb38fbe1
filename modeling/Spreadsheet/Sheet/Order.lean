import Spreadsheet.Formula
import Spreadsheet.Sheet

/-!
# Sorting rows

Rows are ordered by the keys of one column. Keys are taken from the sheet as it is before the sort,
formulas by what they evaluate to. Numbers compare as numbers, texts without regard to case, and a
number and a text as they are shown. Empty cells come last in both directions, and rows that compare
equal keep their order.
-/

namespace Spreadsheet

inductive SortKey where
  | empty
  | number (x : Float)
  | text (t : Text)
deriving DecidableEq, Repr

inductive SortDirection where
  | ascending
  | descending
deriving DecidableEq, Repr

namespace SortKey

/-- The key of a text that is no formula: the number that it is between its blanks, or the text. -/
def ofPlainText (t : Text) : SortKey :=
  match Number.whole? t.trim with
  | some x => number x
  | none => text t

def ofValue : Value → SortKey
  | .number x => number x
  | v => text v.display

def ofCell (grid : Grid) (headers : List Text) : Cell → SortKey
  | .empty => empty
  | .number x => number x
  | .text t =>
    if Cell.isFormulaText t then ofValue (Formula.evaluate t grid headers) else ofPlainText t

def toText : SortKey → Text
  | empty => []
  | number x => Number.display x
  | text t => t

def compareNumbers (x y : Float) : Ordering :=
  if x < y then .lt else if y < x then .gt else .eq

def compare : SortKey → SortKey → Ordering
  | number x, number y => compareNumbers x y
  | text t, text u => Ord.compare t.lower u.lower
  | k, l => Ord.compare k.toText l.toText

/-- Whether a row with the first key may stand before one with the second. -/
def precedes (direction : SortDirection) : SortKey → SortKey → Bool
  | _, empty => true
  | empty, _ => false
  | k, l =>
    match direction with
    | .ascending => compare k l != .gt
    | .descending => compare l k != .gt

end SortKey

/-- The elements at some positions, in the order of the positions. -/
def pick {α : Type} (order : List Nat) (xs : List α) : List α :=
  order.filterMap (xs[·]?)

/-- Puts elements back that `pick` has arranged. -/
def unpick {α : Type} (order : List Nat) (xs : List α) : List α :=
  (List.range xs.length).filterMap fun i => (order.idxOf? i).bind (xs[·]?)

namespace Sheet

/-- The keys of a column from top to bottom. -/
def sortKeys (s : Sheet) (col : Nat) : List SortKey :=
  s.rows.map fun row => SortKey.ofCell s.rows s.headers (row.getD col .empty)

/-- The positions of the rows in the order of the keys. -/
def sortOrder (direction : SortDirection) (keys : List SortKey) : List Nat :=
  (keys.zipIdx.mergeSort fun k l => SortKey.precedes direction k.1 l.1).map (·.2)

end Sheet

end Spreadsheet
