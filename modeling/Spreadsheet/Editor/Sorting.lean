import Spreadsheet.Editor

/-!
# Sorting the active sheet

A click on a header sorts by that column, a second one soon after turns the order around, and a
third one undoes the sort. However often the sheet is sorted, the rows remember where they were
before the first time.
-/

namespace Spreadsheet.Editor

/-- The positions before any sort of the rows as they stand now. -/
def unsortedPositions (e : Editor) : List Nat :=
  match e.sort with
  | some s => if s.order.length = e.sheet.height then s.order else List.range e.sheet.height
  | none => List.range e.sheet.height

/-- Sorts by the column at an index. -/
def sortByIndex (e : Editor) (col : Nat) (direction : SortDirection) (time : Nat) : Editor :=
  let order := Sheet.sortOrder direction (e.sheet.sortKeys col)
  let state : SortState :=
    ⟨e.sheet.headers.getD col [], direction, time, pick order e.unsortedPositions⟩
  { e with sort := some state }.putRows (pick order e.sheet.rows)

/-- Sorts by a column, if the sheet has it. -/
def sortBy (e : Editor) (label : Text) (direction : SortDirection) (time : Nat) : Editor :=
  match e.sheet.column? label with
  | some col => e.sortByIndex col direction time
  | none => e

/-- Puts the rows back where they were before any sort. -/
def restoreOrder (e : Editor) : Editor :=
  match e.sort with
  | none => e
  | some s =>
    let e := { e with sort := none }
    if s.order.length = e.sheet.height then e.putRows (unpick s.order e.sheet.rows) else e

/-- The direction of the sort that a click on a header repeats, if it comes soon enough. -/
def repeated? (e : Editor) (label : Text) (time : Nat) : Option SortDirection :=
  e.sort.bind fun s =>
    if s.column = label ∧ time - s.lastClick < e.config.repeatWindow then some s.direction else none

/-- A click on a column header. -/
def clickHeader (e : Editor) (label : Text) (time : Nat) : Editor :=
  match e.sheet.column? label with
  | none => e
  | some col =>
    match e.repeated? label time with
    | none => e.sortByIndex col .ascending time
    | some .ascending => e.sortByIndex col .descending time
    | some .descending => e.restoreOrder

end Spreadsheet.Editor
