import Spreadsheet.Workbook

/-!
# Stores

Where a workbook is kept between sessions. One kind of store keeps the workbook itself, the other
writes it down and reads it back. Either may turn out not to be readable or not to be writable, and
counts how often something was to be saved.
-/

namespace Spreadsheet

inductive Medium where
  | memory
  | file
deriving DecidableEq, Repr

inductive Stored where
  | nothing
  | written (t : Text)
  | kept (w : Workbook)
deriving DecidableEq, Repr

structure Store where
  medium : Medium
  stored : Stored
  readable : Bool
  writable : Bool
  saves : Nat
deriving DecidableEq, Repr

namespace Store

/-- What a store holds, if anything. -/
def load (s : Store) : Except WorkbookError (Option Workbook) :=
  if !s.readable then .error .unavailable
  else
    match s.stored with
    | .nothing => .ok none
    | .written t => (Workbook.parse t).map some
    | .kept w => .ok (some w)

/-- A workbook in the form that the medium keeps it in. -/
def put : Medium → Workbook → Stored
  | .memory, w => .kept w
  | .file, w => .written w.print

/-- A store that cannot be written keeps what it holds. -/
def save (s : Store) (w : Workbook) : Store :=
  { s with
    stored := if s.writable then put s.medium w else s.stored
    saves := s.saves + 1 }

end Store

end Spreadsheet
