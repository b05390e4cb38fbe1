import Spreadsheet.Editor
import Spreadsheet.Text.Quoted

/-!
# Messages about a run

What a run reports beside its results, each message with a level and a source. Only messages up to
the level that is asked for are shown.
-/

namespace Spreadsheet.CommandLine

/-- Levels from the most to the least urgent. -/
inductive Level where
  | off
  | error
  | warn
  | info
  | debug
  | trace
deriving DecidableEq, Repr

namespace Level

def name : Level → Text
  | off => "OFF".toList
  | error => "ERROR".toList
  | warn => "WARN".toList
  | info => "INFO".toList
  | debug => "DEBUG".toList
  | trace => "TRACE".toList

def all : List Level :=
  [off, error, warn, info, debug, trace]

def rank (l : Level) : Nat :=
  all.idxOf l

/-- The level with a name, in capital or small letters. -/
def ofName? (t : Text) : Option Level :=
  all.find? fun l => l.name == t.map Char.toUpper

/-- The level that is asked for on the command line or, if it is silent, in the settings. -/
def chosen (verbosity : UInt8) (configured : Option Text) : Level :=
  match verbosity.toNat with
  | 0 => (configured.bind ofName?).getD warn
  | 1 => info
  | 2 => debug
  | _ => trace

end Level

/-- What there is to report. -/
inductive Event where
  | usingWorkbook (path : Text)
  | workbookIgnored (e : WorkbookError)
  | loadFailed (e : WorkbookError)
  | saveFailed (e : WorkbookError)
  | cannotWrite (a : Address) (e : WorkbookError)
  | formulaFailed (formula : Text) (e : FormulaError)
deriving DecidableEq, Repr

namespace Event

def level : Event → Level
  | usingWorkbook _ => .info
  | workbookIgnored _ => .warn
  | loadFailed _ => .warn
  | saveFailed _ => .error
  | cannotWrite _ _ => .warn
  | formulaFailed _ _ => .debug

/-- The part of the program that reports. -/
def source : Event → Text
  | usingWorkbook _ => "gridsheet".toList
  | workbookIgnored _ | loadFailed _ | saveFailed _ => "gridsheet_core::document::state".toList
  | cannotWrite _ _ => "gridsheet_core::document::eval".toList
  | formulaFailed _ _ => "gridsheet_engine::engine::formula".toList

def message : Event → Text
  | usingWorkbook path => "Using workbook ".toList ++ path
  | workbookIgnored e => "Ignoring stored workbook: ".toList ++ e.message
  | loadFailed e => "Failed to load stored workbook: ".toList ++ e.message
  | saveFailed e => "Failed to save workbook: ".toList ++ e.message
  | cannotWrite a e => "Cannot write ".toList ++ a.toText ++ ": ".toList ++ e.message
  | formulaFailed formula e =>
    "formula ".toList ++ formula.quoted ++ " failed: ".toList ++ e.message

def line (x : Event) : Text :=
  "[".toList ++ x.level.name ++ "] ".toList ++ x.source ++ ": ".toList ++ x.message

def isShown (l : Level) (x : Event) : Bool :=
  x.level.rank ≤ l.rank

end Event

/-- What there is to report when a store is read. -/
def loadEvents (s : Store) : List Event :=
  match Editor.stored s with
  | .ok _ => []
  | .error (.unsound e) => [.workbookIgnored e]
  | .error (.failed e) => [.loadFailed e]

/-- What there is to report when a store has been written. -/
def saveEvents (s : Store) : List Event :=
  if s.writable then [] else [.saveFailed .unavailable]

/-- What there is to report when a text has been evaluated on a sheet. -/
def formulaEvents (t : Text) (s : Sheet) : List Event :=
  match Formula.outcome t s.rows s.headers with
  | .ok _ => []
  | .error e => [.formulaFailed t.trim e]

/-- What there is to report when a cell has been evaluated. -/
def cellEvents (s : Sheet) (c : Cell) : List Event :=
  match c.formula? with
  | some t => formulaEvents t s
  | none => []

end Spreadsheet.CommandLine
