import Spreadsheet.Calendar

/-!
# Cell kinds

A cell may be declared to hold text, numbers or dates. The kind decides which entries are accepted,
never how they are stored. An empty entry is always accepted, and what counts as a number here is
lenient: a lone hyphen or point does.
-/

namespace Spreadsheet

inductive CellKind where
  | text
  | number
  | date
deriving DecidableEq, Repr, Inhabited

/-- Why an entry is not accepted. -/
inductive EntryError where
  | notNumber
  | notDateForm
  | noSuchDay
deriving DecidableEq, Repr

def EntryError.message : EntryError → Text
  | notNumber => "Please enter a valid number".toList
  | notDateForm => "Please enter a date in YYYY-MM-DD format".toList
  | noSuchDay => "Please enter a valid date".toList

namespace CellKind

def name : CellKind → Text
  | text => "text".toList
  | number => "number".toList
  | date => "date".toList

/-- The kind with a name, in capital or small letters. -/
def ofName? (t : Text) : Option CellKind :=
  [text, number, date].find? fun kind => kind.name == t.map Char.toLower

/-- What is said of a name that no kind has. -/
def unknownMessage (t : Text) : Text :=
  "Unknown cell type: ".toList ++ t.map Char.toLower

/-- An optional hyphen, digits, and an optional point with digits after it. No digit is needed. -/
def isNumberEntry (t : Text) : Bool :=
  let unsigned := if t.head? = some '-' then t.drop 1 else t
  match unsigned.dropWhile Char.isDigit with
  | [] => true
  | '.' :: fraction => fraction.all Char.isDigit
  | _ => false

/-- Why a kind does not accept an entry, if it does not. -/
def refusal? (kind : CellKind) (t : Text) : Option EntryError :=
  if t = [] then none
  else
    match kind with
    | text => none
    | number => if isNumberEntry t then none else some .notNumber
    | date =>
      match Date.ofText? t with
      | none => some .notDateForm
      | some d => if d.isDay then none else some .noSuchDay

end CellKind

end Spreadsheet
