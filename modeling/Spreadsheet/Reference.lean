import Spreadsheet.Address
import Spreadsheet.Formula.Error

/-!
# References and ranges

A reference is an address in which either axis may carry a `$`. A `Token` is a reference as it is
written, letters and digits untouched; a text may hold tokens among anything else, and the first one
decides what the text refers to. A range is two references around one colon, in the order written.
-/

namespace Spreadsheet

/-- An optional `$`, capital letters, an optional `$`, digits. -/
structure Token where
  colFixed : Bool
  letters : Text
  rowFixed : Bool
  digits : Text
deriving DecidableEq, Repr

namespace Token

def marker (fixed : Bool) : Text :=
  if fixed then ['$'] else []

def toText (k : Token) : Text :=
  marker k.colFixed ++ k.letters ++ marker k.rowFixed ++ k.digits

/-- Whether a `$` stands at the front, and the text after it. -/
def takeMarker : Text → Bool × Text
  | '$' :: rest => (true, rest)
  | t => (false, t)

/-- The token at the very front of a text, as long as it reaches. -/
def atFront? (t : Text) : Option Token :=
  let (colFixed, t₁) := takeMarker t
  let (rowFixed, t₂) := takeMarker (t₁.dropWhile Char.isUpper)
  let letters := t₁.takeWhile Char.isUpper
  let digits := t₂.takeWhile Char.isDigit
  if letters ≠ [] ∧ digits ≠ [] then some ⟨colFixed, letters, rowFixed, digits⟩ else none

/-- The token that starts first, wherever in the text it is. -/
def first? : Text → Option Token
  | [] => none
  | c :: rest =>
    match atFront? (c :: rest) with
    | some k => some k
    | none => first? rest

end Token

structure Reference where
  col : Text
  row : Nat
  colFixed : Bool
  rowFixed : Bool
deriving DecidableEq, Repr

namespace Reference

def toText (r : Reference) : Text :=
  Token.marker r.colFixed ++ r.col ++ Token.marker r.rowFixed ++ Text.ofNat (r.row + 1)

/-- The position meant, markers aside. -/
def address (r : Reference) : Address :=
  ⟨r.row, r.col⟩

/-- A token refers to something when its row is a size and not zero. -/
def ofToken? (k : Token) : Option Reference :=
  (Address.row? k.digits).map fun row => ⟨k.letters, row, k.colFixed, k.rowFixed⟩

def parse (t : Text) : Except FormulaError Reference :=
  match (Token.first? t).bind ofToken? with
  | some r => .ok r
  | none => .error (.invalidReference t)

end Reference

structure RangeReference where
  start : Reference
  stop : Reference
deriving DecidableEq, Repr

namespace RangeReference

def toText (r : RangeReference) : Text :=
  r.start.toText ++ ':' :: r.stop.toText

def parse (t : Text) : Except FormulaError RangeReference :=
  match t.splitOn ':' with
  | [start, stop] => do return ⟨← Reference.parse start, ← Reference.parse stop⟩
  | _ => .error (.malformedRange t)

end RangeReference

end Spreadsheet
