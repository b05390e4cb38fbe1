import Spreadsheet.Formula.Arguments
import Spreadsheet.Formula.Call

/-!
# Formulas

A formula is an equals sign and one call: a name, and arguments between parentheses. It is evaluated
against a grid each time it is looked at, and what it finds in other formula cells is their text. A
formula without a value shows an error token instead.
-/

namespace Spreadsheet

/-- What a cell or a formula evaluates to. -/
inductive Value where
  | text (t : Text)
  | number (x : Float)
  | rows (rs : List Row)
  | error (token : ErrorToken)
deriving DecidableEq, Repr

namespace Value

def ofOutput : Output → Value
  | .number x => number x
  | .text t => text t
  | .rows rs => rows rs

def isError : Value → Bool
  | error _ => true
  | _ => false

/-- What is shown: rows appear as all their cells one after the other. -/
def display : Value → Text
  | text t => t
  | number x => Number.display x
  | rows rs => Text.join [','] (rs.flatten.map Cell.toText)
  | error token => token.toText

end Value

namespace Formula

def isNameChar (c : Char) : Bool :=
  c.isUpper || c == '_'

/-- The name and the text between the outer parentheses. -/
structure Shape where
  name : Text
  body : Text
deriving DecidableEq, Repr

/-- The shape of a text that is an equals sign, a name, and one line between parentheses. The last
parenthesis closes the first. -/
def shape? (t : Text) : Option Shape :=
  match t with
  | '=' :: t =>
    let name := t.takeWhile isNameChar
    match t.dropWhile isNameChar with
    | '(' :: rest =>
      let body := rest.dropLast
      if name ≠ [] ∧ rest.getLast? = some ')' ∧ '\n' ∉ body then some ⟨name, body⟩ else none
    | _ => none
  | _ => none

structure Call where
  function : Function
  args : List Text
deriving DecidableEq, Repr

def parse (t : Text) : Except FormulaError Call :=
  match shape? t.trim with
  | none => .error (.grammar t.trim)
  | some s =>
    match Function.ofName? s.name with
    | none => .error (.unknownFunction s.name)
    | some f => .ok ⟨f, Arguments.split s.body⟩

/-- What a text evaluates to, or why it has no value. Text that is no formula is its own value,
without the blanks around it. -/
def outcome (t : Text) (grid : Grid) (headers : List Text) : Except FormulaError Value :=
  if Cell.isFormulaText t.trim then do
    let call ← parse t.trim
    return .ofOutput (← call.function.call grid headers call.args)
  else .ok (.text t.trim)

/-- An outcome as a value: the cause of a failure shows as its token. -/
def settle (r : Except FormulaError Value) : Value :=
  match r with
  | .ok v => v
  | .error e => .error e.token

def evaluate (t : Text) (grid : Grid) (headers : List Text) : Value :=
  settle (outcome t grid headers)

/-- The text with the equals sign that a formula begins with. -/
def withEquals (t : Text) : Text :=
  if Cell.isFormulaText t then t else '=' :: t

/-- Evaluates a text as a formula, whether or not the equals sign is there. -/
def evaluateFormula (t : Text) (grid : Grid) (headers : List Text) : Value :=
  evaluate (withEquals t.trim) grid headers

/-- What is entered, and the cell it is meant for if it names one. -/
structure Entry where
  target : Option Address
  formula : Text
deriving DecidableEq, Repr

/-- The two sides of an entry that assigns: an address, an equals sign, and one line that is not
empty. -/
def assignment? (t : Text) : Option (Address × Text) :=
  match Text.splitOnce? '=' t with
  | some (left, right) =>
    if right ≠ [] ∧ '\n' ∉ right then (Address.parse? left).map fun a => (a, right) else none
  | none => none

/-- An entry such as `A1=SUM(B1:B8)` is meant for the cell it names; any other is taken whole. -/
def Entry.parse (t : Text) : Entry :=
  match assignment? t with
  | some (target, right) => ⟨some target, withEquals right⟩
  | none => ⟨none, t⟩

end Formula

end Spreadsheet
