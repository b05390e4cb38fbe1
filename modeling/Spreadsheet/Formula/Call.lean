import Spreadsheet.Formula.Block
import Spreadsheet.Formula.Function
import Spreadsheet.Pattern.Replacement
import Spreadsheet.Text.Case

/-!
# Calls

What a function answers for its arguments on a grid. Aggregates read the numbers of a block, the
text functions work on their argument as it is written, and the two row functions answer with rows.
-/

namespace Spreadsheet

/-- What a call answers. -/
inductive Output where
  | number (x : Float)
  | text (t : Text)
  | rows (rs : List Row)
deriving DecidableEq, Repr

namespace Aggregate

def sum (xs : List Float) : Float :=
  xs.foldl (· + ·) 0

/-- The mean; of nothing it is zero. -/
def average (xs : List Float) : Float :=
  if xs = [] then 0 else sum xs / Binary64.ofNat xs.length

/-- The value that beats all others, zero if there is none. -/
def best (better : Float → Float → Bool) : List Float → Float
  | [] => 0
  | x :: rest => rest.foldl (fun a b => if better b a then b else a) x

def maximum (xs : List Float) : Float :=
  best (fun a b => b < a) xs

def minimum (xs : List Float) : Float :=
  best (fun a b => a < b) xs

def count (xs : List Float) : Float :=
  Binary64.ofNat xs.length

end Aggregate

/-- Two slices are the same when they are written alike, so a number differs from its text. -/
def sliceKey (slice : Row) : Text :=
  (Json.array (slice.map Cell.toJson)).render

/-- The rows whose slice no earlier row has. -/
def distinctRows (b : Block) : List Row → List Text → List Row
  | [], _ => []
  | row :: rest, seen =>
    let key := sliceKey (b.slice row)
    if seen.contains key then distinctRows b rest seen
    else row :: distinctRows b rest (key :: seen)

/-- An argument without the double quotes around it. Quotes that span lines stay. -/
def unquote (t : Text) : Text :=
  match t with
  | '"' :: rest =>
    if rest.getLast? = some '"' ∧ '\n' ∉ rest then rest.dropLast else t
  | _ => t

/-- Replaces in a cell that holds text; other cells stay. -/
def replaceInCell (p : Pattern.Program) (template : Text) : Cell → Cell
  | .text t => .text (p.replaceAll template t)
  | c => c

namespace Function

def argumentError (f : Function) (expected found : Nat) : FormulaError :=
  .argumentCount f.name expected found

/-- Functions with one parameter take the first argument. -/
def first (f : Function) (args : List Text) : Except FormulaError Text :=
  match args with
  | [] => .error (f.argumentError 1 0)
  | arg :: _ => .ok arg

/-- The numbers in the block that the first argument covers. -/
def firstValues (f : Function) (grid : Grid) (headers : List Text) (args : List Text) :
    Except FormulaError (List Float) := do
  return (← Block.resolve grid headers (← f.first args)).values grid

def call (f : Function) (grid : Grid) (headers : List Text) (args : List Text) :
    Except FormulaError Output :=
  match f with
  | sum => do return .number (Aggregate.sum (← f.firstValues grid headers args))
  | avg => do return .number (Aggregate.average (← f.firstValues grid headers args))
  | max => do return .number (Aggregate.maximum (← f.firstValues grid headers args))
  | min => do return .number (Aggregate.minimum (← f.firstValues grid headers args))
  | count => do return .number (Aggregate.count (← f.firstValues grid headers args))
  | trim => do return .text (← f.first args).trim
  | upper => do return .text (← f.first args).upper
  | lower => do return .text (← f.first args).lower
  | removeDuplicates => do
    let b ← Block.resolve grid headers (← f.first args)
    return .rows (distinctRows b (b.rows grid) [])
  | findAndReplace =>
    match args with
    | [range, find, template] => do
      let b ← Block.resolve grid headers range
      match Pattern.compile? (unquote find) with
      | some p => return .rows (b.modify (replaceInCell p (unquote template)) grid)
      | none => throw .pattern
    | _ => .error (f.argumentError 3 args.length)

end Function

end Spreadsheet
