import Spreadsheet.Text

/-!
# Sets of characters

A set of characters is a list of code point ranges. Sets that the operations here build are in
canonical form: the ranges increase and neither overlap nor touch.
-/

namespace Spreadsheet

/-- The code points from `first` to `last`, both included. -/
structure CharRange where
  first : Nat
  last : Nat
deriving DecidableEq, Repr

abbrev CharSet := List CharRange

namespace CharSet

def greatest : Nat := 0x10FFFF

def everything : CharSet := [⟨0, greatest⟩]

def ofChar (c : Char) : CharSet := [⟨c.toNat, c.toNat⟩]

/-- Looks through increasing ranges and stops at the first that lies beyond. -/
def contains : CharSet → Nat → Bool
  | [], _ => false
  | r :: rest, n => r.first ≤ n && (n ≤ r.last || contains rest n)

/-- Joins a range to those that start no earlier, as far as they overlap or touch. -/
def absorb (r : CharRange) : CharSet → CharSet
  | [] => [r]
  | s :: rest =>
    if s.first ≤ r.last + 1 then absorb ⟨r.first, max r.last s.last⟩ rest
    else r :: absorb s rest

/-- Any list of ranges in canonical form. -/
def canonical (ranges : List CharRange) : CharSet :=
  match ranges.mergeSort (fun r s => r.first ≤ s.first) with
  | [] => []
  | r :: rest => absorb r rest

def union (a b : CharSet) : CharSet :=
  canonical (a ++ b)

/-- What is left from `start` on when the ranges are cut out. -/
def gaps (start : Nat) : CharSet → CharSet
  | [] => if start ≤ greatest then [⟨start, greatest⟩] else []
  | r :: rest =>
    if start < r.first then ⟨start, r.first - 1⟩ :: gaps (r.last + 1) rest
    else gaps (r.last + 1) rest

def complement (a : CharSet) : CharSet :=
  gaps 0 a

def intersection (a b : CharSet) : CharSet :=
  complement (union (complement a) (complement b))

def difference (a b : CharSet) : CharSet :=
  intersection a (complement b)

def symmetricDifference (a b : CharSet) : CharSet :=
  difference (union a b) (intersection a b)

def isAscii (a : CharSet) : Bool :=
  a.all fun r => r.last < 0x80

end CharSet

namespace Unicode

def hexDigit? (c : Char) : Option Nat :=
  if c.isDigit then some (c.toNat - '0'.toNat)
  else if 'a' ≤ c ∧ c ≤ 'f' then some (c.toNat - 'a'.toNat + 10)
  else if 'A' ≤ c ∧ c ≤ 'F' then some (c.toNat - 'A'.toNat + 10)
  else none

/-- The value of hexadecimal digits; anything else among them counts as zero. -/
def hexValue (t : Text) : Nat :=
  t.foldl (fun n c => n * 16 + (hexDigit? c).getD 0) 0

/-- A range as tables write it: two code points around a hyphen, or one alone. -/
def rangeOfText (t : Text) : CharRange :=
  match Text.splitOnce? '-' t with
  | some (first, last) => ⟨hexValue first, hexValue last⟩
  | none => ⟨hexValue t, hexValue t⟩

/-- The entries of a table, separated by blanks and line ends. -/
def tableEntries (table : String) : List Text :=
  (table.toList.splitOnP fun c => c == ' ' || c == '\n').filter (· ≠ [])

/-- The set whose ranges a table lists. -/
def charSet (table : String) : CharSet :=
  (tableEntries table).map rangeOfText

end Unicode

end Spreadsheet
