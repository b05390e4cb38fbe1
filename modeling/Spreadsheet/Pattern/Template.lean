import Spreadsheet.Text

/-!
# Replacement templates

What a match is replaced with. A dollar sign introduces the match itself, the text before or after
it, a group by its number, or a dollar sign; one that introduces nothing stands for itself.
-/

namespace Spreadsheet.Pattern

/-- A match as a template sees it; a group that took no part has no text. -/
structure Occurrence where
  before : Text
  matched : Text
  after : Text
  groups : List (Option Text)
deriving DecidableEq, Repr

namespace Template

inductive Piece where
  | literal (c : Char)
  | matched
  | before
  | after
  | group (n : Nat)
deriving DecidableEq, Repr

/-- Digits name a group when there is one with that number. -/
def group? (groups : Nat) (digits : Text) : Option Piece :=
  let n := Text.toNat digits
  if digits.all Char.isDigit ∧ 1 ≤ n ∧ n ≤ groups then some (.group n) else none

/-- What stands after a dollar sign, and how many characters that is. Of a group's number two digits
are tried before one. -/
def afterDollar? (groups : Nat) (t : Text) : Option (Piece × Nat) :=
  match t with
  | '$' :: _ => some (.literal '$', 1)
  | '&' :: _ => some (.matched, 1)
  | '\x60' :: _ => some (.before, 1)
  | '\'' :: _ => some (.after, 1)
  | a :: b :: _ =>
    match group? groups [a, b] with
    | some piece => some (piece, 2)
    | none => (group? groups [a]).map fun piece => (piece, 1)
  | [a] => (group? groups [a]).map fun piece => (piece, 1)
  | [] => none

/-- The first argument counts characters that belong to the piece read last. -/
def piecesFrom (groups : Nat) : Nat → Text → List Piece
  | _, [] => []
  | skip + 1, _ :: rest => piecesFrom groups skip rest
  | 0, c :: rest =>
    match if c = '$' then afterDollar? groups rest else none with
    | some (piece, length) => piece :: piecesFrom groups length rest
    | none => .literal c :: piecesFrom groups 0 rest

/-- The pieces of a template for a pattern with the given number of groups. -/
def pieces (groups : Nat) (template : Text) : List Piece :=
  piecesFrom groups 0 template

def Piece.expand (o : Occurrence) : Piece → Text
  | literal c => [c]
  | matched => o.matched
  | before => o.before
  | after => o.after
  | group n => ((o.groups[n - 1]?).join).getD []

def expand (template : Text) (o : Occurrence) : Text :=
  (pieces o.groups.length template).flatMap (·.expand o)

end Template

end Spreadsheet.Pattern
