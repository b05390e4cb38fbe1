import Spreadsheet.Text.Blank

/-!
# Argument lists

Arguments are separated by commas at the top level. Parentheses nest, and a double quote at the top
level opens or closes a literal in which commas do not count. Each argument is trimmed; an empty one
at the very end is dropped.
-/

namespace Spreadsheet.Arguments

/-- Where a reader of arguments stands. The depth falls below zero where parentheses close that were
never opened. -/
structure Position where
  quoted : Bool
  depth : Int
deriving DecidableEq, Repr

def Position.start : Position := ⟨false, 0⟩

/-- Whether a comma here ends an argument. -/
def Position.separates (p : Position) : Bool :=
  !p.quoted && p.depth == 0

/-- The position after a character that ends no argument. -/
def Position.after (p : Position) (c : Char) : Position :=
  if c = '"' then (if p.depth = 0 then { p with quoted := !p.quoted } else p)
  else if c = '(' then { p with depth := p.depth + 1 }
  else if c = ')' then { p with depth := p.depth - 1 }
  else p

/-- The pieces of a text between the commas that separate; there is at least one. -/
def pieces : Position → Text → List Text
  | _, [] => [[]]
  | p, c :: rest =>
    if c = ',' ∧ p.separates then [] :: pieces p rest
    else
      match pieces (p.after c) rest with
      | [] => [[c]]
      | piece :: others => (c :: piece) :: others

/-- All pieces, without the last if that is empty. -/
def dropEmptyLast (ps : List Text) : List Text :=
  if ps.getLast? = some [] then ps.dropLast else ps

def split (t : Text) : List Text :=
  (dropEmptyLast (pieces Position.start t)).map Text.trim

end Spreadsheet.Arguments
