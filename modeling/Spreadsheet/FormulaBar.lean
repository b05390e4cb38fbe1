import Spreadsheet.Text

/-!
# The formula bar

A line of text with a caret. While cells are dragged over, the range they make is put in at the
caret, and the next range takes the place of the one put in before. The text may also be replaced
behind the back of caret and insertion; both are then cut off at its end.
-/

namespace Spreadsheet

/-- A piece of the text. -/
structure Insertion where
  start : Nat
  length : Nat
deriving DecidableEq, Repr

structure FormulaBar where
  text : Text
  focused : Bool
  caret : Nat
  /-- The range that was put in last and may still be replaced. -/
  inserted : Option Insertion
deriving DecidableEq, Repr

namespace FormulaBar

def empty : FormulaBar :=
  ⟨[], false, 0, none⟩

/-- New text, with the caret at its end. -/
def setText (b : FormulaBar) (t : Text) : FormulaBar :=
  { b with text := t, caret := t.length, inserted := none }

def setCaret (b : FormulaBar) (n : Nat) : FormulaBar :=
  { b with caret := min n b.text.length, inserted := none }

/-- The bar without the range put in last, the caret where that stood. -/
def withoutInserted (b : FormulaBar) : FormulaBar :=
  match b.inserted with
  | none => b
  | some i =>
    { b with
      text := b.text.take i.start ++ b.text.drop (i.start + i.length)
      caret := i.start
      inserted := none }

/-- Puts a range in at the caret, in place of the one put in last. -/
def insertRange (b : FormulaBar) (range : Text) : FormulaBar :=
  let b := b.withoutInserted
  { b with
    text := b.text.take b.caret ++ range ++ b.text.drop b.caret
    caret := b.caret + range.length
    inserted := some ⟨b.caret, range.length⟩ }

/-- The range put in last stays. -/
def settle (b : FormulaBar) : FormulaBar :=
  { b with inserted := none }

def focus (b : FormulaBar) : FormulaBar :=
  { b with focused := true }

def unfocus (b : FormulaBar) : FormulaBar :=
  { b with focused := false }

end FormulaBar

end Spreadsheet
