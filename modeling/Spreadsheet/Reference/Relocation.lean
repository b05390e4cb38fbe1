import Spreadsheet.Column
import Spreadsheet.Reference

/-!
# Moving a formula

A formula that is copied elsewhere refers to what lies at the same distance from its new place. Its
text is cut into segments, reference tokens and single characters; a token is shifted on the axes
that carry no `$`, and every other segment stays as it is. Nothing inside double quotes is a token,
and a quote that is never closed runs to the end of the text.
-/

namespace Spreadsheet

/-- A piece of a formula's text. -/
inductive Segment where
  | token (k : Token)
  | plain (c : Char)
deriving DecidableEq, Repr

namespace Segment

def toText : Segment → Text
  | token k => k.toText
  | plain c => [c]

/-- `skip` characters still belong to the token found last. -/
def scan : Bool → Nat → Text → List Segment
  | _, _, [] => []
  | quoted, skip + 1, _ :: rest => scan quoted skip rest
  | quoted, 0, c :: rest =>
    if c = '"' then plain c :: scan (!quoted) 0 rest
    else if quoted then plain c :: scan true 0 rest
    else
      match Token.atFront? (c :: rest) with
      | some k => token k :: scan false (k.toText.length - 1) rest
      | none => plain c :: scan false 0 rest

/-- The segments of a text from left to right. -/
def ofText (t : Text) : List Segment :=
  scan false 0 t

end Segment

namespace Relocation

/-- Where a row ends up. -/
inductive ShiftedRow where
  | row (n : Nat)
  | beforeFirst
  /-- The row is no size, before or after the shift, or it falls below zero. -/
  | unwritable
deriving DecidableEq, Repr

def shiftRow (digits : Text) (delta : Int) : ShiftedRow :=
  let n := Text.toNat digits
  let target := (n : Int) + delta
  if n < sizeBound ∧ 0 ≤ target ∧ target < sizeBound then
    if target = 0 then .beforeFirst else .row target.toNat
  else .unwritable

def lost : Text :=
  "#REF!".toList

/-- The text that a token becomes. The column is looked at first; a row that cannot be shifted
leaves the token as it was written. -/
def token (rows cols : Int) (k : Token) : Text :=
  if k.colFixed ∧ k.rowFixed then k.toText
  else
    match if k.colFixed then some k.letters else Column.shift? k.letters cols with
    | none => lost
    | some letters =>
      if k.rowFixed then Token.toText ⟨k.colFixed, letters, true, k.digits⟩
      else
        match shiftRow k.digits rows with
        | .row n => Token.toText ⟨k.colFixed, letters, false, Text.ofNat n⟩
        | .beforeFirst => lost
        | .unwritable => k.toText

def segment (rows cols : Int) : Segment → Text
  | .token k => token rows cols k
  | .plain c => [c]

/-- A formula moved by some rows and columns. One that stays in place is left as it is. -/
def formula (rows cols : Int) (t : Text) : Text :=
  if rows = 0 ∧ cols = 0 then t
  else (Segment.ofText t).flatMap (segment rows cols)

end Relocation

end Spreadsheet
