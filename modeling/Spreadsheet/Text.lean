/-!
# Text

Everything a workbook holds, reads or prints is text, and text is a list of Unicode scalar values:
positions and lengths count characters, and the order of texts is the order of their code points.
Text is turned into a `String` only where it leaves the program.
-/

namespace Spreadsheet

abbrev Text := List Char

namespace Text

/-- A natural number in decimal, without leading zeros. -/
def ofNat (n : Nat) : Text :=
  Nat.toDigits 10 n

/-- The number that a run of decimal digits denotes; leading zeros do not count. -/
def toNat (digits : Text) : Nat :=
  Nat.ofDigitChars 10 digits 0

/-- Whole numbers are decimal digits only; a sign, a space or an empty text is not one. -/
def toNat? (t : Text) : Option Nat :=
  if t ≠ [] ∧ t.all Char.isDigit then some (toNat t) else none

def join (separator : Text) (parts : List Text) : Text :=
  separator.intercalate parts

/-- The two parts around the first `c`. -/
def splitOnce? (c : Char) : Text → Option (Text × Text)
  | [] => none
  | x :: rest =>
    if x = c then some ([], rest)
    else (splitOnce? c rest).map fun (before, after) => (x :: before, after)

/-- Blanks are added at the end up to the given width; a longer text stays whole. -/
def padRight (width : Nat) (t : Text) : Text :=
  t ++ List.replicate (width - t.length) ' '

theorem toNat_ofNat (n : Nat) : toNat (ofNat n) = n :=
  Nat.ofDigitChars_ten_toDigits

end Text

/-- Counts and offsets have 64 bits: a size is below this bound. -/
def sizeBound : Nat := 18446744073709551616

end Spreadsheet
