import Spreadsheet.Unicode.Property

/-!
# Quoted text

Text between double quotes on one line, for messages. What cannot be seen on its own, being a blank
other than the space, a control or format character, a combining one, or no character yet, is
written as its code point.
-/

namespace Spreadsheet.Text

/-- Characters that are written by their code points. -/
def hiddenChars : CharSet :=
  let shown : CharSet := [⟨0x20, 0x20⟩]
  let unprintable :=
    (Unicode.Property.categories (["cc", "cf", "cs", "co"] ++ Unicode.Property.separators)).union
      Unicode.Property.unassigned
  (unprintable.difference shown).union Unicode.Property.graphemeExtend

def quotedChar (c : Char) : Text :=
  match c with
  | '"' => "\\\"".toList
  | '\\' => "\\\\".toList
  | '\n' => "\\n".toList
  | '\r' => "\\r".toList
  | '\t' => "\\t".toList
  | '\x00' => "\\0".toList
  | c =>
    if hiddenChars.contains c.toNat then "\\u\x7b".toList ++ Nat.toDigits 16 c.toNat ++ ['\x7d']
    else [c]

def quoted (t : Text) : Text :=
  '"' :: (t.flatMap quotedChar ++ ['"'])

end Spreadsheet.Text
