import Spreadsheet.Text

/-!
# JSON values

Values keep what a reader needs to judge them strictly: a number as it is written, and the members
of an object in order with repeated names. An escape may name half of a surrogate pair; a string
with such an escape is no text, but may stand where nobody reads it.
-/

namespace Spreadsheet

inductive Json where
  | null
  | bool (b : Bool)
  | number (literal : Text)
  | text (t : Text)
  | array (items : List Json)
  | object (members : List (Text × Json))
  /-- What stands for a string, or for an object with a name, that is no text. -/
  | unreadable

namespace Json

def hexDigits (n : Nat) : Text :=
  let digits := Nat.toDigits 16 n
  List.replicate (4 - digits.length) '0' ++ digits

/-- Quotes, backslashes and the control characters below the blank are escaped, nothing else. -/
def escape (c : Char) : Text :=
  match c with
  | '"' => "\\\"".toList
  | '\\' => "\\\\".toList
  | '\x08' => "\\b".toList
  | '\x0c' => "\\f".toList
  | '\n' => "\\n".toList
  | '\r' => "\\r".toList
  | '\t' => "\\t".toList
  | c => if c.toNat < 0x20 then "\\u".toList ++ hexDigits c.toNat else [c]

def quote (t : Text) : Text :=
  '"' :: (t.flatMap escape ++ ['"'])

mutual

/-- Compact text, without a blank. -/
def render : Json → Text
  | null => "null".toList
  | bool b => (if b then "true" else "false").toList
  | number literal => literal
  | text t => quote t
  | array items => '[' :: (renderItems items ++ [']'])
  | object members => '\x7b' :: (renderMembers members ++ ['\x7d'])
  | unreadable => "null".toList

def renderItems : List Json → Text
  | [] => []
  | [item] => item.render
  | item :: rest => item.render ++ ',' :: renderItems rest

def renderMembers : List (Text × Json) → Text
  | [] => []
  | [(name, value)] => quote name ++ ':' :: value.render
  | (name, value) :: rest => quote name ++ ':' :: (value.render ++ ',' :: renderMembers rest)

end

def ofNat (n : Nat) : Json :=
  number (Text.ofNat n)

/-- The text of a string. -/
def text? : Json → Option Text
  | text t => some t
  | _ => none

def elements? : Json → Option (List Json)
  | array items => some items
  | _ => none

end Json

end Spreadsheet
