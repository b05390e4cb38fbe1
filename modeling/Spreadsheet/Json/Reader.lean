import Spreadsheet.Json
import Spreadsheet.CharSet

/-!
# Reading JSON

One value with nothing but blanks around it. Every function returns what it has read and the text
left over, and takes a bound on the work left: a value needs at most two steps for each character,
so twice the length of the text is enough.
-/

namespace Spreadsheet.Json

def isJsonBlank (c : Char) : Bool :=
  c == ' ' || c == '\n' || c == '\r' || c == '\t'

def skipBlanks (t : Text) : Text :=
  t.dropWhile isJsonBlank

/-- Four hexadecimal digits as a code unit. -/
def codeUnit? : Text → Option (Nat × Text)
  | a :: b :: c :: d :: rest =>
    if [a, b, c, d].all fun c => (Unicode.hexDigit? c).isSome then
      some (Unicode.hexValue [a, b, c, d], rest)
    else none
  | _ => none

/-- The character of an escape that is one letter. -/
def letterEscape? : Char → Option Char
  | '"' => some '"'
  | '\\' => some '\\'
  | '/' => some '/'
  | 'b' => some '\x08'
  | 'f' => some '\x0c'
  | 'n' => some '\n'
  | 'r' => some '\r'
  | 't' => some '\t'
  | _ => none

/-- A piece of a string: a character, or half of a surrogate pair that stands alone. -/
inductive StringPiece where
  | char (c : Char)
  | half
deriving DecidableEq, Repr

/-- Reads what follows a backslash. Two escapes that are a surrogate pair make one character. -/
def escapePiece? : Text → Option (StringPiece × Text)
  | 'u' :: rest => do
    let (unit, rest) ← codeUnit? rest
    if 0xD800 ≤ unit ∧ unit < 0xDC00 then
      let pair? : Option (StringPiece × Text) :=
        match rest with
        | '\\' :: 'u' :: after =>
          (codeUnit? after).bind fun (low, after) =>
            if 0xDC00 ≤ low ∧ low < 0xE000 then
              some (.char (Char.ofNat (0x10000 + (unit - 0xD800) * 0x400 + (low - 0xDC00))), after)
            else none
        | _ => none
      return pair?.getD (.half, rest)
    else if 0xDC00 ≤ unit ∧ unit < 0xE000 then return (.half, rest)
    else return (.char (Char.ofNat unit), rest)
  | c :: rest => (letterEscape? c).map fun c => (.char c, rest)
  | [] => none

/-- The inside of a string up to its closing quote, `read` being what has been read in reverse. A
control character has to be escaped. -/
def stringFrom? : Nat → Option Text → Text → Option (Option Text × Text)
  | 0, _, _ => none
  | _ + 1, _, [] => none
  | fuel + 1, read, c :: rest =>
    if c = '"' then some (read.map List.reverse, rest)
    else if c = '\\' then
      match escapePiece? rest with
      | some (.char c, rest) => stringFrom? fuel (read.map (c :: ·)) rest
      | some (.half, rest) => stringFrom? fuel none rest
      | none => none
    else if c.toNat < 0x20 then none
    else stringFrom? fuel (read.map (c :: ·)) rest

def string? (fuel : Nat) (t : Text) : Option (Option Text × Text) :=
  stringFrom? fuel (some []) t

/-- A number literal at the front of a text. No digit comes before a leading zero's end, and a point
or an exponent mark has digits after it. -/
def literal? (t : Text) : Option (Text × Text) := do
  let (sign, t) :=
    match t with
    | '-' :: rest => (['-'], rest)
    | t => ([], t)
  let whole := t.takeWhile Char.isDigit
  if whole = [] ∨ (whole.head? = some '0' ∧ whole.length ≠ 1) then none
  let t := t.dropWhile Char.isDigit
  let (fraction, t) ←
    match t with
    | '.' :: rest =>
      let digits := rest.takeWhile Char.isDigit
      if digits = [] then none else some ('.' :: digits, rest.dropWhile Char.isDigit)
    | t => some ([], t)
  let (exponent, t) ←
    match t with
    | mark :: rest =>
      if mark = 'e' ∨ mark = 'E' then
        let (sign, rest) :=
          match rest with
          | '+' :: rest => (['+'], rest)
          | '-' :: rest => (['-'], rest)
          | rest => ([], rest)
        let digits := rest.takeWhile Char.isDigit
        if digits = [] then none
        else some (mark :: (sign ++ digits), rest.dropWhile Char.isDigit)
      else some ([], t)
    | [] => some ([], t)
  return (sign ++ whole ++ fraction ++ exponent, t)

/-- The rest of a text after a word it has to begin with. -/
def afterWord? (word : Text) (t : Text) : Option Text :=
  if word.isPrefixOf t then some (t.drop word.length) else none

/-- Puts a member in front of others, as long as all names are text. -/
def addMember? (name : Option Text) (value : Json) (members : Option (List (Text × Json))) :
    Option (List (Text × Json)) := do
  return (← name, value) :: (← members)

mutual

def value? : Nat → Text → Option (Json × Text)
  | 0, _ => none
  | fuel + 1, t =>
    match skipBlanks t with
    | '"' :: rest =>
      (string? fuel rest).map fun (value, rest) => ((value.map text).getD unreadable, rest)
    | '[' :: rest =>
      match skipBlanks rest with
      | ']' :: rest => some (array [], rest)
      | rest => (items? fuel rest).map fun (items, rest) => (array items, rest)
    | '\x7b' :: rest =>
      match skipBlanks rest with
      | '\x7d' :: rest => some (object [], rest)
      | rest =>
        (members? fuel rest).map fun (members, rest) =>
          ((members.map object).getD unreadable, rest)
    | 'n' :: rest => (afterWord? "ull".toList rest).map fun rest => (null, rest)
    | 't' :: rest => (afterWord? "rue".toList rest).map fun rest => (bool true, rest)
    | 'f' :: rest => (afterWord? "alse".toList rest).map fun rest => (bool false, rest)
    | t => (literal? t).map fun (literal, rest) => (number literal, rest)

/-- One item or more, and the closing bracket. -/
def items? : Nat → Text → Option (List Json × Text)
  | 0, _ => none
  | fuel + 1, t => do
    let (item, rest) ← value? fuel t
    match skipBlanks rest with
    | ',' :: rest => (items? fuel rest).map fun (items, rest) => (item :: items, rest)
    | ']' :: rest => some ([item], rest)
    | _ => none

/-- One member or more, and the closing brace. There are none to speak of if a name is no text. -/
def members? : Nat → Text → Option (Option (List (Text × Json)) × Text)
  | 0, _ => none
  | fuel + 1, t => do
    match skipBlanks t with
    | '"' :: rest =>
      let (name, rest) ← string? fuel rest
      match skipBlanks rest with
      | ':' :: rest =>
        let (value, rest) ← value? fuel rest
        match skipBlanks rest with
        | ',' :: rest =>
          (members? fuel rest).map fun (members, rest) =>
            (addMember? name value members, rest)
        | '\x7d' :: rest => some (addMember? name value (some []), rest)
        | _ => none
      | _ => none
    | _ => none

end

/-- The value that a whole text is. -/
def parse? (t : Text) : Option Json :=
  match value? (2 * t.length + 1) t with
  | some (value, rest) => if skipBlanks rest = [] then some value else none
  | none => none

/-- The value of the one member with a name; it may neither be missing nor come twice. -/
def member? (name : Text) (members : List (Text × Json)) : Option Json :=
  match members.filter fun m => m.1 == name with
  | [(_, value)] => some value
  | _ => none

/-- The values of the named fields of a structure, given as an object with any other members or as
an array of exactly these fields. -/
def fields? (names : List Text) : Json → Option (List Json)
  | object members => names.mapM fun name => member? name members
  | array items => if items.length = names.length then some items else none
  | _ => none

/-- Like `member?`, but the member may be missing. -/
def optionalMember? (name : Text) (members : List (Text × Json)) : Option (Option Json) :=
  match members.filter fun m => m.1 == name with
  | [] => some none
  | [(_, value)] => some (some value)
  | _ => none

/-- Like `fields?` for a structure whose fields have defaults: an object may leave any of them out,
an array those at its end. -/
def optionalFields? (names : List Text) : Json → Option (List (Option Json))
  | object members => names.mapM fun name => optionalMember? name members
  | array items =>
    if items.length ≤ names.length then
      some (items.map some ++ List.replicate (names.length - items.length) none)
    else none
  | _ => none

end Spreadsheet.Json
