import Spreadsheet.Calendar
import Spreadsheet.CharSet
import Spreadsheet.Number.Numeral
import Spreadsheet.Toml

/-!
# Reading TOML scalars

Strings, numbers, truth values and moments. Every function takes what it reads off the front of a
text and returns it with the rest.
-/

namespace Spreadsheet.Toml

/-- The rest of a text after another that it has to begin with. -/
def after? (front t : Text) : Option Text :=
  if front.isPrefixOf t then some (t.drop front.length) else none

/-! ## Strings -/

/-- Characters that may not stand in a string as they are. -/
def isControl (c : Char) : Bool :=
  (c.toNat < 0x20 && c != '\t') || c.toNat == 0x7F

/-- The rest after a line end. -/
def lineEnd? : Text → Option Text
  | '\n' :: rest => some rest
  | '\r' :: '\n' :: rest => some rest
  | _ => none

/-- A character from a number of hexadecimal digits. -/
def codePoint? (digits : Nat) (t : Text) : Option (Char × Text) :=
  let hex := t.take digits
  let n := Unicode.hexValue hex
  if hex.length = digits ∧ (hex.all fun c => (Unicode.hexDigit? c).isSome) ∧ n.isValidChar then
    some (Char.ofNat n, t.drop digits)
  else none

/-- The character that an escape stands for, after its backslash. -/
def escaped? : Text → Option (Char × Text)
  | '"' :: rest => some ('"', rest)
  | '\\' :: rest => some ('\\', rest)
  | 'b' :: rest => some ('\x08', rest)
  | 'f' :: rest => some ('\x0c', rest)
  | 'n' :: rest => some ('\n', rest)
  | 'r' :: rest => some ('\r', rest)
  | 't' :: rest => some ('\t', rest)
  | 'u' :: rest => codePoint? 4 rest
  | 'U' :: rest => codePoint? 8 rest
  | _ => none

/-- The inside of a string on one line up to its closing quote, what has been read in reverse. -/
def basicFrom? : Nat → Text → Text → Option (Text × Text)
  | 0, _, _ => none
  | _ + 1, _, [] => none
  | fuel + 1, read, c :: rest =>
    if c = '"' then some (read.reverse, rest)
    else if c = '\\' then (escaped? rest).bind fun (c, rest) => basicFrom? fuel (c :: read) rest
    else if isControl c then none
    else basicFrom? fuel (c :: read) rest

/-- A string without escapes. -/
def literal? (t : Text) : Option (Text × Text) :=
  let inside := t.takeWhile (· ≠ '\'')
  match t.drop inside.length with
  | _ :: rest => if inside.any isControl then none else some (inside, rest)
  | [] => none

/-- The end of a string over several lines, if three quotes or more are at the front: up to two of
them belong to the string. -/
def closing? (quote : Char) (t : Text) : Option (Text × Text) :=
  let quotes := ((t.take 5).takeWhile (· == quote)).length
  if 3 ≤ quotes then some (List.replicate (quotes - 3) quote, t.drop quotes) else none

/-- The rest after the blanks and line ends that a backslash at the end of a line hides. -/
def hidden? (t : Text) : Option Text :=
  let line := t.dropWhile fun c => c == ' ' || c == '\t'
  (lineEnd? line).map fun rest =>
    rest.dropWhile fun c => c == ' ' || c == '\t' || c == '\n' || c == '\r'

/-- The inside of a string over several lines. -/
def linesFrom? (quote : Char) : Nat → Text → Text → Option (Text × Text)
  | 0, _, _ => none
  | fuel + 1, read, t =>
    match closing? quote t with
    | some (quotes, rest) => some (read.reverse ++ quotes, rest)
    | none =>
      match lineEnd? t with
      | some rest => linesFrom? quote fuel ('\n' :: read) rest
      | none =>
        match t with
        | [] => none
        | c :: rest =>
          if quote = '"' ∧ c = '\\' then
            match hidden? rest with
            | some rest => linesFrom? quote fuel read rest
            | none =>
              (escaped? rest).bind fun (c, rest) => linesFrom? quote fuel (c :: read) rest
          else if isControl c then none
          else linesFrom? quote fuel (c :: read) rest

/-- A string over several lines after its opening quotes. A line end right after them does not
count. -/
def lines? (quote : Char) (t : Text) : Option (Text × Text) :=
  linesFrom? quote (t.length + 1) [] ((lineEnd? t).getD t)

/-- A string of any form. -/
def string? : Text → Option (Text × Text)
  | '"' :: '"' :: '"' :: rest => lines? '"' rest
  | '\'' :: '\'' :: '\'' :: rest => lines? '\'' rest
  | '"' :: rest => basicFrom? (rest.length + 1) [] rest
  | '\'' :: rest => literal? rest
  | _ => none

/-! ## Names -/

def isBareChar (c : Char) : Bool :=
  c.isAlphanum || c == '-' || c == '_'

def name? : Text → Option (Text × Text)
  | '"' :: rest => basicFrom? (rest.length + 1) [] rest
  | '\'' :: rest => literal? rest
  | t =>
    let bare := t.takeWhile isBareChar
    if bare = [] then none else some (bare, t.drop bare.length)

def skipBlanks (t : Text) : Text :=
  t.dropWhile fun c => c == ' ' || c == '\t'

/-- A name of one part or more, with points between them. -/
def pathFrom? : Nat → Text → Option (List Text × Text)
  | 0, _ => none
  | fuel + 1, t => do
    let (name, rest) ← name? (skipBlanks t)
    match skipBlanks rest with
    | '.' :: rest =>
      let (names, rest) ← pathFrom? fuel rest
      return (name :: names, rest)
    | rest => return ([name], rest)

/-- Names have fewer parts than this, and values are nested less deeply. -/
def depthBound : Nat := 80

def path? (t : Text) : Option (List Text × Text) :=
  pathFrom? (depthBound - 1) t

/-! ## Numbers -/

/-- Digits with single underscores between them. -/
def digitsFrom (isDigit : Char → Bool) : Text → Text × Text
  | '_' :: c :: rest =>
    if isDigit c then
      let (digits, rest) := digitsFrom isDigit rest
      (c :: digits, rest)
    else ([], '_' :: c :: rest)
  | c :: rest =>
    if isDigit c then
      let (digits, rest) := digitsFrom isDigit rest
      (c :: digits, rest)
    else ([], c :: rest)
  | [] => ([], [])

/-- One digit or more. -/
def digits? (isDigit : Char → Bool) (t : Text) : Option (Text × Text) :=
  match t with
  | c :: _ => if isDigit c then some (digitsFrom isDigit t) else none
  | [] => none

/-- Decimal digits without a leading zero. -/
def whole? : Text → Option (Text × Text)
  | '0' :: rest => some (['0'], rest)
  | t => digits? Char.isDigit t

def signOf : Text → Bool × Text
  | '+' :: rest => (false, rest)
  | '-' :: rest => (true, rest)
  | t => (false, t)

/-- Whole numbers have 64 bits, one of them for the sign. -/
def inRange (n : Int) : Bool :=
  -9223372036854775808 ≤ n && n < 9223372036854775808

/-- Digits of a base, after its mark. -/
def based? (base : Nat) (t : Text) : Option (Toml × Text) :=
  let isDigit (c : Char) : Bool := ((Unicode.hexDigit? c).map fun n => decide (n < base)).getD false
  (digits? isDigit t).bind fun (digits, rest) =>
    let n : Nat := digits.foldl (fun n c => n * base + (Unicode.hexDigit? c).getD 0) 0
    if inRange n then some (.integer n, rest) else none

def integer? (t : Text) : Option (Toml × Text) :=
  match t with
  | '0' :: 'x' :: rest => based? 16 rest
  | '0' :: 'o' :: rest => based? 8 rest
  | '0' :: 'b' :: rest => based? 2 rest
  | t =>
    let (negative, unsigned) := signOf t
    (whole? unsigned).bind fun (digits, rest) =>
      let n : Int := if negative then -(Text.toNat digits : Int) else Text.toNat digits
      if inRange n then some (.integer n, rest) else none

/-- An exponent mark with a signed number. -/
def exponent? : Text → Option (Text × Text)
  | mark :: rest =>
    if mark = 'e' ∨ mark = 'E' then
      let (negative, unsigned) := signOf rest
      (digits? Char.isDigit unsigned).map fun (digits, rest) =>
        ('e' :: (if negative then '-' :: digits else digits), rest)
    else none
  | [] => none

/-- A fraction, an exponent, or both. -/
def fraction? (t : Text) : Option (Text × Text) :=
  match t with
  | '.' :: rest => do
    let (digits, rest) ← digits? Char.isDigit rest
    match rest with
    | mark :: _ =>
      if mark = 'e' ∨ mark = 'E' then
        let (exponent, rest) ← exponent? rest
        return ('.' :: digits ++ exponent, rest)
      else return ('.' :: digits, rest)
    | [] => return ('.' :: digits, rest)
  | t => exponent? t

/-- Whether a numeral lies above every finite double. -/
def overflows (literal : Text) : Bool :=
  match Numeral.read? literal with
  | some n => !n.negative && !n.value.isFinite
  | none => false

/-- A number with a fraction or an exponent, or a special value by its name. One that lies above
every finite double is refused; one that lies below them all is not. -/
def float? (t : Text) : Option (Toml × Text) :=
  let (negative, unsigned) := signOf t
  let signed (literal : Text) : Text := if negative then '-' :: literal else literal
  match after? "inf".toList unsigned, after? "nan".toList unsigned with
  | some rest, _ => some (.float (signed "inf".toList), rest)
  | none, some rest => some (.float (signed "nan".toList), rest)
  | none, none => do
    let (whole, rest) ← whole? unsigned
    let (fraction, rest) ← fraction? rest
    let literal := signed (whole ++ fraction)
    if overflows literal then none else return (.float literal, rest)

/-! ## Moments -/

/-- Two digits no greater than a bound. -/
def twoDigits? (greatest : Nat) : Text → Option Text
  | a :: b :: rest =>
    if a.isDigit ∧ b.isDigit ∧ Text.toNat [a, b] ≤ greatest then some rest else none
  | _ => none

/-- The rest after a time of day. -/
def afterTime? (t : Text) : Option Text := do
  let rest ← after? [':'] (← twoDigits? 23 t)
  let rest ← after? [':'] (← twoDigits? 59 rest)
  let rest ← twoDigits? 60 rest
  match rest with
  | '.' :: rest =>
    let digits := rest.takeWhile Char.isDigit
    if digits = [] then none else some (rest.drop digits.length)
  | rest => some rest

/-- The rest after the distance from universal time, if it is given. -/
def afterOffset? : Text → Option Text
  | 'Z' :: rest => some rest
  | 'z' :: rest => some rest
  | sign :: rest =>
    if sign = '+' ∨ sign = '-' then do
      let minutes ← after? [':'] (← twoDigits? 23 rest)
      twoDigits? 59 minutes
    else some (sign :: rest)
  | [] => some []

/-- Whether a text begins like a date. -/
def startsDate (t : Text) : Bool :=
  (t.take 4).length == 4 && (t.take 4).all Char.isDigit && (t.drop 4).head? == some '-'

/-- Whether a text begins like a time of day. -/
def startsTime (t : Text) : Bool :=
  (t.take 2).length == 2 && (t.take 2).all Char.isDigit && (t.drop 2).head? == some ':'

/-- The rest after a date, which a time may follow. -/
def afterDate? (t : Text) : Option Text := do
  let d ← Date.ofText? (t.take 10)
  if !d.isDay then none
  match t.drop 10 with
  | mark :: rest =>
    if (mark = 'T' ∨ mark = 't' ∨ mark = ' ') ∧ startsTime rest then
      afterOffset? (← afterTime? rest)
    else some (mark :: rest)
  | [] => some []

/-- A date, a time of day, or both. -/
def moment? (t : Text) : Option (Toml × Text) :=
  let rest? := if startsDate t then afterDate? t else afterTime? t
  rest?.map fun rest => (.moment (t.take (t.length - rest.length)), rest)

/-- A number or a moment. -/
def number? (t : Text) : Option (Toml × Text) :=
  if startsDate t || startsTime t then moment? t
  else (float? t).or (integer? t)

/-- A value that is no array and no table. -/
def scalar? (t : Text) : Option (Toml × Text) :=
  match t with
  | '"' :: _ => (string? t).map fun (s, rest) => (.string s, rest)
  | '\'' :: _ => (string? t).map fun (s, rest) => (.string s, rest)
  | 't' :: _ => (after? "true".toList t).map fun rest => (.boolean true, rest)
  | 'f' :: _ => (after? "false".toList t).map fun rest => (.boolean false, rest)
  | t => number? t

end Spreadsheet.Toml
