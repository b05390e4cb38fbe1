import Spreadsheet.Toml.Scalar

/-!
# Reading TOML

A file is read line by line into pairs and headers; the tables are made from these afterwards.
Blanks and comments may stand at the end of any line, and inside an array anywhere.
-/

namespace Spreadsheet.Toml

/-- Whether a character may stand in a comment. -/
def isCommentChar (c : Char) : Bool :=
  c == '\t' || 0x20 ≤ c.toNat

/-- The text after a comment, if one begins here. The end of the line is left. -/
def skipComment (t : Text) : Text :=
  match t with
  | '#' :: rest => rest.dropWhile isCommentChar
  | t => t

/-- The text after blanks, comments and line ends. -/
def skipLines : Nat → Text → Text
  | 0, t => t
  | fuel + 1, t =>
    let t := skipComment (skipBlanks t)
    match lineEnd? t with
    | some rest => skipLines fuel rest
    | none => t

mutual

/-- A value of any kind. The second bound is on how deeply it may be nested. -/
def value? : Nat → Nat → Text → Option (Toml × Text)
  | 0, _, _ => none
  | fuel + 1, depth, t =>
    match t with
    | '[' :: rest =>
      match depth with
      | 0 => none
      | depth + 1 =>
        (items? fuel depth [] (skipLines fuel rest)).map fun (items, rest) => (.array items, rest)
    | '\x7b' :: rest =>
      match depth with
      | 0 => none
      | depth + 1 => do
        let (pairs, rest) ←
          match skipBlanks rest with
          | '\x7d' :: rest => some ([], rest)
          | rest => pairs? fuel depth [] rest
        return (← ofPairs? pairs, rest)
    | t => scalar? t

/-- The items of an array up to its closing bracket, those read before in reverse. A comma may
follow the last one. -/
def items? : Nat → Nat → List Toml → Text → Option (List Toml × Text)
  | 0, _, _, _ => none
  | fuel + 1, depth, items, t =>
    match t with
    | ']' :: rest => some (items.reverse, rest)
    | t => do
      let (item, rest) ← value? fuel depth t
      match skipLines fuel rest with
      | ',' :: rest => items? fuel depth (item :: items) (skipLines fuel rest)
      | ']' :: rest => some ((item :: items).reverse, rest)
      | _ => none

/-- One pair or more between braces, on one line and without a comma at the end. -/
def pairs? : Nat → Nat → List Pair → Text → Option (List Pair × Text)
  | 0, _, _, _ => none
  | fuel + 1, depth, pairs, t => do
    let (path, rest) ← path? t
    let rest ← after? ['='] rest
    let (value, rest) ← value? fuel depth (skipBlanks rest)
    match skipBlanks rest with
    | ',' :: rest => pairs? fuel depth (⟨path, value⟩ :: pairs) rest
    | '\x7d' :: rest => some ((⟨path, value⟩ :: pairs).reverse, rest)
    | _ => none

end

/-- A dotted name, an equals sign and a value. -/
def pair? (fuel : Nat) (t : Text) : Option (Pair × Text) := do
  let (path, rest) ← path? t
  let rest ← after? ['='] rest
  let (value, rest) ← value? fuel (depthBound - 1) (skipBlanks rest)
  return (⟨path, value⟩, rest)

/-- A header: a dotted name in single or double brackets. -/
def header? (t : Text) : Option ((List Text × Bool) × Text) :=
  match t with
  | '[' :: '[' :: rest => do
    let (path, rest) ← path? rest
    return ((path, true), ← after? "]]".toList rest)
  | '[' :: rest => do
    let (path, rest) ← path? rest
    return ((path, false), ← after? "]".toList rest)
  | _ => none

/-- The text after the end of a line that may hold a comment, or nothing at the end of the text. -/
def afterLine? (t : Text) : Option Text :=
  match skipComment (skipBlanks t) with
  | [] => some []
  | t => lineEnd? t

/-- What has been read of a file, the last part of everything first. -/
structure Progress where
  root : List Pair
  sections : List (List Text × Bool × List Pair)

def Progress.addPair (p : Progress) (pair : Pair) : Progress :=
  match p.sections with
  | [] => { p with root := pair :: p.root }
  | (path, isItem, pairs) :: rest =>
    { p with sections := (path, isItem, pair :: pairs) :: rest }

def Progress.file (p : Progress) : File :=
  ⟨p.root.reverse,
    (p.sections.map fun (path, isItem, pairs) => ⟨path, isItem, pairs.reverse⟩).reverse⟩

/-- Reads the lines that are left. The bound is also one on the work for each of them: a line takes
more characters off the text than it takes off the bound. -/
def readFrom? : Nat → Progress → Text → Option File
  | 0, _, _ => none
  | fuel + 1, p, t =>
    match skipLines fuel t with
    | [] => some p.file
    | '[' :: rest => do
      let ((path, isItem), rest) ← header? ('[' :: rest)
      readFrom? fuel { p with sections := (path, isItem, []) :: p.sections } (← afterLine? rest)
    | t => do
      let (pair, rest) ← pair? fuel t
      readFrom? fuel (p.addPair pair) (← afterLine? rest)

/-- The text without the mark of its encoding. -/
def withoutMark (t : Text) : Text :=
  match t with
  | c :: rest => if c = '\uFEFF' then rest else t
  | [] => []

/-- The table that a text denotes. -/
def parse? (t : Text) : Option (List (Text × Toml)) :=
  (readFrom? (2 * t.length + 4) ⟨[], []⟩ (withoutMark t)).bind File.members?

end Spreadsheet.Toml
