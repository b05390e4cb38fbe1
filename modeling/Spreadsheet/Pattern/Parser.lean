import Spreadsheet.Pattern.Syntax
import Spreadsheet.Text.Blank
import Spreadsheet.Text.Case
import Spreadsheet.Unicode.Property

/-!
# Reading patterns

Patterns are written in the common syntax of regular expressions without look-around and
back-references. Flags are part of the reader's state: a flag group changes them for the rest of the
group it stands in, and a group gives back the flags it found. Every function takes a bound on the
work left, which the length of the pattern provides; a text that is no pattern reads as `none`.
-/

namespace Spreadsheet.Pattern

structure Flags where
  ignoreCase : Bool := false
  multiLine : Bool := false
  dotAll : Bool := false
  swapGreed : Bool := false
  unicode : Bool := true
  carriageReturn : Bool := false
  verbose : Bool := false
deriving DecidableEq, Repr

/-- What is left to read, the flags in force, and the groups opened so far. -/
structure Reader where
  rest : Text
  flags : Flags
  groups : Nat
  names : List Text
deriving Repr

/-- A part of a pattern with the nesting depth of its text. A flag group is a part that cannot be
repeated. -/
structure Part where
  node : Node
  depth : Nat
  repeatable : Bool
deriving Repr

/-- Patterns nested more deeply are refused. -/
def depthLimit : Nat := 250

/-! ### Character sets under flags -/

/-- Characters that differ from a member in case only, added by way of their common folding. -/
def foldClosure (set : CharSet) : CharSet :=
  let pairs := foldPairs
  let folded := set.union (CharSet.canonical (pairs.filterMap fun (c, image) =>
    if set.contains c then some ⟨image, image⟩ else none))
  folded.union (CharSet.canonical (pairs.filterMap fun (c, image) =>
    if folded.contains image then some ⟨c, c⟩ else none))
where
  /-- Every character that folds to another one, with that one. -/
  foldPairs : List (Nat × Nat) :=
    (Unicode.caseRuns Unicode.Casing.foldRuns).flatMap fun run =>
      (List.range ((run.last - run.first) / run.step + 1)).map fun i =>
        (run.first + i * run.step, run.image + i * run.step)

def asciiFoldClosure (set : CharSet) : CharSet :=
  set.union (CharSet.canonical ((List.range 26).flatMap fun i =>
    (if set.contains (0x41 + i) then [⟨0x61 + i, 0x61 + i⟩] else []) ++
      (if set.contains (0x61 + i) then [⟨0x41 + i, 0x41 + i⟩] else [])))

namespace Flags

def fold (f : Flags) (set : CharSet) : CharSet :=
  if !f.ignoreCase then set
  else if f.unicode then foldClosure set
  else asciiFoldClosure set

/-- A set or its complement. Without Unicode only ASCII sets are patterns of text. -/
def negate? (f : Flags) (negated : Bool) (set : CharSet) : Option CharSet :=
  let result := if negated then set.complement else set
  if f.unicode || result.isAscii then some result else none

def literal (f : Flags) (c : Char) : CharSet :=
  f.fold (CharSet.ofChar c)

/-- What a dot stands for. -/
def dot? (f : Flags) : Option CharSet :=
  if !f.unicode then none
  else if f.dotAll then some CharSet.everything
  else if f.carriageReturn then
    some (CharSet.complement [⟨0x0A, 0x0A⟩, ⟨0x0D, 0x0D⟩])
  else some (CharSet.complement [⟨0x0A, 0x0A⟩])

def lineStart (f : Flags) : Assertion :=
  if !f.multiLine then .textStart
  else if f.carriageReturn then .carriageLineStart
  else .lineStart

def lineEnd (f : Flags) : Assertion :=
  if !f.multiLine then .textEnd
  else if f.carriageReturn then .carriageLineEnd
  else .lineEnd

end Flags

def asciiDigits : CharSet := [⟨0x30, 0x39⟩]

def asciiSpaces : CharSet := [⟨0x09, 0x0D⟩, ⟨0x20, 0x20⟩]

def asciiWords : CharSet := [⟨0x30, 0x39⟩, ⟨0x41, 0x5A⟩, ⟨0x5F, 0x5F⟩, ⟨0x61, 0x7A⟩]

/-- The sets with a letter of their own: digits, blanks and word characters. -/
def shorthand (f : Flags) (letter : Char) : CharSet :=
  match letter with
  | 'd' => if f.unicode then Unicode.Property.decimalDigits else asciiDigits
  | 's' => if f.unicode then Unicode.Property.whiteSpace else asciiSpaces
  | _ => if f.unicode then Unicode.Property.wordCharacters else asciiWords

/-- The sets that a class may name between colons. -/
def namedAscii? (name : Text) : Option CharSet :=
  match String.ofList name with
  | "alnum" => some [⟨0x30, 0x39⟩, ⟨0x41, 0x5A⟩, ⟨0x61, 0x7A⟩]
  | "alpha" => some [⟨0x41, 0x5A⟩, ⟨0x61, 0x7A⟩]
  | "ascii" => some [⟨0x00, 0x7F⟩]
  | "blank" => some [⟨0x09, 0x09⟩, ⟨0x20, 0x20⟩]
  | "cntrl" => some [⟨0x00, 0x1F⟩, ⟨0x7F, 0x7F⟩]
  | "digit" => some asciiDigits
  | "graph" => some [⟨0x21, 0x7E⟩]
  | "lower" => some [⟨0x61, 0x7A⟩]
  | "print" => some [⟨0x20, 0x7E⟩]
  | "punct" => some [⟨0x21, 0x2F⟩, ⟨0x3A, 0x40⟩, ⟨0x5B, 0x60⟩, ⟨0x7B, 0x7E⟩]
  | "space" => some asciiSpaces
  | "upper" => some [⟨0x41, 0x5A⟩]
  | "word" => some asciiWords
  | "xdigit" => some [⟨0x30, 0x39⟩, ⟨0x41, 0x46⟩, ⟨0x61, 0x66⟩]
  | _ => none

/-! ### Blanks and comments -/

/-- Passes over blanks and comments, which run from a hash mark to the end of the line. -/
def dropComments : Bool → Text → Text
  | _, [] => []
  | true, c :: rest => dropComments (c != '\n') rest
  | false, c :: rest =>
    if isBlank c then dropComments false rest
    else if c = '#' then dropComments true rest
    else c :: rest

/-- In verbose patterns blanks and comments count for nothing. -/
def skip (f : Flags) (t : Text) : Text :=
  if f.verbose then dropComments false t else t

/-! ### Escapes -/

/-- What a backslash introduces. -/
inductive Escape where
  | literal (c : Char)
  | set (s : CharSet)
  | assertion (a : Assertion)
deriving Repr

def isMeta (c : Char) : Bool :=
  "\\.+*?()|[]\x7b\x7d^$#&-~".toList.contains c

/-- Escaping is allowed where it changes nothing, except on letters, digits and angle brackets. -/
def isEscapable (c : Char) : Bool :=
  isMeta c || (c.toNat < 0x80 && !c.isAlphanum && c != '<' && c != '>')

def charOfHex? (digits : Text) : Option Char :=
  let n := Unicode.hexValue digits
  if digits ≠ [] ∧ digits.all (fun c => (Unicode.hexDigit? c).isSome) ∧ n.isValidChar then
    some (Char.ofNat n)
  else none

/-- The given number of hexadecimal digits at the front. -/
def hexDigits? (f : Flags) : Nat → Text → Option (Text × Text)
  | 0, t => some ([], t)
  | n + 1, t =>
    match skip f t with
    | c :: rest =>
      if (Unicode.hexDigit? c).isSome then
        (hexDigits? f n rest).map fun (digits, rest) => (c :: digits, rest)
      else none
    | [] => none

/-- Everything up to a closing brace, and what follows the brace. -/
def bracedText? (f : Flags) (t : Text) : Option (Text × Text) :=
  (Text.splitOnce? '\x7d' t).map fun (inside, rest) =>
    (if f.verbose then inside.filter (fun c => !isBlank c) else inside, rest)

/-- A character by its number: digits between braces, or a fixed number of digits. Without Unicode
two digits are a byte, and only those of ASCII are patterns of text. -/
def hexEscape? (f : Flags) (digits : Nat) (t : Text) : Option (Escape × Text) :=
  match skip f t with
  | '\x7b' :: rest => do
    let (inside, rest) ← bracedText? f rest
    return (.literal (← charOfHex? inside), skip f rest)
  | t => do
    let (found, rest) ← hexDigits? f digits t
    let c ← charOfHex? found
    if !f.unicode ∧ digits = 2 ∧ 0x7F < c.toNat then none
    return (.literal c, skip f rest)

/-- A property between braces: a name, or a property with a value it has or does not have. -/
def property? (inside : Text) : Option (Bool × CharSet) :=
  match Text.splitOnce? '!' inside with
  | some (name, '=' :: value) => (Unicode.Property.valued? name value).map fun s => (true, s)
  | _ =>
    match (Text.splitOnce? ':' inside).orElse fun _ => Text.splitOnce? '=' inside with
    | some (name, value) => (Unicode.Property.valued? name value).map fun s => (false, s)
    | none => (Unicode.Property.named? inside).map fun s => (false, s)

def propertyEscape? (f : Flags) (negated : Bool) (t : Text) : Option (Escape × Text) := do
  let (inside, rest) ←
    match skip f t with
    | '\x7b' :: rest => bracedText? f rest
    | c :: rest => if c = '\\' then none else some ([c], skip f rest)
    | [] => none
  let (differs, set) ← property? inside
  let set ← if f.unicode then f.negate? (negated != differs) (f.fold set) else none
  return (.set set, rest)

/-- The word boundaries that are written out between braces after a `b`. -/
def boundaryName? (name : Text) : Option Boundary :=
  match String.ofList name with
  | "start" => some .start
  | "end" => some .stop
  | "start-half" => some .startHalf
  | "end-half" => some .stopHalf
  | _ => none

/-- After `b`, a brace that a letter or hyphen follows has to hold the name of a boundary; any other
brace is left for a repetition. -/
def wordBoundary? (f : Flags) (t : Text) : Option (Escape × Text) :=
  let isNameChar (c : Char) : Bool := c.isAlpha || c == '-'
  let plain := (Escape.assertion (.word .either f.unicode), t)
  match t with
  | '\x7b' :: inside =>
    let inside := skip f inside
    match inside with
    | [] => none
    | c :: _ =>
      if !isNameChar c then some plain
      else
        match inside.dropWhile isNameChar with
        | '\x7d' :: rest =>
          (boundaryName? (inside.takeWhile isNameChar)).map fun b =>
            (.assertion (.word b f.unicode), rest)
        | _ => none
  | _ => some plain

/-- The characters that have a letter for their escape. -/
def controlEscape? : Char → Option Char
  | 'a' => some '\x07'
  | 'f' => some '\x0c'
  | 't' => some '\t'
  | 'n' => some '\n'
  | 'r' => some '\r'
  | 'v' => some '\x0b'
  | _ => none

/-- Reads what follows a backslash. -/
def escape? (f : Flags) : Text → Option (Escape × Text)
  | [] => none
  | c :: rest =>
    if isEscapable c then some (.literal c, rest)
    else
      match controlEscape? c with
      | some control => some (.literal control, rest)
      | none =>
        match c with
        | 'x' => hexEscape? f 2 rest
        | 'u' => hexEscape? f 4 rest
        | 'U' => hexEscape? f 8 rest
        | 'p' => propertyEscape? f false rest
        | 'P' => propertyEscape? f true rest
        | 'd' | 's' | 'w' => (f.negate? false (shorthand f c)).map fun s => (.set s, rest)
        | 'D' | 'S' | 'W' => (f.negate? true (shorthand f c.toLower)).map fun s => (.set s, rest)
        | 'A' => some (.assertion .textStart, rest)
        | 'z' => some (.assertion .textEnd, rest)
        | 'b' => wordBoundary? f rest
        | 'B' => some (.assertion (.word .neither f.unicode), rest)
        | '<' => some (.assertion (.word .start f.unicode), rest)
        | '>' => some (.assertion (.word .stop f.unicode), rest)
        | _ => none

/-! ### Classes between brackets -/

inductive SetOperator where
  | intersection
  | difference
  | symmetricDifference
deriving DecidableEq, Repr

def SetOperator.apply : SetOperator → CharSet → CharSet → CharSet
  | intersection, a, b => a.intersection b
  | difference, a, b => a.difference b
  | symmetricDifference, a, b => a.symmetricDifference b

/-- The items read since the last operator, and the operator waiting for them. -/
structure ClassState where
  items : CharSet := []
  pending : Option (CharSet × SetOperator) := none
  depth : Nat := 0
deriving Repr

namespace ClassState

def add (s : ClassState) (items : CharSet) : ClassState :=
  { s with items := s.items.union items }

/-- Everything so far as one set. Operators take their operands from the left, and letters that
differ in case are already alike to them. -/
def total (s : ClassState) (f : Flags) : CharSet :=
  match s.pending with
  | none => s.items
  | some (left, operator) => operator.apply (f.fold left) (f.fold s.items)

def apply (s : ClassState) (f : Flags) (operator : SetOperator) : ClassState :=
  { s with items := [], pending := some (s.total f, operator) }

end ClassState

/-- A class name between colons, with an optional caret; anything else is an ordinary class. -/
def asciiClass? (f : Flags) (t : Text) : Option (CharSet × Text) :=
  match t with
  | ':' :: rest =>
    let (negated, rest) :=
      match rest with
      | '^' :: rest => (true, rest)
      | rest => (false, rest)
    match Text.splitOnce? ':' rest with
    | some (name, ']' :: rest) => do
      let set ← namedAscii? name
      return (← f.negate? negated (f.fold set), rest)
    | _ => none
  | _ => none

/-- A character or a set inside a class. -/
def classItem? (f : Flags) : Text → Option (Escape × Text)
  | [] => none
  | '\\' :: rest => escape? f rest
  | c :: rest => some (.literal c, rest)

/-- One item, or a range between two characters. A hyphen before the end of the class or before
another hyphen makes no range. -/
def classRange? (f : Flags) (t : Text) : Option (CharSet × Text) := do
  let (item, rest) ← classItem? f t
  let alone : Option (CharSet × Text) :=
    match item with
    | .literal c => some (CharSet.ofChar c, rest)
    | .set s => some (s, rest)
    | .assertion _ => none
  match skip f rest with
  | [] => none
  | '-' :: after =>
    match skip f after with
    | [] => none
    | next :: _ =>
      if next = ']' ∨ next = '-' then alone
      else
        match item, ← classItem? f (skip f after) with
        | .literal first, (.literal last, rest) =>
          if first ≤ last then some ([⟨first.toNat, last.toNat⟩], rest) else none
        | _, _ => none
  | _ => alone

/-- The caret, the hyphens and the bracket that may stand at the start of a class. -/
def classStart (f : Flags) (t : Text) : Bool × CharSet × Text :=
  let (negated, t) :=
    match skip f t with
    | '^' :: rest => (true, skip f rest)
    | t => (false, t)
  let hyphens := t.takeWhile (· == '-')
  let afterHyphens := skip f (t.dropWhile (· == '-'))
  if hyphens ≠ [] then (negated, CharSet.ofChar '-', afterHyphens)
  else
    match t with
    | ']' :: rest => (negated, CharSet.ofChar ']', rest)
    | t => (negated, [], t)

mutual

/-- A class after its opening bracket. -/
def class? (f : Flags) : Nat → Text → Option (CharSet × Nat × Text)
  | 0, _ => none
  | fuel + 1, t => do
    let (negated, items, t) := classStart f t
    let (state, rest) ← classItems? f fuel { items } t
    let set ← f.negate? negated (f.fold (state.total f))
    return (set, state.depth + 1, rest)

/-- The items of a class up to its closing bracket. -/
def classItems? (f : Flags) : Nat → ClassState → Text → Option (ClassState × Text)
  | 0, _, _ => none
  | fuel + 1, state, t =>
    match skip f t with
    | [] => none
    | ']' :: rest => some (state, rest)
    | '[' :: rest =>
      match asciiClass? f rest with
      | some (set, rest) => classItems? f fuel (state.add set) rest
      | none => do
        let (set, depth, rest) ← class? f fuel rest
        classItems? f fuel { state.add set with depth := max state.depth depth } rest
    | '&' :: '&' :: rest => classItems? f fuel (state.apply f .intersection) rest
    | '-' :: '-' :: rest => classItems? f fuel (state.apply f .difference) rest
    | '~' :: '~' :: rest => classItems? f fuel (state.apply f .symmetricDifference) rest
    | t => do
      let (set, rest) ← classRange? f t
      classItems? f fuel (state.add set) rest

end

/-! ### Repetitions -/

/-- A decimal count, which has to fit 32 bits; blanks around it do not count. -/
def count? (f : Flags) (t : Text) : Option (Nat × Text) :=
  let t := t.dropWhile isBlank
  let digits := t.takeWhile Char.isDigit
  let n := Text.toNat digits
  if digits ≠ [] ∧ n < Nat.pow 2 32 then
    some (n, skip f ((t.dropWhile Char.isDigit).dropWhile isBlank))
  else none

/-- The bounds of a repetition after its opening brace. -/
def bounds? (f : Flags) (t : Text) : Option (Nat × Option Nat × Text) := do
  let (least, rest) ← count? f (skip f t)
  match rest with
  | '\x7d' :: rest => some (least, some least, rest)
  | ',' :: rest =>
    match skip f rest with
    | '\x7d' :: rest => some (least, none, rest)
    | rest =>
      match ← count? f rest with
      | (most, '\x7d' :: rest) => if least ≤ most then some (least, some most, rest) else none
      | _ => none
  | _ => none

/-- A question mark after a repetition makes it lazy. -/
def lazyMark : Text → Bool × Text
  | '?' :: rest => (true, rest)
  | t => (false, t)

/-- Repeats the part read last, if there is one that can be repeated. -/
def repeatLast? (f : Flags) (parts : List Part) (least : Nat) (most : Option Nat)
    (isLazy : Bool) : Option (List Part) :=
  match parts with
  | part :: before =>
    if part.repeatable then
      some (⟨part.node.repeated least most (isLazy == f.swapGreed), part.depth + 1, true⟩ :: before)
    else none
  | [] => none

/-! ### Groups -/

def setFlag? (f : Flags) (on : Bool) : Char → Option Flags
  | 'i' => some { f with ignoreCase := on }
  | 'm' => some { f with multiLine := on }
  | 's' => some { f with dotAll := on }
  | 'U' => some { f with swapGreed := on }
  | 'u' => some { f with unicode := on }
  | 'R' => some { f with carriageReturn := on }
  | 'x' => some { f with verbose := on }
  | _ => none

/-- Applies flag letters, those after the one hyphen switching off. -/
def applyFlags? (f : Flags) (on : Bool) : Text → Option Flags
  | [] => some f
  | '-' :: rest => if on then applyFlags? f false rest else none
  | c :: rest => (setFlag? f on c).bind fun f => applyFlags? f on rest

/-- Flags between a question mark and a colon or closing parenthesis. No letter comes twice and the
hyphen is not the last. -/
def flagGroup? (f : Flags) (t : Text) : Option (Flags × Text × Text) :=
  let letters := t.takeWhile fun c => c != ':' && c != ')'
  if letters.eraseDups.length = letters.length ∧ letters.getLast? ≠ some '-' then
    (applyFlags? f true letters).map fun flags => (flags, letters, t.drop letters.length)
  else none

def isNameChar (first : Bool) (c : Char) : Bool :=
  if first then c == '_' || Unicode.Property.alphabetic.contains c.toNat
  else c == '_' || c == '.' || c == '[' || c == ']' ||
    Unicode.Property.alphabetic.contains c.toNat ||
    (Unicode.Property.categories Unicode.Property.numbers).contains c.toNat

/-- A group name up to its closing angle bracket. -/
def groupName? (names : List Text) (t : Text) : Option (Text × Text) := do
  let (name, rest) ← Text.splitOnce? '>' t
  match name with
  | [] => none
  | c :: others =>
    if isNameChar true c ∧ others.all (isNameChar false) ∧ name ∉ names then some (name, rest)
    else none

/-- The beginning of a group, after its parenthesis. -/
inductive GroupStart where
  | capture (r : Reader)
  | grouping (r : Reader)
  | flags (r : Reader)
  | invalid

def groupStart (r : Reader) : GroupStart :=
  let opened := { r with groups := r.groups + 1 }
  let named (t : Text) : GroupStart :=
    match groupName? r.names t with
    | some (name, rest) => .capture { opened with rest, names := name :: r.names }
    | none => .invalid
  match skip r.flags r.rest with
  | '?' :: '=' :: _ | '?' :: '!' :: _ | '?' :: '<' :: '=' :: _ | '?' :: '<' :: '!' :: _ => .invalid
  | '?' :: 'P' :: '<' :: rest | '?' :: '<' :: rest => named rest
  | '?' :: rest =>
    match flagGroup? r.flags rest with
    | some (flags, _, ':' :: rest) => .grouping { r with flags, rest }
    | some (flags, letters, ')' :: rest) =>
      if letters = [] then .invalid else .flags { r with flags, rest }
    | _ => .invalid
  | rest => .capture { opened with rest }

/-! ### Patterns -/

def deepest (parts : List Part) : Nat :=
  parts.foldl (fun d p => max d p.depth) 0

/-- Parts in reverse order as one. -/
def sequencePart : List Part → Part
  | [] => ⟨.empty, 0, true⟩
  | [p] => { p with repeatable := true }
  | parts => ⟨Node.concatAll (parts.reverse.map (·.node)), deepest parts + 1, true⟩

/-- Alternatives in reverse order as one. -/
def alternativesPart : List Part → Part
  | [p] => p
  | parts => ⟨Node.alternateAll (parts.reverse.map (·.node)), deepest parts + 1, true⟩

def charPart (set : CharSet) : Part := ⟨.chars set, 0, true⟩

def assertionPart (a : Assertion) : Part := ⟨.assertion a, 0, true⟩

/-- A single character, an escape or an assertion. -/
def primitive? (f : Flags) : Text → Option (Part × Text)
  | [] => none
  | '\\' :: rest => do
    match ← escape? f rest with
    | (.literal c, rest) => return (charPart (f.literal c), rest)
    | (.set s, rest) => return (charPart s, rest)
    | (.assertion a, rest) => return (assertionPart a, rest)
  | '.' :: rest => f.dot?.map fun s => (charPart s, rest)
  | '^' :: rest => some (assertionPart f.lineStart, rest)
  | '$' :: rest => some (assertionPart f.lineEnd, rest)
  | c :: rest => some (charPart (f.literal c), rest)

/-- Reads up to the end of the group or of the pattern. `done` are the parts of the alternative
being read and `others` the alternatives before it, both in reverse order. -/
def parts? : Nat → Reader → List Part → List Part → Option (Part × Reader)
  | 0, _, _, _ => none
  | fuel + 1, r, done, others =>
    let f := r.flags
    let again (least : Nat) (most : Option Nat) (rest : Text) : Option (Part × Reader) := do
      let (isLazy, rest) := lazyMark rest
      parts? fuel { r with rest } (← repeatLast? f done least most isLazy) others
    match skip f r.rest with
    | [] => some (alternativesPart (sequencePart done :: others), { r with rest := [] })
    | ')' :: rest =>
      some (alternativesPart (sequencePart done :: others), { r with rest := ')' :: rest })
    | '|' :: rest => parts? fuel { r with rest } [] (sequencePart done :: others)
    | '*' :: rest => again 0 none rest
    | '+' :: rest => again 1 none rest
    | '?' :: rest => again 0 (some 1) rest
    | '\x7b' :: rest => do
      let (least, most, rest) ← bounds? f rest
      again least most (skip f rest)
    | '[' :: rest => do
      let (set, depth, rest) ← class? f fuel rest
      parts? fuel { r with rest } (⟨.chars set, depth, true⟩ :: done) others
    | '(' :: rest =>
      match groupStart { r with rest } with
      | .invalid => none
      | .flags inner => parts? fuel inner (⟨.empty, 0, false⟩ :: done) others
      | .grouping inner => do
        match ← parts? fuel inner [] [] with
        | (body, { rest := ')' :: rest, groups, names, .. }) =>
          parts? fuel { rest, groups, names, flags := f }
            (⟨body.node, body.depth + 1, true⟩ :: done) others
        | _ => none
      | .capture inner => do
        match ← parts? fuel inner [] [] with
        | (body, { rest := ')' :: rest, groups, names, .. }) =>
          parts? fuel { rest, groups, names, flags := f }
            (⟨.capture inner.groups body.node, body.depth + 1, true⟩ :: done) others
        | _ => none
    | rest => do
      let (part, rest) ← primitive? f rest
      parts? fuel { r with rest } (part :: done) others

/-- The tree of a pattern, if the text is one that is neither nested nor grown beyond the limits. -/
def parse? (t : Text) : Option Node := do
  let start : Reader := ⟨t, {}, 0, []⟩
  match ← parts? (2 * t.length + 2) start [] [] with
  | (part, { rest := [], .. }) =>
    if part.depth ≤ depthLimit ∧ part.node.size ≤ sizeLimit then some part.node else none
  | _ => none

end Spreadsheet.Pattern
