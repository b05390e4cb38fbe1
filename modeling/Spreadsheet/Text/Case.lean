import Spreadsheet.CharSet
import Spreadsheet.Unicode.Casing
import Spreadsheet.Unicode.Property

/-!
# Upper and lower case

Full case mapping, which may change the length of a text. One mapping looks at its surroundings: a
capital sigma at the end of a word becomes a final sigma.
-/

namespace Spreadsheet.Unicode

/-- A run of characters, `step` apart, with consecutive images just as far apart. -/
structure CaseRun where
  first : Nat
  last : Nat
  step : Nat
  image : Nat
deriving DecidableEq, Repr

/-- A run as tables write it: `first-last/step>image`, range and step being optional. -/
def CaseRun.ofText (t : Text) : CaseRun :=
  let (source, image) := (Text.splitOnce? '>' t).getD (t, [])
  let (range, step) := (Text.splitOnce? '/' source).getD (source, ['1'])
  let r := rangeOfText range
  ⟨r.first, r.last, hexValue step, hexValue image⟩

def caseRuns (table : String) : List CaseRun :=
  (tableEntries table).map CaseRun.ofText

def CaseRun.contains (r : CaseRun) (n : Nat) : Bool :=
  r.first ≤ n && n ≤ r.last && (n - r.first) % r.step == 0

/-- The image of a code point, if one of the runs contains it. -/
def caseImage? (runs : List CaseRun) (n : Nat) : Option Nat :=
  (runs.find? (·.contains n)).map fun r => r.image + (n - r.first)

/-- Characters whose image has several characters, with that image. -/
def expansions (table : String) : List (Nat × List Nat) :=
  (tableEntries table).map fun entry =>
    let (source, image) := (Text.splitOnce? '>' entry).getD (entry, [])
    (hexValue source, (image.splitOn '+').map hexValue)

def upperRuns : List CaseRun := caseRuns Casing.upperRuns

def lowerRuns : List CaseRun := caseRuns Casing.lowerRuns

def upperExpansions : List (Nat × List Nat) := expansions Casing.upperExpansions

def lowerExpansions : List (Nat × List Nat) := expansions Casing.lowerExpansions

/-- The image of one character. The ASCII letters are settled without the tables. -/
def mapCase (ascii : Char → Char) (runs : List CaseRun) (longer : List (Nat × List Nat))
    (c : Char) : Text :=
  if c.toNat < 0x80 then [ascii c]
  else
    match longer.lookup c.toNat with
    | some image => image.map Char.ofNat
    | none => [Char.ofNat ((caseImage? runs c.toNat).getD c.toNat)]

def upperChar (c : Char) : Text :=
  mapCase Char.toUpper upperRuns upperExpansions c

def lowerChar (c : Char) : Text :=
  mapCase Char.toLower lowerRuns lowerExpansions c

def casedChars : CharSet := Property.cased

def caseIgnorableChars : CharSet := Property.caseIgnorable

/-- Whether the first character that is not passed over in case mapping is a cased one. -/
def startsCased (t : Text) : Bool :=
  match t.find? fun c => !caseIgnorableChars.contains c.toNat with
  | some c => casedChars.contains c.toNat
  | none => false

def capitalSigma : Char := Char.ofNat 0x3A3

/-- A capital sigma after a cased letter and before none is final. -/
def lowerSigma (before after : Text) : Char :=
  if startsCased before && !startsCased after then Char.ofNat 0x3C2 else Char.ofNat 0x3C3

end Spreadsheet.Unicode

namespace Spreadsheet.Text

def upper (t : Text) : Text :=
  t.flatMap Unicode.upperChar

/-- Lower case with the characters before each one at hand, nearest first. -/
def lowerFrom : Text → Text → Text
  | _, [] => []
  | before, c :: rest =>
    (if c = Unicode.capitalSigma then [Unicode.lowerSigma before rest] else Unicode.lowerChar c) ++
      lowerFrom (c :: before) rest

def lower (t : Text) : Text :=
  lowerFrom [] t

end Spreadsheet.Text
