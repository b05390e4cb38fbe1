import Spreadsheet.Unicode.Age
import Spreadsheet.Unicode.Category
import Spreadsheet.Unicode.PropertyList
import Spreadsheet.Unicode.Script
import Spreadsheet.Unicode.ScriptExtension
import Spreadsheet.Unicode.Segmentation

/-!
# Character properties

General categories and their groups, binary properties, scripts, ages and boundary properties, and
looking them up by name. Names are compared without case, blanks, hyphens and underscores, and a
leading `is` does not count.
-/

namespace Spreadsheet.Unicode.Property

def unionAll (sets : List CharSet) : CharSet :=
  CharSet.canonical sets.flatten

/-- The characters whose category has one of the given two-letter names. -/
def categories (names : List String) : CharSet :=
  unionAll ((Category.table.filter fun entry => names.contains entry.1).map fun entry =>
    charSet entry.2.2)

def letters : List String := ["lu", "ll", "lt", "lm", "lo"]

def marks : List String := ["mn", "mc", "me"]

def numbers : List String := ["nd", "nl", "no"]

def punctuation : List String := ["pc", "pd", "ps", "pe", "pi", "pf", "po"]

def symbols : List String := ["sm", "sc", "sk", "so"]

def separators : List String := ["zs", "zl", "zp"]

/-- Every character that has a category other than unassigned. -/
def assigned : CharSet :=
  unionAll (Category.table.map fun entry => charSet entry.2.2)

def unassigned : CharSet :=
  assigned.complement

/-- Groups of categories under their names. -/
def groups : List (List String × List String) :=
  [(["l", "letter"], letters), (["lc", "casedletter"], ["lu", "ll", "lt"]),
   (["m", "mark", "combiningmark"], marks), (["n", "number"], numbers),
   (["p", "punctuation", "punct"], punctuation), (["s", "symbol"], symbols),
   (["z", "separator"], separators)]

/-- Names that a category has besides its two-letter and its long one. -/
def categoryAlias : String → String
  | "digit" => "nd"
  | "cntrl" => "cc"
  | name => name

def category? (name : String) : Option CharSet :=
  let name := categoryAlias name
  if name = "any" then some CharSet.everything
  else if name = "assigned" then some assigned
  else if name = "ascii" then some [⟨0, 0x7F⟩]
  else if name = "cn" ∨ name = "unassigned" then some unassigned
  else if name = "c" ∨ name = "other" then
    some ((categories ["cc", "cf", "co", "cs"]).union unassigned)
  else
    match groups.find? fun g => g.1.contains name with
    | some (_, members) => some (categories members)
    | none =>
      (Category.table.find? fun entry => entry.1 == name || entry.2.1 == name).map fun entry =>
        charSet entry.2.2

def script? (name : String) : Option CharSet :=
  (Script.table.find? fun entry => entry.1 == name || entry.2.1 == name).map fun entry =>
    charSet entry.2.2

def decimalDigits : CharSet :=
  categories ["nd"]

def whiteSpace : CharSet :=
  charSet PropertyList.whiteSpace

def lowercase : CharSet :=
  (categories ["ll"]).union (charSet PropertyList.otherLowercase)

def uppercase : CharSet :=
  (categories ["lu"]).union (charSet PropertyList.otherUppercase)

def alphabetic : CharSet :=
  (categories (letters ++ ["nl"])).union (charSet PropertyList.otherAlphabetic)

def cased : CharSet :=
  unionAll [lowercase, uppercase, categories ["lt"]]

def caseIgnorable : CharSet :=
  (categories ["mn", "me", "cf", "lm", "sk"]).union (charSet PropertyList.otherCaseIgnorable)

def graphemeExtend : CharSet :=
  (categories ["mn", "me"]).union (charSet PropertyList.otherGraphemeExtend)

def graphemeBase : CharSet :=
  (unionAll [categories ["cc", "cf", "cs", "co", "zl", "zp"], unassigned,
    graphemeExtend]).complement

/-- Identifiers start with these and go on with those of `idContinue`. -/
def idStart : CharSet :=
  ((categories (letters ++ ["nl"])).union (charSet PropertyList.otherIdStart)).difference
    ((charSet PropertyList.patternSyntax).union (charSet PropertyList.patternWhiteSpace))

def idContinue : CharSet :=
  unionAll [idStart, categories ["mn", "mc", "nd", "pc"], charSet PropertyList.otherIdContinue]

/-- The characters of words: letters, marks, digits, connectors and joiners. -/
def wordCharacters : CharSet :=
  unionAll [alphabetic, categories (marks ++ ["nd", "pc"]), charSet PropertyList.joinControl]

/-- Properties that are computed, under their names. -/
def derived? (name : String) : Option CharSet :=
  match name with
  | "alphabetic" | "alpha" => some alphabetic
  | "lowercase" | "lower" => some lowercase
  | "uppercase" | "upper" => some uppercase
  | "cased" => some cased
  | "caseignorable" | "ci" => some caseIgnorable
  | "graphemeextend" | "grext" => some graphemeExtend
  | "graphemebase" | "grbase" => some graphemeBase
  | "idstart" | "ids" => some idStart
  | "idcontinue" | "idc" => some idContinue
  | "xidstart" | "xids" => some (idStart.difference (charSet PropertyList.notXidStart))
  | "xidcontinue" | "xidc" => some (idContinue.difference (charSet PropertyList.notXidContinue))
  | _ => none

/-- The set that a table lists under a name. -/
def listed? (table : List (List String × String)) (name : String) : Option CharSet :=
  (table.find? fun entry => entry.1.contains name).map fun entry => charSet entry.2

def binary? (name : String) : Option CharSet :=
  match derived? name with
  | some set => some set
  | none => listed? PropertyList.table name

/-- A name as the tables hold it. `isc` is the one name that begins with a meaningful `is`. -/
def normalize (name : Text) : String :=
  let startsWithIs := (name.take 2).map Char.toLower = "is".toList
  let body := if startsWithIs then name.drop 2 else name
  let kept := (body.filter fun c =>
    c.toNat < 0x80 && c != ' ' && c != '_' && c != '-').map Char.toLower
  if startsWithIs ∧ kept = ['c'] then "isc" else String.ofList kept

/-- The characters that a name alone stands for. A binary property is tried first, except for the
three names that also abbreviate a property of another type. -/
def named? (name : Text) : Option CharSet :=
  let name := normalize name
  let property? := if ["cf", "sc", "lc"].contains name then none else binary? name
  (property?.orElse fun _ => category? name).orElse fun _ => script? name

/-- Characters that belong to a script or are shared by it. The two scripts of what belongs to no
script in particular give away all that others share. -/
def scriptExtension? (name : String) : Option CharSet :=
  (Script.table.find? fun entry => entry.1 == name || entry.2.1 == name).map
    fun (code, _, table) =>
      let shared := (ScriptExtension.table.filter fun entry => entry.1 == code).map (·.2)
      if ["zyyy", "zinh"].contains code then
        (charSet table).difference (unionAll (ScriptExtension.table.map fun entry =>
          charSet entry.2))
      else unionAll ((table :: shared).map charSet)

/-- The characters of a version and of all before it. -/
def age? (name : String) : Option CharSet :=
  (Age.table.findIdx? fun entry => entry.1.contains name).map fun i =>
    unionAll ((Age.table.take (i + 1)).map fun entry => charSet entry.2)

/-- The characters for which a property has a value. -/
def valued? (name value : Text) : Option CharSet :=
  let value := normalize value
  match normalize name with
  | "generalcategory" | "gc" | "category" => category? value
  | "script" | "sc" => script? value
  | "scriptextensions" | "scx" => scriptExtension? value
  | "age" => age? value
  | "graphemeclusterbreak" | "gcb" => listed? Segmentation.clusterTable value
  | "wordbreak" | "wb" => listed? Segmentation.wordTable value
  | "sentencebreak" | "sb" => listed? Segmentation.sentenceTable value
  | _ => none

end Spreadsheet.Unicode.Property
