import Spreadsheet.Text

/-!
# Why a formula has no value

Each cause has one message and shows in a cell as one of three tokens.
-/

namespace Spreadsheet

/-- What a cell shows in place of a value. -/
inductive ErrorToken where
  | error
  | invalid
  | requiresThreeArguments
deriving DecidableEq, Repr

def ErrorToken.toText : ErrorToken → Text
  | error => "#ERROR!".toList
  | invalid => "#INVALID!".toList
  | requiresThreeArguments => "#ERROR: Requires 3 arguments!".toList

inductive FormulaError where
  | invalidReference (text : Text)
  | malformedRange (text : Text)
  | grammar (formula : Text)
  | unknownFunction (name : Text)
  | argumentCount (function : Text) (expected found : Nat)
  | unknownColumn (label : Text)
  | rowOutOfBounds (row rows : Nat)
  /-- The search text of a replacement is no pattern, or one too large. -/
  | pattern
deriving DecidableEq, Repr

namespace FormulaError

def message : FormulaError → Text
  | invalidReference text => "Invalid cell reference: ".toList ++ text
  | malformedRange text => "Malformed range: ".toList ++ text
  | grammar formula => "Formula does not match FUNCTION(args): ".toList ++ formula
  | unknownFunction name => "Unknown function: ".toList ++ name
  | argumentCount function expected found =>
    function ++ " requires ".toList ++ Text.ofNat expected ++ " arguments, got ".toList ++
      Text.ofNat found
  | unknownColumn label => "Column ".toList ++ label ++ " is not in the sheet".toList
  | rowOutOfBounds row rows =>
    "Row ".toList ++ Text.ofNat row ++ " is outside the sheet (".toList ++ Text.ofNat rows ++
      " rows)".toList
  | pattern => "Invalid pattern".toList

def token : FormulaError → ErrorToken
  | unknownFunction _ => .invalid
  | argumentCount _ 3 _ => .requiresThreeArguments
  | _ => .error

end FormulaError

end Spreadsheet
