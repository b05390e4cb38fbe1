import Spreadsheet.Text

/-!
# The functions

Ten functions, with the names that formulas call them by and what a user is told about them.
-/

namespace Spreadsheet

inductive Function where
  | sum
  | avg
  | max
  | min
  | count
  | trim
  | upper
  | lower
  | removeDuplicates
  | findAndReplace
deriving DecidableEq, Repr

namespace Function

/-- All functions, in the order in which they are listed. -/
def all : List Function :=
  [sum, avg, max, min, count, trim, upper, lower, removeDuplicates, findAndReplace]

def name : Function → Text
  | sum => "SUM".toList
  | avg => "AVG".toList
  | max => "MAX".toList
  | min => "MIN".toList
  | count => "COUNT".toList
  | trim => "TRIM".toList
  | upper => "UPPER".toList
  | lower => "LOWER".toList
  | removeDuplicates => "REMOVE_DUPLICATES".toList
  | findAndReplace => "FIND_AND_REPLACE".toList

def usage : Function → Text
  | sum => "SUM(A1:B5)".toList
  | avg => "AVG(A1:B5)".toList
  | max => "MAX(A1:B5)".toList
  | min => "MIN(A1:B5)".toList
  | count => "COUNT(A1:B5)".toList
  | trim => "TRIM(text)".toList
  | upper => "UPPER(text)".toList
  | lower => "LOWER(text)".toList
  | removeDuplicates => "REMOVE_DUPLICATES(A1:C10)".toList
  | findAndReplace => "FIND_AND_REPLACE(A1:C10, \"find\", \"replace\")".toList

def description : Function → Text
  | sum => "Sum of numeric values in a cell range".toList
  | avg => "Average of numeric values in a cell range (0 when none)".toList
  | max => "Maximum numeric value in a cell range (0 when none)".toList
  | min => "Minimum numeric value in a cell range (0 when none)".toList
  | count => "Count of numeric cells in a cell range".toList
  | trim => "Argument text without surrounding whitespace".toList
  | upper => "Argument text in upper case".toList
  | lower => "Argument text in lower case".toList
  | removeDuplicates => "Rows of the range, keeping the first of each duplicate slice".toList
  | findAndReplace =>
    "Sheet rows with a regex find/replace applied to text cells in the range".toList

def ofName? (t : Text) : Option Function :=
  all.find? fun f => f.name == t

end Function

end Spreadsheet
