import Spreadsheet.CommandLine.Files
import Spreadsheet.Config
import Spreadsheet.Toml.Reader

/-!
# The settings file

A settings file may name a level for messages, a workbook, and sizes of sheets. A file that the user
asks for has to be there; the user's own may be missing. Files of more than a mebibyte are not read.
-/

namespace Spreadsheet.CommandLine

structure Settings where
  logLevel : Option Text
  store : Option Text
  sheet : Config
deriving DecidableEq, Repr

def Settings.standard : Settings :=
  ⟨none, none, .standard⟩

inductive SettingsError where
  | missing (path : Text)
  | tooLarge (path : Text) (bytes : Nat)
  | unreadable (path : Text)
  | malformed (path : Text)
deriving DecidableEq, Repr

/-- In bytes. -/
def greatestSize : Nat := 1048576

def SettingsError.message : SettingsError → Text
  | missing path => "Config file not found: ".toList ++ path
  | tooLarge path bytes =>
    "Refusing to read ".toList ++ path ++ ": file too large (".toList ++ Text.ofNat bytes ++
      " bytes, max ".toList ++ Text.ofNat greatestSize ++ ")".toList
  | unreadable path => "Failed to read ".toList ++ path
  | malformed path => "Failed to parse ".toList ++ path

namespace Settings

/-- A number of a setting. Numbers below zero are none. -/
def number? : Toml → Option Nat
  | .integer n => if 0 ≤ n then some n.toNat else none
  | _ => none

def text? : Toml → Option Text
  | .string t => some t
  | _ => none

/-- Sizes from a table or, in order, from an array. -/
def sizes? : Toml → Option Config
  | .table members =>
    Config.ofFields? number? (Config.fieldNames.map fun name => members.lookup name)
  | .array items =>
    Config.ofFields? number? ((List.range Config.fieldNames.length).map fun i => items[i]?)
  | _ => none

/-- The settings in a table. Those that are missing have their defaults, and names that mean nothing
are passed over. -/
def ofTable? (members : List (Text × Toml)) : Option Settings := do
  let logLevel ← (members.lookup "log_level".toList).mapM text?
  let store ← (members.lookup "store".toList).mapM text?
  let sheet ← (members.lookup "sheet".toList).mapM sizes?
  return ⟨logLevel, store, sheet.getD .standard⟩

def parse? (t : Text) : Option Settings :=
  (Toml.parse? t).bind ofTable?

/-- The size of a text in UTF-8. -/
def byteCount (t : Text) : Nat :=
  t.foldl (fun n c => n + c.utf8Size) 0

/-- The settings in the file at a path. -/
def ofFile (path content : Text) : Except SettingsError Settings :=
  let bytes := byteCount content
  if greatestSize < bytes then .error (.tooLarge path bytes)
  else
    match parse? content with
    | some s => .ok s
    | none => .error (.malformed path)

/-- The path of the settings file: the one that is asked for, or the user's own. -/
def path? (place : Place) (asked : Option Text) : Option Text :=
  asked.or place.defaultConfig?

def load (place : Place) (files : Files) (asked : Option Text) : Except SettingsError Settings :=
  match path? place asked with
  | none => .ok .standard
  | some path =>
    match files.read? (place.locate path) with
    | some content => ofFile path content
    | none =>
      if files.isFolder (place.locate path) then .error (.unreadable path)
      else if asked.isSome then .error (.missing path)
      else .ok .standard

end Settings

end Spreadsheet.CommandLine
