import Spreadsheet.CommandLine.Run

/-!
# The program

Reads the files that a run looks at, runs, and writes what the run has changed.
-/

namespace Spreadsheet.CommandLine

/-- The path of a file in the form that the system takes. -/
def systemPath (path : List Text) : String :=
  String.ofList (path.flatMap fun part => '/' :: part)

def readFile? (path : List Text) : IO (Option Text) := do
  try
    return some (← IO.FS.readFile (systemPath path)).toList
  catch _ => return none

/-- Adds the files that a run with some arguments looks at. -/
def gather (place : Place) (arguments : List Text) (files : Files) : IO Files := do
  let mut found := files
  for path in paths place files arguments do
    let path := place.locate path
    if (found.read? path).isNone then
      if let some content ← readFile? path then
        found := found.write path content
  return found

def writeFile (path : List Text) (content : Text) : IO Unit := do
  try
    IO.FS.createDirAll (systemPath path.dropLast)
    IO.FS.writeFile (systemPath path) (String.ofList content)
  catch e => IO.eprintln s!"Error: {e}"

/-- A folder from the environment, or one below the user's home. -/
def userFolder? (name below : String) : IO (Option Text) := do
  let named := ((← IO.getEnv name).map String.toList).filter fun t => t.head? == some '/'
  let home := ((← IO.getEnv "HOME").map String.toList).filter (· ≠ [])
  return named.or (home.map fun h => h ++ '/' :: below.toList)

def thisPlace : IO Place := do
  let folder := (← IO.currentDir).toString.toList
  return ⟨Files.locate [] folder, ← userFolder? "XDG_CONFIG_HOME" ".config",
    ← userFolder? "XDG_DATA_HOME" ".local/share"⟩

def printLines (output : IO.FS.Stream) (lines : List Text) : IO Unit :=
  lines.forM fun line => output.putStrLn (String.ofList line)

end Spreadsheet.CommandLine

open Spreadsheet.CommandLine in
def main (arguments : List String) : IO UInt32 := do
  let place ← thisPlace
  let arguments := arguments.map String.toList
  let files ← gather place arguments (← gather place arguments [])
  let outcome := run place files arguments
  for (path, content) in outcome.files do
    if files.read? path != some content then writeFile path content
  printLines (← IO.getStdout) outcome.output
  printLines (← IO.getStderr) outcome.errors
  return UInt32.ofNat outcome.code
