import Spreadsheet.Text

/-!
# Files by path

The files that a run can see, under their paths from the root. A folder exists as long as a file is
in it. Links are not followed.
-/

namespace Spreadsheet.CommandLine

/-- The contents of files under the parts of their paths. -/
abbrev Files := List (List Text × Text)

namespace Files

/-- One more part of a path: a point stays where it is, two go back. -/
def goTo (folder : List Text) (part : Text) : List Text :=
  if part = [] ∨ part = ['.'] then folder
  else if part = ['.', '.'] then folder.dropLast
  else folder ++ [part]

/-- The parts of a path, which starts at a folder unless it begins with a slash. -/
def locate (folder : List Text) (path : Text) : List Text :=
  (path.splitOn '/').foldl goTo (if path.head? = some '/' then [] else folder)

def read? (files : Files) (path : List Text) : Option Text :=
  files.lookup path

/-- Whether a path is that of a folder. -/
def isFolder (files : Files) (path : List Text) : Bool :=
  files.any fun f => path.isPrefixOf f.1 && path != f.1

/-- A file can be written unless a folder has its path or a file the path of one of its folders. -/
def canWrite (files : Files) (path : List Text) : Bool :=
  path != [] && !files.isFolder path && !files.any fun f => f.1.isPrefixOf path && f.1 != path

def write (files : Files) (path : List Text) (content : Text) : Files :=
  (path, content) :: files.filter fun f => f.1 != path

end Files

/-- Where a run takes place. -/
structure Place where
  /-- The folder that relative paths start from. -/
  folder : List Text
  /-- The folders of the user's settings and data, if there are any. -/
  configFolder : Option Text
  dataFolder : Option Text
deriving DecidableEq, Repr

namespace Place

def locate (p : Place) (path : Text) : List Text :=
  Files.locate p.folder path

def defaultConfig? (p : Place) : Option Text :=
  p.configFolder.map fun folder => folder ++ "/gridsheet/config.toml".toList

def defaultWorkbook? (p : Place) : Option Text :=
  p.dataFolder.map fun folder => folder ++ "/gridsheet/workbook.json".toList

end Place

end Spreadsheet.CommandLine
