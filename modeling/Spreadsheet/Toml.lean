import Spreadsheet.Text

/-!
# TOML values

A settings file is a table of values under names. Tables can be begun in one place and continued in
another, so while a file is read every table remembers how it came about: a table that was stated
may not be stated again, and a table that dotted names built may only be continued by dotted names.
-/

namespace Spreadsheet

inductive Toml where
  | string (t : Text)
  | integer (n : Int)
  | float (literal : Text)
  | boolean (b : Bool)
  /-- A date, a time of day, or both. -/
  | moment (literal : Text)
  | array (items : List Toml)
  | table (members : List (Text × Toml))

namespace Toml

/-- How a table came about. -/
inductive Origin where
  /-- From being named on the way to another. -/
  | implied
  | dotted
  | stated
deriving DecidableEq, Repr

/-- What stands under a name while a file is read. -/
inductive Node where
  | leaf (value : Toml)
  | table (origin : Origin) (members : List (Text × Node))
  /-- An array of tables, the last one first. -/
  | tables (last : List (Text × Node)) (before : List (List (Text × Node)))

abbrev Members := List (Text × Node)

/-- Replaces what stands under a name, or puts it at the end. -/
def assign (name : Text) (node : Node) : Members → Members
  | [] => [(name, node)]
  | m :: rest => if m.1 = name then (name, node) :: rest else m :: assign name node rest

mutual

def Node.toValue : Node → Toml
  | .leaf value => value
  | .table _ members => .table (valuesOf members)
  | .tables last before => .array ((listsOf before).reverse ++ [.table (valuesOf last)])

def valuesOf : List (Text × Node) → List (Text × Toml)
  | [] => []
  | (name, node) :: rest => (name, node.toValue) :: valuesOf rest

def listsOf : List (List (Text × Node)) → List Toml
  | [] => []
  | members :: rest => .table (valuesOf members) :: listsOf rest

end

/-- A value and the dotted name that it is given. -/
structure Pair where
  path : List Text
  value : Toml

/-- Gives a value a dotted name below a table. The last name has to be new; the table it is put into
is the one the pair stands in, or one that dotted names built. -/
def insert? (value : Toml) : List Text → Members → Option Members
  | [], _ => none
  | [name], members =>
    if (members.lookup name).isSome then none else some (members ++ [(name, .leaf value)])
  | name :: rest, members =>
    match members.lookup name with
    | none => (insert? value rest []).map fun m => members ++ [(name, .table .dotted m)]
    | some (.table .dotted m) =>
      (insert? value rest m).map fun m => assign name (.table .dotted m) members
    | some (.table .implied m) =>
      if rest.length = 1 then none
      else (insert? value rest m).map fun m => assign name (.table .implied m) members
    | some (.tables m before) =>
      if rest.length = 1 then none
      else (insert? value rest m).map fun m => assign name (.tables m before) members
    | _ => none

def insertAll? (pairs : List Pair) (members : Members) : Option Members :=
  pairs.foldlM (fun m pair => insert? pair.value pair.path m) members

/-- A header and the pairs below it. -/
structure Section where
  path : List Text
  /-- Whether the header adds a table to an array of tables. -/
  isItem : Bool
  pairs : List Pair

/-- Adds a section below a table. -/
def addSection? (isItem : Bool) (pairs : List Pair) : List Text → Members → Option Members
  | [], _ => none
  | [name], members =>
    match isItem, members.lookup name with
    | false, none =>
      (insertAll? pairs []).map fun m => members ++ [(name, .table .stated m)]
    | false, some (.table .implied m) =>
      (insertAll? pairs m).map fun m => assign name (.table .stated m) members
    | true, none => (insertAll? pairs []).map fun m => members ++ [(name, .tables m [])]
    | true, some (.tables last before) =>
      (insertAll? pairs []).map fun m => assign name (.tables m (last :: before)) members
    | _, _ => none
  | name :: rest, members =>
    match members.lookup name with
    | none =>
      (addSection? isItem pairs rest []).map fun m => members ++ [(name, .table .implied m)]
    | some (.table origin m) =>
      (addSection? isItem pairs rest m).map fun m => assign name (.table origin m) members
    | some (.tables last before) =>
      (addSection? isItem pairs rest last).map fun m => assign name (.tables m before) members
    | some (.leaf _) => none

/-- A file: pairs without a header, then sections. -/
structure File where
  pairs : List Pair
  sections : List Section

/-- The table that a file makes. -/
def File.members? (f : File) : Option (List (Text × Toml)) := do
  let root ← insertAll? f.pairs []
  let root ← f.sections.foldlM (fun m s => addSection? s.isItem s.pairs s.path m) root
  return valuesOf root

/-- The table that pairs between braces make. -/
def ofPairs? (pairs : List Pair) : Option Toml :=
  (insertAll? pairs []).map fun m => .table (valuesOf m)

end Toml

end Spreadsheet
