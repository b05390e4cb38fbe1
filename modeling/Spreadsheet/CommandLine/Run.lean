import Spreadsheet.CommandLine.Log
import Spreadsheet.CommandLine.Options
import Spreadsheet.CommandLine.Settings
import Spreadsheet.Editor.Entry
import Spreadsheet.Tsv

/-!
# Runs of the command line

A run sets cells, evaluates one formula and prints the active sheet, in this order, on a workbook
that is read from its file and written back after every change. It ends at the first cell that
cannot be set. Its exit code is one if anything failed or the formula has no value.
-/

namespace Spreadsheet.CommandLine

/-- Why a run ends early. -/
inductive RunError where
  | settings (e : SettingsError)
  | nothingToDo
  | noWorkbook
  | cannotSet (a : Address) (e : WorkbookError)
deriving DecidableEq, Repr

def RunError.message : RunError → Text
  | settings e => e.message
  | nothingToDo => "Nothing to do: pass -c, --set or -p".toList
  | noWorkbook => "No workbook location: pass --store".toList
  | cannotSet a e => "Cannot set ".toList ++ a.toText ++ ": ".toList ++ e.message

/-- What a run leaves behind. Output and errors are in lines. -/
structure Outcome where
  code : Nat
  output : List Text
  errors : List Text
  files : Files
deriving DecidableEq, Repr

/-! ## The table that is printed -/

/-- The texts without those at the end that are empty. -/
def withoutTrailing {α : Type} (isBlank : α → Bool) (xs : List α) : List α :=
  (xs.reverse.dropWhile isBlank).reverse

/-- The smallest table that holds every text that is not empty. -/
def trimTable (rows : List (List Text)) : List (List Text) :=
  let rows := withoutTrailing (fun row => row.all List.isEmpty) rows
  let width := (rows.map fun row => (withoutTrailing List.isEmpty row).length).foldl max 0
  rows.map fun row => row.take width

/-- What the cells of the active sheet show. -/
def displayed (e : Editor) : List (List Text) :=
  e.sheet.rows.mapIdx fun i _ =>
    e.sheet.headers.map fun label => e.display ⟨i, label⟩

/-- The active sheet as text. -/
def printed (e : Editor) : Text :=
  Tsv.print (trimTable (displayed e))

/-! ## Working on a workbook -/

/-- The progress of a run: the editor, what has been printed and what there is to report. -/
structure Progress where
  editor : Editor
  output : List Text
  events : List Event

namespace Progress

def print (p : Progress) (line : Text) : Progress :=
  { p with output := p.output ++ [line] }

def report (p : Progress) (events : List Event) : Progress :=
  { p with events := p.events ++ events }

/-- Goes on with the editor after a write, if the cell could be written. -/
def afterWrite (p : Progress) (a : Address) :
    Except WorkbookError Editor → Progress × Option RunError
  | .ok e => ({ p with editor := e }.report (saveEvents e.store), none)
  | .error err => (p.report [.cannotWrite a err], some (.cannotSet a err))

/-- Sets cells until one cannot be set. -/
def setCells (p : Progress) : List (Address × Text) → Progress × Option RunError
  | [] => (p, none)
  | (a, t) :: rest =>
    match p.afterWrite a (p.editor.commit a t) with
    | (p, none) => p.setCells rest
    | (p, some err) => (p, some err)

/-- Prints a value. -/
def answer (p : Progress) (v : Value) : Progress × Except RunError Bool :=
  (p.print v.display, .ok !v.isError)

/-- Evaluates a formula, in the cell that it names if it names one, and says whether it has a
value. -/
def command (p : Progress) (t : Text) : Progress × Except RunError Bool :=
  let entry := Formula.Entry.parse t.trim
  match entry.target with
  | none =>
    let events := formulaEvents (Formula.withEquals entry.formula.trim) p.editor.sheet
    (p.report events).answer (p.editor.formulaValue entry.formula)
  | some a =>
    match p.afterWrite a (p.editor.write a entry.formula) with
    | (p, none) =>
      let events := ((p.editor.sheet.find? a).map (cellEvents p.editor.sheet)).getD []
      (p.report events).answer (p.editor.value a)
    | (p, some err) => (p, .error err)

/-- Prints the active sheet, unless it is blank. -/
def printSheet (p : Progress) : Progress :=
  let p := p.report (p.editor.sheet.cells.flatMap fun (_, c) => cellEvents p.editor.sheet c)
  match printed p.editor with
  | [] => p
  | t => p.print t

/-- Does what the options ask for and says whether the formula has a value. -/
def work (p : Progress) (o : Options) : Progress × Except RunError Bool :=
  match p.setCells o.sets with
  | (p, some err) => (p, .error err)
  | (p, none) =>
    let (p, result) :=
      match o.command with
      | some t => p.command t
      | none => (p, .ok true)
    match result with
    | .error err => (p, .error err)
    | .ok ok => (if o.print then p.printSheet else p, .ok ok)

end Progress

/-! ## Runs -/

/-- The store of the workbook at a path. Nothing can be kept under an empty path or one that ends in
a slash. -/
def storeAt (place : Place) (files : Files) (path : Text) : Store :=
  let located := place.locate path
  let named := path ≠ [] ∧ path.getLast? ≠ some '/'
  { medium := .file
    stored := if named then ((files.read? located).map .written).getD .nothing else .nothing
    readable := path = [] || !files.isFolder located
    writable := named && files.canWrite located
    saves := 0 }

/-- The files once the store of a path has been written to. -/
def filesAfter (files : Files) (path : List Text) (s : Store) : Files :=
  match s.stored with
  | .written t => if s.saves = 0 then files else files.write path t
  | _ => files

def errorLine (message : Text) : Text :=
  "Error: ".toList ++ message

/-- The code of a run by its result. -/
def exitCode : Except RunError Bool → Nat
  | .ok true => 0
  | _ => 1

/-- A run on the workbook at a path. -/
def runOn (place : Place) (files : Files) (path : Text) (settings : Settings) (level : Level)
    (o : Options) : Outcome :=
  let store := storeAt place files path
  let start : Progress :=
    ⟨Editor.start settings.sheet store, [], .usingWorkbook path :: loadEvents store⟩
  let (p, result) := start.work o
  let failure :=
    match result with
    | .error err => [errorLine err.message]
    | .ok _ => []
  ⟨exitCode result, p.output, (p.events.filter (Event.isShown level)).map Event.line ++ failure,
    filesAfter files (place.locate path) p.editor.store⟩

def functionLines : List Text :=
  Function.all.map fun f => f.usage.padRight 40 ++ ' ' :: f.description

/-- The path of the workbook: the first of what the options, the settings and the place name. -/
def workbookPath? (place : Place) (settings : Settings) (o : Options) : Option Text :=
  (o.store.or settings.store).or place.defaultWorkbook?

def failed (files : Files) (err : RunError) : Outcome :=
  ⟨1, [], [errorLine err.message], files⟩

/-- A run with options that could be read and do not ask for help. -/
def runWith (place : Place) (files : Files) (o : Options) : Outcome :=
  match Settings.load place files o.config with
  | .error e => failed files (.settings e)
  | .ok settings =>
    if o.functions then ⟨0, functionLines, [], files⟩
    else if o.isIdle then failed files .nothingToDo
    else
      match workbookPath? place settings o with
      | none => failed files .noWorkbook
      | some path =>
        runOn place files path settings (Level.chosen o.verbosity settings.logLevel) o

/-- A run with some arguments. -/
def run (place : Place) (files : Files) (arguments : List Text) : Outcome :=
  match Options.parse arguments with
  | .error e => ⟨1, [], errorLine e.message :: usage, files⟩
  | .ok o => if o.help then ⟨0, [], usage, files⟩ else runWith place files o

/-- The files that a run with some arguments looks at, as far as the files at hand show. -/
def paths (place : Place) (files : Files) (arguments : List Text) : List Text :=
  match Options.parse arguments with
  | .error _ => []
  | .ok o =>
    let workbook :=
      match Settings.load place files o.config with
      | .ok settings => workbookPath? place settings o
      | .error _ => none
    (Settings.path? place o.config).toList ++ workbook.toList

end Spreadsheet.CommandLine
