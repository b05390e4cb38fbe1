import Spreadsheet.Address
import Spreadsheet.Text.Blank

/-!
# Options of the command line

Arguments are read from left to right, and the first that cannot be read is reported. Of an option
that is given more than once the last value counts, except that cells may be set any number of times
and every request for more messages adds to the others, in a count that starts over after 255.
-/

namespace Spreadsheet.CommandLine

structure Options where
  help : Bool := false
  store : Option Text := none
  config : Option Text := none
  sets : List (Address × Text) := []
  command : Option Text := none
  print : Bool := false
  functions : Bool := false
  verbosity : UInt8 := 0
deriving DecidableEq, Repr

inductive UsageError where
  | missingValue (option : Text)
  | unknownOption (argument : Text)
  | unexpectedArgument (argument : Text)
  | noAssignment (text : Text)
  | invalidAddress (text : Text)
deriving DecidableEq, Repr

def UsageError.message : UsageError → Text
  | missingValue option => option ++ " requires a value".toList
  | unknownOption argument => "Unknown option: ".toList ++ argument
  | unexpectedArgument argument => "Unexpected argument: ".toList ++ argument
  | noAssignment text => "Expected ADDR=TEXT, got '".toList ++ text ++ "'".toList
  | invalidAddress text => "Invalid cell address: ".toList ++ text

/-- What a flag turns on. -/
inductive Flag where
  | help
  | print
  | functions
  | verbose (n : UInt8)
deriving DecidableEq, Repr

/-- What an option gives a value to. -/
inductive Setting where
  | store
  | config
  | set
  | command
deriving DecidableEq, Repr

/-- How an argument is read that no option takes as its value. -/
inductive Argument where
  | flag (f : Flag)
  | setting (s : Setting)
  | unknown
  | stray
deriving DecidableEq, Repr

def Argument.ofText (t : Text) : Argument :=
  match String.ofList t with
  | "-h" => flag .help
  | "--help" => flag .help
  | "--store" => setting .store
  | "--config" => setting .config
  | "--set" => setting .set
  | "-c" => setting .command
  | "--command" => setting .command
  | "-p" => flag .print
  | "--print" => flag .print
  | "--functions" => flag .functions
  | "-v" => flag (.verbose 1)
  | "--verbose" => flag (.verbose 1)
  | "-vv" => flag (.verbose 2)
  | "-vvv" => flag (.verbose 3)
  | _ => if t.head? = some '-' then unknown else stray

/-- A cell and the text to put into it. -/
def assignment (t : Text) : Except UsageError (Address × Text) :=
  match Text.splitOnce? '=' t with
  | none => .error (.noAssignment t)
  | some (left, right) =>
    match Address.parse? left.trim with
    | some a => .ok (a, right)
    | none => .error (.invalidAddress left)

namespace Options

def turnOn (o : Options) : Flag → Options
  | .help => { o with help := true }
  | .print => { o with print := true }
  | .functions => { o with functions := true }
  | .verbose n => { o with verbosity := o.verbosity + n }

def give (o : Options) (value : Text) : Setting → Except UsageError Options
  | .store => .ok { o with store := some value }
  | .config => .ok { o with config := some value }
  | .set => (assignment value).map fun x => { o with sets := o.sets ++ [x] }
  | .command => .ok { o with command := some value }

/-- Reads arguments on top of the options so far. -/
def read (o : Options) : List Text → Except UsageError Options
  | [] => .ok o
  | argument :: rest =>
    match Argument.ofText argument, rest with
    | .flag f, rest => (o.turnOn f).read rest
    | .setting _, [] => .error (.missingValue argument)
    | .setting s, value :: rest =>
      match o.give value s with
      | .ok o => o.read rest
      | .error e => .error e
    | .unknown, _ => .error (.unknownOption argument)
    | .stray, _ => .error (.unexpectedArgument argument)

def parse (arguments : List Text) : Except UsageError Options :=
  read {} arguments

/-- Whether there is no cell to set, no formula and nothing to print. -/
def isIdle (o : Options) : Bool :=
  o.sets.isEmpty && o.command.isNone && !o.print

end Options

def usage : List Text :=
  ["Usage: gridsheet [OPTIONS]".toList,
    [],
    "Options:".toList,
    "  --store <FILE>            Workbook file (JSON) to load and save".toList,
    "  --config <FILE>           Read settings from this TOML file".toList,
    "  --set <ADDR=TEXT>         Write a cell before running (can be repeated)".toList,
    "  -c, --command <FORMULA>   Evaluate a formula (or ADDR=FORMULA) and print it".toList,
    "  -p, --print               Print the active sheet as TSV".toList,
    "  --functions               List the built-in functions".toList,
    "  -v, --verbose             More logging (can be repeated)".toList,
    "  -h, --help                Print help".toList]

end Spreadsheet.CommandLine
