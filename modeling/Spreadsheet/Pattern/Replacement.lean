import Spreadsheet.Pattern.Parser
import Spreadsheet.Pattern.Search
import Spreadsheet.Pattern.Template

/-!
# Replacing

Every match in a text is replaced with its expanded template; the text between matches stays.
-/

namespace Spreadsheet.Pattern

def slice (t : Text) (start stop : Nat) : Text :=
  (t.take stop).drop start

def Match.occurrence (t : Text) (m : Match) : Occurrence where
  before := t.take m.start
  matched := slice t m.start m.stop
  after := t.drop m.stop
  groups := m.groups.map fun span? => span?.map fun (start, stop) => slice t start stop

/-- Replaces the given matches, from a position on. -/
def replaceMatches (t template : Text) (position : Nat) : List Match → Text
  | [] => t.drop position
  | m :: rest =>
    slice t position m.start ++ Template.expand template (m.occurrence t) ++
      replaceMatches t template m.stop rest

/-- A pattern ready to be searched for. -/
def compile? (pattern : Text) : Option Program :=
  (parse? pattern).map Program.ofNode

def Program.replaceAll (p : Program) (template t : Text) : Text :=
  replaceMatches t template 0 (p.matches t)

end Spreadsheet.Pattern
