import Spreadsheet.Pattern.Program
import Spreadsheet.Unicode.Property

/-!
# Searching

A search follows all ways through a program at once, one character at a time. The ways are kept in
order of preference, and no instruction is reached twice at one position: the later way would rank
below the first in everything that follows. The match that starts first wins, and among those that
start there the preferred one.
-/

namespace Spreadsheet.Pattern

/-- A way through the program: the instruction it has reached and the positions noted so far. -/
structure Way where
  instruction : Nat
  slots : Array (Option Nat)
deriving Repr

def isWordChar (unicode : Bool) (c : Char) : Bool :=
  if c.toNat < 0x80 then c.isAlphanum || c == '_'
  else unicode && Unicode.Property.wordCharacters.contains c.toNat

namespace Boundary

def holds : Boundary → Bool → Bool → Bool
  | either, before, after => before != after
  | neither, before, after => before == after
  | start, before, after => !before && after
  | stop, before, after => before && !after
  | startHalf, before, _ => !before
  | stopHalf, _, after => !after

end Boundary

namespace Assertion

/-- Whether an assertion holds between two characters; at the ends of the text one is missing. -/
def holds (a : Assertion) (before after : Option Char) : Bool :=
  match a with
  | textStart => before.isNone
  | textEnd => after.isNone
  | lineStart => before.isNone || before == some '\n'
  | lineEnd => after.isNone || after == some '\n'
  | carriageLineStart =>
    before.isNone || before == some '\n' || (before == some '\r' && after != some '\n')
  | carriageLineEnd =>
    after.isNone || after == some '\r' || (after == some '\n' && before != some '\r')
  | word boundary unicode =>
    boundary.holds (before.any (isWordChar unicode)) (after.any (isWordChar unicode))

end Assertion

/-- The characters on both sides of a position. -/
def around (text : Array Char) (position : Nat) : Option Char × Option Char :=
  (if position = 0 then none else text[position - 1]?, text[position]?)

/-- Follows ways up to the instructions that take a character or accept, in order of preference. -/
def settle (p : Program) (text : Array Char) (position : Nat) :
    Nat → List Way → Array Bool → Array Way → Array Way
  | 0, _, _, settled => settled
  | _ + 1, [], _, settled => settled
  | fuel + 1, w :: stack, met, settled =>
    if met.getD w.instruction true then settle p text position fuel stack met settled
    else
      let met := met.setIfInBounds w.instruction true
      match p.code[w.instruction]? with
      | some (.split preferred other) =>
        settle p text position fuel ({ w with instruction := preferred } ::
          { w with instruction := other } :: stack) met settled
      | some (.save slot next) =>
        settle p text position fuel
          (⟨next, w.slots.setIfInBounds slot (some position)⟩ :: stack) met settled
      | some (.assertion a next) =>
        let (before, after) := around text position
        if a.holds before after then
          settle p text position fuel ({ w with instruction := next } :: stack) met settled
        else settle p text position fuel stack met settled
      | _ => settle p text position fuel stack met (settled.push w)

/-- Each instruction is settled at most once and puts at most two more in line. -/
def settleAll (p : Program) (text : Array Char) (position : Nat) (ways : List Way) : List Way :=
  (settle p text position (2 * p.code.size + ways.length + 1) ways
    (Array.replicate p.code.size false) #[]).toList

/-- The ways that go on past a character, and the best match that ends before it. Ways ranking below
a match are given up. -/
def advance (p : Program) (next : Option Char) : List Way → List Way × Option Way
  | [] => ([], none)
  | w :: rest =>
    match p.code[w.instruction]? with
    | some (.chars set goal) =>
      let (ways, found) := advance p next rest
      if next.any fun c => set.contains c.toNat then ({ w with instruction := goal } :: ways, found)
      else (ways, found)
    | some .accept => ([], some w)
    | _ => advance p next rest

def Program.fresh (p : Program) : Way :=
  ⟨p.start, Array.replicate (2 * p.groups + 2) none⟩

/-- Goes on from a position; a new way starts there as long as nothing has been found. -/
def searchFrom (p : Program) (text : Array Char) : Nat → Nat → List Way → Option Way → Option Way
  | 0, _, _, found => found
  | fuel + 1, position, ways, found =>
    let ways := if found.isNone then ways ++ [p.fresh] else ways
    if ways.isEmpty then found
    else
      let (ways, better) := advance p text[position]? (settleAll p text position ways)
      searchFrom p text fuel (position + 1) ways (better.or found)

/-- The span of each group, the whole match first. -/
structure Match where
  start : Nat
  stop : Nat
  groups : List (Option (Nat × Nat))
deriving DecidableEq, Repr

def Match.ofSlots (p : Program) (slots : Array (Option Nat)) : Option Match := do
  let span (i : Nat) : Option (Nat × Nat) := do
    return (← (slots[2 * i]?).join, ← (slots[2 * i + 1]?).join)
  let (start, stop) ← span 0
  return ⟨start, stop, (List.range p.groups).map fun i => span (i + 1)⟩

/-- The first match that starts at a position or later. -/
def find? (p : Program) (text : Array Char) (position : Nat) : Option Match :=
  (searchFrom p text (text.size + 1 - position) position [] none).bind fun w =>
    Match.ofSlots p w.slots

/-- The matches after each other. An empty match right where the one before ended is passed over for
the next match further on. -/
def matchesFrom (p : Program) (text : Array Char) : Nat → Nat → Option Nat → List Match
  | 0, _, _ => []
  | fuel + 1, position, lastStop =>
    let first := find? p text position
    let repeatsEmpty := first.any fun m => m.start == m.stop && some m.stop == lastStop
    match if repeatsEmpty then find? p text (position + 1) else first with
    | some m => m :: matchesFrom p text fuel m.stop (some m.stop)
    | none => []

/-- All matches in a text, none overlapping another. -/
def Program.matches (p : Program) (text : Text) : List Match :=
  matchesFrom p text.toArray (text.length + 2) 0 none

end Spreadsheet.Pattern
