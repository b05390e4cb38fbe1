import Spreadsheet.Pattern.Syntax

/-!
# Matching programs

A pattern becomes a list of instructions, each of which names its successors. Where an instruction
has two, the first is preferred, so the order of the successors carries the order in which matches
are preferred. A node is compiled knowing where a match of it goes on.
-/

namespace Spreadsheet.Pattern

inductive Instruction where
  | chars (set : CharSet) (next : Nat)
  | assertion (a : Assertion) (next : Nat)
  /-- Notes the position, twice the group's number at its start and one more at its end. -/
  | save (slot next : Nat)
  | split (preferred other : Nat)
  | accept
deriving Repr

abbrev Builder := StateM (Array Instruction)

def emit (i : Instruction) : Builder Nat :=
  modifyGet fun code => (code.size, code.push i)

def fork (greedy : Bool) (body next : Nat) : Instruction :=
  if greedy then .split body next else .split next body

/-- Compiles a loop: after each match of the body the fork at the end is met again. The position
of the fork is reserved before the body is known. Returns the body's start. -/
def emitLoop (body : Nat → Builder Nat) (greedy : Bool) (next : Nat) : Builder Nat := do
  let turn ← emit .accept
  let start ← body turn
  modify fun code => code.setIfInBounds turn (fork greedy start next)
  return start

/-- The body a number of times in a row. -/
def emitTimes (body : Nat → Builder Nat) : Nat → Nat → Builder Nat
  | 0, next => return next
  | n + 1, next => do emitTimes body n (← body next)

/-- The body up to a number of times; each time may be the last. -/
def emitUpTo (body : Nat → Builder Nat) (greedy : Bool) (next : Nat) : Nat → Builder Nat
  | 0 => return next
  | n + 1 => do
    let rest ← emitUpTo body greedy next n
    emit (fork greedy (← body rest) next)

/-- Where a match of the node starts, given where it goes on. A body that may match the empty text
is entered through a fork of its own, so that skipping it ranks below an empty turn. -/
def Node.emit : Node → Nat → Builder Nat
  | .empty, next => return next
  | .chars set, next => Pattern.emit (.chars set next)
  | .assertion a, next => Pattern.emit (.assertion a next)
  | .capture index body, next => do
    let start ← body.emit (← Pattern.emit (.save (2 * index + 1) next))
    Pattern.emit (.save (2 * index) start)
  | .concat a b, next => do a.emit (← b.emit next)
  | .alternate a b, next => do
    let first ← a.emit next
    Pattern.emit (.split first (← b.emit next))
  | .repetition body least none greedy, next => do
    let start ← emitLoop body.emit greedy next
    if least = 0 then Pattern.emit (fork greedy start next)
    else emitTimes body.emit (least - 1) start
  | .repetition body least (some most) greedy, next => do
    emitTimes body.emit least (← emitUpTo body.emit greedy next (most - least))

/-- The instructions, where to start, and the number of groups. -/
structure Program where
  code : Array Instruction
  start : Nat
  groups : Nat
deriving Repr

/-- The whole match is group zero. -/
def Program.ofNode (n : Node) : Program :=
  let (start, code) := (Node.capture 0 n).emit 0 |>.run #[.accept]
  ⟨code, start, n.lastGroup⟩

end Spreadsheet.Pattern
