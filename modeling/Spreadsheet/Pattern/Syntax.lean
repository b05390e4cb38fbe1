import Spreadsheet.CharSet

/-!
# Pattern syntax trees

What a search pattern means once its text has been read: classes are sets of characters, flags have
been applied, and groups are numbered. `Node.repeated` builds repetitions in the form the matcher
expects, in which nothing that only matches the empty text is repeated more than once.
-/

namespace Spreadsheet.Pattern

/-- Where a word begins or ends, between the characters before and after a position. -/
inductive Boundary where
  | either
  | neither
  | start
  | stop
  | startHalf
  | stopHalf
deriving DecidableEq, Repr

/-- A condition on a position that takes up no character. -/
inductive Assertion where
  | textStart
  | textEnd
  | lineStart
  | lineEnd
  /-- Lines that may also end in a carriage return, with or without a line feed. -/
  | carriageLineStart
  | carriageLineEnd
  | word (boundary : Boundary) (unicode : Bool)
deriving DecidableEq, Repr

inductive Node where
  | empty
  | chars (set : CharSet)
  | assertion (a : Assertion)
  | capture (index : Nat) (body : Node)
  | concat (first second : Node)
  | alternate (first second : Node)
  | repetition (body : Node) (least : Nat) (most : Option Nat) (greedy : Bool)
deriving Repr

namespace Node

/-- The least number of characters of a match. -/
def minLength : Node → Nat
  | empty => 0
  | chars _ => 1
  | assertion _ => 0
  | capture _ body => body.minLength
  | concat a b => a.minLength + b.minLength
  | alternate a b => min a.minLength b.minLength
  | repetition body least _ _ => least * body.minLength

/-- Whether every match is empty. -/
def onlyEmpty : Node → Bool
  | empty => true
  | chars _ => false
  | assertion _ => true
  | capture _ body => body.onlyEmpty
  | concat a b => a.onlyEmpty && b.onlyEmpty
  | alternate a b => a.onlyEmpty && b.onlyEmpty
  | repetition body _ _ _ => body.onlyEmpty

/-- The number of the last group. Groups that can never take part in a match do not count. -/
def lastGroup : Node → Nat
  | empty => 0
  | chars _ => 0
  | assertion _ => 0
  | capture index body => max index body.lastGroup
  | concat a b => max a.lastGroup b.lastGroup
  | alternate a b => max a.lastGroup b.lastGroup
  | repetition body _ _ _ => body.lastGroup

/-- A body a number of times. Zero times is the empty pattern, whatever the body. -/
def repeated (body : Node) (least : Nat) (most : Option Nat) (greedy : Bool) : Node :=
  let (least, most) :=
    if body.onlyEmpty then (min least 1, some (min (most.getD 1) 1)) else (least, most)
  if most = some 0 then empty
  else if least = 1 ∧ most = some 1 then body
  else repetition body least most greedy

def concatAll : List Node → Node
  | [] => empty
  | [n] => n
  | n :: rest => concat n (concatAll rest)

def alternateAll : List Node → Node
  | [] => empty
  | [n] => n
  | n :: rest => alternate n (alternateAll rest)

end Node

/-! ### The room that a pattern takes

A pattern is refused when its matching program, which works on encoded characters, would be larger
than `sizeLimit`. The estimate counts the program's states and their transitions. -/

def stateSize : Nat := 32

def sizeLimit : Nat := 10 * Nat.pow 2 20

/-- The number of bytes that encode a code point. -/
def encodedLength (n : Nat) : Nat :=
  if n < 0x80 then 1 else if n < 0x800 then 2 else if n < 0x10000 then 3 else 4

/-- One character is its bytes one after the other, ASCII ranges are one state, and every other
range is a chain of states for its own bytes. -/
def classSize (set : CharSet) : Nat :=
  match set with
  | [r] =>
    if r.first = r.last then stateSize * encodedLength r.last
    else stateSize * (1 + encodedLength r.last)
  | _ =>
    if set.isAscii then 2 * stateSize + 8 * set.length
    else set.foldl (fun n r => n + stateSize * encodedLength r.last) 0

def Node.size : Node → Nat
  | empty => stateSize
  | chars set => classSize set
  | assertion _ => stateSize
  | capture _ body => 2 * stateSize + body.size
  | concat a b => a.size + b.size
  | alternate a b => 2 * stateSize + a.size + b.size
  | repetition body least most _ =>
    match most with
    | none => (max least 1) * body.size + 3 * stateSize
    | some most => most * body.size + (most - least + 1) * stateSize

end Spreadsheet.Pattern
