import Spreadsheet.Proofs.AggregateText
import Spreadsheet.Proofs.ArgumentCounts

/-!
# Ranges that leave the sheet

Seven functions read a range, and each of them has an answer if and only if the range covers a block
of the sheet. Its labels have to be headers, and as long as its rows are in order they have to be
rows of the sheet. A range whose end row comes before its start row covers nothing, wherever these
rows are, so that nobody looks for them.
-/

namespace Spreadsheet

theorem bind_eq_ok_iff {α β : Type} {x : Except FormulaError α}
    {k : α → Except FormulaError β} {b : β} :
    (x >>= k) = .ok b ↔ ∃ a, x = .ok a ∧ k a = .ok b := by
  cases x with
  | error e => simp [bind, Except.bind]
  | ok a => simp [bind, Except.bind]

namespace Block

section Ranges

variable {grid : Grid} {headers : List Text} {range label : Text} {r : RangeReference} {b : Block}
variable {e : FormulaError}

theorem column_eq_ok_iff {col : Nat} :
    column headers label = .ok col ↔ headers.idxOf? label = some col := by
  rw [column]
  cases headers.idxOf? label <;> simp

theorem column_eq_error_iff :
    column headers label = .error e ↔ label ∉ headers ∧ e = .unknownColumn label := by
  rw [column, ← List.idxOf?_eq_none_iff]
  cases headers.idxOf? label <;> simp [eq_comm]

theorem mem_headers_iff : label ∈ headers ↔ ∃ col, headers.idxOf? label = some col := by
  rw [← Option.isSome_iff_exists, List.isSome_idxOf?]

/-- The block of a range lies between its rows and between the positions of its labels. -/
theorem ofRange_eq_ok_iff : ofRange grid headers r = .ok b ↔
    headers.idxOf? r.start.col = some b.left ∧ headers.idxOf? r.stop.col = some b.right ∧
      b.top = r.start.row ∧ b.bottom = r.stop.row ∧
      (r.start.row ≤ r.stop.row → r.stop.row < grid.length) := by
  simp only [ofRange, bind_eq_ok_iff, column_eq_ok_iff]
  constructor
  · rintro ⟨left, start, right, stop, checked⟩
    split at checked
    · cases checked
    · rename_i inside
      cases checked
      exact ⟨start, stop, rfl, rfl, fun order => by omega⟩
  · rintro ⟨start, stop, top, bottom, inside⟩
    refine ⟨b.left, start, b.right, stop, ?_⟩
    rw [if_neg (by omega), ← top, ← bottom]
    rfl

/-- The start label is missed first, then the end label, and then a row of a range that is in
order. -/
theorem ofRange_eq_error_iff : ofRange grid headers r = .error e ↔
    r.start.col ∉ headers ∧ e = .unknownColumn r.start.col ∨
    r.start.col ∈ headers ∧ r.stop.col ∉ headers ∧ e = .unknownColumn r.stop.col ∨
    r.start.col ∈ headers ∧ r.stop.col ∈ headers ∧ r.start.row ≤ r.stop.row ∧
      grid.length ≤ r.stop.row ∧ e = .rowOutOfBounds r.stop.row grid.length := by
  simp only [ofRange, bind_eq_error_iff, column_eq_error_iff, column_eq_ok_iff]
  refine or_congr_right ?_
  constructor
  · rintro ⟨left, start, missing | ⟨right, stop, checked⟩⟩
    · exact .inl ⟨mem_headers_iff.mpr ⟨left, start⟩, missing⟩
    · split at checked
      · rename_i outside
        cases checked
        exact .inr ⟨mem_headers_iff.mpr ⟨left, start⟩, mem_headers_iff.mpr ⟨right, stop⟩,
          outside.1, outside.2, rfl⟩
      · cases checked
  · rintro (⟨start, missing⟩ | ⟨start, stop, order, outside, rfl⟩)
    · obtain ⟨left, start⟩ := mem_headers_iff.mp start
      exact ⟨left, start, .inl missing⟩
    · obtain ⟨left, start⟩ := mem_headers_iff.mp start
      obtain ⟨right, stop⟩ := mem_headers_iff.mp stop
      refine ⟨left, start, .inr ⟨right, stop, ?_⟩⟩
      rw [if_pos ⟨order, outside⟩]
      rfl

/-- A range has a block if and only if its labels are headers and its rows, unless they are in
reverse, are rows of the grid. -/
theorem exists_ofRange_iff : (∃ b, ofRange grid headers r = .ok b) ↔
    r.start.col ∈ headers ∧ r.stop.col ∈ headers ∧
      (r.start.row ≤ r.stop.row → r.start.row < grid.length ∧ r.stop.row < grid.length) := by
  simp only [ofRange_eq_ok_iff, mem_headers_iff]
  constructor
  · rintro ⟨b, start, stop, -, -, inside⟩
    exact ⟨⟨b.left, start⟩, ⟨b.right, stop⟩, fun order =>
      ⟨Nat.lt_of_le_of_lt order (inside order), inside order⟩⟩
  · rintro ⟨⟨left, start⟩, ⟨right, stop⟩, inside⟩
    exact ⟨⟨r.start.row, r.stop.row, left, right⟩, start, stop, rfl, rfl, fun order =>
      (inside order).2⟩

theorem resolve_of_parse (parsed : RangeReference.parse range = .ok r) :
    resolve grid headers range = ofRange grid headers r := by
  rw [resolve, parsed]
  rfl

end Ranges

end Block

namespace Function

/-- The functions that read a range. -/
def readsRange : Function → Bool
  | trim | upper | lower => false
  | _ => true

/-- The arguments of a call on a range. The replacement has two more, the first of them a pattern;
what the others have behind the range does not matter. -/
def CallsOn (f : Function) (range : Text) (args : List Text) : Prop :=
  if f = findAndReplace then
    ∃ find template, args = [range, find, template] ∧
      (Pattern.compile? (unquote find)).isSome = true
  else ∃ rest, args = range :: rest

section Calls

variable {f : Function} {grid : Grid} {headers args : List Text} {range : Text}

theorem firstValues_cons (f : Function) (rest : List Text) :
    f.firstValues grid headers (range :: rest) =
      (Block.resolve grid headers range).map (·.values grid) := by
  rw [firstValues, first]
  simp only [bind, Except.bind]
  cases Block.resolve grid headers range <;> rfl

/-- An aggregate answers for the numbers in the block of its range. -/
theorem call_of_aggregate?_cons {answer : List Float → Float}
    (answers : f.aggregate? = some answer) (rest : List Text) :
    f.call grid headers (range :: rest) =
      (Block.resolve grid headers range).map fun b => .number (answer (b.values grid)) := by
  rw [call_of_aggregate? answers, firstValues_cons]
  cases Block.resolve grid headers range <;> rfl

theorem call_removeDuplicates (rest : List Text) :
    removeDuplicates.call grid headers (range :: rest) =
      (Block.resolve grid headers range).map fun b =>
        .rows (distinctRows b (b.rows grid) []) := by
  rw [call, first]
  simp only [bind, Except.bind]
  cases Block.resolve grid headers range <;> rfl

theorem call_findAndReplace {find : Text} {p : Pattern.Program}
    (compiled : Pattern.compile? (unquote find) = some p) (template : Text) :
    findAndReplace.call grid headers [range, find, template] =
      (Block.resolve grid headers range).map fun b =>
        .rows (b.modify (replaceInCell p (unquote template)) grid) := by
  rw [call]
  simp only [bind, Except.bind, compiled]
  cases Block.resolve grid headers range <;> rfl

/-- What a call on a range comes to is settled by the block of the range. -/
theorem exists_answer (reads : f.readsRange = true) (calls : f.CallsOn range args) :
    ∃ answer : Block → Output,
      f.call grid headers args = (Block.resolve grid headers range).map answer := by
  cases f with
  | trim | upper | lower => cases reads
  | sum | avg | max | min | count =>
    obtain ⟨rest, rfl⟩ := calls
    exact ⟨_, call_of_aggregate?_cons rfl rest⟩
  | removeDuplicates =>
    obtain ⟨rest, rfl⟩ := calls
    exact ⟨_, call_removeDuplicates rest⟩
  | findAndReplace =>
    obtain ⟨find, template, rfl, compiled⟩ := calls
    obtain ⟨p, compiled⟩ := Option.isSome_iff_exists.mp compiled
    exact ⟨_, call_findAndReplace compiled template⟩

/-- A call on a range has an answer if and only if both labels are headers and the rows, unless the
end comes before the start, are rows of the grid. So a range in order that names a row past the grid
is an error, and the error tells the first label that is missing or else the last row. -/
theorem call_inside_iff (f : Function) (grid : Grid) (headers : List Text) (range : Text)
    (args : List Text) (r : RangeReference) (reads : f.readsRange = true)
    (calls : f.CallsOn range args) (parsed : RangeReference.parse range = .ok r) :
    ((∃ out, f.call grid headers args = .ok out) ↔
      r.start.col ∈ headers ∧ r.stop.col ∈ headers ∧
        (r.start.row ≤ r.stop.row → r.start.row < grid.length ∧ r.stop.row < grid.length)) ∧
    ∀ e, f.call grid headers args = .error e ↔
      r.start.col ∉ headers ∧ e = .unknownColumn r.start.col ∨
      r.start.col ∈ headers ∧ r.stop.col ∉ headers ∧ e = .unknownColumn r.stop.col ∨
      r.start.col ∈ headers ∧ r.stop.col ∈ headers ∧ r.start.row ≤ r.stop.row ∧
        grid.length ≤ r.stop.row ∧ e = .rowOutOfBounds r.stop.row grid.length := by
  have answers : ∃ answer : Block → Output,
      f.call grid headers args = (Block.resolve grid headers range).map answer :=
    exists_answer reads calls
  obtain ⟨answer, answered⟩ := answers
  rw [← Block.exists_ofRange_iff]
  simp only [← Block.ofRange_eq_error_iff, ← Block.resolve_of_parse parsed, answered]
  cases Block.resolve grid headers range <;> simp [Except.map]

/-- A sheet of two rows: a replacement in both of them, and the rows up to a third. -/
theorem thirdRow_missed :
    let grid : Grid := [[.text ['a']], [.number 2]]
    let headers := Column.labels 1
    (∃ out, findAndReplace.call grid headers ["A1:A2".toList, ['a'], ['b']] = .ok out) ∧
      removeDuplicates.call grid headers ["A1:A3".toList] = .error (.rowOutOfBounds 2 2) := by
  intro grid headers
  have replaces : findAndReplace.CallsOn "A1:A2".toList ["A1:A2".toList, ['a'], ['b']] :=
    ⟨['a'], ['b'], rfl, by decide⟩
  have within := call_inside_iff findAndReplace grid headers "A1:A2".toList _
    ⟨⟨['A'], 0, false, false⟩, ⟨['A'], 1, false, false⟩⟩ rfl replaces (by decide)
  have beyond := call_inside_iff removeDuplicates grid headers "A1:A3".toList _
    ⟨⟨['A'], 0, false, false⟩, ⟨['A'], 2, false, false⟩⟩ rfl ⟨[], rfl⟩ (by decide)
  exact ⟨within.1.mpr (by decide), (beyond.2 _).mpr (by decide)⟩

/-- A sum over rows in reverse is zero although the sheet does not have the first of them. -/
theorem reversedRows_answered :
    let grid : Grid := [[.text ['1']]]
    let headers := Column.labels 1
    let r : RangeReference := ⟨⟨['A'], 1, false, false⟩, ⟨['A'], 0, false, false⟩⟩
    RangeReference.parse "A2:A1".toList = .ok r ∧ ¬r.start.row < grid.length ∧
      sum.call grid headers ["A2:A1".toList] = .ok (.number 0) := by
  decide

end Calls

end Function

end Spreadsheet
