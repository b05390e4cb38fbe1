import Spreadsheet.Proofs.WrittenCalls

/-!
# Aggregates over one range

Here are the formulas that call an aggregate with a range of two addresses without markers. What
such a formula evaluates to depends only on the block between the two addresses, and a move of the
formula moves both addresses and nothing else.
-/

namespace Spreadsheet

namespace Function

/-- The functions that answer with one number for the numbers of a block. -/
def isAggregate : Function → Bool
  | sum | avg | max | min | count => true
  | _ => false

/-- What each of them makes of the numbers. -/
def aggregate? : Function → Option (List Float → Float)
  | sum => some Aggregate.sum
  | avg => some Aggregate.average
  | max => some Aggregate.maximum
  | min => some Aggregate.minimum
  | count => some Aggregate.count
  | _ => none

theorem isSome_aggregate? (f : Function) : f.aggregate?.isSome = f.isAggregate := by
  cases f <;> rfl

theorem exists_aggregate? {f : Function} (aggregate : f.isAggregate = true) :
    ∃ answer, f.aggregate? = some answer :=
  Option.isSome_iff_exists.mp (f.isSome_aggregate?.trans aggregate)

theorem call_of_aggregate? {f : Function} {answer : List Float → Float}
    (h : f.aggregate? = some answer) (grid : Grid) (headers args : List Text) :
    f.call grid headers args =
      (f.firstValues grid headers args).map fun values => .number (answer values) := by
  have mapped : ∀ (answer : List Float → Float) (found : Except FormulaError (List Float)),
      (do return Output.number (answer (← found))) =
        found.map fun values => .number (answer values) := by
    intro answer found
    cases found <;> rfl
  cases f with
  | sum | avg | max | min | count =>
    cases h
    exact mapped _ _
  | _ => cases h

theorem name_upper {f : Function} (aggregate : f.isAggregate = true) :
    ∀ c ∈ f.name, c.isUpper = true := by
  apply List.all_eq_true.mp
  cases f with
  | sum | avg | max | min | count => decide
  | _ => cases aggregate

end Function

namespace Formula

/-! ## Calls with one range -/

/-- The text between the parentheses of a formula over one range. -/
def rangeText (x y : Address) : Text :=
  x.toText ++ ':' :: y.toText

/-- A formula that calls a function with one range. -/
def rangeCall (f : Function) (x y : Address) : Text :=
  '=' :: (f.name ++ '(' :: (rangeText x y ++ [')']))

section Reading

variable {f : Function} {x y : Address}

theorem isFormulaText_rangeCall (f : Function) (x y : Address) :
    Cell.isFormulaText (rangeCall f x y) = true :=
  rfl

theorem trim_rangeCall (f : Function) (x y : Address) :
    (rangeCall f x y).trim = rangeCall f x y :=
  Shape.trim_toText ⟨f.name, rangeText x y⟩

theorem mem_rangeText (hx : x.Writable) (hy : y.Writable) {c : Char} (h : c ∈ rangeText x y) :
    c.isUpper = true ∨ c.isDigit = true ∨ c = ':' := by
  rcases List.mem_append.mp h with left | right
  · rcases hx.mem_toText left with upper | digit
    · exact .inl upper
    · exact .inr (.inl digit)
  · rcases List.mem_cons.mp right with rfl | right
    · exact .inr (.inr rfl)
    · rcases hy.mem_toText right with upper | digit
      · exact .inl upper
      · exact .inr (.inl digit)

/-- Of the characters with a meaning in formulas, a range has only the colon. -/
theorem not_mem_rangeText (hx : x.Writable) (hy : y.Writable) {c : Char}
    (not_upper : c.isUpper = false) (not_digit : c.isDigit = false) (not_colon : c ≠ ':') :
    c ∉ rangeText x y := by
  intro h
  rcases mem_rangeText hx hy h with upper | digit | colon
  · rw [upper] at not_upper
    cases not_upper
  · rw [digit] at not_digit
    cases not_digit
  · exact not_colon colon

theorem rangeText_ne_nil (x y : Address) : rangeText x y ≠ [] := by
  simp [rangeText]

theorem not_isBlank_of_mem_rangeText (hx : x.Writable) (hy : y.Writable) {c : Char}
    (h : c ∈ rangeText x y) : isBlank c = false := by
  apply Text.not_isBlank_of_visible
  rcases mem_rangeText hx hy h with upper | digit | rfl
  · have range := Text.isUpper_iff.mp upper
    omega
  · have range := Text.isDigit_iff.mp digit
    omega
  · decide

theorem trim_rangeText (hx : x.Writable) (hy : y.Writable) :
    (rangeText x y).trim = rangeText x y := by
  refine Text.trim_eq_self (fun c hc => ?_) fun c hc => ?_
  · exact not_isBlank_of_mem_rangeText hx hy (List.mem_of_head? hc)
  · exact not_isBlank_of_mem_rangeText hx hy (List.mem_reverse.mp (List.mem_of_head? hc))

/-- A range is one argument. -/
theorem isArgument_rangeText (hx : x.Writable) (hy : y.Writable) :
    Arguments.IsArgument (rangeText x y) := by
  have without : ∀ c : Char, c.isUpper = false → c.isDigit = false → c ≠ ':' →
      c ∉ rangeText x y := fun _ upper digit colon => not_mem_rangeText hx hy upper digit colon
  refine .inr ⟨rangeText_ne_nil x y, without '"' (by decide) (by decide) (by decide),
    trim_rangeText hx hy, ?_, fun i _ comma => ?_⟩
  · rw [Arguments.nesting,
      List.count_eq_zero.mpr (without '(' (by decide) (by decide) (by decide)),
      List.count_eq_zero.mpr (without ')' (by decide) (by decide) (by decide))]
    rfl
  · exact absurd (List.mem_of_getElem? comma) (without ',' (by decide) (by decide) (by decide))

end Reading

/-- The block between two addresses of the sheet is the block of their range. -/
theorem resolve_rangeText {x y : Address} (hx : x.Writable) (hy : y.Writable) {grid : Grid}
    {headers : List Text} {left right : Nat} (hleft : headers.idxOf? x.col = some left)
    (hright : headers.idxOf? y.col = some right) (bottom : y.row < grid.length) :
    Block.resolve grid headers (rangeText x y) = .ok ⟨x.row, y.row, left, right⟩ := by
  have inside : ¬(x.row ≤ y.row ∧ grid.length ≤ y.row) := by omega
  have start : Block.column headers x.col = .ok left := by rw [Block.column, hleft]
  have stop : Block.column headers y.col = .ok right := by rw [Block.column, hright]
  have parsed : RangeReference.parse (rangeText x y) =
      .ok ⟨⟨x.col, x.row, false, false⟩, ⟨y.col, y.row, false, false⟩⟩ :=
    RangeReference.parse_written hx hy
  simp only [Block.resolve, parsed, Block.ofRange, start, stop, bind, Except.bind, if_neg inside]
  rfl

/-- What the formula evaluates to: the answer of its function for the numbers of the block. -/
theorem evaluate_rangeCall {f : Function} {answer : List Float → Float}
    (answers : f.aggregate? = some answer) {x y : Address} {grid : Grid} {headers : List Text}
    {left right : Nat} (hx : x.Writable) (hy : y.Writable)
    (hleft : headers.idxOf? x.col = some left) (hright : headers.idxOf? y.col = some right)
    (bottom : y.row < grid.length) :
    evaluate (rangeCall f x y) grid headers =
      .number (answer (Block.values ⟨x.row, y.row, left, right⟩ grid)) := by
  have resolved := resolve_rangeText hx hy hleft hright bottom
  have values : f.firstValues grid headers [rangeText x y] =
      .ok (Block.values ⟨x.row, y.row, left, right⟩ grid) := by
    rw [Function.firstValues, Function.first]
    simp only [resolved, bind, Except.bind]
    rfl
  have one_line : '\n' ∉ rangeText x y :=
    not_mem_rangeText hx hy (by decide) (by decide) (by decide)
  rw [evaluate_of_name (Shape.proper_of_name f one_line) (trim_rangeCall f x y) rfl,
    (isArgument_rangeText hx hy).split_eq, Function.call_of_aggregate? answers, values]
  rfl

/-- A move takes both addresses along. -/
theorem formula_rangeCall {f : Function} (aggregate : f.isAggregate = true) {rows cols : Int}
    {x x' y y' : Address} (hx : Relocation.Moves rows cols x x')
    (hy : Relocation.Moves rows cols y y') :
    Relocation.formula rows cols (rangeCall f x y) = rangeCall f x' y' := by
  by_cases still : rows = 0 ∧ cols = 0
  · rw [Relocation.formula, if_pos still, hx.stay still.1 still.2, hy.stay still.1 still.2]
  · have opening : Text.EndsToken '(' := by decide
    have segments : Segment.ofText (rangeCall f x y) =
        .plain '=' :: (f.name.map .plain ++ .plain '(' :: .token x.token :: .plain ':' ::
          .token y.token :: [.plain ')']) := by
      rw [Segment.ofText, rangeCall, rangeText, List.append_assoc, List.cons_append,
        Segment.scan_end (by decide) (by decide),
        Segment.scan_letters (Function.name_upper aggregate) opening,
        Segment.scan_end (by decide) opening,
        Segment.scan_token hx.writable (.cons (by decide) _),
        Segment.scan_end (by decide) (by decide),
        Segment.scan_token hy.writable (.cons (by decide) _),
        Segment.scan_end (by decide) (by decide), Segment.scan]
    rw [Relocation.formula, if_neg still, segments]
    simp only [List.flatMap_cons, List.flatMap_append, List.flatMap_nil, Relocation.flatMap_plain,
      Relocation.segment, hx.token, hy.token]
    simp [rangeCall, rangeText]

end Formula

end Spreadsheet
