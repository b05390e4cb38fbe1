import Mathlib.Data.List.Basic
import Spreadsheet.Proofs.GridShape
import Spreadsheet.Proofs.RangeLimits

/-!
# What an aggregate reads

The numbers of a block are those at its positions, row by row, whatever the lengths of the rows. So
an aggregate reads nothing but the positions of its range, and of a formula there not even the text.
-/

namespace Spreadsheet

/-- The number that a cell counts as in an aggregate, if the position has a cell that does. -/
def Grid.number? (g : Grid) (row col : Nat) : Option Float :=
  (g.cell? row col).bind Cell.numericValue?

/-- The numbers at the positions of a block, row by row. -/
def Grid.numbers (g : Grid) (b : Block) : List Float :=
  (List.range' b.top (b.bottom + 1 - b.top)).flatMap fun row =>
    (List.range' b.left (b.right + 1 - b.left)).filterMap (g.number? row)

namespace Block

theorem span_eq_filterMap {α : Type} (first last : Nat) (xs : List α) :
    span first last xs = (List.range' first (last + 1 - first)).filterMap (xs[·]?) := by
  rw [span]
  generalize last + 1 - first = n
  induction n generalizing first with
  | zero => rfl
  | succ n ih =>
    rw [List.range'_succ, List.filterMap_cons, ← ih]
    by_cases inside : first < xs.length
    · rw [List.getElem?_eq_getElem inside, List.drop_eq_getElem_cons inside, List.take_succ_cons]
    · rw [List.getElem?_eq_none (by omega), List.drop_eq_nil_of_le (by omega),
        List.drop_eq_nil_of_le (by omega), List.take_nil, List.take_nil]

variable {b : Block} {g g' : Grid}

theorem values_eq_numbers (b : Block) (g : Grid) : b.values g = g.numbers b := by
  rw [values, rows, span_eq_filterMap, Grid.numbers]
  induction List.range' b.top (b.bottom + 1 - b.top) with
  | nil => rfl
  | cons row rest ih =>
    rw [List.flatMap_cons, ← ih]
    cases here : g[row]? with
    | none =>
      have nothing : ∀ col, g.number? row col = none := by
        intro col
        rw [Grid.number?, Grid.cell?, here]
        rfl
      rw [List.filterMap_cons_none here, List.filterMap_eq_nil_iff.mpr fun col _ => nothing col,
        List.nil_append]
    | some cells =>
      rw [List.filterMap_cons_some here, List.flatMap_cons, Block.cells, span_eq_filterMap,
        List.filterMap_filterMap]
      congr 1
      refine List.filterMap_congr fun col _ => ?_
      rw [Grid.number?, Grid.cell?, here]
      rfl

/-- Blocks are read position by position. -/
theorem values_congr (same : ∀ row col, b.contains row col = true →
    g.number? row col = g'.number? row col) : b.values g = b.values g' := by
  rw [values_eq_numbers, values_eq_numbers]
  refine List.flatMap_congr fun row hrow => List.filterMap_congr fun col hcol => ?_
  rw [List.mem_range'_1] at hrow hcol
  exact same row col (contains_iff.mpr (by omega))

theorem resolve_congr (heights : g.length = g'.length) (headers : List Text) (range : Text) :
    resolve g headers range = resolve g' headers range := by
  simp only [resolve, ofRange, heights]

end Block

/-- The positions of the rectangle that a range addresses among the headers. -/
def RangeReference.Covers (headers : List Text) (r : RangeReference) (row col : Nat) : Prop :=
  ∃ left right, headers.idxOf? r.start.col = some left ∧ headers.idxOf? r.stop.col = some right ∧
    r.start.row ≤ row ∧ row ≤ r.stop.row ∧ left ≤ col ∧ col ≤ right

/-- At this position two grids hold the same, or a formula each. -/
def Grid.AlikeAt (g g' : Grid) (row col : Nat) : Prop :=
  g.cell? row col = g'.cell? row col ∨
    ∃ c c', g.cell? row col = some c ∧ g'.cell? row col = some c' ∧
      c.formula?.isSome = true ∧ c'.formula?.isSome = true

/-- A formula counts as nothing. -/
theorem Cell.numericValue?_of_formula? {c : Cell} (h : c.formula?.isSome = true) :
    c.numericValue? = none := by
  cases c with
  | empty | number x => cases h
  | text t =>
    rw [formula?] at h
    rw [numericValue?]
    split at h
    · rename_i formula
      exact if_pos formula
    · cases h

theorem Grid.AlikeAt.number? {g g' : Grid} {row col : Nat} (alike : g.AlikeAt g' row col) :
    g.number? row col = g'.number? row col := by
  rcases alike with same | ⟨c, c', here, there, formula, formula'⟩
  · rw [Grid.number?, Grid.number?, same]
  · rw [Grid.number?, Grid.number?, here, there, Option.bind_some, Option.bind_some,
      Cell.numericValue?_of_formula? formula, Cell.numericValue?_of_formula? formula']

namespace Function

/-- An aggregate over a range comes to the same on grids that are alike where the range is. -/
theorem call_congr {f : Function} (aggregate : f.isAggregate = true) {g g' : Grid}
    (heights : g.length = g'.length) {headers : List Text} {range : Text}
    (alike : ∀ r, RangeReference.parse range = .ok r →
      ∀ row col, r.Covers headers row col → g.AlikeAt g' row col) (rest : List Text) :
    f.call g headers (range :: rest) = f.call g' headers (range :: rest) := by
  obtain ⟨answer, answers⟩ := exists_aggregate? aggregate
  rw [call_of_aggregate?_cons answers, call_of_aggregate?_cons answers,
    ← Block.resolve_congr heights]
  cases resolved : Block.resolve g headers range with
  | error e => rfl
  | ok b =>
    obtain ⟨r, parsed, covered⟩ := bind_eq_ok_iff.mp resolved
    obtain ⟨start, stop, top, bottom, -⟩ := Block.ofRange_eq_ok_iff.mp covered
    have values : b.values g = b.values g' := by
      refine Block.values_congr fun row col inside => (alike r parsed row col ?_).number?
      obtain ⟨below, above, right, left⟩ := Block.contains_iff.mp inside
      exact ⟨b.left, b.right, start, stop, top ▸ below, bottom ▸ above, right, left⟩
    simp only [Except.map, values]

end Function

namespace Formula

/-- The name of a call and what stands between its parentheses can be told from the text. -/
theorem Shape.eq_of_toText {s s' : Shape} (chars : ∀ c ∈ s.name, isNameChar c = true)
    (chars' : ∀ c ∈ s'.name, isNameChar c = true) (same : s.toText = s'.toText) : s = s' := by
  obtain ⟨name, body⟩ := s
  obtain ⟨name', body'⟩ := s'
  have stop : ∀ body : Text, Text.Stops isNameChar ('(' :: (body ++ [')'])) := fun _ =>
    .cons (by decide) _
  have rest : name ++ '(' :: (body ++ [')']) = name' ++ '(' :: (body' ++ [')']) :=
    (List.cons.inj same).2
  have names := congrArg (List.takeWhile isNameChar) rest
  rw [Text.takeWhile_run chars (stop _), Text.takeWhile_run chars' (stop _)] at names
  subst names
  have bodies := List.append_cancel_left rest
  rw [List.append_cancel_right (List.cons.inj bodies).2]

/-- A text that is written as a call of a function is parsed as that call, if at all. -/
theorem eq_of_parse {f : Function} {t body : Text} {call : Call}
    (written : t.trim = Shape.toText ⟨f.name, body⟩) (parsed : parse t = .ok call) :
    call = ⟨f, Arguments.split body⟩ := by
  by_cases isCall : IsCall t.trim
  · obtain ⟨s, proper, same⟩ := isCall
    have bare : Shape.Proper ⟨f.name, []⟩ := Shape.proper_of_name f List.not_mem_nil
    have chars := bare.nameChars
    obtain rfl : s = ⟨f.name, body⟩ :=
      Shape.eq_of_toText proper.nameChars chars (same.symm.trans written)
    rw [parse_of_name proper written rfl] at parsed
    exact (Except.ok.inj parsed).symm
  · rw [parse_of_not_isCall isCall] at parsed
    cases parsed

/-- What a formula with an aggregate evaluates to, be it a value or an error, is settled by the
height of the grid and by what stands in the rectangle of its range, where formulas count as nothing
whatever they say. No other cell is read, not even the one that holds the formula. -/
theorem outcome_of_range (f : Function) (aggregate : f.isAggregate = true) (t body : Text)
    (written : t.trim = Shape.toText ⟨f.name, body⟩) (headers : List Text) (g g' : Grid)
    (heights : g.length = g'.length)
    (alike : ∀ range r, (Arguments.split body).head? = some range →
      RangeReference.parse range = .ok r →
      ∀ row col, r.Covers headers row col → g.AlikeAt g' row col) :
    outcome t g headers = outcome t g' headers := by
  have formula : Cell.isFormulaText t.trim = true := by
    rw [written]
    exact Shape.isFormulaText_toText _
  rw [outcome, outcome, if_pos formula, if_pos formula, parse_trim]
  cases parsed : parse t with
  | error e => rfl
  | ok call =>
    have same : f.call g headers (Arguments.split body) =
        f.call g' headers (Arguments.split body) := by
      cases args : Arguments.split body with
      | nil =>
        have one : f.parameters = 1 := Function.parameters_eq_one (by rintro rfl; cases aggregate)
        rw [Function.call_nil one, Function.call_nil one]
      | cons range rest =>
        exact Function.call_congr aggregate heights
          (fun r => alike range r (congrArg List.head? args)) rest
    simp only [eq_of_parse written parsed, bind, Except.bind, same]

/-- Two grids with a number in common: the formula cells below it differ, and so does what stands
beside it. -/
theorem formulasBelow_unread :
    let t := "=SUM(A1:A2)".toList
    let headers := Column.labels 2
    outcome t [[.number 1, .text "tea".toList], [.text t, .empty]] headers =
      outcome t [[.number 1, .number 7], [.text "=B1".toList]] headers := by
  intro t headers
  have args : Arguments.split "A1:A2".toList = ["A1:A2".toList] := by decide
  have read : RangeReference.parse "A1:A2".toList =
      .ok ⟨⟨['A'], 0, false, false⟩, ⟨['A'], 1, false, false⟩⟩ := by decide
  refine outcome_of_range .sum rfl t "A1:A2".toList (by decide) headers _ _ rfl ?_
  intro range r first parsed row col covers
  rw [args] at first
  cases first
  rw [read] at parsed
  cases parsed
  obtain ⟨left, right, hleft, hright, -, above, -, inside⟩ := covers
  cases hleft
  cases hright
  obtain rfl : col = 0 := Nat.le_zero.mp inside
  rcases Nat.le_one_iff_eq_zero_or_eq_one.mp above with rfl | rfl
  · exact .inl rfl
  · exact .inr ⟨_, _, rfl, rfl, rfl, rfl⟩

end Formula

end Spreadsheet
