import Mathlib.Algebra.Group.Nat.Even
import Mathlib.Data.List.Induction
import Spreadsheet.Proofs.ArgumentLists

/-!
# Where argument lists are cut

Splitting an argument list loses nothing but blanks, whatever the text: the pieces between the
commas that separate, joined by commas again, are the text. A place in the text is level if as many
parentheses are opened as closed before it. A comma separates where it stands at a level place and
the double quotes at level places before it come in pairs; any other quote opens and closes nothing.
-/

namespace Spreadsheet

namespace Arguments

/-- How many double quotes of a text stand at level places. -/
def levelQuotes (t : Text) : Nat :=
  (List.range t.length).countP fun i => t[i]? = some '"' ∧ nesting (t.take i) = 0

/-- One of the commas by which the pieces are joined stands at this position of the joined text. -/
def IsCut (ps : List Text) (i : Nat) : Prop :=
  ∃ before after, before ≠ [] ∧ after ≠ [] ∧ before ++ after = ps ∧
    (Text.join [','] before).length = i

namespace Position

theorem through_cons (p : Position) (c : Char) (t : Text) :
    p.through (c :: t) = (p.after c).through t :=
  rfl

theorem after_comma (p : Position) : p.after ',' = p :=
  rfl

end Position

/-! ## Quotes -/

theorem levelQuotes_concat (t : Text) (c : Char) :
    levelQuotes (t ++ [c]) = levelQuotes t + if c = '"' ∧ nesting t = 0 then 1 else 0 := by
  have earlier : ∀ i ∈ List.range t.length,
      (decide ((t ++ [c])[i]? = some '"' ∧ nesting ((t ++ [c]).take i) = 0) = true ↔
        decide (t[i]? = some '"' ∧ nesting (t.take i) = 0) = true) := by
    intro i mem
    have inside := List.mem_range.mp mem
    rw [List.getElem?_append_left inside, List.take_append_of_le_length (Nat.le_of_lt inside)]
  rw [levelQuotes, List.length_append, List.length_singleton, List.range_succ, List.countP_append,
    List.countP_congr earlier, List.countP_singleton, List.getElem?_concat_length,
    List.take_left]
  simp [levelQuotes]

/-- A reader is outside of literals after an even number of quotes at level places. -/
theorem quoted_through_iff (t : Text) :
    (Position.start.through t).quoted = false ↔ Even (levelQuotes t) := by
  -- a reader goes on from where the text before the last character has led it
  induction t using List.reverseRecOn with
  | nil => decide
  | append_singleton t c ih =>
    have level : (Position.start.through t).depth = nesting t := by
      rw [Position.through_depth]
      exact Int.zero_add _
    rw [Position.through_append, levelQuotes_concat]
    change ((Position.start.through t).after c).quoted = false ↔ _
    by_cases quote : c = '"'
    · rw [Position.after, if_pos quote, level]
      by_cases outer : nesting t = 0
      · rw [if_pos outer, if_pos ⟨quote, outer⟩, Nat.even_add_one, ← ih]
        simp
      · rw [if_neg outer, if_neg fun h => outer h.2]
        exact ih
    · rw [Position.after_quoted quote, if_neg fun h => quote h.1]
      exact ih

theorem separates_through_iff (t : Text) :
    (Position.start.through t).separates = true ↔ nesting t = 0 ∧ Even (levelQuotes t) := by
  rw [Position.separates_iff, quoted_through_iff, Position.through_depth, and_comm]
  exact and_congr_left' (by rw [Position.start, Int.zero_add])

/-! ## Cuts -/

section Cuts

variable {c : Char} {first piece : Text} {rest others : List Text} {i : Nat}

theorem join_cons_cons (c : Char) (piece : Text) (others : List Text) :
    Text.join [','] ((c :: piece) :: others) = c :: Text.join [','] (piece :: others) := by
  cases others with
  | nil => simp [Text.join]
  | cons next others => simp [Text.join, List.intercalate_cons_cons]

theorem not_isCut_singleton (piece : Text) (i : Nat) : ¬IsCut [piece] i := by
  rintro ⟨before, after, some, some', joined, -⟩
  have length := congrArg List.length joined
  have := List.length_pos_iff.mpr some
  have := List.length_pos_iff.mpr some'
  rw [List.length_append, List.length_singleton] at length
  omega

/-- The first cut is behind the first piece, the others are those of the pieces after it. -/
theorem isCut_cons_iff (some : rest ≠ []) :
    IsCut (first :: rest) i ↔
      i = first.length ∨ ∃ j, i = j + (first.length + 1) ∧ IsCut rest j := by
  constructor
  · rintro ⟨before, after, begun, left, joined, rfl⟩
    obtain ⟨piece, before, rfl⟩ := List.exists_cons_of_ne_nil begun
    obtain ⟨rfl, rfl⟩ := List.cons.inj joined
    cases before with
    | nil =>
      left
      rw [Text.join, List.intercalate_singleton]
    | cons next before =>
      right
      refine ⟨_, ?_, next :: before, after, List.cons_ne_nil _ _, left, rfl, rfl⟩
      rw [Text.join, List.intercalate_cons_cons, List.length_append, List.length_append,
        Nat.add_comm]
      rfl
  · rintro (rfl | ⟨j, rfl, before, after, begun, left, rfl, rfl⟩)
    · refine ⟨[first], rest, List.cons_ne_nil _ _, some, rfl, ?_⟩
      rw [Text.join, List.intercalate_singleton]
    · refine ⟨first :: before, after, List.cons_ne_nil _ _, left, rfl, ?_⟩
      rw [Text.join, List.intercalate_cons_of_ne_nil begun, List.length_append, List.length_append,
        Nat.add_comm]
      rfl

/-- A character more at the front moves every cut on by one. -/
theorem isCut_cons_cons_iff :
    IsCut ((c :: piece) :: others) i ↔ ∃ j, i = j + 1 ∧ IsCut (piece :: others) j := by
  cases others with
  | nil =>
    refine iff_of_false (not_isCut_singleton _ _) ?_
    rintro ⟨j, -, h⟩
    exact not_isCut_singleton _ j h
  | cons next others =>
    simp only [isCut_cons_iff (List.cons_ne_nil next others), List.length_cons]
    constructor
    · rintro (rfl | ⟨j, rfl, h⟩)
      · exact ⟨_, rfl, .inl rfl⟩
      · exact ⟨j + (piece.length + 1), rfl, .inr ⟨j, rfl, h⟩⟩
    · rintro ⟨_, rfl, rfl | ⟨j, rfl, h⟩⟩
      · exact .inl rfl
      · exact .inr ⟨j, rfl, h⟩

end Cuts

section Pieces

variable {p : Position} {t : Text} {i : Nat}

/-- The pieces are all of the text but for the commas that separate. -/
theorem join_pieces (p : Position) (t : Text) : Text.join [','] (pieces p t) = t := by
  induction t generalizing p with
  | nil => rfl
  | cons c rest ih =>
    rw [pieces]
    split
    · rename_i comma
      rw [Text.join, List.intercalate_cons_of_ne_nil (pieces_ne_nil p rest), ← Text.join, ih,
        comma.1]
      rfl
    · obtain ⟨piece, others, found⟩ := List.exists_cons_of_ne_nil (pieces_ne_nil (p.after c) rest)
      rw [found]
      change Text.join [','] ((c :: piece) :: others) = _
      rw [join_cons_cons, ← found, ih]

/-- A text is cut at the commas that separate where a reader then stands. -/
theorem isCut_pieces_iff :
    IsCut (pieces p t) i ↔ t[i]? = some ',' ∧ (p.through (t.take i)).separates = true := by
  induction t generalizing p i with
  | nil => exact iff_of_false (not_isCut_singleton [] i) (by simp)
  | cons c rest ih =>
    by_cases comma : c = ',' ∧ p.separates
    · obtain ⟨rfl, separates⟩ := comma
      rw [pieces, if_pos ⟨rfl, separates⟩, isCut_cons_iff (pieces_ne_nil p rest)]
      cases i with
      | zero => exact iff_of_true (.inl rfl) ⟨rfl, separates⟩
      | succ i =>
        rw [List.take_succ_cons, Position.through_cons, Position.after_comma]
        simpa using ih
    · obtain ⟨piece, others, found⟩ := List.exists_cons_of_ne_nil (pieces_ne_nil (p.after c) rest)
      have step : pieces p (c :: rest) = (c :: piece) :: others := by
        rw [pieces, if_neg comma, found]
      rw [step, isCut_cons_cons_iff, ← found]
      cases i with
      | zero =>
        refine iff_of_false ?_ ?_
        · rintro ⟨j, front, -⟩
          cases front
        · rintro ⟨front, separates⟩
          exact comma ⟨Option.some.inj front, separates⟩
      | succ i =>
        rw [List.take_succ_cons, Position.through_cons]
        simpa using ih

theorem dropEmptyLast_concat (front : List Text) (last : Text) :
    dropEmptyLast (front ++ [last]) = front ++ if last = [] then [] else [last] := by
  simp only [dropEmptyLast, List.getLast?_concat, Option.some_inj]
  split
  · rw [List.dropLast_concat, List.append_nil]
  · rfl

end Pieces

/-- Every text is cut at some of its commas into pieces that make up its arguments: each piece is
trimmed, and the last one left out if it is empty. A comma is one of the cuts if and only if it
stands at a level place and the number of double quotes at level places before it is even. -/
theorem split_pieces (t : Text) :
    ∃ (front : List Text) (last : Text), Text.join [','] (front ++ [last]) = t ∧
      split t = front.map Text.trim ++ (if last = [] then [] else [last.trim]) ∧
      ∀ i, IsCut (front ++ [last]) i ↔
        t[i]? = some ',' ∧ nesting (t.take i) = 0 ∧ Even (levelQuotes (t.take i)) := by
  obtain ⟨front, last, whole⟩ : ∃ front last, pieces Position.start t = front ++ [last] :=
    (List.eq_nil_or_concat' _).resolve_left (pieces_ne_nil Position.start t)
  refine ⟨front, last, whole ▸ join_pieces Position.start t, ?_, fun i => ?_⟩
  · rw [split, whole, dropEmptyLast_concat, List.map_append]
    split <;> rfl
  · rw [← whole, isCut_pieces_iff, separates_through_iff]

/-- Nothing separates behind a parenthesis that was never opened, and a blank is an argument where
nothing at all is none. -/
example : split "a),b".toList = ["a),b".toList] ∧ split "a,".toList = [['a']] ∧
    split "a, ".toList = [['a'], []] := by
  decide

end Arguments

end Spreadsheet
