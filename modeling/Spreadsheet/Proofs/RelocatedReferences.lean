import Spreadsheet.Proofs.ColumnOrdinals
import Spreadsheet.Proofs.Segments

/-!
# Where references go

A move takes a token along on the axes that carry no `$`, and marks it as lost when it would end up
before the first column or the first row. For tokens whose numbers are sizes that is what becomes of
every token outside of quotes, with one exception: a row that falls below zero, and not just to
zero, leaves its token as it was.
-/

namespace Spreadsheet

namespace Token

/-- The column of a token after a move, counted from zero. -/
def columnAfter (cols : Int) (k : Token) : Int :=
  Column.count k.letters - 1 + cols

/-- The row of a token after a move, counted from one. -/
def rowAfter (rows : Int) (k : Token) : Int :=
  Text.toNat k.digits + rows

/-- On the axes that are moved, the numbers of a token are sizes before and after. -/
structure Sized (rows cols : Int) (k : Token) : Prop where
  column : k.colFixed = false →
    Column.count k.letters < sizeBound ∧ k.columnAfter cols < sizeBound
  row : k.rowFixed = false → Text.toNat k.digits < sizeBound ∧ k.rowAfter rows < sizeBound

instance (rows cols : Int) (k : Token) : Decidable (k.Sized rows cols) :=
  decidable_of_iff ((k.colFixed = false →
        Column.count k.letters < sizeBound ∧ k.columnAfter cols < sizeBound) ∧
      (k.rowFixed = false → Text.toNat k.digits < sizeBound ∧ k.rowAfter rows < sizeBound))
    ⟨fun ⟨column, row⟩ => ⟨column, row⟩, fun sized => ⟨sized.column, sized.row⟩⟩

/-- The column is not lost and the row falls below zero. -/
def Sinks (rows cols : Int) (k : Token) : Prop :=
  k.rowFixed = false ∧ k.rowAfter rows < 0 ∧ (k.colFixed = true ∨ 0 ≤ k.columnAfter cols)

instance (rows cols : Int) (k : Token) : Decidable (k.Sinks rows cols) :=
  inferInstanceAs (Decidable (_ ∧ _))

/-- The rule of a move. A token with both markers stays; any other is lost if it would come to stand
before the first column or row, and else has new letters and digits where there is no marker. -/
def relocated (rows cols : Int) (k : Token) : Text :=
  if k.colFixed ∧ k.rowFixed then k.toText
  else if k.colFixed = false ∧ k.columnAfter cols < 0 then Relocation.lost
  else if k.rowFixed = false ∧ k.rowAfter rows < 1 then Relocation.lost
  else
    let letters := if k.colFixed then k.letters else Column.label (k.columnAfter cols).toNat
    let digits := if k.rowFixed then k.digits else Text.ofNat (k.rowAfter rows).toNat
    marker k.colFixed ++ letters ++ marker k.rowFixed ++ digits

end Token

namespace Relocation

section Tokens

variable {rows cols : Int} {k : Token}

/-- The letters after a move, unless the column is lost. -/
theorem shift?_eq (proper : k.Proper) (free : k.colFixed = false) (sized : k.Sized rows cols) :
    Column.shift? k.letters cols =
      if k.columnAfter cols < 0 then none
      else some (Column.label (k.columnAfter cols).toNat) := by
  obtain ⟨before, after⟩ := sized.column free
  have pos := Column.count_pos proper.lettered
  have target : ((Column.count k.letters - 1 : Nat) : Int) + cols = k.columnAfter cols := by
    rw [Token.columnAfter]
    omega
  simp only [Column.shift?, Column.ordinal?_eq proper.upper proper.lettered before,
    Option.bind_some, target]
  by_cases low : k.columnAfter cols < 0
  · rw [if_pos low, if_neg (by omega)]
  · rw [if_neg low, if_pos (by omega)]

theorem shiftRow_eq (free : k.rowFixed = false) (sized : k.Sized rows cols) :
    shiftRow k.digits rows =
      if k.rowAfter rows < 0 then .unwritable
      else if k.rowAfter rows = 0 then .beforeFirst
      else .row (k.rowAfter rows).toNat := by
  obtain ⟨before, after⟩ := sized.row free
  have target : (Text.toNat k.digits : Int) + rows = k.rowAfter rows := rfl
  simp only [shiftRow, target]
  by_cases low : k.rowAfter rows < 0
  · rw [if_pos low, if_neg (by omega)]
  · rw [if_neg low, if_pos (by omega)]

/-- A token goes by the rule unless its row sinks below zero. -/
theorem token_eq (proper : k.Proper) (sized : k.Sized rows cols) :
    token rows cols k = if k.Sinks rows cols then k.toText else k.relocated rows cols := by
  simp only [token, Token.relocated, Token.Sinks]
  cases col : k.colFixed with
  | true =>
    cases row : k.rowFixed with
    | true => simp [Token.toText]
    | false =>
      simp only [shiftRow_eq row sized]
      rcases Int.lt_trichotomy (k.rowAfter rows) 0 with low | zero | high
      · simp [low]
      · simp [zero]
      · simp [Token.toText, show ¬ k.rowAfter rows < 0 by omega,
          show k.rowAfter rows ≠ 0 by omega, show ¬ k.rowAfter rows < 1 by omega]
  | false =>
    simp only [shift?_eq proper col sized]
    by_cases before : k.columnAfter cols < 0
    · simp [before, show ¬ 0 ≤ k.columnAfter cols by omega]
    · cases row : k.rowFixed with
      | true => simp [before, Token.toText]
      | false =>
        simp only [shiftRow_eq row sized]
        rcases Int.lt_trichotomy (k.rowAfter rows) 0 with low | zero | high
        · simp [before, low, show 0 ≤ k.columnAfter cols by omega]
        · simp [before, zero]
        · simp [before, Token.toText, show ¬ k.rowAfter rows < 0 by omega,
            show k.rowAfter rows ≠ 0 by omega, show ¬ k.rowAfter rows < 1 by omega]

end Tokens

/-- A formula that moves is cut in one way; put together again it has each token as the rule has it,
unless its row sinks below zero, and all other characters as they were. -/
theorem formula_relocated {rows cols : Int} (moved : ¬ (rows = 0 ∧ cols = 0)) (t : Text) :
    ∃ segments, Segment.Cut false t segments ∧
      (∀ others, Segment.Cut false t others → others = segments) ∧
      ∃ piece : Segment → Text, formula rows cols t = segments.flatMap piece ∧
        (∀ c, piece (.plain c) = [c]) ∧
        ∀ k, .token k ∈ segments → k.Sized rows cols →
          piece (.token k) = if k.Sinks rows cols then k.toText else k.relocated rows cols := by
  have cut := Segment.cut_scan false t
  refine ⟨_, cut, fun others h => Segment.cut_iff.mp h, segment rows cols, ?_, fun c => rfl, ?_⟩
  · rw [formula, if_neg moved]
    rfl
  · intro k found sized
    exact token_eq (cut.proper found) sized

/-- Three rows down and one column to the left, the column with its `$` stays, and so does the text
between quotes. -/
theorem fixedColumn_relocated :
    ¬ ((3 : Int) = 0 ∧ (-1 : Int) = 0) ∧
      Token.Sized 3 (-1) ⟨true, ['A'], false, ['1']⟩ ∧
      formula 3 (-1) "=$A1&\"B2\"".toList = "=$A4&\"B2\"".toList := by
  have sized : Token.Sized 3 (-1) ⟨true, ['A'], false, ['1']⟩ := by decide
  obtain ⟨segments, cut, -, piece, moved, plain, token⟩ :=
    formula_relocated (show ¬ ((3 : Int) = 0 ∧ (-1 : Int) = 0) by decide) "=$A1&\"B2\"".toList
  have found : segments =
      .plain '=' :: .token ⟨true, ['A'], false, ['1']⟩ :: "&\"B2\"".toList.map .plain :=
    (Segment.cut_iff.mp cut).trans (by decide)
  have shifted := token _ (found ▸ .tail _ (.head _)) sized
  refine ⟨by decide, sized, ?_⟩
  rw [moved, found, List.flatMap_cons, List.flatMap_cons, List.flatMap_map, shifted]
  simp only [plain]
  decide

/-- A sum over `A1:B2` two rows up. By the rule both ends are lost, but the first one sinks and
stays. -/
theorem sum_sinks :
    let first : Token := ⟨false, ['A'], false, ['1']⟩
    let last : Token := ⟨false, ['B'], false, ['2']⟩
    first.Sized (-2) 0 ∧ last.Sized (-2) 0 ∧
      first.relocated (-2) 0 = lost ∧ last.relocated (-2) 0 = lost ∧
      formula (-2) 0 ("=SUM(".toList ++ (first.toText ++ ':' :: (last.toText ++ [')']))) =
        "=SUM(".toList ++ (first.toText ++ ':' :: (lost ++ [')'])) := by
  decide

end Relocation

end Spreadsheet
