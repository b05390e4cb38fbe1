import Mathlib.Data.List.DropRight
import Spreadsheet.CommandLine.Run
import Spreadsheet.Proofs.CopiedText
import Spreadsheet.Proofs.SheetIds

/-!
# Printed sheets

A sheet is printed as a table of what its cells show, up to the last row and the last column in
which any of them shows something. Blank rows and columns before these keep their place. So where no
tab and no line feed is shown, the table can be read back from what is printed: each field stands
where its cell stands, and beyond the table nothing is shown.
-/

namespace Spreadsheet

/-- A count of indices that ends with the last one filled. -/
structure UpToLast (filled : Nat → Prop) (n : Nat) : Prop where
  last : ∀ i, n = i + 1 → filled i
  counted : ∀ i, filled i → i < n

theorem UpToLast.le {filled : Nat → Prop} {m n : Nat} (h : UpToLast filled m)
    (within : ∀ i, filled i → i < n) : m ≤ n := by
  cases m with
  | zero => exact Nat.zero_le n
  | succ i => exact within i (h.last i rfl)

/-- The last row and the last column in which something is shown. -/
structure LastShown (shown : Nat → Nat → Text) (bottom right : Nat) : Prop where
  inBottom : ∃ col, shown bottom col ≠ []
  inRight : ∃ row, shown row right ≠ []
  outside : ∀ row col, bottom < row ∨ right < col → shown row col = []

/-- There is only one last row and one last column. -/
theorem LastShown.unique {shown : Nat → Nat → Text} {bottom right bottom' right' : Nat}
    (h : LastShown shown bottom right) (h' : LastShown shown bottom' right') :
    bottom = bottom' ∧ right = right' := by
  obtain ⟨col, inBottom⟩ := h.inBottom
  obtain ⟨col', inBottom'⟩ := h'.inBottom
  obtain ⟨row, inRight⟩ := h.inRight
  obtain ⟨row', inRight'⟩ := h'.inRight
  have below := mt (h'.outside bottom col) inBottom
  have below' := mt (h.outside bottom' col') inBottom'
  have beyond := mt (h'.outside row right) inRight
  have beyond' := mt (h.outside row' right') inRight'
  omega

namespace CommandLine

/-! ## Trimming a table -/

section Trimming

variable {height width : Nat} {shown : Nat → Nat → Text}

theorem withoutTrailing_map_range {α : Type} (isBlank : α → Bool) (f : Nat → α) (n : Nat) :
    ∃ m, UpToLast (fun i => i < n ∧ isBlank (f i) = false) m ∧
      withoutTrailing isBlank ((List.range n).map f) = (List.range m).map f := by
  -- trimming begins at the last element, so the induction takes one away there
  induction n with
  | zero => exact ⟨0, ⟨fun i last => by omega, fun i h => h.1⟩, rfl⟩
  | succ n ih =>
    rw [List.range_succ, List.map_append]
    cases here : isBlank (f n) with
    | true =>
      obtain ⟨m, upTo, kept⟩ := ih
      have dropped := List.rdropWhile_concat_pos isBlank ((List.range n).map f) (f n) here
      refine ⟨m, ⟨fun i last => ?_, fun i h => ?_⟩, dropped.trans kept⟩
      · exact ⟨Nat.lt_succ_of_lt (upTo.last i last).1, (upTo.last i last).2⟩
      · refine upTo.counted i ⟨?_, h.2⟩
        rcases Nat.lt_succ_iff_lt_or_eq.mp h.1 with earlier | rfl
        · exact earlier
        · rw [here] at h
          cases h.2
    | false =>
      refine ⟨n + 1, ⟨fun i last => ?_, fun i h => h.1⟩, ?_⟩
      · cases last
        exact ⟨Nat.lt_succ_self _, here⟩
      · rw [List.range_succ, List.map_append]
        exact List.rdropWhile_concat_neg _ _ _ (by simp [here])

/-- Of several counts the greatest ends with the last index that is filled in any of the rows. -/
theorem upToLast_foldl_max {filled : Nat → Nat → Prop} {count : Nat → Nat} {rows : List Nat}
    (upTo : ∀ row, UpToLast (filled row) (count row))
    (within : ∀ row col, filled row col → row ∈ rows) :
    UpToLast (fun col => ∃ row, filled row col) ((rows.map count).foldl max 0) := by
  have greatest : ∀ row ∈ rows, count row ≤ (rows.map count).foldl max 0 := by
    have below := (Editor.foldl_max_lt_iff.mp (Nat.lt_succ_self ((rows.map count).foldl max 0))).2
    exact fun row mem => Nat.le_of_lt_succ (below _ (List.mem_map_of_mem mem))
  refine ⟨fun col last => ?_, ?_⟩
  · have reached : ¬(rows.map count).foldl max 0 < col + 1 := by omega
    rw [Editor.foldl_max_lt_iff, List.forall_mem_map] at reached
    push Not at reached
    obtain ⟨row, mem, long⟩ := reached (Nat.succ_pos col)
    exact ⟨row, (upTo row).last col (Nat.le_antisymm (last ▸ greatest row mem) long)⟩
  · rintro col ⟨row, here⟩
    exact Nat.lt_of_lt_of_le ((upTo row).counted col here) (greatest row (within row col here))

/-- A table is trimmed to the last row and the last column that are not blank. -/
theorem trimTable_tabulated
    (within : ∀ row col, shown row col ≠ [] → row < height ∧ col < width) :
    ∃ rows cols, UpToLast (fun row => ∃ col, shown row col ≠ []) rows ∧
      UpToLast (fun col => ∃ row, shown row col ≠ []) cols ∧
      trimTable (tabulated height width shown) = tabulated rows cols shown := by
  obtain ⟨rows, filledRows, keptRows⟩ := withoutTrailing_map_range
    (fun row => row.all List.isEmpty) (fun row => (List.range width).map (shown row)) height
  choose count filledCols keptCols using fun row =>
    withoutTrailing_map_range List.isEmpty (shown row) width
  have inRow : ∀ row col, (col < width ∧ (shown row col).isEmpty = false) ↔ shown row col ≠ [] := by
    intro row col
    rw [List.isEmpty_eq_false_iff, and_iff_right_iff_imp]
    exact fun here => (within row col here).2
  have inTable : ∀ row, (row < height ∧
      ((List.range width).map (shown row)).all List.isEmpty = false) ↔
        ∃ col, shown row col ≠ [] := by
    intro row
    simp only [List.all_map, List.all_eq_false, List.mem_range, Function.comp_apply,
      Bool.not_eq_true, inRow, and_iff_right_iff_imp, forall_exists_index]
    exact fun col here => (within row col here).1
  simp only [inRow] at filledCols
  simp only [inTable] at filledRows
  have kept : ∀ row col, shown row col ≠ [] → row ∈ List.range rows := fun row col here =>
    List.mem_range.mpr (filledRows.counted row ⟨col, here⟩)
  have longest := upToLast_foldl_max filledCols kept
  refine ⟨rows, _, filledRows, longest, ?_⟩
  have lengths : ((List.range rows).map fun row => (List.range width).map (shown row)).map
      (fun row => (withoutTrailing List.isEmpty row).length) = (List.range rows).map count := by
    rw [List.map_map]
    refine List.map_congr_left fun row _ => ?_
    rw [Function.comp_apply, keptCols, List.length_map, List.length_range]
  -- no row is shorter than the greatest count, so all are cut at the same column
  rw [trimTable, tabulated, keptRows, lengths, tabulated, List.map_map]
  refine List.map_congr_left fun row _ => ?_
  rw [Function.comp_apply, ← List.map_take, List.take_range, Nat.min_eq_left]
  refine longest.le ?_
  rintro col ⟨row, here⟩
  exact (within row col here).2

end Trimming

end CommandLine

namespace Editor

/-! ## What is printed -/

section Printing

variable (e : Editor) {row col : Nat}

/-- What the cell at a position shows, by the address that the position has. -/
def shownAt (row col : Nat) : Text :=
  ((e.sheet.address? row col).map e.display).getD []

theorem display_of_height_le (below : e.sheet.height ≤ row) (label : Text) :
    e.display ⟨row, label⟩ = [] := by
  have missing : e.sheet.find? ⟨row, label⟩ = none := by
    rw [Sheet.find?, Option.bind_eq_none_iff]
    intro place found
    obtain ⟨rfl, inside, -⟩ := Sheet.position?_eq_some found
    exact absurd inside (Nat.not_lt.mpr below)
  rw [display, value, missing]
  rfl

/-- Nothing is shown beyond the sheet. -/
theorem inside_of_shownAt (here : e.shownAt row col ≠ []) :
    row < e.sheet.height ∧ col < e.sheet.width := by
  cases label : e.sheet.headers[col]? with
  | none =>
    rw [shownAt, Sheet.address?, label] at here
    exact absurd rfl here
  | some text =>
    refine ⟨Nat.lt_of_not_le fun below => here ?_, (List.getElem?_eq_some_iff.mp label).1⟩
    rw [shownAt, Sheet.address?, label]
    exact e.display_of_height_le below text

theorem displayed_eq :
    CommandLine.displayed e = tabulated e.sheet.height e.sheet.width e.shownAt := by
  have fields : ∀ row, (e.sheet.headers.map fun label => e.display ⟨row, label⟩) =
      (List.range e.sheet.width).map (e.shownAt row) := by
    intro row
    refine List.ext_getElem (by simp [Sheet.width]) fun col inside _ => ?_
    rw [List.length_map] at inside
    have label := List.getElem?_eq_getElem inside
    simp [shownAt, Sheet.address?, label]
  simp only [CommandLine.displayed, fields]
  exact List.ext_getElem (by simp [tabulated, Sheet.height]) (by simp [tabulated])

/-- The table is printed up to the last row and the last column in which something is shown. -/
theorem printed_eq :
    ∃ rows cols, UpToLast (fun row => ∃ col, e.shownAt row col ≠ []) rows ∧
      UpToLast (fun col => ∃ row, e.shownAt row col ≠ []) cols ∧
      CommandLine.printed e = Tsv.print (tabulated rows cols e.shownAt) := by
  obtain ⟨rows, cols, filledRows, filledCols, trimmed⟩ :=
    CommandLine.trimTable_tabulated fun _ _ here => e.inside_of_shownAt here
  exact ⟨rows, cols, filledRows, filledCols, by rw [CommandLine.printed, displayed_eq, trimmed]⟩

end Printing

/-- Let nothing that a sheet shows hold a tab or a line feed. If nothing is shown at all, nothing is
printed. Otherwise there are a last row and a last column in which something is shown, and what is
read from the printed text is the table of what all cells up to these show; no other cell shows
anything. -/
theorem printed_read_back (e : Editor)
    (plain : ∀ row col, '\t' ∉ e.shownAt row col ∧ '\n' ∉ e.shownAt row col) :
    ((∀ row col, e.shownAt row col = []) → CommandLine.printed e = []) ∧
      ((∃ row col, e.shownAt row col ≠ []) →
        ∃ bottom right, LastShown e.shownAt bottom right ∧
          Tsv.parse (CommandLine.printed e) =
            tabulated (bottom + 1) (right + 1) e.shownAt) := by
  obtain ⟨rows, cols, filledRows, filledCols, printed⟩ := e.printed_eq
  rw [printed]
  constructor
  · intro blank
    have none : rows ≤ 0 := by
      refine filledRows.le ?_
      rintro row ⟨col, here⟩
      exact absurd (blank row col) here
    rw [Nat.le_zero.mp none]
    rfl
  · rintro ⟨row, col, here⟩
    obtain ⟨bottom, rfl⟩ := Nat.exists_eq_add_one.mpr
      (Nat.zero_lt_of_lt (filledRows.counted row ⟨col, here⟩))
    obtain ⟨right, rfl⟩ := Nat.exists_eq_add_one.mpr
      (Nat.zero_lt_of_lt (filledCols.counted col ⟨row, here⟩))
    have separable : Tsv.Separable (tabulated (bottom + 1) (right + 1) e.shownAt) :=
      Tsv.separable_tabulated (Nat.succ_ne_zero bottom) (Nat.succ_ne_zero right)
        fun row _ col _ => plain row col
    refine ⟨bottom, right, ⟨filledRows.last bottom rfl, filledCols.last right rfl, ?_⟩,
      separable.parse_print⟩
    intro row col outside
    by_contra here
    have above := filledRows.counted row ⟨col, here⟩
    have before := filledCols.counted col ⟨row, here⟩
    omega

/-- Texts at two corners, with a row and a column between them, and a formula that shows nothing
beyond both. -/
def cornersShown : List Action :=
  [.write ⟨0, ['A']⟩ "tea".toList, .write ⟨2, ['C']⟩ "milk".toList,
    .write ⟨3, ['D']⟩ "=TRIM( )".toList]

/-- The blank row and column keep their place, and the formula is not printed. -/
theorem cornersShown_printed :
    let e := (start ⟨4, 4, 1, 300⟩ ⟨.memory, .nothing, true, true, 0⟩).run cornersShown
    (∀ row col, '\t' ∉ e.shownAt row col ∧ '\n' ∉ e.shownAt row col) ∧
      e.rawAt 3 3 = "=TRIM( )".toList ∧
      Tsv.parse (CommandLine.printed e) =
        [["tea".toList, [], []], [[], [], []], [[], [], "milk".toList]] := by
  intro e
  have corners : ∀ row col, e.shownAt row col ≠ [] → row = 0 ∧ col = 0 ∨ row = 2 ∧ col = 2 := by
    have filled : ∀ row < 4, ∀ col < 4, e.shownAt row col ≠ [] →
        row = 0 ∧ col = 0 ∨ row = 2 ∧ col = 2 := by
      decide +kernel
    intro row col here
    obtain ⟨inRows, inCols⟩ := e.inside_of_shownAt here
    exact filled row inRows col inCols here
  have plain : ∀ row col, '\t' ∉ e.shownAt row col ∧ '\n' ∉ e.shownAt row col := by
    intro row col
    by_cases here : e.shownAt row col = []
    · rw [here]
      exact ⟨List.not_mem_nil, List.not_mem_nil⟩
    · rcases corners row col here with ⟨rfl, rfl⟩ | ⟨rfl, rfl⟩ <;> decide
  have last : LastShown e.shownAt 2 2 := by
    refine ⟨⟨2, by decide⟩, ⟨2, by decide⟩, fun row col outside => ?_⟩
    by_contra here
    have := corners row col here
    omega
  obtain ⟨bottom, right, last', read⟩ := (printed_read_back e plain).2 ⟨0, 0, by decide⟩
  obtain ⟨rfl, rfl⟩ := last'.unique last
  exact ⟨plain, by decide, read.trans (by decide)⟩

end Editor

end Spreadsheet
