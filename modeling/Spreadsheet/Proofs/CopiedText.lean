import Spreadsheet.Proofs.PastedBlocks

/-!
# Copied text

A copy is also a text, with the fields of the block between tabs and line feeds. A text that is read
and printed again is the same text. The other way round the fields come back where none of them
holds a tab or a line feed, and there is at least one on every line. So between two editors a block
can travel as its text: each cell arrives as what was typed into it, without the blanks around it.
-/

namespace Spreadsheet

namespace Tsv

variable {rows : List (List Text)}

theorem print_parse (t : Text) : print (parse t) = t := by
  have lines : (parse t).map (Text.join ['\t']) = t.splitOn '\n' := by
    rw [parse, List.map_map]
    exact (List.map_congr_left fun line _ => List.intercalate_splitOn '\t').trans (List.map_id _)
  rw [print, lines]
  exact List.intercalate_splitOn '\n'

/-- Lines with at least one field each, and no separator in any field. -/
structure Separable (rows : List (List Text)) : Prop where
  lines : rows ≠ []
  fields : ∀ row ∈ rows, row ≠ []
  apart : ∀ row ∈ rows, ∀ t ∈ row, '\t' ∉ t ∧ '\n' ∉ t

/-- Joining by one character brings no other one in. -/
theorem not_mem_join {c d : Char} (other : c ≠ d) {parts : List Text} (none : ∀ t ∈ parts, c ∉ t) :
    c ∉ Text.join [d] parts := by
  induction parts with
  | nil => simp [Text.join, List.intercalate]
  | cons t rest ih =>
    cases rest with
    | nil => simpa [Text.join, List.intercalate] using none
    | cons u rest =>
      have joined : Text.join [d] (t :: u :: rest) = t ++ d :: Text.join [d] (u :: rest) := by
        simp [Text.join, List.intercalate]
      rw [joined, List.mem_append, List.mem_cons]
      rintro (first | rfl | later)
      · exact none t List.mem_cons_self first
      · exact other rfl
      · exact ih (fun v hv => none v (List.mem_cons_of_mem t hv)) later

theorem Separable.parse_print (h : Separable rows) : parse (print rows) = rows := by
  have lines : (print rows).splitOn '\n' = rows.map (Text.join ['\t']) := by
    apply List.splitOn_intercalate
    · intro line hline
      obtain ⟨row, hrow, rfl⟩ := List.mem_map.mp hline
      exact not_mem_join (by decide) fun t ht => (h.apart row hrow t ht).2
    · simpa using h.lines
  have fields : ∀ row ∈ rows, (Text.join ['\t'] row).splitOn '\t' = row := by
    intro row hrow
    exact List.splitOn_intercalate '\t' (fun t ht => (h.apart row hrow t ht).1) (h.fields row hrow)
  rw [parse, lines, List.map_map]
  exact (List.map_congr_left fields).trans (List.map_id _)

theorem field?_eq (t : Text) (i j : Nat) : field? t i j = (parse t)[i]?.bind (·[j]?) := by
  rw [field?, parse, List.getElem?_map, Option.bind_map]
  rfl

end Tsv

/-- The table of the first rows and columns. -/
def tabulated {α : Type} (height width : Nat) (value : Nat → Nat → α) : List (List α) :=
  (List.range height).map fun row => (List.range width).map (value row)

/-- A table of what stands in a block, each at its place within the block. -/
def Block.table {α : Type} (b : Block) (value : Nat → Nat → α) : List (List α) :=
  (List.range (b.bottom + 1 - b.top)).map fun i =>
    (List.range (b.right + 1 - b.left)).map fun j => value (b.top + i) (b.left + j)

section Tables

variable {α : Type} {b : Block} {value : Nat → Nat → α}

theorem Block.table_eq_tabulated (b : Block) (value : Nat → Nat → α) :
    b.table value = tabulated (b.bottom + 1 - b.top) (b.right + 1 - b.left)
      fun row col => value (b.top + row) (b.left + col) :=
  rfl

theorem Tsv.separable_tabulated {height width : Nat} {value : Nat → Nat → Text}
    (rows : height ≠ 0) (cols : width ≠ 0)
    (plain : ∀ row < height, ∀ col < width, '\t' ∉ value row col ∧ '\n' ∉ value row col) :
    Separable (tabulated height width value) where
  lines := by simpa [tabulated] using rows
  fields := by simp [tabulated, cols]
  apart := by
    simp only [tabulated, List.forall_mem_map, List.mem_range]
    exact plain

theorem Block.getElem?_table {i j : Nat} (row : b.top + i ≤ b.bottom)
    (col : b.left + j ≤ b.right) :
    (b.table value)[i]?.bind (·[j]?) = some (value (b.top + i) (b.left + j)) := by
  have hi : (List.range (b.bottom + 1 - b.top))[i]? = some i :=
    List.getElem?_range (by omega)
  have hj : (List.range (b.right + 1 - b.left))[j]? = some j :=
    List.getElem?_range (by omega)
  simp only [table, List.getElem?_map, hi, hj, Option.map_some, Option.bind_some]

/-- What the elements of a span are turned into, by their positions. -/
theorem Block.map_span_eq_range {β : Type} {first last : Nat} {xs : List α} {f : α → β}
    (value : Nat → β) (inside : last < xs.length)
    (same : ∀ n x, first ≤ n → n ≤ last → xs[n]? = some x → f x = value n) :
    (span first last xs).map f =
      (List.range (last + 1 - first)).map fun n => value (first + n) := by
  apply List.ext_getElem?
  intro n
  simp only [List.getElem?_map, getElem?_span]
  by_cases reached : first + n ≤ last
  · have here : xs[first + n]? = some xs[first + n] := List.getElem?_eq_getElem (by omega)
    have counted : (List.range (last + 1 - first))[n]? = some n := List.getElem?_range (by omega)
    rw [if_pos reached, here, counted]
    exact congrArg some (same _ _ (by omega) reached here)
  · have counted : (List.range (last + 1 - first))[n]? = none := by
      simp
      omega
    rw [if_neg reached, counted]
    rfl

/-- What the cells of a block within the grid are turned into is a table. -/
theorem Grid.map_extract {g : Grid} {width : Nat} (even : g.Even width)
    (bottom : b.bottom < g.length) (right : b.right < width) {f : Cell → α}
    (same : ∀ row col cell, g.cell? row col = some cell → f cell = value row col) :
    (g.extract b).map (fun row => row.map f) = b.table value := by
  rw [extract, Block.rows, List.map_map]
  refine Block.map_span_eq_range (fun i => (List.range (b.right + 1 - b.left)).map
    fun j => value i (b.left + j)) bottom ?_
  intro i row _ _ here
  have wide : row.length = width := even row (List.mem_of_getElem? here)
  refine Block.map_span_eq_range (value i) (by omega) ?_
  intro j cell _ _ there
  exact same i j cell (cell?_eq_some_iff.mpr ⟨row, here, there⟩)

end Tables

theorem Cell.toText_ofText (t : Text) : (ofText t).toText = t := by
  by_cases nothing : t = []
  · subst nothing
    rfl
  · rw [ofText, if_neg nothing]
    rfl

theorem Cell.toText_trimmed_ofText (t : Text) : (ofText t).trimmed.toText = t.trim := by
  by_cases nothing : t = []
  · subst nothing
    rfl
  · rw [ofText, if_neg nothing]
    exact toText_ofText t.trim

namespace Editor

/-- The raw text of the cell at a position, by the address that the position has. -/
def rawAt (e : Editor) (row col : Nat) : Text :=
  ((e.sheet.address? row col).map e.raw).getD []

section Texts

variable {e e' : Editor} {b : Block} {row col : Nat}

theorem rawAt_of_cell? (sound : e.sheet.Sound) {cell : Cell}
    (here : e.sheet.cell? row col = some cell) : e.rawAt row col = cell.toText := by
  obtain ⟨inside, reached⟩ := Grid.cell?_inside sound.even here
  have label : e.sheet.headers[col]? = some e.sheet.headers[col] := List.getElem?_eq_getElem reached
  have place : e.sheet.position? ⟨row, e.sheet.headers[col]⟩ = some (row, col) :=
    Sheet.position?_of_column? inside ((idxOf?_iff_getElem? sound.distinct).mpr label)
  rw [rawAt, Sheet.address?, label]
  simp only [Option.map_some, Option.getD_some, raw, Sheet.find?_of_position? place, here]

/-- The rows of a selected block do not lie the wrong way round. -/
theorem Valid.selectedBlock_rows (valid : e.Valid) (selected : e.selectedBlock? = some b) :
    b.top ≤ b.bottom := by
  rw [selectedBlock?] at selected
  split at selected
  · rename_i x selection
    exact (valid.block_inside selection selected).1
  · obtain ⟨a, -, found⟩ := Option.bind_eq_some_iff.mp selected
    obtain ⟨place, -, single⟩ := Option.bind_eq_some_iff.mp found
    cases single
    exact Nat.le_refl _

/-- What a copy answers is the print of the raw texts of the block. -/
theorem reply_copy (valid : e.Valid) (selected : e.selectedBlock? = some b) :
    (e.perform .copy).1 = .text (some (Tsv.print (b.table e.rawAt))) := by
  obtain ⟨bottom, right⟩ := valid.selectedBlock_inside selected
  have sound := sheet_sound valid.workbook
  have texts : (Grid.extract e.sheet.rows b).map (fun row => row.map Cell.toText) =
      b.table e.rawAt :=
    Grid.map_extract sound.even bottom right fun row col cell here =>
      (rawAt_of_cell? sound here).symm
  simp only [perform, copy?, selected, Option.map_some, snapshot, ifTaken, Tsv.printCells, texts]

theorem separable_table (valid : e.Valid) (selected : e.selectedBlock? = some b)
    (forward : b.left ≤ b.right)
    (plain : ∀ i j, b.contains i j = true → '\t' ∉ e.rawAt i j ∧ '\n' ∉ e.rawAt i j) :
    Tsv.Separable (b.table e.rawAt) := by
  have rows := valid.selectedBlock_rows selected
  rw [Block.table_eq_tabulated]
  refine Tsv.separable_tabulated (by omega) (by omega) fun i hi j hj => ?_
  exact plain _ _ (Block.contains_iff.mpr ⟨by omega, by omega, by omega, by omega⟩)

/-- A paste of a text that is read as a table, where nothing is on the clipboard: every cell of the
table that falls on the sheet arrives as if typed, without the blanks around it. -/
theorem rawAt_paste {value : Nat → Nat → Text} {t : Text} (read : Tsv.parse t = b.table value)
    (valid : e'.Valid) (bare : e'.clipboard = none) {target : Address}
    (place : e'.sheet.position? target = some (row, col)) {i j : Nat} (inRows : b.top + i ≤ b.bottom)
    (inCols : b.left + j ≤ b.right) (fits : row + i < e'.sheet.height)
    (reaches : col + j < e'.sheet.width) :
    (e'.perform (.paste target (some t))).2.rawAt (row + i) (col + j) =
      (value (b.top + i) (b.left + j)).trim := by
  have after : (e'.perform (.paste target (some t))).2.Valid := valid.run [.paste target (some t)]
  have field : Tsv.field? t i j = some (value (b.top + i) (b.left + j)) := by
    rw [Tsv.field?_eq, read]
    exact Block.getElem?_table inRows inCols
  have brought : e'.brought? row col (some t) i j =
      some (Cell.ofText (value (b.top + i) (b.left + j))) := by
    simp only [brought?, bare, field, Option.map_some]
  have written := (pasted_paste valid.workbook place (some t)).written i j _ brought fits reaches
  rw [rawAt_of_cell? (sheet_sound after.workbook) written]
  exact Cell.toText_trimmed_ofText _

end Texts

/-- Every text is the print of what is read from it. Let a run reach an editor with a block selected
that has at least one column, and no tab or line feed in its raw texts. What is read from the text
that a copy answers is the table of these raw texts. Let another run reach an editor with nothing on
the clipboard. Pasted at a cell where there is room for the block, the text brings every cell the raw
text of its cell in the block, without the blanks around it. -/
theorem run_copied_text (c c' : Config) (store store' : Store) (before before' : List Action) :
    let e := (start c store).run before
    let e' := (start c' store').run before'
    (∀ t, Tsv.print (Tsv.parse t) = t) ∧
    ∀ b, e.selectedBlock? = some b → b.left ≤ b.right →
      (∀ i j, b.contains i j = true → '\t' ∉ e.rawAt i j ∧ '\n' ∉ e.rawAt i j) →
      ∃ t, (e.perform .copy).1 = .text (some t) ∧ Tsv.parse t = b.table e.rawAt ∧
        ∀ target row col, e'.clipboard = none → e'.sheet.position? target = some (row, col) →
          row + (b.bottom - b.top) < e'.sheet.height → col + (b.right - b.left) < e'.sheet.width →
          ∀ i j, b.top + i ≤ b.bottom → b.left + j ≤ b.right →
            (e'.perform (.paste target (some t))).2.rawAt (row + i) (col + j) =
              (e.rawAt (b.top + i) (b.left + j)).trim := by
  intro e e'
  refine ⟨Tsv.print_parse, ?_⟩
  intro b selected forward plain
  have valid : e.Valid := valid_run c store before
  have valid' : e'.Valid := valid_run c' store' before'
  have read : Tsv.parse (Tsv.print (b.table e.rawAt)) = b.table e.rawAt :=
    (separable_table valid selected forward plain).parse_print
  refine ⟨_, reply_copy valid selected, read, ?_⟩
  intro target row col bare place rows cols i j inRows inCols
  exact rawAt_paste read valid' bare place inRows inCols (by omega) (by omega)

/-- Two texts at the corners of two rows and columns, all of them selected. -/
def cornersSelected : List Action :=
  [.write ⟨0, ['A']⟩ " tea ".toList, .write ⟨1, ['B']⟩ "=SUM(A1:A1)".toList, .press ⟨0, ['A']⟩,
    .dragOver ⟨1, ['B']⟩]

/-- The text of the four cells puts them down on another, larger sheet. -/
theorem cornersSelected_pasted :
    let e := (start ⟨2, 2, 1, 300⟩ ⟨.memory, .nothing, true, true, 0⟩).run cornersSelected
    let e' := start ⟨3, 3, 1, 300⟩ ⟨.memory, .nothing, true, true, 0⟩
    e.selectedBlock? = some ⟨0, 1, 0, 1⟩ ∧ e'.sheet.position? ⟨1, ['B']⟩ = some (1, 1) ∧
      ∃ t, (e.perform .copy).1 = .text (some t) ∧
        Tsv.parse t = [[" tea ".toList, []], [[], "=SUM(A1:A1)".toList]] ∧
        (e'.perform (.paste ⟨1, ['B']⟩ (some t))).2.rawAt 1 1 = "tea".toList ∧
        (e'.perform (.paste ⟨1, ['B']⟩ (some t))).2.rawAt 1 2 = [] ∧
        (e'.perform (.paste ⟨1, ['B']⟩ (some t))).2.rawAt 2 2 = "=SUM(A1:A1)".toList := by
  intro e e'
  have selected : e.selectedBlock? = some ⟨0, 1, 0, 1⟩ := by decide
  have place : e'.sheet.position? ⟨1, ['B']⟩ = some (1, 1) := by decide
  have plain : ∀ i j, Block.contains ⟨0, 1, 0, 1⟩ i j = true →
      '\t' ∉ e.rawAt i j ∧ '\n' ∉ e.rawAt i j := by
    intro i j inside
    obtain ⟨-, (row : i ≤ 1), -, (col : j ≤ 1)⟩ := Block.contains_iff.mp inside
    have rows : i = 0 ∨ i = 1 := by omega
    have cols : j = 0 ∨ j = 1 := by omega
    rcases rows with rfl | rfl <;> rcases cols with rfl | rfl <;> decide
  obtain ⟨-, copied⟩ := run_copied_text ⟨2, 2, 1, 300⟩ ⟨3, 3, 1, 300⟩
    ⟨.memory, .nothing, true, true, 0⟩ ⟨.memory, .nothing, true, true, 0⟩ cornersSelected []
  obtain ⟨t, answer, read, pasted⟩ := copied ⟨0, 1, 0, 1⟩ selected (by decide) plain
  have arrives := pasted ⟨1, ['B']⟩ 1 1 (by decide) place (by decide) (by decide)
  refine ⟨selected, place, t, answer, read.trans (by decide), ?_, ?_, ?_⟩
  · exact (arrives 0 0 (by decide) (by decide)).trans (by decide)
  · exact (arrives 0 1 (by decide) (by decide)).trans (by decide)
  · exact (arrives 1 1 (by decide) (by decide)).trans (by decide)

end Editor

end Spreadsheet
