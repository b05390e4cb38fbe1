import Spreadsheet.Proofs.AggregateText
import Spreadsheet.Proofs.Validity

/-!
# Blocks copied elsewhere

A block whose formulas refer to nothing outside it means the same wherever it is put down. The copy
of a formula covers, within the copied block, the part that the formula covered within the block it
came from, and copied cells count in an aggregate as what they were. That the two blocks may overlap
does not matter: what is put down was taken before.
-/

namespace Spreadsheet

namespace Block

/-- What each cell of the block counts as, row by row. -/
def numerals (b : Block) (g : Grid) : List (List (Option Float)) :=
  (b.rows g).map fun row => (b.cells row).map Cell.numericValue?

theorem values_eq_numerals (b : Block) (g : Grid) :
    b.values g = (b.numerals g).flatMap fun row => row.filterMap id := by
  rw [values, numerals, List.flatMap_map]
  congr 1
  funext row
  rw [List.filterMap_map]
  rfl

section Displaced

variable {g g' : Grid} {top left top' left' height width : Nat}

/-- Parts at the same place within two blocks have the same values if the blocks count the same
cell by cell. -/
theorem values_eq_of_numericValue? (rows : top + height < g.length)
    (rows' : top' + height < g'.length)
    (same : ∀ i j, i ≤ height → j ≤ width →
      (g'.cell? (top' + i) (left' + j)).map Cell.numericValue? =
        (g.cell? (top + i) (left + j)).map Cell.numericValue?)
    {i₁ i₂ j₁ j₂ : Nat} (hi : i₂ ≤ height) (hj : j₂ ≤ width) :
    values ⟨top' + i₁, top' + i₂, left' + j₁, left' + j₂⟩ g' =
      values ⟨top + i₁, top + i₂, left + j₁, left + j₂⟩ g := by
  rw [values_eq_numerals, values_eq_numerals]
  congr 1
  apply List.ext_getElem?
  intro i
  simp only [numerals, Block.rows, List.getElem?_map, getElem?_span]
  by_cases inside : i₁ + i ≤ i₂
  · have here : g[top + (i₁ + i)]? = some g[top + (i₁ + i)] := List.getElem?_eq_getElem (by omega)
    have there : g'[top' + (i₁ + i)]? = some g'[top' + (i₁ + i)] :=
      List.getElem?_eq_getElem (by omega)
    rw [if_pos (by omega), if_pos (by omega), Nat.add_assoc, Nat.add_assoc, here, there,
      Option.map_some, Option.map_some]
    congr 1
    apply List.ext_getElem?
    intro j
    simp only [cells, List.getElem?_map, getElem?_span]
    by_cases reached : j₁ + j ≤ j₂
    · have cell := same (i₁ + i) (j₁ + j) (by omega) (by omega)
      simp only [Grid.cell?, here, there, Option.bind_some] at cell
      rw [if_pos (by omega), if_pos (by omega), Nat.add_assoc, Nat.add_assoc]
      exact cell
    · rw [if_neg (by omega), if_neg (by omega)]
  · rw [if_neg (by omega), if_neg (by omega)]
    rfl

end Displaced

end Block

namespace Grid

theorem cell?_extract (g : Grid) (b : Block) (i j : Nat) :
    (g.extract b).cell? i j =
      if b.top + i ≤ b.bottom ∧ b.left + j ≤ b.right then g.cell? (b.top + i) (b.left + j)
      else none := by
  simp only [cell?, extract, Block.rows, List.getElem?_map, Block.getElem?_span]
  by_cases row : b.top + i ≤ b.bottom
  · rw [if_pos row]
    cases g[b.top + i]? with
    | none => simp
    | some cells =>
      simp only [Option.map_some, Option.bind_some, Block.cells, Block.getElem?_span, row,
        true_and]
  · rw [if_neg row, if_neg fun inside => row inside.1]
    rfl

theorem cell?_map (f : Cell → Cell) (g : Grid) (i j : Nat) :
    Grid.cell? (g.map fun cells => cells.map f) i j = (g.cell? i j).map f := by
  simp only [cell?, List.getElem?_map]
  cases g[i]? with
  | none => rfl
  | some cells => simp

theorem cell?_write {g cells : Grid} {row col i j : Nat} {new : Cell}
    (inside : (g.cell? (row + i) (col + j)).isSome = true)
    (brought : cells.cell? i j = some new) :
    (g.write row col cells).cell? (row + i) (col + j) = some new := by
  obtain ⟨old, here⟩ := Option.isSome_iff_exists.mp inside
  rw [write, cell?_mapCells, here, Option.map_some, if_pos ⟨by omega, by omega⟩,
    Nat.add_sub_cancel_left, Nat.add_sub_cancel_left, brought, Option.getD_some]

theorem le_foldl_add (xs : List Nat) (n : Nat) : n ≤ xs.foldl (· + ·) n := by
  induction xs generalizing n with
  | nil => exact Nat.le_refl n
  | cons x rest ih => exact Nat.le_trans (Nat.le_add_right n x) (ih (n + x))

/-- Where the first cell finds a place, the paste has something to do. -/
theorem fitting_pos {g cells : Grid} {row col : Nat}
    (inside : (g.cell? row col).isSome = true) (brought : (cells.cell? 0 0).isSome = true) :
    0 < g.fitting row col cells := by
  obtain ⟨old, here⟩ := Option.isSome_iff_exists.mp inside
  obtain ⟨new, first⟩ := Option.isSome_iff_exists.mp brought
  obtain ⟨oldRow, hrow, hcol⟩ := cell?_eq_some_iff.mp here
  obtain ⟨newRow, hfirst, hnew⟩ := cell?_eq_some_iff.mp first
  have reach := (List.getElem?_eq_some_iff.mp hcol).1
  have some_new := (List.getElem?_eq_some_iff.mp hnew).1
  have dropped : g.drop row = oldRow :: g.drop (row + 1) := by
    obtain ⟨below, rfl⟩ := List.getElem?_eq_some_iff.mp hrow
    exact List.drop_eq_getElem_cons below
  obtain ⟨rest, rfl⟩ : ∃ rest, cells = newRow :: rest := by
    cases cells with
    | nil => cases hfirst
    | cons row rest =>
      cases hfirst
      exact ⟨rest, rfl⟩
  rw [fitting, dropped, List.zipWith_cons_cons, List.foldl_cons]
  have least := le_foldl_add
    (List.zipWith (fun row new => min new.length (row.length - col)) (g.drop (row + 1)) rest)
    (0 + min newRow.length (oldRow.length - col))
  omega

end Grid

/-- Cells that mean the same with their block anywhere: no text has blanks around it, and each
formula calls an aggregate with a range between two addresses of the block, written without markers
and leading zeros. -/
def Cell.SelfContained (s : Sheet) (b : Block) : Cell → Prop
  | .text t =>
    if isFormulaText t then
      ∃ f x y, Function.isAggregate f = true ∧ Editor.inBlock s b x = true ∧
        Editor.inBlock s b y = true ∧ t = Formula.rangeCall f x y
    else t.trim = t
  | _ => True

/-- What a cell shows in its place on a grid. -/
def Cell.valueIn (g : Grid) (headers : List Text) : Cell → Value
  | .number x => .number x
  | .text t => if isFormulaText t then Formula.evaluate t g headers else .text t
  | .empty => .text []

theorem Editor.value_of_find? {e : Editor} {a : Address} {c : Cell} (h : e.sheet.find? a = some c) :
    e.value a = c.valueIn e.sheet.rows e.sheet.headers := by
  rw [Editor.value, h]
  cases c <;> rfl

/-- A block of a sheet with generated headers, and a position where there is room for it. -/
structure Block.FitsAt (s : Sheet) (b : Block) (row col : Nat) : Prop where
  headers : s.headers = Column.labels s.width
  bottom : b.bottom < s.height
  right : b.right < s.width
  rows : row + (b.bottom - b.top) < s.height
  cols : col + (b.right - b.left) < s.width
  height : s.height < sizeBound
  width : s.width < sizeBound

namespace Block

/-- Addresses at the same place within the block and within its copy. -/
structure Counterpart (b : Block) (row col : Nat) (x x' : Address) (i j : Nat) : Prop where
  inRows : b.top + i ≤ b.bottom
  inCols : b.left + j ≤ b.right
  source : x = ⟨b.top + i, Column.label (b.left + j)⟩
  target : x' = ⟨row + i, Column.label (col + j)⟩

section Counterparts

variable {s : Sheet} {b : Block} {row col : Nat}

theorem idxOf?_label (headers : s.headers = Column.labels s.width) {n : Nat} (h : n < s.width) :
    s.headers.idxOf? (Column.label n) = some n := by
  rw [headers]
  exact (idxOf?_iff_getElem? (Column.labels_nodup s.width)).mpr (Column.getElem?_labels h)

theorem exists_counterpart (fits : b.FitsAt s row col) {x : Address}
    (h : Editor.inBlock s b x = true) : ∃ x' i j, b.Counterpart row col x x' i j := by
  rw [Editor.inBlock] at h
  split at h
  · rename_i n found
    obtain ⟨top, bottom, left, right⟩ := contains_iff.mp h
    have label := getElem?_of_idxOf? found
    rw [fits.headers, Column.getElem?_labels (Sheet.column?_lt found)] at label
    refine ⟨⟨row + (x.row - b.top), Column.label (col + (n - b.left))⟩, x.row - b.top, n - b.left,
      by omega, by omega, ?_, rfl⟩
    rw [show b.top + (x.row - b.top) = x.row by omega,
      show b.left + (n - b.left) = n by omega, Option.some.inj label]
  · cases h

theorem Counterpart.moves (fits : b.FitsAt s row col) {x x' : Address} {i j : Nat}
    (h : b.Counterpart row col x x' i j) :
    Relocation.Moves ((row : Int) - b.top) ((col : Int) - b.left) x x' := by
  obtain ⟨inRows, inCols, rfl, rfl⟩ := h
  obtain ⟨-, bottom, right, rows, cols, height, width⟩ := fits
  exact Relocation.moves_label (by omega) (by omega) (by omega) (by omega) (by omega) (by omega)

theorem Counterpart.writable_target (fits : b.FitsAt s row col) {x x' : Address} {i j : Nat}
    (h : b.Counterpart row col x x' i j) : x'.Writable := by
  obtain ⟨inRows, inCols, rfl, rfl⟩ := h
  obtain ⟨-, bottom, right, rows, cols, height, width⟩ := fits
  exact Relocation.writable_label (by omega)

end Counterparts

end Block

/-- A cell and its copy: what is no formula stays, but for an empty text, which leaves the cell
empty, and a formula refers to the counterparts. -/
inductive Cell.Copied (b : Block) (row col : Nat) : Cell → Cell → Prop
  | same (c : Cell) (plain : c.formula? = none) : Copied b row col c c
  | nothing : Copied b row col (.text []) .empty
  | call (f : Function) (aggregate : f.isAggregate = true) {x x' y y' : Address}
      {i₁ j₁ i₂ j₂ : Nat} (hx : b.Counterpart row col x x' i₁ j₁)
      (hy : b.Counterpart row col y y' i₂ j₂) :
      Copied b row col (.text (Formula.rangeCall f x y)) (.text (Formula.rangeCall f x' y'))

namespace Cell

section Copies

variable {s : Sheet} {b : Block} {row col : Nat} {c c' : Cell}

theorem copied_of_selfContained (fits : b.FitsAt s row col) (closed : c.SelfContained s b) :
    Copied b row col c (c.relocated ((row : Int) - b.top) ((col : Int) - b.left)).trimmed := by
  cases c with
  | empty => exact .same _ rfl
  | number x => exact .same _ rfl
  | text t =>
    rw [SelfContained] at closed
    cases formula : isFormulaText t with
    | true =>
      rw [formula, if_pos rfl] at closed
      obtain ⟨f, x, y, aggregate, inx, iny, rfl⟩ := closed
      obtain ⟨x', i₁, j₁, hx⟩ := Block.exists_counterpart fits inx
      obtain ⟨y', i₂, j₂, hy⟩ := Block.exists_counterpart fits iny
      have moved := Formula.formula_rangeCall aggregate (hx.moves fits) (hy.moves fits)
      have copy : ((Cell.text (Formula.rangeCall f x y)).relocated ((row : Int) - b.top)
          ((col : Int) - b.left)).trimmed = .text (Formula.rangeCall f x' y') := by
        simp only [relocated, formula?, formula, if_true, moved]
        have written : Formula.rangeCall f x' y' ≠ [] := List.cons_ne_nil _ _
        rw [ofText, if_neg written, trimmed, Formula.trim_rangeCall, ofText, if_neg written]
      rw [copy]
      exact .call f aggregate hx hy
    | false =>
      rw [formula, if_neg (by decide)] at closed
      have copy : ((Cell.text t).relocated ((row : Int) - b.top)
          ((col : Int) - b.left)).trimmed = ofText t := by
        simp only [relocated, formula?, formula, Bool.false_eq_true, if_false]
        rw [trimmed, closed]
      rw [copy, ofText]
      split
      · rename_i blank
        rw [blank]
        exact .nothing
      · exact .same _ (by simp [formula?, formula])

theorem Copied.numericValue? (copied : Copied b row col c c') :
    c'.numericValue? = c.numericValue? := by
  cases copied with
  | same _ plain => rfl
  | nothing => rfl
  | call f aggregate hx hy => rfl

/-- In a grid that holds the copies at the counterparts, a copy shows what its cell shows. -/
theorem Copied.valueIn (fits : b.FitsAt s row col) {g : Grid} (taller : s.height = g.length)
    (copied : Copied b row col c c')
    (counts : ∀ i j, b.top + i ≤ b.bottom → b.left + j ≤ b.right →
      (g.cell? (row + i) (col + j)).map Cell.numericValue? =
        (s.rows.cell? (b.top + i) (b.left + j)).map Cell.numericValue?) :
    c'.valueIn g s.headers = c.valueIn s.rows s.headers := by
  cases copied with
  | same _ plain =>
    cases c with
    | text t =>
      have text : isFormulaText t = false := by
        cases formula : isFormulaText t with
        | true => simp [formula?, formula] at plain
        | false => rfl
      simp [Cell.valueIn, text]
    | _ => rfl
  | nothing => rfl
  | @call f aggregate x x' y y' i₁ j₁ i₂ j₂ hx hy =>
    obtain ⟨answer, answers⟩ := Function.exists_aggregate? aggregate
    have writable := (hx.moves fits).writable
    have writable' := (hy.moves fits).writable
    have written := hx.writable_target fits
    have written' := hy.writable_target fits
    obtain ⟨inRows₁, inCols₁, rfl, rfl⟩ := hx
    obtain ⟨inRows₂, inCols₂, rfl, rfl⟩ := hy
    obtain ⟨headers, bottom, right, rows, cols, height, width⟩ := fits
    have source := Formula.evaluate_rangeCall answers writable writable'
      (Block.idxOf?_label headers (by omega)) (Block.idxOf?_label headers (by omega))
      (show b.top + i₂ < s.height by omega)
    have target := Formula.evaluate_rangeCall answers written written'
      (Block.idxOf?_label headers (by omega)) (Block.idxOf?_label headers (by omega))
      (show row + i₂ < g.length by omega)
    have values : Block.values ⟨row + i₁, row + i₂, col + j₁, col + j₂⟩ g =
        Block.values ⟨b.top + i₁, b.top + i₂, b.left + j₁, b.left + j₂⟩ s.rows :=
      Block.values_eq_of_numericValue? (show b.top + (b.bottom - b.top) < s.height by omega)
        (show row + (b.bottom - b.top) < g.length by omega)
        (fun i j hi hj => counts i j (by omega) (by omega)) (by omega)
        (show j₂ ≤ b.right - b.left by omega)
    simp only [Cell.valueIn, Formula.isFormulaText_rangeCall, if_true, source, target, values]

end Copies

end Cell

namespace Editor

variable {e : Editor} {b : Block} {row col : Nat}

theorem find?_label {s : Sheet} (headers : s.headers = Column.labels s.width) {i j : Nat}
    (hi : i < s.height) (hj : j < s.width) : s.find? ⟨i, Column.label j⟩ = s.rows.cell? i j := by
  have column : s.column? (Column.label j) = some j := Block.idxOf?_label headers hj
  have place := Sheet.position?_of_column? hi column
  rw [Sheet.find?, place]
  rfl

/-- What the active sheet holds after a block has been copied and put down where it fits. -/
def copiedRows (s : Sheet) (b : Block) (row col : Nat) : Grid :=
  Grid.write s.rows row col
    ((Grid.extract s.rows b).map fun cells => cells.map fun c =>
      (c.relocated ((row : Int) - b.top) ((col : Int) - b.left)).trimmed)

theorem cell?_copiedRows {s : Sheet} (even : Grid.Even s.width s.rows)
    (fits : b.FitsAt s row col) {i j : Nat} (hi : b.top + i ≤ b.bottom)
    (hj : b.left + j ≤ b.right) {c : Cell}
    (here : s.rows.cell? (b.top + i) (b.left + j) = some c) :
    (copiedRows s b row col).cell? (row + i) (col + j) =
      some (c.relocated ((row : Int) - b.top) ((col : Int) - b.left)).trimmed := by
  have rows := fits.rows
  have cols := fits.cols
  apply Grid.cell?_write
  · rw [even.isSome_cell?]
    exact ⟨show _ < s.height by omega, by omega⟩
  · rw [Grid.cell?_map, Grid.cell?_extract, if_pos ⟨hi, hj⟩, here]
    rfl

/-- Every cell of the block has its copy in the block that is put down. -/
theorem exists_copied {s : Sheet} (sound : s.Sound) (fits : b.FitsAt s row col)
    (closed : ∀ r k cell, b.contains r k = true → s.cell? r k = some cell →
      cell.SelfContained s b) {i j : Nat} (hi : b.top + i ≤ b.bottom) (hj : b.left + j ≤ b.right) :
    ∃ cell copy, s.rows.cell? (b.top + i) (b.left + j) = some cell ∧
      (copiedRows s b row col).cell? (row + i) (col + j) = some copy ∧
      Cell.Copied b row col cell copy := by
  have bottom := fits.bottom
  have right := fits.right
  obtain ⟨cell, here⟩ := Grid.exists_cell? sound.even
    (show b.top + i < s.height by omega) (show b.left + j < s.width by omega)
  have inside : b.contains (b.top + i) (b.left + j) = true :=
    Block.contains_iff.mpr ⟨by omega, hi, by omega, hj⟩
  exact ⟨cell, _, here, cell?_copiedRows sound.even fits hi hj here,
    Cell.copied_of_selfContained fits (closed _ _ cell inside here)⟩

/-- The editor with a block on its clipboard. -/
def holding (e : Editor) (b : Block) : Editor :=
  { e with clipboard := some ⟨Grid.extract e.sheet.rows b, b.top, b.left, false⟩ }

theorem perform_copy (selected : e.selectedBlock? = some b) :
    (e.perform .copy).2 = e.holding b := by
  simp only [perform, copy?, selected, Option.map_some, snapshot, ifTaken, holding]

theorem pasted_holding (e : Editor) (b : Block) (text : Option Text) :
    (e.holding b).pasted row col text =
      (Grid.extract e.sheet.rows b).map fun cells => cells.map
        (·.relocated ((row : Int) - b.top) ((col : Int) - b.left)) :=
  rfl

/-- A paste that has something to do replaces the cells. -/
theorem paste_eq {target : Address} {text : Option Text} (place : e.sheet.position? target =
    some (row, col)) (some_fit : 0 < e.sheet.rows.fitting row col (e.pasted row col text)) :
    (e.paste target text).2 = e.putRows (e.sheet.rows.write row col
      ((e.pasted row col text).map fun cells => cells.map Cell.trimmed)) := by
  rw [paste, place]
  dsimp only
  split
  · omega
  · rfl

theorem sheet_run_copy_paste (valid : e.Valid) (fits : b.FitsAt e.sheet row col)
    (selected : e.selectedBlock? = some b) {target : Address}
    (place : e.sheet.position? target = some (row, col)) (text : Option Text)
    (top : b.top ≤ b.bottom) (left : b.left ≤ b.right) :
    (e.run [.copy, .paste target text]).sheet =
      { e.sheet with rows := copiedRows e.sheet b row col } := by
  have even := (sheet_sound valid.workbook).even
  obtain ⟨-, bottom, right, rows, cols, -, -⟩ := fits
  obtain ⟨c, first⟩ := Grid.exists_cell? even (show b.top < e.sheet.height by omega)
    (show b.left < e.sheet.width by omega)
  have inside : b.top + 0 ≤ b.bottom ∧ b.left + 0 ≤ b.right := ⟨top, left⟩
  have some_fit : 0 < Grid.fitting (e.holding b).sheet.rows row col
      ((e.holding b).pasted row col text) := by
    apply Grid.fitting_pos
    · exact (even.isSome_cell? row col).mpr ⟨show _ < e.sheet.height by omega, by omega⟩
    · rw [pasted_holding, Grid.cell?_map, Grid.cell?_extract, if_pos inside, Nat.add_zero,
        Nat.add_zero, first]
      rfl
  have last : e.run [.copy, .paste target text] = ((e.perform .copy).2.paste target text).2 := rfl
  have trimmed : ((e.holding b).pasted row col text).map (fun cells => cells.map Cell.trimmed) =
      (Grid.extract e.sheet.rows b).map fun cells => cells.map fun c =>
        (c.relocated ((row : Int) - b.top) ((col : Int) - b.left)).trimmed := by
    simp only [pasted_holding, List.map_map, Function.comp_def]
  rw [last, perform_copy selected, paste_eq (e := e.holding b) place some_fit, trimmed]
  exact valid.workbook.sheet_setSheet _

/-- Copying a block that refers to nothing outside it and pasting it where it fits, be it over
itself: every cell of the copy shows what its cell showed before. -/
theorem run_copy_paste_display (c : Config) (store : Store) (before : List Action) {b : Block}
    {target : Address} {row col : Nat} (text : Option Text) :
    let e := (start c store).run before
    e.sheet.headers = Column.labels e.sheet.width →
    e.sheet.height < sizeBound → e.sheet.width < sizeBound →
    e.selectedBlock? = some b →
    (∀ r k cell, b.contains r k = true → e.sheet.cell? r k = some cell →
      cell.SelfContained e.sheet b) →
    e.sheet.position? target = some (row, col) →
    row + (b.bottom - b.top) < e.sheet.height → col + (b.right - b.left) < e.sheet.width →
    ∀ i j, b.top + i ≤ b.bottom → b.left + j ≤ b.right →
      (e.run [.copy, .paste target text]).display ⟨row + i, Column.label (col + j)⟩ =
        e.display ⟨b.top + i, Column.label (b.left + j)⟩ := by
  intro e headers height width selected closed place rows cols i j hi hj
  have valid : e.Valid := valid_run c store before
  have sound : e.sheet.Sound := sheet_sound valid.workbook
  obtain ⟨bottom, right⟩ := valid.selectedBlock_inside selected
  have fits : b.FitsAt e.sheet row col := ⟨headers, bottom, right, rows, cols, height, width⟩
  have after := sheet_run_copy_paste valid fits selected place text (by omega) (by omega)
  have counts : ∀ i j, b.top + i ≤ b.bottom → b.left + j ≤ b.right →
      ((copiedRows e.sheet b row col).cell? (row + i) (col + j)).map Cell.numericValue? =
        (e.sheet.rows.cell? (b.top + i) (b.left + j)).map Cell.numericValue? := by
    intro i j hi hj
    obtain ⟨cell, copy, here, there, copied⟩ := exists_copied sound fits closed hi hj
    rw [here, there, Option.map_some, Option.map_some, copied.numericValue?]
  obtain ⟨cell, copy, here, there, copied⟩ := exists_copied sound fits closed hi hj
  have source : e.sheet.find? ⟨b.top + i, Column.label (b.left + j)⟩ = some cell := by
    rw [find?_label headers (by omega) (by omega), here]
  have taller : e.sheet.height = (copiedRows e.sheet b row col).length :=
    (Grid.length_eq_of_shape (Grid.shape_write _ _ _ _)).symm
  have target : (e.run [.copy, .paste target text]).sheet.find?
      ⟨row + i, Column.label (col + j)⟩ = some copy := by
    rw [after]
    exact (find?_label (s := { e.sheet with rows := copiedRows e.sheet b row col }) headers
      (show row + i < (copiedRows e.sheet b row col).length by omega)
      (show col + j < e.sheet.width by omega)).trans there
  rw [display, display, value_of_find? source, value_of_find? target, after,
    copied.valueIn fits taller counts]

/-- A number, its sum beside it, and a selection of both, on a sheet of one row. -/
def sumBeside : List Action :=
  [.write ⟨0, ['A']⟩ ['4'], .write ⟨0, ['B']⟩ "=SUM(A1:A1)".toList, .press ⟨0, ['A']⟩,
    .dragOver ⟨0, ['B']⟩]

/-- Copied one column on, over itself, the sum still shows what it showed. -/
theorem sumBeside_copied :
    let e := (start ⟨1, 3, 1, 300⟩ ⟨.memory, .nothing, true, true, 0⟩).run sumBeside
    (e.run [.copy, .paste ⟨0, ['B']⟩ none]).display ⟨0, Column.label 2⟩ =
      e.display ⟨0, Column.label 1⟩ := by
  intro e
  have rows : e.sheet.rows = [[.text ['4'], .text "=SUM(A1:A1)".toList, .empty]] := by decide
  have selected : e.selectedBlock? = some ⟨0, 0, 0, 1⟩ := by decide
  have place : e.sheet.position? ⟨0, ['B']⟩ = some (0, 1) := by decide
  have closed : ∀ r k cell, (⟨0, 0, 0, 1⟩ : Block).contains r k = true →
      e.sheet.cell? r k = some cell → cell.SelfContained e.sheet ⟨0, 0, 0, 1⟩ := by
    intro r k cell inside here
    obtain ⟨-, row, -, col⟩ := Block.contains_iff.mp inside
    rw [Sheet.cell?, rows, Nat.le_zero.mp row] at here
    cases k with
    | zero =>
      cases here
      exact (by decide : Text.trim ['4'] = ['4'])
    | succ k =>
      rw [show k = 0 from Nat.le_zero.mp (Nat.le_of_succ_le_succ col)] at here
      cases here
      exact ⟨.sum, ⟨0, ['A']⟩, ⟨0, ['A']⟩, by decide, by decide, by decide, by decide⟩
  exact run_copy_paste_display ⟨1, 3, 1, 300⟩ ⟨.memory, .nothing, true, true, 0⟩ sumBeside none
    (by decide) (by decide) (by decide) selected closed place (by decide) (by decide) 0 1
    (by decide) (by decide)

end Editor

end Spreadsheet
