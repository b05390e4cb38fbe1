import Spreadsheet.Proofs.CheckedGrid
import Spreadsheet.Proofs.CopiedBlocks

/-!
# Blocks moved elsewhere

A block can be dragged to another place, or cut and then pasted there. The drag finds for each
position the cell that comes to lie on it; the paste counts from the position that it was asked for
and loses the blanks around texts. Where no text has such blanks both leave the same cells, whether
the two places overlap and whatever falls off the sheet.
-/

namespace Spreadsheet

namespace Grid

/-- The cell of a block that a move puts at a position is the one that a paste of the block brings
there. -/
theorem moved_eq_pasted (g : Grid) (b : Block) (row col r c : Nat) :
    (do
      let r ← before? r ((row : Int) - b.top)
      let c ← before? c ((col : Int) - b.left)
      if b.contains r c then g.cell? r c else none) =
    if row ≤ r ∧ col ≤ c then (g.extract b).cell? (r - row) (c - col) else none := by
  by_cases after : row ≤ r ∧ col ≤ c
  · have above : before? r ((row : Int) - b.top) = some (b.top + (r - row)) :=
      before?_eq_some_iff.mpr (by omega)
    have beside : before? c ((col : Int) - b.left) = some (b.left + (c - col)) :=
      before?_eq_some_iff.mpr (by omega)
    have inside : b.contains (b.top + (r - row)) (b.left + (c - col)) = true ↔
        b.top + (r - row) ≤ b.bottom ∧ b.left + (c - col) ≤ b.right := by
      rw [Block.contains_iff]
      omega
    simp only [above, beside, Option.bind_eq_bind, Option.bind_some]
    rw [if_pos after, cell?_extract]
    exact if_congr inside rfl rfl
  · -- above or left of the target nothing of the block is left to come from
    rw [if_neg after]
    cases above : before? r ((row : Int) - b.top) with
    | none => rfl
    | some r' =>
      cases beside : before? c ((col : Int) - b.left) with
      | none => rfl
      | some c' =>
        rw [before?_eq_some_iff] at above beside
        refine if_neg fun inside => after ?_
        rw [Block.contains_iff] at inside
        omega

/-- Cells that are put down as they were taken. -/
theorem cell?_map_extract {g : Grid} {b : Block} {f : Cell → Cell}
    (kept : ∀ r c cell, b.contains r c = true → g.cell? r c = some cell → f cell = cell)
    (i j : Nat) :
    Grid.cell? ((g.extract b).map fun cells => cells.map f) i j = (g.extract b).cell? i j := by
  rw [cell?_map, cell?_extract]
  split
  · rename_i inside
    cases here : g.cell? (b.top + i) (b.left + j) with
    | none => rfl
    | some cell =>
      refine congrArg some (kept _ _ cell (Block.contains_iff.mpr ?_) here)
      omega
  · rfl

/-- Taking a block out and putting it down elsewhere moves it. -/
theorem write_erase {g : Grid} {b : Block}
    (kept : ∀ r c cell, b.contains r c = true → g.cell? r c = some cell → cell.trimmed = cell)
    (row col : Nat) :
    (g.erase b).write row col ((g.extract b).map fun cells => cells.map Cell.trimmed) =
      g.moveBlock b ((row : Int) - b.top) ((col : Int) - b.left) := by
  rw [write, erase, modify_eq_mapCells, mapCells_mapCells, moveBlock]
  refine mapCells_congr fun r c cell here => ?_
  simp only [moved_eq_pasted, cell?_map_extract kept]
  split
  · cases (g.extract b).cell? (r - row) (c - col) <;> rfl
  · rfl

/-- A block that is moved nowhere stays. -/
theorem moveBlock_zero (g : Grid) (b : Block) : g.moveBlock b 0 0 = g := by
  have here : ∀ n : Nat, before? n 0 = some n := fun n => before?_eq_some_iff.mpr (by omega)
  apply eq_of_cell? (shape_moveBlock g b 0 0)
  intro row col
  rw [moveBlock, cell?_mapCells]
  cases found : g.cell? row col with
  | none => rfl
  | some cell => by_cases inside : b.contains row col = true <;> simp [here, inside, found]

end Grid

/-- No text in the block loses anything when it is entered again. -/
def Sheet.Tidy (s : Sheet) (b : Block) : Prop :=
  ∀ row col t, b.contains row col = true → s.cell? row col = some (.text t) → t ≠ [] ∧ t.trim = t

theorem Sheet.Tidy.trimmed {s : Sheet} {b : Block} (tidy : s.Tidy b) {row col : Nat} {cell : Cell}
    (inside : b.contains row col = true) (here : s.rows.cell? row col = some cell) :
    cell.trimmed = cell := by
  cases cell with
  | text t =>
    obtain ⟨some, trim⟩ := tidy row col t inside here
    rw [Cell.trimmed, trim, Cell.ofText, if_neg some]
  | _ => rfl

/-- Every block is tidy on a sheet without untidy cells. -/
theorem Sheet.Tidy.of_cells {s : Sheet}
    (cells : ∀ row ∈ s.rows, ∀ cell ∈ row, cell ≠ .text [] ∧ cell.trimmed = cell) (b : Block) :
    s.Tidy b := by
  intro row col t inside here
  obtain ⟨found, hrow, hcol⟩ := Grid.cell?_eq_some_iff.mp here
  obtain ⟨some, trimmed⟩ := cells found (List.mem_of_getElem? hrow) _ (List.mem_of_getElem? hcol)
  refine ⟨fun none => some (congrArg Cell.text none), ?_⟩
  rw [Cell.trimmed, Cell.ofText] at trimmed
  split at trimmed
  · cases trimmed
  · exact Cell.text.inj trimmed

/-- Other cells in as many rows leave addresses where they are. -/
theorem Sheet.position?_withRows (s : Sheet) {rows : Grid} (same : rows.length = s.rows.length)
    (a : Address) : ({ s with rows := rows } : Sheet).position? a = s.position? a := by
  have height : ({ s with rows := rows } : Sheet).height = s.height := same
  have column : ({ s with rows := rows } : Sheet).column? a.col = s.column? a.col := rfl
  simp only [Sheet.position?, Sheet.position, height, column]

namespace Workbook

theorem setSheet_setSheet (w : Workbook) (s t : Sheet) :
    (w.setSheet s).setSheet t = w.setSheet t := by
  simp only [setSheet, List.set_set]

theorem Sound.setSheet_self {w : Workbook} (sound : w.Sound) : w.setSheet w.sheet = w := by
  obtain ⟨inside, here⟩ := List.getElem?_eq_some_iff.mp sound.getElem?_active
  rw [Workbook.setSheet, ← here, List.set_getElem_self]

end Workbook

namespace Editor

variable {e : Editor} {b : Block}

/-- The editor after a block has been cut. -/
def cutting (e : Editor) (b : Block) : Editor :=
  ({ e with clipboard := some (e.snapshot b true).2 } : Editor).putRows (e.sheet.rows.erase b)

theorem cut?_eq (selected : e.selectedBlock? = some b) :
    e.cut? = some ((e.snapshot b true).1, e.cutting b) := by
  rw [cut?, selected]
  rfl

theorem sheet_cutting (sound : e.workbook.Sound) (b : Block) :
    (e.cutting b).sheet = { e.sheet with rows := e.sheet.rows.erase b } :=
  sound.sheet_setSheet _

theorem position?_cutting (sound : e.workbook.Sound) (b : Block) (a : Address) :
    (e.cutting b).sheet.position? a = e.sheet.position? a := by
  rw [sheet_cutting sound]
  exact e.sheet.position?_withRows (Grid.length_eq_of_shape (Grid.shape_erase _ _)) a

/-- What is pasted after the cut ends up where a move would put it. -/
theorem paste_cutting (valid : e.Valid) (bottom : b.bottom < e.sheet.height)
    (right : b.right < e.sheet.width) (rows : b.top ≤ b.bottom) (cols : b.left ≤ b.right)
    (tidy : e.sheet.Tidy b) {target : Address} {row col : Nat}
    (place : e.sheet.position? target = some (row, col)) (text : Option Text) :
    ((e.cutting b).paste target text).2.workbook = e.workbook.setSheet
      { e.sheet with
        rows := e.sheet.rows.moveBlock b ((row : Int) - b.top) ((col : Int) - b.left) } := by
  have sound := valid.workbook
  have even := (sheet_sound sound).even
  have sheet := sheet_cutting sound b
  obtain ⟨-, hrow, hcol⟩ := Sheet.position?_eq_some place
  obtain ⟨first, here⟩ := Grid.exists_cell? even (show b.top < e.sheet.height by omega)
    (show b.left < e.sheet.width by omega)
  have place' := (position?_cutting sound b target).trans place
  have pasted : (e.cutting b).pasted row col text = e.sheet.rows.extract b := rfl
  have fits : 0 < (e.cutting b).sheet.rows.fitting row col ((e.cutting b).pasted row col text) := by
    apply Grid.fitting_pos
    · rw [sheet, (even.of_shape (Grid.shape_erase _ b)).isSome_cell?,
        Grid.length_eq_of_shape (Grid.shape_erase _ b)]
      exact ⟨hrow, Sheet.column?_lt hcol⟩
    · rw [pasted, Grid.cell?_extract, if_pos ⟨rows, cols⟩, Nat.add_zero, Nat.add_zero, here]
      rfl
  have after : ((e.cutting b).paste target text).2 = (e.cutting b).putRows
      (e.sheet.rows.moveBlock b ((row : Int) - b.top) ((col : Int) - b.left)) := by
    rw [paste_eq place' fits, pasted, sheet,
      Grid.write_erase fun r c cell inside found => tidy.trimmed inside found]
  rw [after, putRows, sheet]
  exact e.workbook.setSheet_setSheet _ _

theorem moveBlock?_eq {x : Selection} (selected : e.selection = some x)
    (block : x.block? e.sheet = some b) (rows : b.top ≤ b.bottom) (cols : b.left ≤ b.right)
    {source target : Address} {row col : Nat}
    (start : e.sheet.position? source = some (b.top, b.left))
    (place : e.sheet.position? target = some (row, col)) :
    e.moveBlock? source target = some (e.putRows
      (e.sheet.rows.moveBlock b ((row : Int) - b.top) ((col : Int) - b.left))) := by
  have held : x.contains e.sheet source = true := by
    rw [Selection.contains, block, start]
    exact Block.contains_iff.mpr ⟨Nat.le_refl _, rows, Nat.le_refl _, cols⟩
  rw [moveBlock?, selected]
  simp only [Option.bind_eq_bind, Option.bind_some, held, block, start, place]
  rfl

/-- Dragging a selection by its first cell and cutting it to paste it leave the same workbook, if its
columns are in order and its texts are there and have no blanks around them. Both go through for
every cell of the sheet that they are pointed at, the first cell itself included, where all stays as
it was. -/
theorem run_move_eq_cut_paste (c : Config) (store : Store) (before : List Action) {x : Selection}
    {b : Block} {source target : Address} (text : Option Text) :
    let e := (start c store).run before
    e.selection = some x → x.block? e.sheet = some b → b.left ≤ b.right → e.sheet.Tidy b →
    e.sheet.position? source = some (b.top, b.left) →
    (e.sheet.position? target).isSome = true →
    (e.perform (.moveBlock source target)).1 = .done true ∧
      (e.perform .cut).1 = .text (some (e.snapshot b true).1) ∧
      (e.run [.moveBlock source target]).workbook = (e.run [.cut, .paste target text]).workbook ∧
      (target = source → (e.run [.moveBlock source target]).workbook = e.workbook) := by
  intro e selected block cols tidy start found
  obtain ⟨⟨row, col⟩, place⟩ := Option.isSome_iff_exists.mp found
  have valid : e.Valid := valid_run c store before
  obtain ⟨rows, bottom, -, right⟩ := valid.block_inside selected block
  have move : e.perform (.moveBlock source target) = (.done true, e.putRows
      (e.sheet.rows.moveBlock b ((row : Int) - b.top) ((col : Int) - b.left))) := by
    rw [perform, moveBlock?_eq selected block rows cols start place]
    rfl
  have chosen : e.selectedBlock? = some b := by
    rw [selectedBlock?, selected]
    exact block
  have cut : e.perform .cut = (.text (some (e.snapshot b true).1), e.cutting b) := by
    rw [perform, cut?_eq chosen]
    rfl
  have moved : e.run [.moveBlock source target] = (e.perform (.moveBlock source target)).2 := rfl
  have pasted : e.run [.cut, .paste target text] =
      ((e.perform .cut).2.paste target text).2 := rfl
  refine ⟨by rw [move], by rw [cut], ?_, fun same => ?_⟩
  · rw [moved, move, pasted, cut, paste_cutting valid bottom right rows cols tidy place text]
    rfl
  · rw [same, start] at place
    cases place
    rw [moved, move, Int.sub_self, Int.sub_self, Grid.moveBlock_zero]
    exact valid.workbook.setSheet_self

/-- The number and its sum, moved one column on over themselves, and two columns on so that the sum
falls off the sheet. -/
theorem sumBeside_moved :
    let e := (start ⟨1, 3, 1, 300⟩ ⟨.memory, .nothing, true, true, 0⟩).run sumBeside
    (e.run [.moveBlock ⟨0, ['A']⟩ ⟨0, ['B']⟩]).workbook =
        (e.run [.cut, .paste ⟨0, ['B']⟩ none]).workbook ∧
      (e.run [.moveBlock ⟨0, ['A']⟩ ⟨0, ['C']⟩]).workbook =
        (e.run [.cut, .paste ⟨0, ['C']⟩ none]).workbook := by
  intro e
  have tidy : e.sheet.Tidy ⟨0, 0, 0, 1⟩ := .of_cells (by decide) _
  have selected : e.selection = some ⟨0, 0, ['A'], ['B']⟩ := by decide
  have block : Selection.block? ⟨0, 0, ['A'], ['B']⟩ e.sheet = some ⟨0, 0, 0, 1⟩ := by decide
  have moved : ∀ target, (e.sheet.position? target).isSome = true →
      (e.run [.moveBlock ⟨0, ['A']⟩ target]).workbook =
        (e.run [.cut, .paste target none]).workbook := fun target found =>
    (run_move_eq_cut_paste ⟨1, 3, 1, 300⟩ ⟨.memory, .nothing, true, true, 0⟩ sumBeside none
      selected block (by decide) tidy (by decide) found).2.2.1
  exact ⟨moved ⟨0, ['B']⟩ (by decide), moved ⟨0, ['C']⟩ (by decide)⟩

end Editor

end Spreadsheet
