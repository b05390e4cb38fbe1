import Spreadsheet.Grid

/-!
# Shapes of grids

The shape of a grid is the list of the lengths of its rows. A change of cells says of every position
what it holds afterwards, so it keeps the shape, and two grids of one shape with the same cells are
the same grid.
-/

namespace Spreadsheet

namespace Block

theorem contains_iff {b : Block} {row col : Nat} :
    b.contains row col = true ↔
      b.top ≤ row ∧ row ≤ b.bottom ∧ b.left ≤ col ∧ col ≤ b.right := by
  simp [contains, and_assoc]

theorem getElem?_span {α : Type} (first last : Nat) (xs : List α) (n : Nat) :
    (span first last xs)[n]? = if first + n ≤ last then xs[first + n]? else none := by
  rw [span, List.getElem?_take, List.getElem?_drop]
  by_cases inside : first + n ≤ last
  · rw [if_pos inside, if_pos (by omega)]
  · rw [if_neg inside, if_neg (by omega)]

theorem length_span {α : Type} {first last : Nat} {xs : List α} (inside : last < xs.length) :
    (span first last xs).length = last + 1 - first := by
  rw [span, List.length_take, List.length_drop]
  omega

end Block

namespace Grid

/-- The lengths of the rows. -/
def shape (g : Grid) : List Nat :=
  g.map List.length

/-- Every row has `width` cells. -/
def Even (width : Nat) (g : Grid) : Prop :=
  ∀ row ∈ g, row.length = width

theorem length_shape (g : Grid) : g.shape.length = g.length := by
  simp [shape]

theorem length_eq_of_shape {g h : Grid} (same : g.shape = h.shape) : g.length = h.length := by
  rw [← length_shape g, ← length_shape h, same]

theorem even_iff_shape (width : Nat) (g : Grid) : g.Even width ↔ ∀ n ∈ g.shape, n = width := by
  simp [Even, shape]

theorem Even.of_shape {width : Nat} {g h : Grid} (even : g.Even width) (same : h.shape = g.shape) :
    h.Even width := by
  rw [even_iff_shape, same]
  exact (even_iff_shape width g).mp even

theorem cell?_eq_some_iff {g : Grid} {row col : Nat} {cell : Cell} :
    g.cell? row col = some cell ↔ ∃ cells, g[row]? = some cells ∧ cells[col]? = some cell :=
  Option.bind_eq_some_iff

theorem Even.isSome_cell? {width : Nat} {g : Grid} (even : g.Even width) (row col : Nat) :
    (g.cell? row col).isSome = true ↔ row < g.length ∧ col < width := by
  rw [Option.isSome_iff_exists]
  constructor
  · rintro ⟨cell, found⟩
    obtain ⟨cells, hrow, hcol⟩ := cell?_eq_some_iff.mp found
    obtain ⟨inside, rfl⟩ := List.getElem?_eq_some_iff.mp hrow
    obtain ⟨reached, -⟩ := List.getElem?_eq_some_iff.mp hcol
    exact ⟨inside, even _ (List.getElem_mem inside) ▸ reached⟩
  · rintro ⟨hrow, hcol⟩
    have reached : col < g[row].length := by rw [even _ (List.getElem_mem hrow)]; exact hcol
    exact ⟨g[row][col], cell?_eq_some_iff.mpr
      ⟨g[row], List.getElem?_eq_getElem hrow, List.getElem?_eq_getElem reached⟩⟩

theorem cell?_inside {width : Nat} {g : Grid} (even : g.Even width) {row col : Nat} {cell : Cell}
    (h : g.cell? row col = some cell) : row < g.length ∧ col < width :=
  (even.isSome_cell? row col).mp (by rw [h, Option.isSome_some])

theorem exists_cell? {width : Nat} {g : Grid} (even : g.Even width) {row col : Nat}
    (hrow : row < g.length) (hcol : col < width) : ∃ cell, g.cell? row col = some cell :=
  Option.isSome_iff_exists.mp ((even.isSome_cell? row col).mpr ⟨hrow, hcol⟩)

/-- Grids agree once their shapes and their cells do. -/
theorem eq_of_cell? {g h : Grid} (same : g.shape = h.shape)
    (cells : ∀ row col, g.cell? row col = h.cell? row col) : g = h := by
  have lengths := length_eq_of_shape same
  apply List.ext_getElem lengths
  intro row hg hh
  have widths : g[row].length = h[row].length := by
    have := congrArg (·[row]?) same
    simpa [shape, hg, hh] using this
  apply List.ext_getElem widths
  intro col hcg hch
  have found := cells row col
  simpa [cell?, hg, hh, hcg, hch] using found

@[simp] theorem shape_mapCells (f : Nat → Nat → Cell → Cell) (g : Grid) :
    (mapCells f g).shape = g.shape := by
  apply List.ext_getElem?
  intro row
  simp [shape, mapCells, Function.comp_def]

theorem cell?_mapCells (f : Nat → Nat → Cell → Cell) (g : Grid) (row col : Nat) :
    (mapCells f g).cell? row col = (g.cell? row col).map (f row col) := by
  simp only [cell?, mapCells, List.getElem?_mapIdx]
  cases g[row]? with
  | none => rfl
  | some cells => simp

/-- A change of a block is a change of cells. -/
theorem modify_eq_mapCells (b : Block) (f : Cell → Cell) (g : Grid) :
    b.modify f g =
      mapCells (fun row col cell => if b.contains row col then f cell else cell) g := by
  apply List.ext_getElem?
  intro row
  simp only [Block.modify, mapCells, List.getElem?_mapIdx]
  congr 1
  funext cells
  split
  · rename_i inside
    simp [Block.contains, inside]
  · rename_i outside
    apply List.ext_getElem?
    intro col
    have missed : b.contains row col = false := by
      simp only [Block.contains, Bool.and_eq_false_iff, decide_eq_false_iff_not]
      omega
    simp [missed]

@[simp] theorem shape_erase (g : Grid) (b : Block) : (g.erase b).shape = g.shape := by
  rw [erase, modify_eq_mapCells, shape_mapCells]

@[simp] theorem shape_setCell (g : Grid) (row col : Nat) (value : Cell) :
    (g.setCell row col value).shape = g.shape :=
  shape_mapCells _ g

@[simp] theorem shape_write (g : Grid) (top left : Nat) (cells : Grid) :
    (g.write top left cells).shape = g.shape :=
  shape_mapCells _ g

@[simp] theorem shape_fillDown (g : Grid) (b : Block) : (g.fillDown b).shape = g.shape :=
  shape_mapCells _ g

@[simp] theorem shape_fillRight (g : Grid) (b : Block) : (g.fillRight b).shape = g.shape :=
  shape_mapCells _ g

@[simp] theorem shape_moveBlock (g : Grid) (b : Block) (rows cols : Int) :
    (g.moveBlock b rows cols).shape = g.shape :=
  shape_mapCells _ g

end Grid

end Spreadsheet
