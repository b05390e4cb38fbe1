import Spreadsheet.Proofs.GridShape

/-!
# Checked indices

The changes of grids as loops over positions that index into rows, where an index that a list does
not have is a fault. On an even grid the loops run through for every block that lies in the grid,
and then they give what the changes of grids say position by position.
-/

namespace Spreadsheet

/-- An index that a list does not have. -/
structure OutOfRange where
  index : Nat
  length : Nat
deriving DecidableEq, Repr

abbrev Checked (α : Type) :=
  Except OutOfRange α

namespace Checked

variable {α β : Type}

def fetch (xs : List α) (i : Nat) : Checked α :=
  match xs[i]? with
  | some x => .ok x
  | none => .error ⟨i, xs.length⟩

def replace (xs : List α) (i : Nat) (x : α) : Checked (List α) :=
  if i < xs.length then .ok (xs.set i x) else .error ⟨i, xs.length⟩

def insert (xs : List α) (i : Nat) (x : α) : Checked (List α) :=
  if i ≤ xs.length then .ok (xs.insertIdx i x) else .error ⟨i, xs.length⟩

def remove (xs : List α) (i : Nat) : Checked (α × List α) :=
  match xs[i]? with
  | some x => .ok (x, xs.eraseIdx i)
  | none => .error ⟨i, xs.length⟩

/-- The elements from one index to another. The first may come right after the last, no further. -/
def slice (xs : List α) (first last : Nat) : Checked (List α) :=
  if first ≤ last + 1 ∧ last < xs.length then .ok (Block.span first last xs)
  else .error ⟨last, xs.length⟩

/-- A difference of sizes, which cannot be negative. -/
def minus (m n : Nat) : Checked Nat :=
  if n ≤ m then .ok (m - n) else .error ⟨n, m⟩

/-- The indices from one to another. -/
def indices (first last : Nat) : List Nat :=
  List.range' first (last + 1 - first)

def cell (g : Grid) (row col : Nat) : Checked Cell := do
  fetch (← fetch g row) col

def setCell (g : Grid) (row col : Nat) (value : Cell) : Checked Grid := do
  replace g row (← replace (← fetch g row) col value)

/-- Fills one column of a block from its first row. -/
def fillColumn (b : Block) (g : Grid) (col : Nat) : Checked Grid := do
  let source ← cell g b.top col
  (indices (b.top + 1) b.bottom).foldlM
    (fun g row => setCell g row col (source.relocated ((row : Int) - b.top) 0)) g

def fillDown (g : Grid) (b : Block) : Checked Grid :=
  (indices b.left b.right).foldlM (fillColumn b) g

/-- Fills one row of a block from its first column. -/
def fillRow (b : Block) (g : Grid) (row : Nat) : Checked Grid := do
  let source ← cell g row b.left
  (indices (b.left + 1) b.right).foldlM
    (fun g col => setCell g row col (source.relocated 0 ((col : Int) - b.left))) g

def fillRight (g : Grid) (b : Block) : Checked Grid :=
  (indices b.top b.bottom).foldlM (fillRow b) g

def erase (g : Grid) (b : Block) : Checked Grid :=
  (indices b.top b.bottom).foldlM (fun g row =>
    (indices b.left b.right).foldlM (fun g col => setCell g row col .empty) g) g

/-- Puts one cell down at a distance from where it was, if that is in the grid. -/
def drop (g : Grid) (width row col : Nat) (rows cols : Int) (value : Cell) : Checked Grid :=
  match Grid.before? row (-rows), Grid.before? col (-cols) with
  | some row, some col =>
    if row < g.length ∧ col < width then setCell g row col value else .ok g
  | _, _ => .ok g

/-- Takes the block out, empties it, and puts its cells down one by one. -/
def moveBlock (g : Grid) (width : Nat) (b : Block) (rows cols : Int) : Checked Grid := do
  let held ← (indices b.top b.bottom).mapM fun row => do slice (← fetch g row) b.left b.right
  held.zipIdx.foldlM (fun g (cells, i) =>
    cells.zipIdx.foldlM (fun g (value, j) =>
      drop g width (b.top + i) (b.left + j) rows cols value) g) (← erase g b)

/-- What a fill from the first row puts at a position. -/
def belowFirst (g : Grid) (b : Block) (row col : Nat) : Cell :=
  ((g.cell? b.top col).getD .empty).relocated ((row : Int) - b.top) 0

/-- What a fill from the first column puts at a position. -/
def besideFirst (g : Grid) (b : Block) (row col : Nat) : Cell :=
  ((g.cell? row b.left).getD .empty).relocated 0 ((col : Int) - b.left)

theorem ok_bind (x : α) (f : α → Checked β) : ((.ok x : Checked α) >>= f) = f x :=
  rfl

theorem fetch_eq_ok {xs : List α} {i : Nat} {x : α} (h : xs[i]? = some x) :
    fetch xs i = .ok x := by
  rw [fetch, h]

theorem replace_eq_ok {xs : List α} {i : Nat} (inside : i < xs.length) (x : α) :
    replace xs i x = .ok (xs.set i x) :=
  if_pos inside

theorem insert_eq_ok {xs : List α} {i : Nat} (inside : i ≤ xs.length) (x : α) :
    insert xs i x = .ok (xs.insertIdx i x) :=
  if_pos inside

theorem remove_eq_ok {xs : List α} {i : Nat} {x : α} (h : xs[i]? = some x) :
    remove xs i = .ok (x, xs.eraseIdx i) := by
  rw [remove, h]

theorem slice_eq_ok {xs : List α} {first last : Nat} (order : first ≤ last + 1)
    (inside : last < xs.length) : slice xs first last = .ok (Block.span first last xs) :=
  if_pos ⟨order, inside⟩

theorem minus_eq_ok {m n : Nat} (h : n ≤ m) : minus m n = .ok (m - n) :=
  if_pos h

theorem mapM_eq_ok {f : α → Checked β} {g : α → β} {xs : List α}
    (h : ∀ x ∈ xs, f x = .ok (g x)) : xs.mapM f = .ok (xs.map g) := by
  induction xs with
  | nil => rfl
  | cons x rest ih =>
    rw [List.mapM_cons, h x List.mem_cons_self, ok_bind,
      ih fun y hy => h y (List.mem_cons_of_mem _ hy)]
    rfl

/-- A loop runs through if each round takes one known state to the next. -/
theorem foldlM_eq_ok (f : β → α → Checked β) (xs : List α) (state : Nat → β)
    (round : ∀ n x, xs[n]? = some x → f (state n) x = .ok (state (n + 1))) :
    xs.foldlM f (state 0) = .ok (state xs.length) := by
  induction xs generalizing state with
  | nil => rfl
  | cons x rest ih =>
    rw [List.foldlM_cons, round 0 x rfl, ok_bind]
    exact ih (fun n => state (n + 1)) fun n y hy => round (n + 1) y hy

theorem getElem?_indices {first last n i : Nat} (h : (indices first last)[n]? = some i) :
    i = first + n ∧ i ≤ last := by
  obtain ⟨inside, rfl⟩ := List.getElem?_eq_some_iff.mp h
  rw [indices, List.length_range'] at inside
  simp only [indices, List.getElem_range']
  omega

theorem length_indices (first last : Nat) : (indices first last).length = last + 1 - first :=
  List.length_range'

end Checked

namespace Grid

theorem mapCells_mapCells (f f' : Nat → Nat → Cell → Cell) (g : Grid) :
    mapCells f' (mapCells f g) = mapCells (fun row col cell => f' row col (f row col cell)) g := by
  apply eq_of_cell?
  · simp
  · intro row col
    simp [cell?_mapCells, Function.comp_def]

/-- Only what happens at positions of the grid counts. -/
theorem mapCells_congr {f f' : Nat → Nat → Cell → Cell} {g : Grid}
    (same : ∀ row col cell, g.cell? row col = some cell → f row col cell = f' row col cell) :
    mapCells f g = mapCells f' g := by
  apply eq_of_cell?
  · simp
  · intro row col
    rw [cell?_mapCells, cell?_mapCells]
    cases found : g.cell? row col with
    | none => rfl
    | some cell => exact congrArg some (same row col cell found)

/-- Puts given cells at some positions. -/
def overlay (chosen : Nat → Nat → Bool) (value : Nat → Nat → Cell) (g : Grid) : Grid :=
  mapCells (fun row col cell => if chosen row col then value row col else cell) g

@[simp] theorem shape_overlay (chosen : Nat → Nat → Bool) (value : Nat → Nat → Cell) (g : Grid) :
    (overlay chosen value g).shape = g.shape :=
  shape_mapCells _ g

theorem cell?_overlay (chosen : Nat → Nat → Bool) (value : Nat → Nat → Cell) (g : Grid)
    (row col : Nat) :
    (overlay chosen value g).cell? row col =
      (g.cell? row col).map fun cell => if chosen row col then value row col else cell :=
  cell?_mapCells _ g row col

theorem overlay_nowhere {chosen : Nat → Nat → Bool} {value : Nat → Nat → Cell}
    (nowhere : ∀ row col, chosen row col = false) (g : Grid) : overlay chosen value g = g := by
  apply eq_of_cell?
  · simp
  · intro row col
    simp [cell?_overlay, nowhere]

theorem setCell_overlay {chosen chosen' : Nat → Nat → Bool} {value : Nat → Nat → Cell}
    {row col : Nat} (here : chosen' row col = true)
    (elsewhere : ∀ r c, ¬(r = row ∧ c = col) → chosen' r c = chosen r c) (g : Grid) :
    (overlay chosen value g).setCell row col (value row col) = overlay chosen' value g := by
  rw [setCell, overlay, mapCells_mapCells, overlay]
  congr 1
  funext r c cell
  by_cases at_place : r = row ∧ c = col
  · obtain ⟨rfl, rfl⟩ := at_place
    simp [here]
  · rw [if_neg at_place, elsewhere r c at_place]

/-- A fill puts cells at the positions of the block below its first row. -/
theorem fillDown_eq_overlay {chosen : Nat → Nat → Bool} {b : Block}
    (below : ∀ row col, chosen row col = true ↔ b.contains row col = true ∧ b.top < row)
    (g : Grid) : g.fillDown b = overlay chosen (Checked.belowFirst g b) g := by
  apply mapCells_congr
  intro row col cell here
  simp only [below, Checked.belowFirst]

theorem fillRight_eq_overlay {chosen : Nat → Nat → Bool} {b : Block}
    (beside : ∀ row col, chosen row col = true ↔ b.contains row col = true ∧ b.left < col)
    (g : Grid) : g.fillRight b = overlay chosen (Checked.besideFirst g b) g := by
  apply mapCells_congr
  intro row col cell here
  simp only [beside, Checked.besideFirst]

end Grid

namespace Checked

/-- Whether a position of the rectangle is reached, row by row, before the `m`-th column of its
`n`-th row. -/
def passed (top left right n m row col : Nat) : Bool :=
  top ≤ row && left ≤ col && col ≤ right &&
    (row < top + n || row == top + n && col < left + m)

section Passed

variable {top left right n m row col : Nat}

theorem passed_iff :
    passed top left right n m row col = true ↔ top ≤ row ∧ left ≤ col ∧ col ≤ right ∧
      (row < top + n ∨ row = top + n ∧ col < left + m) := by
  simp [passed, and_assoc]

theorem passed_start : passed top left right 0 0 row col = false := by
  rw [← Bool.not_eq_true, passed_iff]
  omega

theorem passed_here (inside : left + m ≤ right) :
    passed top left right n (m + 1) (top + n) (left + m) = true := by
  rw [passed_iff]
  omega

theorem passed_elsewhere (other : ¬(row = top + n ∧ col = left + m)) :
    passed top left right n (m + 1) row col = passed top left right n m row col := by
  rw [Bool.eq_iff_iff, passed_iff, passed_iff]
  omega

theorem passed_row :
    passed top left right n (right + 1 - left) row col =
      passed top left right (n + 1) 0 row col := by
  rw [Bool.eq_iff_iff, passed_iff, passed_iff]
  omega

end Passed

variable {width : Nat} {g : Grid}

theorem cell_eq_ok {row col : Nat} {value : Cell} (h : g.cell? row col = some value) :
    cell g row col = .ok value := by
  obtain ⟨cells, hrow, hcol⟩ := Grid.cell?_eq_some_iff.mp h
  rw [cell, fetch_eq_ok hrow, ok_bind, fetch_eq_ok hcol]

theorem setCell_eq_ok (even : g.Even width) {row col : Nat} (hrow : row < g.length)
    (hcol : col < width) (value : Cell) :
    setCell g row col value = .ok (g.setCell row col value) := by
  have reached : col < g[row].length := by
    rw [even _ (List.getElem_mem hrow)]
    exact hcol
  rw [setCell, fetch_eq_ok (List.getElem?_eq_getElem hrow), ok_bind, replace_eq_ok reached, ok_bind,
    replace_eq_ok hrow]
  congr 1
  apply List.ext_getElem?
  intro r
  simp only [Grid.setCell, Grid.mapCells, List.getElem?_mapIdx, List.getElem?_set]
  split
  · rename_i same
    subst same
    rw [List.getElem?_eq_getElem hrow, Option.map_some]
    congr 1
    apply List.ext_getElem?
    intro c
    simp only [List.getElem?_mapIdx, List.getElem?_set, true_and]
    by_cases here : col = c
    · subst here
      simp [reached]
    · simp [here, Ne.symm here]
  · rename_i other
    have kept : ∀ cells : Row, cells = cells.mapIdx fun _ cell => cell := by
      intro cells
      apply List.ext_getElem?
      simp
    cases g[r]? with
    | none => rfl
    | some cells => simpa [Ne.symm other] using kept cells

/-- One round of a loop that fills the grid position by position. -/
theorem setCell_overlay (even : g.Even width) {chosen chosen' : Nat → Nat → Bool}
    {value : Nat → Nat → Cell} {row col : Nat} (hrow : row < g.length) (hcol : col < width)
    (here : chosen' row col = true)
    (elsewhere : ∀ r c, ¬(r = row ∧ c = col) → chosen' r c = chosen r c) :
    setCell (Grid.overlay chosen value g) row col (value row col) =
      .ok (Grid.overlay chosen' value g) := by
  have length := Grid.length_eq_of_shape (Grid.shape_overlay chosen value g)
  rw [setCell_eq_ok (even.of_shape (Grid.shape_overlay chosen value g)) (by omega) hcol,
    Grid.setCell_overlay here elsewhere]

theorem passed_all {b : Block} {left row col : Nat} :
    passed b.top left b.right (b.bottom + 1 - b.top) 0 row col = true ↔
      b.top ≤ row ∧ row ≤ b.bottom ∧ left ≤ col ∧ col ≤ b.right := by
  rw [passed_iff]
  omega

/-- The loop along one row of a rectangle that is filled row by row. -/
theorem alongRow_eq_ok (even : g.Even width) (value : Nat → Nat → Cell) {top left right n : Nat}
    (row : top + n < g.length) (reach : right < width) :
    (indices left right).foldlM (fun g col => setCell g (top + n) col (value (top + n) col))
        (Grid.overlay (passed top left right n 0) value g) =
      .ok (Grid.overlay (passed top left right (n + 1) 0) value g) := by
  have loop := foldlM_eq_ok (fun g col => setCell g (top + n) col (value (top + n) col))
    (indices left right)
    (fun m => Grid.overlay (passed top left right n m) value g) fun m col hm => by
      obtain ⟨rfl, inside⟩ := getElem?_indices hm
      exact setCell_overlay even row (by omega) (passed_here inside) fun r c => passed_elsewhere
  have finished : passed top left right n (right + 1 - left) = passed top left right (n + 1) 0 := by
    funext r c
    exact passed_row
  rwa [length_indices, finished] at loop

theorem fillRow_eq_ok (even : g.Even width) {b : Block} (left : b.left < width)
    (right : b.right < width) {n : Nat} (row : b.top + n < g.length) :
    fillRow b (Grid.overlay (passed b.top (b.left + 1) b.right n 0) (besideFirst g b) g)
        (b.top + n) =
      .ok (Grid.overlay (passed b.top (b.left + 1) b.right (n + 1) 0) (besideFirst g b) g) := by
  obtain ⟨source, found⟩ := Grid.exists_cell? even row left
  -- the first column is read after earlier rows were filled, which did not touch it
  have unchanged : passed b.top (b.left + 1) b.right n 0 (b.top + n) b.left = false := by
    rw [← Bool.not_eq_true, passed_iff]
    omega
  have read : cell (Grid.overlay (passed b.top (b.left + 1) b.right n 0) (besideFirst g b) g)
      (b.top + n) b.left = .ok source := by
    apply cell_eq_ok
    simp [Grid.cell?_overlay, found, unchanged]
  rw [fillRow, read, ok_bind, ← alongRow_eq_ok even (besideFirst g b) row right]
  simp only [besideFirst, found, Option.getD_some]

theorem fillRight_eq_ok (even : g.Even width) {b : Block} (bottom : b.bottom < g.length)
    (left : b.left < width) (right : b.right < width) : fillRight g b = .ok (g.fillRight b) := by
  have loop := foldlM_eq_ok (fillRow b) (indices b.top b.bottom)
    (fun n => Grid.overlay (passed b.top (b.left + 1) b.right n 0) (besideFirst g b) g)
    fun n row hn => by
      obtain ⟨rfl, inside⟩ := getElem?_indices hn
      exact fillRow_eq_ok even left right (by omega)
  rw [Grid.overlay_nowhere (fun row col => passed_start), length_indices] at loop
  rw [fillRight, loop, Grid.fillRight_eq_overlay fun row col => ?_]
  rw [passed_all, Block.contains_iff]
  omega

/-- The loop down one column, which fills the transposed rectangle. -/
theorem fillColumn_eq_ok (even : g.Even width) {b : Block} (order : b.top ≤ b.bottom)
    (bottom : b.bottom < g.length) {n : Nat} (col : b.left + n < width) :
    fillColumn b (Grid.overlay (fun row col => passed b.left (b.top + 1) b.bottom n 0 col row)
        (belowFirst g b) g) (b.left + n) =
      .ok (Grid.overlay (fun row col => passed b.left (b.top + 1) b.bottom (n + 1) 0 col row)
        (belowFirst g b) g) := by
  obtain ⟨source, found⟩ := Grid.exists_cell? even (show b.top < g.length by omega) col
  have unchanged : passed b.left (b.top + 1) b.bottom n 0 (b.left + n) b.top = false := by
    rw [← Bool.not_eq_true, passed_iff]
    omega
  have read : cell (Grid.overlay (fun row col => passed b.left (b.top + 1) b.bottom n 0 col row)
      (belowFirst g b) g) b.top (b.left + n) = .ok source := by
    apply cell_eq_ok
    simp [Grid.cell?_overlay, found, unchanged]
  have loop := foldlM_eq_ok
    (fun h row => setCell h row (b.left + n) (belowFirst g b row (b.left + n)))
    (indices (b.top + 1) b.bottom)
    (fun m => Grid.overlay (fun row col => passed b.left (b.top + 1) b.bottom n m col row)
      (belowFirst g b) g) fun m row hm => by
      obtain ⟨rfl, inside⟩ := getElem?_indices hm
      exact setCell_overlay even (by omega) col (passed_here inside) fun r c other =>
        passed_elsewhere fun same => other same.symm
  have finished : (fun row col =>
        passed b.left (b.top + 1) b.bottom n (b.bottom + 1 - (b.top + 1)) col row) =
      fun row col => passed b.left (b.top + 1) b.bottom (n + 1) 0 col row := by
    funext row col
    exact passed_row
  rw [length_indices, finished] at loop
  rw [fillColumn, read, ok_bind, ← loop]
  simp only [belowFirst, found, Option.getD_some]

theorem fillDown_eq_ok (even : g.Even width) {b : Block} (order : b.top ≤ b.bottom)
    (bottom : b.bottom < g.length) (right : b.right < width) :
    fillDown g b = .ok (g.fillDown b) := by
  have loop := foldlM_eq_ok (fillColumn b) (indices b.left b.right)
    (fun n => Grid.overlay (fun row col => passed b.left (b.top + 1) b.bottom n 0 col row)
      (belowFirst g b) g) fun n col hn => by
      obtain ⟨rfl, inside⟩ := getElem?_indices hn
      exact fillColumn_eq_ok even order bottom (by omega)
  rw [Grid.overlay_nowhere (fun row col => passed_start), length_indices] at loop
  rw [fillDown, loop, Grid.fillDown_eq_overlay fun row col => ?_]
  rw [passed_iff, Block.contains_iff]
  omega

theorem erase_eq_ok (even : g.Even width) {b : Block} (bottom : b.bottom < g.length)
    (right : b.right < width) : erase g b = .ok (g.erase b) := by
  have loop := foldlM_eq_ok
    (fun g row => (indices b.left b.right).foldlM (fun g col => setCell g row col .empty) g)
    (indices b.top b.bottom)
    (fun n => Grid.overlay (passed b.top b.left b.right n 0) (fun _ _ => .empty) g)
    fun n row hn => by
      obtain ⟨rfl, inside⟩ := getElem?_indices hn
      exact alongRow_eq_ok even (fun _ _ => .empty) (by omega) right
  rw [Grid.overlay_nowhere (fun row col => passed_start), length_indices] at loop
  rw [erase, loop, Grid.erase, Grid.modify_eq_mapCells]
  congr 1
  apply Grid.mapCells_congr
  intro row col cell inside
  simp only [passed_all, Block.contains_iff]

end Checked

namespace Grid

theorem before?_eq_some_iff {n m : Nat} {delta : Int} :
    before? n delta = some m ↔ (n : Int) - delta = m := by
  simp only [before?]
  split
  · rw [Option.some.injEq]
    omega
  · rw [iff_false_left (by simp)]
    omega

theorem before?_neg {n m : Nat} {delta : Int} :
    before? m (-delta) = some n ↔ before? n delta = some m := by
  rw [before?_eq_some_iff, before?_eq_some_iff]
  omega

/-- Where a cell comes from that a move by some rows and columns puts at a position. -/
def origin? (rows cols : Int) (row col : Nat) : Option (Nat × Nat) := do
  return (← before? row rows, ← before? col cols)

theorem origin?_eq_some_iff {rows cols : Int} {row col r c : Nat} :
    origin? rows cols row col = some (r, c) ↔
      before? row rows = some r ∧ before? col cols = some c := by
  simp [origin?, Option.bind_eq_some_iff]

theorem origin?_injective {rows cols : Int} {row col row' col' : Nat} {place : Nat × Nat}
    (h : origin? rows cols row col = some place) (h' : origin? rows cols row' col' = some place) :
    row = row' ∧ col = col' := by
  obtain ⟨r, c⟩ := place
  rw [origin?_eq_some_iff, before?_eq_some_iff, before?_eq_some_iff] at h h'
  omega

theorem overlay_congr {chosen chosen' : Nat → Nat → Bool} {width : Nat} {g : Grid}
    (even : g.Even width)
    (same : ∀ row col, row < g.length → col < width → chosen row col = chosen' row col)
    (value : Nat → Nat → Cell) : overlay chosen value g = overlay chosen' value g := by
  apply mapCells_congr
  intro row col cell found
  obtain ⟨hrow, hcol⟩ := cell?_inside even found
  rw [same row col hrow hcol]

end Grid

namespace Checked

/-- Whether the cell that belongs at a position has been put down. -/
def landed (b : Block) (rows cols : Int) (n m row col : Nat) : Bool :=
  (Grid.origin? rows cols row col).any fun (r, c) => passed b.top b.left b.right n m r c

/-- The cell that belongs at a position. -/
def movedTo (g : Grid) (rows cols : Int) (row col : Nat) : Cell :=
  ((Grid.origin? rows cols row col).bind fun (r, c) => g.cell? r c).getD .empty

section Landing

variable {b : Block} {rows cols : Int} {n m row col : Nat}

theorem landed_start : landed b rows cols 0 0 row col = false := by
  rw [landed]
  cases Grid.origin? rows cols row col with
  | none => rfl
  | some place => exact passed_start

theorem landed_row :
    landed b rows cols n (b.right + 1 - b.left) row col = landed b rows cols (n + 1) 0 row col := by
  rw [landed, landed]
  cases Grid.origin? rows cols row col with
  | none => rfl
  | some place => exact passed_row

theorem landed_here (origin : Grid.origin? rows cols row col = some (b.top + n, b.left + m))
    (inside : b.left + m ≤ b.right) : landed b rows cols n (m + 1) row col = true := by
  rw [landed, origin]
  exact passed_here inside

theorem landed_elsewhere
    (origin : Grid.origin? rows cols row col ≠ some (b.top + n, b.left + m)) :
    landed b rows cols n (m + 1) row col = landed b rows cols n m row col := by
  rw [landed, landed]
  cases from_where : Grid.origin? rows cols row col with
  | none => rfl
  | some place =>
    refine passed_elsewhere fun same => origin ?_
    rw [from_where, ← same.1, ← same.2]

theorem movedTo_eq {value : Cell} {r c : Nat}
    (origin : Grid.origin? rows cols row col = some (r, c)) (found : g.cell? r c = some value) :
    movedTo g rows cols row col = value := by
  simp [movedTo, origin, found]

end Landing

theorem drop_eq_ok {h : Grid} (even : h.Even width) {b : Block} {rows cols : Int} {n m : Nat}
    {value : Cell} (found : g.cell? (b.top + n) (b.left + m) = some value)
    (inside : b.left + m ≤ b.right) :
    drop (Grid.overlay (landed b rows cols n m) (movedTo g rows cols) h) width (b.top + n)
        (b.left + m) rows cols value =
      .ok (Grid.overlay (landed b rows cols n (m + 1)) (movedTo g rows cols) h) := by
  have length := Grid.length_eq_of_shape
    (Grid.shape_overlay (landed b rows cols n m) (movedTo g rows cols) h)
  by_cases target : ∃ row col, row < h.length ∧ col < width ∧
      Grid.origin? rows cols row col = some (b.top + n, b.left + m)
  · obtain ⟨row, col, hrow, hcol, origin⟩ := target
    obtain ⟨back, back'⟩ := Grid.origin?_eq_some_iff.mp origin
    rw [drop, Grid.before?_neg.mpr back, Grid.before?_neg.mpr back']
    dsimp only
    rw [if_pos ⟨by omega, hcol⟩, ← movedTo_eq origin found]
    refine setCell_overlay even hrow hcol (landed_here origin inside) fun r c other => ?_
    exact landed_elsewhere fun same => other (Grid.origin?_injective same origin)
  · -- the cell is lost, and no position waits for it
    have lost : Grid.overlay (landed b rows cols n m) (movedTo g rows cols) h =
        Grid.overlay (landed b rows cols n (m + 1)) (movedTo g rows cols) h := by
      refine Grid.overlay_congr even (fun row col hrow hcol => ?_) _
      exact (landed_elsewhere fun origin => target ⟨row, col, hrow, hcol, origin⟩).symm
    rw [drop]
    split
    · rename_i row col hrow hcol
      split
      · rename_i reached
        rw [length] at reached
        exact absurd ⟨row, col, reached.1, reached.2, Grid.origin?_eq_some_iff.mpr
          ⟨Grid.before?_neg.mp hrow, Grid.before?_neg.mp hcol⟩⟩ target
      · rw [lost]
    · rw [lost]

theorem getElem?_zipIdx {α : Type} {xs : List α} {n i : Nat} {x : α}
    (h : xs.zipIdx[n]? = some (x, i)) : i = n ∧ xs[n]? = some x := by
  rw [List.getElem?_zipIdx] at h
  obtain ⟨y, found, pair⟩ := Option.map_eq_some_iff.mp h
  cases pair
  exact ⟨Nat.zero_add n, found⟩

/-- The cells of a row go down one by one. -/
theorem dropRow_eq_ok {h : Grid} (even : h.Even width) {b : Block} {rows cols : Int} {n : Nat}
    {row : Row} (found : g[b.top + n]? = some row) (right : b.right < row.length) :
    (Block.span b.left b.right row).zipIdx.foldlM
        (fun h (value, j) => drop h width (b.top + n) (b.left + j) rows cols value)
        (Grid.overlay (landed b rows cols n 0) (movedTo g rows cols) h) =
      .ok (Grid.overlay (landed b rows cols (n + 1) 0) (movedTo g rows cols) h) := by
  have loop := foldlM_eq_ok
    (fun h (value, j) => drop h width (b.top + n) (b.left + j) rows cols value)
    (Block.span b.left b.right row).zipIdx
    (fun m => Grid.overlay (landed b rows cols n m) (movedTo g rows cols) h)
    fun m (value, j) hm => by
      obtain ⟨rfl, held⟩ := getElem?_zipIdx hm
      rw [Block.getElem?_span, Option.ite_none_right_eq_some] at held
      obtain ⟨inside, hvalue⟩ := held
      exact drop_eq_ok even (Grid.cell?_eq_some_iff.mpr ⟨row, found, hvalue⟩) inside
  have finished : landed b rows cols n (b.right + 1 - b.left) = landed b rows cols (n + 1) 0 := by
    funext r c
    exact landed_row
  rwa [List.length_zipIdx, Block.length_span right, finished] at loop

theorem overlay_landed_eq (even : g.Even width) {b : Block} (bottom : b.bottom < g.length)
    (right : b.right < width) (rows cols : Int) :
    Grid.overlay (landed b rows cols (b.bottom + 1 - b.top) 0) (movedTo g rows cols) (g.erase b) =
      g.moveBlock b rows cols := by
  rw [Grid.erase, Grid.modify_eq_mapCells, Grid.overlay, Grid.mapCells_mapCells, Grid.moveBlock]
  apply Grid.mapCells_congr
  intro row col cell here
  cases back : Grid.before? row rows with
  | none => simp [landed, Grid.origin?, back]
  | some r =>
    cases back' : Grid.before? col cols with
    | none => simp [landed, Grid.origin?, back, back']
    | some c =>
      have origin : Grid.origin? rows cols row col = some (r, c) :=
        Grid.origin?_eq_some_iff.mpr ⟨back, back'⟩
      have all : landed b rows cols (b.bottom + 1 - b.top) 0 row col = b.contains r c := by
        rw [landed, origin, Bool.eq_iff_iff, Block.contains_iff]
        exact passed_all
      cases held : b.contains r c with
      | false => simp [all, held]
      | true =>
        have inside := Block.contains_iff.mp held
        obtain ⟨value, found⟩ := Grid.exists_cell? even (show r < g.length by omega)
          (show c < width by omega)
        simp [all, held, movedTo_eq origin found, found]

theorem moveBlock_eq_ok (even : g.Even width) {b : Block} (bottom : b.bottom < g.length)
    (order : b.left ≤ b.right) (right : b.right < width) (rows cols : Int) :
    moveBlock g width b rows cols = .ok (g.moveBlock b rows cols) := by
  have reach : ∀ row ∈ g, b.right < row.length := by
    intro row hrow
    rwa [even row hrow]
  have taken : (indices b.top b.bottom).mapM
        (fun row => do slice (← fetch g row) b.left b.right) =
      .ok ((indices b.top b.bottom).map fun row => Block.span b.left b.right (g.getD row [])) := by
    apply mapM_eq_ok
    intro row hrow
    obtain ⟨n, hn⟩ := List.mem_iff_getElem?.mp hrow
    obtain ⟨-, inside⟩ := getElem?_indices hn
    have found : g[row]? = some g[row] := List.getElem?_eq_getElem (by omega)
    rw [fetch_eq_ok found, ok_bind,
      slice_eq_ok (by omega) (reach _ (List.mem_of_getElem? found)), List.getD_eq_getElem?_getD,
      found, Option.getD_some]
  have loop := foldlM_eq_ok
    (fun h (cells, i) => cells.zipIdx.foldlM
      (fun h (value, j) => drop h width (b.top + i) (b.left + j) rows cols value) h)
    ((indices b.top b.bottom).map fun row => Block.span b.left b.right (g.getD row [])).zipIdx
    (fun n => Grid.overlay (landed b rows cols n 0) (movedTo g rows cols) (g.erase b))
    fun n (cells, i) hn => by
      obtain ⟨rfl, held⟩ := getElem?_zipIdx hn
      rw [List.getElem?_map] at held
      obtain ⟨row, hrow, rfl⟩ := Option.map_eq_some_iff.mp held
      obtain ⟨rfl, inside⟩ := getElem?_indices hrow
      have found : g[b.top + i]? = some g[b.top + i] := List.getElem?_eq_getElem (by omega)
      rw [List.getD_eq_getElem?_getD, found, Option.getD_some]
      exact dropRow_eq_ok (even.of_shape (Grid.shape_erase g b)) found
        (reach _ (List.mem_of_getElem? found))
  rw [Grid.overlay_nowhere (fun row col => landed_start), List.length_zipIdx, List.length_map,
    length_indices, overlay_landed_eq even bottom right] at loop
  rw [moveBlock, taken, ok_bind, erase_eq_ok even bottom right, ok_bind]
  exact loop

end Checked

end Spreadsheet
