import Spreadsheet.Proofs.Validity

/-!
# Where an edit takes the cells

An insertion or a deletion is a splice of the rows or of the columns: it takes every position that
it keeps to another one and leaves their order. What a structural edit makes of a sheet is said with
two splices. Each cell goes where its row and its column go, with what it holds, and every place to
which none goes is blank.
-/

namespace Spreadsheet

/-- What is done to the positions of the rows or of the columns. -/
inductive Splice where
  | keep
  /-- A new position in front of another one. -/
  | insert (i : Nat)
  | delete (i : Nat)
deriving DecidableEq, Repr

namespace Splice

/-- Where a position goes. A deleted one goes nowhere. -/
def place? : Splice → Nat → Option Nat
  | keep, n => some n
  | insert i, n => some (if n < i then n else n + 1)
  | delete i, n => if n < i then some n else if n = i then none else some (n - 1)

/-- The splice that takes every position back. -/
def inverse : Splice → Splice
  | keep => keep
  | insert i => delete i
  | delete i => insert i

/-- How many positions there are then. -/
def size (n : Nat) : Splice → Nat
  | keep => n
  | insert _ => n + 1
  | delete _ => n - 1

/-- A deletion needs a position, an insertion may be behind the last one. -/
def Fits (n : Nat) : Splice → Prop
  | keep => True
  | insert i => i ≤ n
  | delete i => i < n

/-- The order of positions stays, and only a deleted one is gone. -/
structure Ordered (x : Splice) : Prop where
  lt_iff : ∀ m n m' n', x.place? m = some m' → x.place? n = some n' → (m' < n' ↔ m < n)
  gone_iff : ∀ n, x.place? n = none ↔ x = delete n

theorem place?_inverse (x : Splice) (m n : Nat) :
    x.place? m = some n ↔ x.inverse.place? n = some m := by
  cases x with
  | keep => simp [place?, inverse, eq_comm]
  | insert i =>
    simp only [place?, inverse]
    grind
  | delete i =>
    simp only [place?, inverse]
    grind

theorem ordered (x : Splice) : x.Ordered where
  lt_iff m n m' n' := by
    cases x <;> simp only [place?] <;> grind
  gone_iff n := by
    cases x <;> simp only [place?] <;> grind

/-- The list with a new element, or with one less. -/
def apply {α : Type} (new : α) (xs : List α) : Splice → List α
  | keep => xs
  | insert i => xs.insertIdx i new
  | delete i => xs.eraseIdx i

/-- Every element of the spliced list stood where the splice is taken back to, or is new. -/
theorem getElem?_apply {α : Type} {x : Splice} {xs : List α} (fits : x.Fits xs.length) (new : α)
    (n : Nat) :
    (x.apply new xs)[n]? =
      match x.inverse.place? n with
      | some m => xs[m]?
      | none => some new := by
  cases x with
  | keep => rfl
  | insert i =>
    have inside : i ≤ xs.length := fits
    simp only [apply, inverse, place?, List.getElem?_insertIdx]
    grind
  | delete i =>
    simp only [apply, inverse, place?, List.getElem?_eraseIdx]
    grind

theorem lt_size_iff {x : Splice} {n : Nat} (fits : x.Fits n) {i j : Nat}
    (place : x.place? i = some j) : j < x.size n ↔ i < n := by
  cases x <;> simp only [place?, Fits, size] at * <;> grind

theorem getElem?_apply_of_lt {α : Type} {x : Splice} {xs : List α} (fits : x.Fits xs.length)
    (new : α) {n : Nat} (below : n < x.size xs.length) :
    (x.apply new xs)[n]? = some (((x.inverse.place? n).bind (xs[·]?)).getD new) := by
  rw [getElem?_apply fits]
  cases back : x.inverse.place? n with
  | none => rfl
  | some m =>
    have old := (lt_size_iff fits ((x.place?_inverse m n).mpr back)).mp below
    dsimp only
    rw [Option.bind_some, List.getElem?_eq_getElem old, Option.getD_some]

end Splice

namespace StructuralEdit

/-- What an edit at a position does to the rows and the columns of a sheet. There is nothing to
delete beyond the edges, and the only column cannot be deleted. -/
def splices? (height width row col : Nat) : StructuralEdit → Option (Splice × Splice)
  | insertRowAbove => some (.insert row, .keep)
  | insertRowBelow => some (.insert (row + 1), .keep)
  | deleteRow => some (.delete row, .keep)
  | deleteRowAbove => if 0 < row then some (.delete (row - 1), .keep) else none
  | deleteRowBelow => if row + 1 < height then some (.delete (row + 1), .keep) else none
  | insertColumnLeft => some (.keep, .insert col)
  | insertColumnRight => some (.keep, .insert (col + 1))
  | deleteColumn => if 1 < width then some (.keep, .delete col) else none
  | deleteColumnLeft => if 0 < col then some (.keep, .delete (col - 1)) else none
  | deleteColumnRight => if col + 1 < width then some (.keep, .delete (col + 1)) else none

end StructuralEdit

namespace Sheet

/-- The height after rows are spliced. For a deleted row there is a blank one at the end, and a
sheet that is as tall as the limit becomes no taller. -/
def splicedHeight (limit height : Nat) : Splice → Nat
  | .insert _ => min (height + 1) (max limit height)
  | .keep | .delete _ => height

/-- A sheet of which the rows and columns are spliced. The headers stay or are generated, as the
columns are. -/
structure Spliced (limit : Nat) (rows cols : Splice) (s t : Sheet) : Prop where
  name : t.name = s.name
  id : t.id = s.id
  headers : t.headers = if cols = .keep then s.headers else Column.labels (cols.size s.width)
  width : t.width = cols.size s.width
  height : t.height = splicedHeight limit s.height rows
  even : Grid.Even t.width t.rows
  /-- A cell goes where its row and its column go. -/
  kept : ∀ row col row' col' cell, s.cell? row col = some cell → rows.place? row = some row' →
    cols.place? col = some col' → row' < t.height → t.cell? row' col' = some cell
  /-- Where no cell goes, there is nothing. -/
  blank : ∀ row' col', row' < t.height → col' < t.width →
    (∀ row col cell, s.cell? row col = some cell → rows.place? row = some row' →
      cols.place? col ≠ some col') → t.cell? row' col' = some .empty
  /-- No row is lost but the last one, when another one is inserted into a sheet that is at its
  limit. -/
  lost : ∀ row row', row < s.height → rows.place? row = some row' → t.height ≤ row' →
    row + 1 = s.height ∧ limit ≤ s.height ∧ ∃ i, rows = .insert i

variable {limit : Nat} {s t : Sheet}

theorem width_withColumns (s : Sheet) (width : Nat) (rows : Grid) :
    (s.withColumns width rows).width = width :=
  Column.length_labels width

theorem cell?_of_rows {row col : Nat} {cells : Row} (h : s.rows[row]? = some cells) :
    s.cell? row col = cells[col]? := by
  rw [cell?, h, Option.bind_some]

/-- A row that goes beyond the height is the last one of a sheet at its limit. -/
theorem lost_of_splicedHeight {height row row' : Nat} {x : Splice} (inside : row < height)
    (goes : x.place? row = some row') (beyond : splicedHeight limit height x ≤ row') :
    row + 1 = height ∧ limit ≤ height ∧ ∃ i, x = .insert i := by
  cases x with
  | keep =>
    cases goes
    exact absurd inside (Nat.not_lt.mpr beyond)
  | insert i =>
    simp only [Splice.place?, Option.some.injEq] at goes
    simp only [splicedHeight] at beyond
    refine ⟨?_, ?_, i, rfl⟩ <;> split at goes <;> omega
  | delete i =>
    simp only [Splice.place?] at goes
    simp only [splicedHeight] at beyond
    grind

/-- Rows that are spliced under the same headers. -/
theorem Sound.spliced_of_rows (sound : s.Sound) (sound' : t.Sound) {x : Splice}
    (name : t.name = s.name) (id : t.id = s.id) (headers : t.headers = s.headers)
    (height : t.height = splicedHeight limit s.height x)
    (rows : ∀ n < t.height, t.rows[n]? =
      some (((x.inverse.place? n).bind (s.rows[·]?)).getD s.blankRow)) :
    s.Spliced limit x .keep t where
  name := name
  id := id
  headers := headers
  width := congrArg List.length headers
  height := height
  even := sound'.even
  kept := by
    intro row col row' col' cell found row_goes col_goes inside
    cases col_goes
    obtain ⟨cells, old, there⟩ := Option.bind_eq_some_iff.mp found
    have new := rows row' inside
    rw [(x.place?_inverse row row').mp row_goes, Option.bind_some, old, Option.getD_some] at new
    rw [cell?_of_rows new]
    exact there
  blank := by
    intro row' col' inside reached nobody
    have new := rows row' inside
    rw [cell?_of_rows new]
    have width : t.width = s.width := congrArg List.length headers
    have blank : s.blankRow[col']? = some .empty := by
      rw [blankRow, List.getElem?_replicate_of_lt (by omega)]
    cases back : x.inverse.place? row' with
    | none => exact blank
    | some row =>
      cases old : s.rows[row]? with
      | none =>
        rw [Option.bind_some, old]
        exact blank
      | some cells =>
        -- an old row would have a cell here
        have wide : col' < cells.length := by
          rw [sound.even cells (List.mem_of_getElem? old)]
          omega
        refine absurd rfl (nobody row col' cells[col'] ?_ ((x.place?_inverse row row').mpr back))
        rw [cell?_of_rows old, List.getElem?_eq_getElem wide]
  lost row row' inside goes beyond := lost_of_splicedHeight inside goes (height ▸ beyond)

/-- Columns that are spliced, row by row. -/
theorem Sound.spliced_of_columns (sound : s.Sound) {x : Splice} (moves : x ≠ .keep)
    (fits : x.Fits s.width)
    (sound' : (s.withColumns (x.size s.width) (s.rows.map (x.apply .empty))).Sound) :
    s.Spliced limit .keep x (s.withColumns (x.size s.width) (s.rows.map (x.apply .empty))) where
  name := rfl
  id := rfl
  headers := by
    rw [if_neg moves]
    rfl
  width := s.width_withColumns _ _
  height := List.length_map _
  even := sound'.even
  kept := by
    intro row col row' col' cell found row_goes col_goes inside
    cases row_goes
    obtain ⟨cells, old, there⟩ := Option.bind_eq_some_iff.mp found
    have wide : cells.length = s.width := sound.even cells (List.mem_of_getElem? old)
    have new : (s.rows.map (x.apply .empty))[row]? = some (x.apply .empty cells) := by
      rw [List.getElem?_map, old, Option.map_some]
    rw [cell?_of_rows new, Splice.getElem?_apply (wide ▸ fits),
      (x.place?_inverse col col').mp col_goes]
    exact there
  blank := by
    intro row' col' inside reached nobody
    have inside : row' < s.rows.length := by
      rw [← List.length_map (x.apply .empty)]
      exact inside
    rw [width_withColumns] at reached
    have wide : s.rows[row'].length = s.width := sound.even _ (List.getElem_mem inside)
    have old := List.getElem?_eq_getElem inside
    have new : (s.rows.map (x.apply .empty))[row']? = some (x.apply .empty s.rows[row']) := by
      rw [List.getElem?_map, old, Option.map_some]
    rw [cell?_of_rows new, Splice.getElem?_apply (wide ▸ fits)]
    cases back : x.inverse.place? col' with
    | none => rfl
    | some col =>
      -- an old column would have a cell here
      have goes := (x.place?_inverse col col').mpr back
      have before : col < s.rows[row'].length := by
        rw [wide]
        exact (Splice.lt_size_iff fits goes).mp reached
      refine absurd goes (nobody row' col s.rows[row'][col] ?_ rfl)
      rw [cell?_of_rows old, List.getElem?_eq_getElem before]
  lost := by
    intro row row' inside goes beyond
    cases goes
    have height : (s.rows.map (x.apply .empty)).length ≤ row := beyond
    rw [List.length_map] at height
    exact absurd inside (Nat.not_lt.mpr height)

theorem Sound.exists_insertRow? (sound : s.Sound) (limit : Nat) {i : Nat} (inside : i ≤ s.height) :
    ∃ t, s.insertRow? limit i = some t ∧ s.Spliced limit (.insert i) .keep t := by
  have inserted : s.insertRow? limit i = some _ := if_pos inside
  refine ⟨_, inserted, ?_⟩
  have sound' := sound.insertRow? inserted
  have taller := List.length_insertIdx_of_le_length inside s.blankRow
  refine sound.spliced_of_rows sound' rfl rfl rfl ?_ fun n below => ?_
  · simp only [Sheet.height, splicedHeight, List.length_take, taller]
    omega
  · have below : n < max limit s.height ∧ n < s.rows.length + 1 := by
      simp only [Sheet.height, List.length_take, taller] at below ⊢
      omega
    have fits : (Splice.insert i).Fits s.rows.length := inside
    rw [List.getElem?_take_of_lt below.1]
    exact Splice.getElem?_apply_of_lt fits s.blankRow below.2

theorem Sound.exists_deleteRow? (sound : s.Sound) (limit : Nat) {i : Nat} (inside : i < s.height) :
    ∃ t, s.deleteRow? i = some t ∧ s.Spliced limit (.delete i) .keep t := by
  have deleted : s.deleteRow? i = some _ := if_pos inside
  refine ⟨_, deleted, ?_⟩
  have sound' := sound.deleteRow? deleted
  have fits : (Splice.delete i).Fits s.rows.length := inside
  have shorter := List.length_eraseIdx_of_lt fits
  have height : (s.rows.eraseIdx i ++ [s.blankRow]).length = s.rows.length := by
    rw [List.length_append, shorter, List.length_singleton]
    simp only [Splice.Fits] at fits
    omega
  refine sound.spliced_of_rows sound' rfl rfl rfl height fun n below => ?_
  have below : n < s.rows.length := height ▸ below
  by_cases last : n < s.rows.length - 1
  · rw [List.getElem?_append_left (by omega)]
    exact Splice.getElem?_apply_of_lt fits s.blankRow last
  · -- the blank row at the end stands in for a row that there is not
    have back : (Splice.delete i).inverse.place? n = some s.rows.length := by
      simp only [Splice.Fits] at fits
      simp only [Splice.inverse, Splice.place?, Option.some.injEq]
      rw [if_neg (by omega)]
      omega
    rw [List.getElem?_append_right (by omega), shorter, back, Option.bind_some,
      List.getElem?_eq_none (Nat.le_refl _), show n - (s.rows.length - 1) = 0 by omega]
    rfl

theorem Sound.exists_insertColumn? (sound : s.Sound) (limit : Nat) {i : Nat}
    (inside : i ≤ s.width) :
    ∃ t, s.insertColumn? i = some t ∧ s.Spliced limit .keep (.insert i) t := by
  have inserted : s.insertColumn? i = some _ := if_pos inside
  have fits : (Splice.insert i).Fits s.width := inside
  exact ⟨_, inserted, sound.spliced_of_columns (by simp) fits (sound.insertColumn? inserted)⟩

theorem Sound.exists_deleteColumn? (sound : s.Sound) (limit : Nat) {i : Nat}
    (inside : i < s.width) (more : 1 < s.width) :
    ∃ t, s.deleteColumn? i = some t ∧ s.Spliced limit .keep (.delete i) t := by
  have deleted : s.deleteColumn? i = some _ := if_pos ⟨inside, more⟩
  have fits : (Splice.delete i).Fits s.width := inside
  exact ⟨_, deleted, sound.spliced_of_columns (by simp) fits (sound.deleteColumn? deleted)⟩

/-- An edit at a cell splices the rows and columns as it is said to, or finds nothing to edit. -/
theorem Sound.edited?_spliced (sound : s.Sound) (limit : Nat) {anchor : Address} {row col : Nat}
    (place : s.position? anchor = some (row, col)) (edit : StructuralEdit) :
    match edit.splices? s.height s.width row col with
    | some (rows, cols) => ∃ t, s.edited? limit edit anchor = some t ∧ s.Spliced limit rows cols t
    | none => s.edited? limit edit anchor = none := by
  obtain ⟨rfl, inside, column⟩ := position?_eq_some place
  have reached := column?_lt column
  cases edit with
  | insertRowAbove => exact sound.exists_insertRow? limit (Nat.le_of_lt inside)
  | insertRowBelow => exact sound.exists_insertRow? limit inside
  | deleteRow => exact sound.exists_deleteRow? limit inside
  | deleteRowAbove =>
    simp only [StructuralEdit.splices?, edited?]
    by_cases above : 0 < anchor.row
    · simp only [if_pos above]
      exact sound.exists_deleteRow? limit (by omega)
    · simp only [if_neg above]
  | deleteRowBelow =>
    simp only [StructuralEdit.splices?, edited?]
    by_cases below : anchor.row + 1 < s.height
    · simp only [if_pos below]
      exact sound.exists_deleteRow? limit below
    · simp only [if_neg below]
      exact if_neg below
  | insertColumnLeft =>
    simp only [StructuralEdit.splices?, edited?, column]
    exact sound.exists_insertColumn? limit (Nat.le_of_lt reached)
  | insertColumnRight =>
    simp only [StructuralEdit.splices?, edited?, column]
    exact sound.exists_insertColumn? limit reached
  | deleteColumn =>
    simp only [StructuralEdit.splices?, edited?, column]
    by_cases more : 1 < s.width
    · simp only [if_pos more]
      exact sound.exists_deleteColumn? limit reached more
    · simp only [if_neg more]
      exact if_neg fun both => more both.2
  | deleteColumnLeft =>
    simp only [StructuralEdit.splices?, edited?, column]
    by_cases left : 0 < col
    · simp only [if_pos left]
      obtain ⟨t, deleted, spliced⟩ :=
        sound.exists_deleteColumn? limit (show col - 1 < s.width by omega) (by omega)
      exact ⟨t, (if_pos left).trans deleted, spliced⟩
    · simp only [if_neg left]
      exact if_neg left
  | deleteColumnRight =>
    simp only [StructuralEdit.splices?, edited?, column]
    by_cases right : col + 1 < s.width
    · simp only [if_pos right]
      exact sound.exists_deleteColumn? limit right (by omega)
    · simp only [if_neg right]
      exact if_neg fun both => right both.1

end Sheet

namespace Editor

theorem edit_of_none {e : Editor} {edit : StructuralEdit} {anchor : Address}
    (nothing : e.sheet.edited? e.config.maxRows edit anchor = none) : e.edit edit anchor = e := by
  rw [Editor.edit, nothing]

theorem Valid.sheet_edit {e : Editor} (valid : e.Valid) {edit : StructuralEdit} {anchor : Address}
    {t : Sheet} (edited : e.sheet.edited? e.config.maxRows edit anchor = some t) :
    (e.edit edit anchor).sheet = t := by
  have kept := e.selectionsAfter_keeps edit anchor t
  rw [Editor.edit, edited]
  exact (put_replaces kept.config kept.workbook kept.nextId kept.store t).sheet valid

/-- Let a run reach an editor. A structural edit at a cell of its sheet takes every cell of the
sheet along with its row and its column, in order and as it is, and leaves everything else blank: a
row or a column is new, or it is gone, and of the rest only the last row can be lost, when a row is
inserted into a sheet at its limit. Under changed columns the headers are generated. Where there is
no row or column to delete, or only one column, nothing changes at all. -/
theorem run_edit_spliced (c : Config) (store : Store) (before : List Action)
    (edit : StructuralEdit) (anchor : Address) (row col : Nat) :
    let e := (start c store).run before
    e.sheet.position? anchor = some (row, col) →
      match edit.splices? e.sheet.height e.sheet.width row col with
      | some (rows, cols) => rows.Ordered ∧ cols.Ordered ∧
          e.sheet.Spliced e.config.maxRows rows cols (e.edit edit anchor).sheet
      | none => e.edit edit anchor = e := by
  intro e place
  have valid : e.Valid := valid_run c store before
  have spliced := (sheet_sound valid.workbook).edited?_spliced e.config.maxRows place edit
  split
  · rename_i rows cols said
    rw [said] at spliced
    obtain ⟨t, edited, spliced⟩ := spliced
    rw [valid.sheet_edit edited]
    exact ⟨rows.ordered, cols.ordered, spliced⟩
  · rename_i said
    rw [said] at spliced
    exact edit_of_none spliced

/-- Two rows, as many as there may be, of which the second holds something. -/
def secondFilled : List Action :=
  [.write ⟨1, ['A']⟩ "tea".toList, .write ⟨1, ['B']⟩ "=A2".toList]

/-- A row that is put in above the second loses it, a column that is put in between takes the
formula along unread, and there is nothing to delete left of the first. -/
theorem secondFilled_spliced :
    let e := (start ⟨2, 2, 1, 300⟩ ⟨.memory, .nothing, true, true, 0⟩).run secondFilled
    e.sheet.position? ⟨1, ['A']⟩ = some (1, 0) ∧
      e.sheet.Spliced 2 (.insert 1) .keep (e.edit .insertRowAbove ⟨1, ['A']⟩).sheet ∧
      (e.edit .insertRowAbove ⟨1, ['A']⟩).sheet.rows = List.replicate 2 [.empty, .empty] ∧
      e.sheet.Spliced 2 .keep (.insert 1) (e.edit .insertColumnRight ⟨1, ['A']⟩).sheet ∧
      (e.edit .insertColumnRight ⟨1, ['A']⟩).sheet.cell? 1 2 = some (.text "=A2".toList) ∧
      e.edit .deleteColumnLeft ⟨1, ['A']⟩ = e := by
  intro e
  have place : e.sheet.position? ⟨1, ['A']⟩ = some (1, 0) := by decide
  have height : e.sheet.height = 2 := by decide
  have width : e.sheet.width = 2 := by decide
  have above := run_edit_spliced ⟨2, 2, 1, 300⟩ ⟨.memory, .nothing, true, true, 0⟩ secondFilled
    .insertRowAbove ⟨1, ['A']⟩ 1 0 place
  have right := run_edit_spliced ⟨2, 2, 1, 300⟩ ⟨.memory, .nothing, true, true, 0⟩ secondFilled
    .insertColumnRight ⟨1, ['A']⟩ 1 0 place
  have left := run_edit_spliced ⟨2, 2, 1, 300⟩ ⟨.memory, .nothing, true, true, 0⟩ secondFilled
    .deleteColumnLeft ⟨1, ['A']⟩ 1 0 place
  exact ⟨place, above.2.2, by decide, right.2.2, by decide, left⟩

end Editor

end Spreadsheet
