import Mathlib.Data.List.InsertIdx
import Spreadsheet.Proofs.SplicedSheets

/-!
# Edits that undo each other

A column that is inserted can be deleted again, and a row or a column that is moved can be moved
back: under generated labels the same label stands for the same place all the while, so the sheet is
what it was. A row that is inserted can be deleted again, too, but it has cost the last row of a
sheet at its limit, and has made any other sheet one row taller for good.
-/

namespace Spreadsheet

/-- An element that is moved and moved back is where it was. -/
theorem moveElement_moveElement {α : Type} {xs : List α} {i j : Nat} (hi : i < xs.length)
    (hj : j < xs.length) : moveElement j i (moveElement i j xs) = xs := by
  have erased := List.length_eraseIdx_of_lt hi
  have moved : moveElement i j xs = (xs.eraseIdx i).insertIdx j xs[i] := by
    rw [moveElement, List.getElem?_eq_getElem hi]
  have there : ((xs.eraseIdx i).insertIdx j xs[i])[j]? = some xs[i] := by
    rw [List.getElem?_insertIdx_self, if_pos (by omega)]
  rw [moved, moveElement, there]
  dsimp only
  rw [List.eraseIdx_insertIdx_self, List.insertIdx_eraseIdx_getElem hi]

/-- Erasing from the front part of a list. -/
theorem eraseIdx_take {α : Type} (xs : List α) {i n : Nat} (inside : i < n) :
    (xs.take n).eraseIdx i = (xs.eraseIdx i).take (n - 1) := by
  apply List.ext_getElem?
  intro k
  simp only [List.getElem?_eraseIdx, List.getElem?_take]
  grind

namespace Sheet

variable {s t : Sheet}

/-- Under generated headers a label means the same column in every sheet that has it. -/
theorem column?_of_labels (headers : s.headers = Column.labels s.width) {width i : Nat}
    {label : Text} (found : s.column? label = some i) (headers' : t.headers = Column.labels width)
    (inside : i < width) : t.column? label = some i := by
  have stands := getElem?_of_idxOf? found
  rw [headers, Column.getElem?_labels (column?_lt found)] at stands
  rw [column?, headers', ← Option.some.inj stands]
  exact (idxOf?_iff_getElem? (Column.labels_nodup width)).mpr (Column.getElem?_labels inside)

theorem Sound.exists_column? (sound : s.Sound) {label : Text} (known : label ∈ s.headers) :
    ∃ i, s.column? label = some i := by
  obtain ⟨i, stands⟩ := List.mem_iff_getElem?.mp known
  exact ⟨i, (idxOf?_iff_getElem? sound.distinct).mpr stands⟩

/-- Columns under generated headers, after a change that is taken back in every row. -/
theorem withColumns_undone (headers : s.headers = Column.labels s.width) (width : Nat)
    {f g : Row → Row} (undone : ∀ row ∈ s.rows, g (f row) = row) :
    (s.withColumns width (s.rows.map f)).withColumns s.width ((s.rows.map f).map g) = s := by
  have rows : (s.rows.map f).map g = s.rows := by
    rw [List.map_map]
    exact (List.map_congr_left undone).trans (List.map_id s.rows)
  rw [withColumns, withColumns, rows, ← headers]

theorem deleteColumn?_insertColumn? (headers : s.headers = Column.labels s.width) {i : Nat}
    (inside : i < s.width) (inserted : s.insertColumn? i = some t) :
    t.deleteColumn? i = some s := by
  obtain ⟨-, rfl⟩ := insertColumn?_eq_some_iff.mp inserted
  rw [Sheet.deleteColumn?, width_withColumns, if_pos ⟨by omega, by omega⟩, Nat.add_sub_cancel]
  exact congrArg some (withColumns_undone headers (s.width + 1) fun row _ =>
    List.eraseIdx_insertIdx_self Cell.empty)

theorem moveRow?_moveRow? {i j : Nat} (moved : s.moveRow? i j = some t) :
    t.moveRow? j i = some s := by
  obtain ⟨⟨other, hi, hj⟩, rfl⟩ := moveRow?_eq_some_iff.mp moved
  have height := length_moveElement hi hj
  have back := moveElement_moveElement hi hj
  simp only [moveRow?, Sheet.height, height, back]
  exact if_pos ⟨other.symm, hj, hi⟩

theorem Sound.moveColumn?_moveColumn? (sound : s.Sound)
    (headers : s.headers = Column.labels s.width) {i j : Nat} (hi : i < s.width) (hj : j < s.width)
    (moved : s.moveColumn? i j = some t) : t.moveColumn? j i = some s := by
  obtain ⟨other, rfl⟩ := moveColumn?_eq_some_iff.mp moved
  rw [Sheet.moveColumn?, if_pos other.symm, width_withColumns]
  refine congrArg some (withColumns_undone headers s.width fun row hrow => ?_)
  have wide : row.length = s.width := sound.even row hrow
  exact moveElement_moveElement (wide ▸ hi) (wide ▸ hj)

/-- The sheet after a row was inserted in front of one of its rows and deleted again. -/
def refilled (limit : Nat) (s : Sheet) : Sheet :=
  if s.height < limit then { s with rows := s.rows ++ [s.blankRow] }
  else { s with rows := s.rows.dropLast ++ [s.blankRow] }

theorem deleteRow?_insertRow? {limit i : Nat} (inside : i < s.height)
    (inserted : s.insertRow? limit i = some t) : t.deleteRow? i = some (s.refilled limit) := by
  obtain ⟨-, rfl⟩ := insertRow?_eq_some_iff.mp inserted
  have rows : ((s.rows.insertIdx i s.blankRow).take (max limit s.height)).eraseIdx i =
      s.rows.take (max limit s.height - 1) := by
    rw [eraseIdx_take _ (by omega), List.eraseIdx_insertIdx_self]
  have below : i < ((s.rows.insertIdx i s.blankRow).take (max limit s.height)).length := by
    have taller := List.length_insertIdx_of_le_length (Nat.le_of_lt inside) s.blankRow
    rw [List.length_take, taller]
    simp only [Sheet.height] at *
    omega
  have deleted : ({ s with rows := (s.rows.insertIdx i s.blankRow).take (max limit s.height) } :
      Sheet).deleteRow? i = some _ := if_pos below
  rw [deleted, rows, refilled]
  change some { s with rows := s.rows.take (max limit s.height - 1) ++ [s.blankRow] } = _
  split
  · rw [List.take_of_length_le (by simp only [Sheet.height] at *; omega)]
  · have last : max limit s.height - 1 = s.rows.length - 1 := by
      simp only [Sheet.height] at *
      omega
    rw [last, ← List.dropLast_eq_take]

end Sheet

namespace Editor

variable {e : Editor}

/-- Two edits at the same address, one after the other. -/
theorem Valid.sheet_run_edits (valid : e.Valid) {first second : StructuralEdit} {anchor : Address}
    {s t : Sheet} (edited : e.sheet.edited? e.config.maxRows first anchor = some s)
    (edited' : s.edited? e.config.maxRows second anchor = some t) :
    (e.run [.edit first anchor, .edit second anchor]).sheet = t := by
  have valid' : (e.edit first anchor).Valid := (perform_change e (.edit first anchor)).valid valid
  have config : (e.edit first anchor).config = e.config := by
    rw [Editor.edit, edited]
    exact (e.selectionsAfter_keeps first anchor s).config
  refine valid'.sheet_edit ?_
  rw [valid.sheet_edit edited, config]
  exact edited'

theorem Valid.sheet_run_insertColumn (valid : e.Valid)
    (headers : e.sheet.headers = Column.labels e.sheet.width) {anchor : Address} {row col : Nat}
    (place : e.sheet.position? anchor = some (row, col)) :
    (e.run [.edit .insertColumnLeft anchor, .edit .deleteColumn anchor]).sheet = e.sheet := by
  obtain ⟨-, -, found⟩ := Sheet.position?_eq_some place
  have inside := Sheet.column?_lt found
  obtain ⟨t, inserted, spliced⟩ := (sheet_sound valid.workbook).exists_insertColumn?
    e.config.maxRows (Nat.le_of_lt inside)
  have again := Sheet.column?_of_labels headers found spliced.headers (Nat.lt_succ_of_lt inside)
  refine valid.sheet_run_edits (s := t) ?_ ?_
  · simp only [Sheet.edited?, found]
    exact inserted
  · simp only [Sheet.edited?, again]
    exact Sheet.deleteColumn?_insertColumn? headers inside inserted

theorem Valid.sheet_run_insertRow (valid : e.Valid) {anchor : Address}
    (inside : anchor.row < e.sheet.height) :
    (e.run [.edit .insertRowAbove anchor, .edit .deleteRow anchor]).sheet =
      e.sheet.refilled e.config.maxRows := by
  obtain ⟨t, inserted, -⟩ := (sheet_sound valid.workbook).exists_insertRow? e.config.maxRows
    (Nat.le_of_lt inside)
  exact valid.sheet_run_edits inserted (Sheet.deleteRow?_insertRow? inside inserted)

/-- A sheet that takes the place of the active one. -/
theorem Valid.sheet_put (valid : e.Valid) (s : Sheet) :
    (({ e with sort := none } : Editor).put s).sheet = s :=
  valid.workbook.sheet_setSheet s

theorem Valid.sheet_perform_moveRow (valid : e.Valid) {i j : Nat} {s : Sheet}
    (moved : e.sheet.moveRow? i j = some s) : (e.perform (.moveRow i j)).2.sheet = s := by
  rw [perform, moveRow?, moved]
  exact valid.sheet_put s

theorem perform_moveRow_self (e : Editor) (i : Nat) : (e.perform (.moveRow i i)).2 = e := by
  have nowhere : e.sheet.moveRow? i i = none := if_neg fun inside => inside.1 rfl
  rw [perform, moveRow?, nowhere, Option.map_none, ifDone]

theorem Valid.sheet_run_moveRow (valid : e.Valid) {i j : Nat} (hi : i < e.sheet.height)
    (hj : j < e.sheet.height) : (e.run [.moveRow i j, .moveRow j i]).sheet = e.sheet := by
  by_cases same : i = j
  · subst same
    rw [Editor.run, List.foldl_cons, List.foldl_cons, List.foldl_nil, perform_moveRow_self,
      perform_moveRow_self]
  · have moved : e.sheet.moveRow? i j = some _ := if_pos ⟨same, hi, hj⟩
    have valid' := (perform_change e (.moveRow i j)).valid valid
    refine valid'.sheet_perform_moveRow ?_
    rw [valid.sheet_perform_moveRow moved]
    exact Sheet.moveRow?_moveRow? moved

theorem moveColumn?_of_columns {source target : Text} {i j : Nat}
    (hi : e.sheet.column? source = some i) (hj : e.sheet.column? target = some j) :
    e.moveColumn? source target =
      (e.sheet.moveColumn? i j).map ({ e with sort := none } : Editor).put := by
  simp only [Editor.moveColumn?, hi, hj, Option.bind_eq_bind, Option.bind_some]
  exact Option.map_eq_bind.symm

theorem Valid.sheet_perform_moveColumn (valid : e.Valid) {source target : Text} {i j : Nat}
    {s : Sheet} (hi : e.sheet.column? source = some i) (hj : e.sheet.column? target = some j)
    (moved : e.sheet.moveColumn? i j = some s) :
    (e.perform (.moveColumn source target)).2.sheet = s := by
  rw [perform, moveColumn?_of_columns hi hj, moved]
  exact valid.sheet_put s

theorem perform_moveColumn_self {source target : Text} {i : Nat}
    (hi : e.sheet.column? source = some i) (hj : e.sheet.column? target = some i) :
    (e.perform (.moveColumn source target)).2 = e := by
  have nowhere : e.sheet.moveColumn? i i = none := if_neg fun other => other rfl
  rw [perform, moveColumn?_of_columns hi hj, nowhere, Option.map_none, ifDone]

theorem Valid.sheet_run_moveColumn (valid : e.Valid)
    (headers : e.sheet.headers = Column.labels e.sheet.width) {source target : Text}
    (hsource : source ∈ e.sheet.headers) (htarget : target ∈ e.sheet.headers) :
    (e.run [.moveColumn source target, .moveColumn target source]).sheet = e.sheet := by
  have sound : e.sheet.Sound := sheet_sound valid.workbook
  obtain ⟨i, hi⟩ := sound.exists_column? hsource
  obtain ⟨j, hj⟩ := sound.exists_column? htarget
  by_cases same : i = j
  · subst same
    rw [Editor.run, List.foldl_cons, List.foldl_cons, List.foldl_nil, perform_moveColumn_self hi hj,
      perform_moveColumn_self hj hi]
  · have moved : e.sheet.moveColumn? i j = some _ := if_pos same
    have valid' := (perform_change e (.moveColumn source target)).valid valid
    have sheet' := valid.sheet_perform_moveColumn hi hj moved
    have again {label : Text} {n : Nat} (found : e.sheet.column? label = some n) :
        (e.perform (.moveColumn source target)).2.sheet.column? label = some n := by
      rw [sheet']
      exact Sheet.column?_of_labels headers found rfl (Sheet.column?_lt found)
    refine valid'.sheet_perform_moveColumn (again hj) (again hi) ?_
    rw [sheet']
    exact sound.moveColumn?_moveColumn? headers (Sheet.column?_lt hi) (Sheet.column?_lt hj) moved

/-- Let a run reach an editor. Under generated headers, inserting a column left of a cell and
deleting it again gives back the sheet, and so does moving a column and moving it back; a row can be
moved back under any headers. Inserting a row above a cell and deleting it again gives back all rows
and a blank one, or, if the sheet was at its limit, all rows with the last one blank. -/
theorem run_edits_undone (c : Config) (store : Store) (before : List Action) :
    let e := (start c store).run before
    (e.sheet.headers = Column.labels e.sheet.width →
      (∀ anchor row col, e.sheet.position? anchor = some (row, col) →
        (e.run [.edit .insertColumnLeft anchor, .edit .deleteColumn anchor]).sheet = e.sheet) ∧
      ∀ source target, source ∈ e.sheet.headers → target ∈ e.sheet.headers →
        (e.run [.moveColumn source target, .moveColumn target source]).sheet = e.sheet) ∧
    (∀ i j, i < e.sheet.height → j < e.sheet.height →
      (e.run [.moveRow i j, .moveRow j i]).sheet = e.sheet) ∧
    ∀ anchor row col, e.sheet.position? anchor = some (row, col) →
      (e.run [.edit .insertRowAbove anchor, .edit .deleteRow anchor]).sheet =
        e.sheet.refilled e.config.maxRows := by
  intro e
  have valid : e.Valid := valid_run c store before
  refine ⟨fun headers => ⟨fun anchor row col => valid.sheet_run_insertColumn headers,
    fun source target => valid.sheet_run_moveColumn headers⟩,
    fun i j => valid.sheet_run_moveRow, fun anchor row col place => ?_⟩
  obtain ⟨rfl, inside, -⟩ := Sheet.position?_eq_some place
  exact valid.sheet_run_insertRow inside

/-- Two rows, as many as there may be, with a text in each of three corners. -/
def threeCorners : List Action :=
  [.write ⟨0, ['A']⟩ "tea".toList, .write ⟨0, ['B']⟩ "=A2".toList,
    .write ⟨1, ['A']⟩ "milk".toList]

/-- Nothing remains of a column between the two, nor of columns or rows in the wrong order; only the
row above the second costs what the second held. -/
theorem threeCorners_undone :
    let e := (start ⟨2, 2, 1, 300⟩ ⟨.memory, .nothing, true, true, 0⟩).run threeCorners
    e.sheet.headers = Column.labels e.sheet.width ∧
      e.sheet.position? ⟨1, ['B']⟩ = some (1, 1) ∧
      ((e.run [.edit .insertColumnLeft ⟨1, ['B']⟩]).sheet.width = 3 ∧
        (e.run [.edit .insertColumnLeft ⟨1, ['B']⟩, .edit .deleteColumn ⟨1, ['B']⟩]).sheet =
          e.sheet) ∧
      ((e.run [.moveColumn ['A'] ['B']]).sheet.cell? 0 0 = some (.text "=A2".toList) ∧
        (e.run [.moveColumn ['A'] ['B'], .moveColumn ['B'] ['A']]).sheet = e.sheet) ∧
      ((e.run [.moveRow 0 1]).sheet.cell? 0 0 = some (.text "milk".toList) ∧
        (e.run [.moveRow 0 1, .moveRow 1 0]).sheet = e.sheet) ∧
      (e.run [.edit .insertRowAbove ⟨1, ['B']⟩, .edit .deleteRow ⟨1, ['B']⟩]).sheet =
        e.sheet.refilled e.config.maxRows ∧
      (e.sheet.refilled e.config.maxRows).rows =
        [[.text "tea".toList, .text "=A2".toList], [.empty, .empty]] := by
  intro e
  have headers : e.sheet.headers = Column.labels e.sheet.width := by decide
  have place : e.sheet.position? ⟨1, ['B']⟩ = some (1, 1) := by decide
  obtain ⟨columns, rows, inserted⟩ := run_edits_undone ⟨2, 2, 1, 300⟩
    ⟨.memory, .nothing, true, true, 0⟩ threeCorners
  obtain ⟨deleted, back⟩ := columns headers
  exact ⟨headers, place, ⟨by decide, deleted _ _ _ place⟩,
    ⟨by decide, back _ _ (by decide) (by decide)⟩,
    ⟨by decide, rows 0 1 (by decide) (by decide)⟩, inserted _ _ _ place, by decide⟩

end Editor

end Spreadsheet
