import Spreadsheet.Proofs.SplicedSheets

/-!
# What an edit reads of its anchor

An edit of rows reads the row of its anchor and an edit of columns the label, and neither asks
whether the other half is in the sheet. An edit whose own half lies outside of the sheet changes
nothing, not the sort and not the store. The upper edge of the row below the last one still belongs
to the sheet, so the edits above a row are outside one row later than the others.
-/

namespace Spreadsheet

namespace StructuralEdit

/-- Edits of rows; all others are edits of columns. -/
def ofRows : StructuralEdit → Bool
  | insertRowAbove | insertRowBelow | deleteRow | deleteRowAbove | deleteRowBelow => true
  | insertColumnLeft | insertColumnRight | deleteColumn | deleteColumnLeft | deleteColumnRight =>
    false

/-- The half of the anchor that the edit reads is not in the sheet. -/
def Outside (s : Sheet) (anchor : Address) : StructuralEdit → Prop
  | insertRowAbove | deleteRowAbove => s.height < anchor.row
  | insertRowBelow | deleteRow | deleteRowBelow => s.height ≤ anchor.row
  | insertColumnLeft | insertColumnRight | deleteColumn | deleteColumnLeft | deleteColumnRight =>
    anchor.col ∉ s.headers

instance (s : Sheet) (anchor : Address) :
    (edit : StructuralEdit) → Decidable (edit.Outside s anchor)
  | insertRowAbove | deleteRowAbove => Nat.decLt _ _
  | insertRowBelow | deleteRow | deleteRowBelow => Nat.decLe _ _
  | insertColumnLeft | insertColumnRight | deleteColumn | deleteColumnLeft | deleteColumnRight =>
    inferInstanceAs (Decidable (anchor.col ∉ s.headers))

end StructuralEdit

namespace Sheet

theorem edited?_of_outside {s : Sheet} {anchor : Address} {edit : StructuralEdit} (limit : Nat)
    (outside : edit.Outside s anchor) : s.edited? limit edit anchor = none := by
  cases edit with
  | insertRowAbove => exact if_neg (Nat.not_le.mpr outside)
  | insertRowBelow => exact if_neg (Nat.not_le.mpr (Nat.lt_succ_of_le outside))
  | deleteRow => exact if_neg (Nat.not_lt.mpr outside)
  | deleteRowAbove =>
    have below : ¬ anchor.row - 1 < s.height := by
      simp only [StructuralEdit.Outside] at outside
      omega
    simp only [edited?, deleteRow?, if_neg below, ite_self]
  | deleteRowBelow => exact if_neg (Nat.not_lt.mpr (Nat.le_succ_of_le outside))
  | insertColumnLeft | insertColumnRight | deleteColumn | deleteColumnLeft | deleteColumnRight =>
    have unknown : s.column? anchor.col = none := List.idxOf?_eq_none_iff.mpr outside
    simp only [edited?, unknown]
    rfl

end Sheet

namespace Editor

theorem edit_congr_label {edit : StructuralEdit} (ofRows : edit.ofRows = true) (e : Editor)
    (row : Nat) (label label' : Text) : e.edit edit ⟨row, label⟩ = e.edit edit ⟨row, label'⟩ := by
  cases edit with
  | insertRowAbove | insertRowBelow | deleteRow | deleteRowAbove | deleteRowBelow => rfl
  | insertColumnLeft | insertColumnRight | deleteColumn | deleteColumnLeft | deleteColumnRight =>
    cases ofRows

theorem edit_congr_row {edit : StructuralEdit} (ofColumns : edit.ofRows = false) (e : Editor)
    (row row' : Nat) (label : Text) : e.edit edit ⟨row, label⟩ = e.edit edit ⟨row', label⟩ := by
  cases edit with
  | insertRowAbove | insertRowBelow | deleteRow | deleteRowAbove | deleteRowBelow =>
    cases ofColumns
  | insertColumnLeft | insertColumnRight | deleteColumn | deleteColumnLeft | deleteColumnRight =>
    rfl

/-- Let a run reach an editor. A structural edit whose half of the anchor is outside of the sheet
answers the size of the sheet and leaves the whole editor as it is, the sort and the store among it.
The other half is not read: an edit of rows does the same at every label and an edit of columns at
every row. -/
theorem run_edit_outside (c : Config) (store : Store) (before : List Action)
    (edit : StructuralEdit) :
    let e := (start c store).run before
    (∀ anchor, edit.Outside e.sheet anchor →
      e.perform (.edit edit anchor) = (.size e.sheet.height e.sheet.width, e)) ∧
    (edit.ofRows = true → ∀ row label label',
      e.edit edit ⟨row, label⟩ = e.edit edit ⟨row, label'⟩) ∧
    (edit.ofRows = false → ∀ row row' label,
      e.edit edit ⟨row, label⟩ = e.edit edit ⟨row', label⟩) := by
  intro e
  refine ⟨fun anchor outside => ?_, fun ofRows => edit_congr_label ofRows e,
    fun ofColumns => edit_congr_row ofColumns e⟩
  have nothing := Sheet.edited?_of_outside e.config.maxRows outside
  rw [perform, edit_of_none nothing]

/-- One column of two rows, as many as there may be. -/
def teaAndMilk : List Action :=
  [.write ⟨0, ['A']⟩ "tea".toList, .write ⟨1, ['A']⟩ "milk".toList]

/-- Nothing is deleted in a row that is not there, and nothing is inserted at a label that is not
there. Deleting the first row takes no notice of the label, nor inserting a column of the row. -/
theorem teaAndMilk_edited_beside :
    let e := (start ⟨2, 1, 1, 300⟩ ⟨.memory, .nothing, true, true, 0⟩).run teaAndMilk
    StructuralEdit.Outside e.sheet ⟨2, ['A']⟩ .deleteRow ∧
      e.perform (.edit .deleteRow ⟨2, ['A']⟩) = (.size e.sheet.height e.sheet.width, e) ∧
      StructuralEdit.Outside e.sheet ⟨0, ['Q']⟩ .insertColumnLeft ∧
      e.perform (.edit .insertColumnLeft ⟨0, ['Q']⟩) = (.size e.sheet.height e.sheet.width, e) ∧
      StructuralEdit.ofRows .deleteRow = true ∧
      e.edit .deleteRow ⟨0, ['Q']⟩ = e.edit .deleteRow ⟨0, ['A']⟩ ∧
      StructuralEdit.ofRows .insertColumnLeft = false ∧
      e.edit .insertColumnLeft ⟨8, ['A']⟩ = e.edit .insertColumnLeft ⟨0, ['A']⟩ := by
  intro e
  have rows : StructuralEdit.Outside e.sheet ⟨2, ['A']⟩ .deleteRow := by decide
  have columns : StructuralEdit.Outside e.sheet ⟨0, ['Q']⟩ .insertColumnLeft := by decide
  obtain ⟨missing, labels, -⟩ := run_edit_outside ⟨2, 1, 1, 300⟩
    ⟨.memory, .nothing, true, true, 0⟩ teaAndMilk .deleteRow
  obtain ⟨unknown, -, places⟩ := run_edit_outside ⟨2, 1, 1, 300⟩
    ⟨.memory, .nothing, true, true, 0⟩ teaAndMilk .insertColumnLeft
  exact ⟨rows, missing _ rows, columns, unknown _ columns, rfl, labels rfl 0 _ _, rfl,
    places rfl 8 0 _⟩

/-- Addresses that are not in the sheet, and edits that change it all the same: a column comes in
left of a cell below the last row, the first row goes away under an unknown label, and the last row
goes away as the one above a row that is not there. Each is saved. -/
theorem teaAndMilk_edited_outside :
    let e := (start ⟨2, 1, 1, 300⟩ ⟨.memory, .nothing, true, true, 0⟩).run teaAndMilk
    (e.store.saves = 2 ∧ e.sheet.headers = [['A']] ∧
      e.sheet.rows = [[.text "tea".toList], [.text "milk".toList]]) ∧
    (e.sheet.position? ⟨8, ['A']⟩ = none ∧
      (e.edit .insertColumnLeft ⟨8, ['A']⟩).sheet.headers = [['A'], ['B']] ∧
      (e.edit .insertColumnLeft ⟨8, ['A']⟩).store.saves = 3) ∧
    (e.sheet.position? ⟨0, ['Q']⟩ = none ∧
      (e.edit .deleteRow ⟨0, ['Q']⟩).sheet.rows = [[.text "milk".toList], [.empty]] ∧
      (e.edit .deleteRow ⟨0, ['Q']⟩).store.saves = 3) ∧
    e.sheet.position? ⟨2, ['A']⟩ = none ∧
      (e.edit .deleteRowAbove ⟨2, ['A']⟩).sheet.rows = [[.text "tea".toList], [.empty]] ∧
      (e.edit .deleteRowAbove ⟨2, ['A']⟩).store.saves = 3 := by
  decide

end Editor

end Spreadsheet
