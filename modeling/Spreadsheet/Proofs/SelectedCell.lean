import Spreadsheet.Proofs.UndoneEdits

/-!
# The selected cell beside a deleted column

The selected cell is remembered by its label, and when a column is deleted the labels are generated
anew under the cells. The label is exchanged where the cells moved, which is right of the deleted
column, and stays where they did not. Either way the selected cell is still the one that it was.
-/

namespace Spreadsheet

namespace Sheet

variable {s t : Sheet} {limit n : Nat}

/-- Under generated headers an address goes where its column goes. -/
theorem Spliced.position?_addressAfterDelete (spliced : s.Spliced limit .keep (.delete n) t)
    (headers : s.headers = Column.labels s.width) (fits : n < s.width) {a : Address}
    {row col col' : Nat} (place : s.position? a = some (row, col))
    (goes : (Splice.delete n).place? col = some col') :
    t.position? (Editor.addressAfterDelete s t n a) = some (row, col') := by
  obtain ⟨rfl, inside, column⟩ := position?_eq_some place
  have reached : col' < s.width - 1 :=
    (Splice.lt_size_iff (x := .delete n) fits goes).mpr (column?_lt column)
  have inside' : a.row < t.height := spliced.height ▸ inside
  have generated : t.headers = Column.labels (s.width - 1) := spliced.headers
  simp only [Editor.addressAfterDelete, column]
  simp only [Splice.place?] at goes
  by_cases right : n < col
  · have moved : col' = col - 1 := by grind
    subst moved
    have label : t.headers.getD (col - 1) a.col = Column.label (col - 1) := by
      rw [generated, List.getD_eq_getElem?_getD, Column.getElem?_labels reached, Option.getD_some]
    have labelled : t.column? (Column.label (col - 1)) = some (col - 1) := by
      rw [column?, generated]
      exact (idxOf?_iff_getElem? (Column.labels_nodup _)).mpr (Column.getElem?_labels reached)
    rw [if_pos right, label]
    exact position?_of_column? inside' labelled
  · have same : col' = col := by grind
    subst same
    rw [if_neg right]
    exact position?_of_column? inside' (column?_of_labels headers column generated reached)

/-- So does what is found at the address. -/
theorem Spliced.find?_addressAfterDelete (sound : s.Sound)
    (spliced : s.Spliced limit .keep (.delete n) t)
    (headers : s.headers = Column.labels s.width) (fits : n < s.width) {a : Address}
    {row col col' : Nat} (place : s.position? a = some (row, col))
    (goes : (Splice.delete n).place? col = some col') :
    ∃ cell, s.find? a = some cell ∧
      t.find? (Editor.addressAfterDelete s t n a) = some cell := by
  obtain ⟨-, inside, column⟩ := position?_eq_some place
  obtain ⟨cell, here⟩ := Grid.exists_cell? sound.even inside (column?_lt column)
  have inside' : row < t.height := spliced.height ▸ inside
  refine ⟨cell, (find?_of_position? place).trans here, ?_⟩
  rw [find?_of_position? (spliced.position?_addressAfterDelete headers fits place goes)]
  exact spliced.kept row col row col' cell here rfl goes inside'

end Sheet

namespace Editor

variable {e : Editor}

/-- What a deletion left of a cell does to the selections. -/
theorem edit_deleteColumnLeft {anchor : Address} {col : Nat} {t : Sheet}
    (column : e.sheet.column? anchor.col = some col)
    (edited : e.sheet.edited? e.config.maxRows .deleteColumnLeft anchor = some t) :
    (e.edit .deleteColumnLeft anchor).selection = none ∧
      (e.edit .deleteColumnLeft anchor).selected =
        e.selected.map (addressAfterDelete e.sheet t (col - 1)) := by
  simp only [Editor.edit, edited, selectionsAfter, column, Option.getD_some]
  exact ⟨rfl, rfl⟩

/-- Let a run reach an editor under generated headers. Deleting the column left of one of its cells
clears the selection, and a selected cell that is not in the deleted column stays selected, in the
same row and with the same content. Its column stays if it lies left of the deleted one and is one
less if it lies at the anchor or right of it. -/
theorem run_selected_follows (c : Config) (store : Store) (before : List Action)
    (anchor : Address) (row col : Nat) :
    let e := (start c store).run before
    let e' := e.edit .deleteColumnLeft anchor
    e.sheet.headers = Column.labels e.sheet.width →
    e.sheet.position? anchor = some (row, col) → 0 < col →
    e'.selection = none ∧
      ∀ a i j, e.selected = some a → e.sheet.position? a = some (i, j) → j ≠ col - 1 →
        ∃ a' cell, e'.selected = some a' ∧
          e'.sheet.position? a' = some (i, if j < col then j else j - 1) ∧
          e.sheet.find? a = some cell ∧ e'.sheet.find? a' = some cell := by
  intro e e' headers place left
  have valid : e.Valid := valid_run c store before
  have sound : e.sheet.Sound := sheet_sound valid.workbook
  obtain ⟨-, -, column⟩ := Sheet.position?_eq_some place
  have fits : col - 1 < e.sheet.width := by
    have := Sheet.column?_lt column
    omega
  have spliced := sound.edited?_spliced e.config.maxRows place .deleteColumnLeft
  simp only [StructuralEdit.splices?, if_pos left] at spliced
  obtain ⟨t, edited, spliced⟩ := spliced
  have sheet : e'.sheet = t := valid.sheet_edit edited
  obtain ⟨cleared, followed⟩ := edit_deleteColumnLeft column edited
  constructor
  · exact cleared
  · intro a i j selected position other
    have goes : (Splice.delete (col - 1)).place? j = some (if j < col then j else j - 1) := by
      simp only [Splice.place?]
      grind
    obtain ⟨cell, here, there⟩ := spliced.find?_addressAfterDelete sound headers fits position goes
    refine ⟨_, cell, followed.trans (congrArg (Option.map _) selected), ?_, here, ?_⟩
    · rw [sheet]
      exact spliced.position?_addressAfterDelete headers fits position goes
    · rw [sheet]
      exact there

/-- Three texts with a blank column between the first two, and one cell selected. -/
def blankBetween (label : Text) : List Action :=
  [.write ⟨0, ['A']⟩ "tea".toList, .write ⟨0, ['C']⟩ "milk".toList,
    .write ⟨0, ['D']⟩ "=C1".toList, .press ⟨0, label⟩]

/-- The blank column goes away left of the second text. Whichever of the texts is selected stays
selected: the last one and the second one under new labels, and the first one under its own. -/
theorem blankBetween_followed :
    let e := fun label =>
      (start ⟨1, 4, 1, 300⟩ ⟨.memory, .nothing, true, true, 0⟩).run (blankBetween label)
    let e' := fun label => (e label).edit .deleteColumnLeft ⟨0, ['C']⟩
    ((e ['D']).selection = some ⟨0, 0, ['D'], ['D']⟩ ∧ (e' ['D']).selection = none) ∧
      (∃ a cell, (e' ['D']).selected = some a ∧
        (e' ['D']).sheet.position? a = some (0, 2) ∧
        (e ['D']).sheet.find? ⟨0, ['D']⟩ = some cell ∧ (e' ['D']).sheet.find? a = some cell) ∧
      (∃ a cell, (e' ['C']).selected = some a ∧
        (e' ['C']).sheet.position? a = some (0, 1) ∧
        (e ['C']).sheet.find? ⟨0, ['C']⟩ = some cell ∧ (e' ['C']).sheet.find? a = some cell) ∧
      (∃ a cell, (e' ['A']).selected = some a ∧
        (e' ['A']).sheet.position? a = some (0, 0) ∧
        (e ['A']).sheet.find? ⟨0, ['A']⟩ = some cell ∧ (e' ['A']).sheet.find? a = some cell) := by
  intro e e'
  have follows := fun label =>
    run_selected_follows ⟨1, 4, 1, 300⟩ ⟨.memory, .nothing, true, true, 0⟩ (blankBetween label)
      ⟨0, ['C']⟩ 0 2
  obtain ⟨cleared, last⟩ := follows ['D'] (by decide) (by decide) (by decide)
  obtain ⟨-, second⟩ := follows ['C'] (by decide) (by decide) (by decide)
  obtain ⟨-, first⟩ := follows ['A'] (by decide) (by decide) (by decide)
  exact ⟨⟨by decide, cleared⟩, last ⟨0, ['D']⟩ 0 3 (by decide) (by decide) (by decide),
    second ⟨0, ['C']⟩ 0 2 (by decide) (by decide) (by decide),
    first ⟨0, ['A']⟩ 0 0 (by decide) (by decide) (by decide)⟩

end Editor

end Spreadsheet
