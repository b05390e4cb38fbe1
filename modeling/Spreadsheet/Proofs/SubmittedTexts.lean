import Spreadsheet.Proofs.DrawnRanges
import Spreadsheet.Proofs.MovedBlocks

/-!
# Submitting what a cell shows

A click on a cell shows its text in the formula bar, and submitting the bar enters the text again.
Where the text goes back into the cell nothing changes. But the bar reads an assignment for what it
says: a text that names a cell of the sheet is entered there, wherever it stood.
-/

namespace Spreadsheet

theorem Grid.setCell_self {g : Grid} {row col : Nat} {cell : Cell}
    (here : g.cell? row col = some cell) : g.setCell row col cell = g := by
  refine eq_of_cell? (shape_setCell g row col cell) fun i j => ?_
  rw [setCell, cell?_mapCells]
  by_cases same : i = row ∧ j = col
  · obtain ⟨rfl, rfl⟩ := same
    simp [here]
  · simp [same]

namespace Formula

theorem Entry.parse_of_plain {t : Text} (plain : assignment? t = none) :
    Entry.parse t = ⟨none, t⟩ := by
  rw [Entry.parse, plain]

theorem Entry.parse_of_assignment {t right : Text} {target : Address}
    (assigns : assignment? t = some (target, right)) :
    Entry.parse t = ⟨some target, withEquals right⟩ := by
  rw [Entry.parse, assigns]

theorem withEquals_ne_nil (t : Text) : withEquals t ≠ [] := by
  intro empty
  rw [withEquals] at empty
  split at empty
  · rename_i formula
    rw [empty] at formula
    cases formula
  · cases empty

end Formula

namespace Editor

/-- Where a text goes that is entered as an assignment to a cell of the sheet, and what it leaves
there. -/
def assigned? (e : Editor) (t : Text) : Option (Nat × Nat × Cell) := do
  let (target, right) ← Formula.assignment? t
  let (row, col) ← e.sheet.position? target
  return (row, col, .text (Formula.withEquals right))

theorem assigned?_of_plain (e : Editor) {t : Text} (plain : Formula.assignment? t = none) :
    e.assigned? t = none := by
  rw [assigned?, plain]
  rfl

theorem assigned?_of_assignment (e : Editor) {t right : Text} {target : Address}
    (assigns : Formula.assignment? t = some (target, right)) :
    e.assigned? t = (e.sheet.position? target).map fun place =>
      (place.1, place.2, .text (Formula.withEquals right)) := by
  rw [assigned?, assigns]
  exact Option.map_eq_bind.symm

section Submitting

variable {e : Editor} {a target : Address}

/-- A click on a cell selects it and shows it. -/
theorem click_shows {row col : Nat} (place : e.sheet.position? a = some (row, col))
    (plain : e.editing = none) :
    (e.click a).workbook = e.workbook ∧ (e.click a).selected = some a ∧
      (e.click a).bar.text = e.raw a := by
  obtain ⟨bar, clicked, shown⟩ := click_eq place
  rw [clicked]
  exact ⟨rfl, rfl, shown plain⟩

theorem workbook_submit_nothing (nothing : e.bar.text.trim = []) :
    (e.perform .submit).2.workbook = e.workbook := by
  have answer : e.submit = .ok none := by
    simp only [submit, nothing, if_true]
  simp only [perform, answer]
  rfl

/-- A text is entered into the cell that it is meant for, if the sheet has it. -/
theorem workbook_submit (some : e.bar.text.trim ≠ [])
    (meant : (Formula.Entry.parse e.bar.text.trim).target.or e.selected = Option.some target) :
    (e.perform .submit).2.workbook =
      match e.sheet.position? target with
      | .some (row, col) => e.workbook.setSheet { e.sheet with
          rows := e.sheet.rows.setCell row col
            (Cell.ofText (Formula.Entry.parse e.bar.text.trim).formula) }
      | none => e.workbook := by
  simp only [perform, submit, if_neg some, meant, write, Sheet.position?]
  cases e.sheet.position target with
  | error err => rfl
  | ok place => rfl

/-- What a cell of the sheet shows. The text is entered as it stands in the bar. -/
structure Shows (e : Editor) (a : Address) (cell : Cell) : Prop where
  selected : e.selected = some a
  found : e.sheet.find? a = some cell
  text : e.bar.text = cell.toText
  kind : cell = .empty ∨ ∃ t, cell = .text t ∧ t.trim = t

variable {cell : Cell}

theorem Shows.trim_text (shows : e.Shows a cell) : e.bar.text.trim = cell.toText := by
  rw [shows.text]
  rcases shows.kind with rfl | ⟨t, rfl, trimmed⟩
  · rfl
  · exact trimmed

/-- A text that is no assignment goes back into the cell. -/
theorem Shows.workbook_submit_plain (shows : e.Shows a cell) (sound : e.workbook.Sound)
    (plain : Formula.assignment? cell.toText = none) :
    (e.perform .submit).2.workbook = e.workbook := by
  have input := shows.trim_text
  rcases shows.kind with rfl | ⟨t, rfl, -⟩
  · exact workbook_submit_nothing input
  · by_cases empty : t = []
    · exact workbook_submit_nothing (input.trans empty)
    · have entry := Formula.Entry.parse_of_plain plain
      obtain ⟨⟨row, col⟩, place, here⟩ := Option.bind_eq_some_iff.mp shows.found
      rw [workbook_submit (by rwa [input]) (by rw [input, entry]; exact shows.selected), place, input,
        entry]
      dsimp only [Cell.toText]
      rw [Cell.ofText, if_neg empty, Grid.setCell_self here]
      exact sound.setSheet_self

/-- An assignment goes to the cell that it names. -/
theorem Shows.workbook_submit_assignment (shows : e.Shows a cell) {right : Text}
    (assigns : Formula.assignment? cell.toText = some (target, right)) :
    (e.perform .submit).2.workbook =
      match e.sheet.position? target with
      | some (row, col) => e.workbook.setSheet { e.sheet with
          rows := e.sheet.rows.setCell row col (.text (Formula.withEquals right)) }
      | none => e.workbook := by
  have input := shows.trim_text
  have entry := Formula.Entry.parse_of_assignment assigns
  have filled : cell.toText ≠ [] := by
    intro empty
    rw [empty] at assigns
    cases assigns
  rw [workbook_submit (by rwa [input]) (by rw [input, entry]; rfl), input, entry]
  dsimp only
  rw [Cell.ofText, if_neg (Formula.withEquals_ne_nil right)]

/-- A submitted text changes the cell that it names, if the sheet has it, and nothing else. -/
theorem Shows.workbook_submit (shows : e.Shows a cell) (sound : e.workbook.Sound) :
    (e.perform .submit).2.workbook =
      match e.assigned? cell.toText with
      | some (row, col, new) =>
        e.workbook.setSheet { e.sheet with rows := e.sheet.rows.setCell row col new }
      | none => e.workbook := by
  cases assigns : Formula.assignment? cell.toText with
  | none =>
    rw [e.assigned?_of_plain assigns]
    exact shows.workbook_submit_plain sound assigns
  | some assigned =>
    rw [e.assigned?_of_assignment assigns, shows.workbook_submit_assignment assigns]
    cases e.sheet.position? assigned.1 with
    | none => rfl
    | some place => rfl

end Submitting

/-- Let a run reach an editor in which no cell is edited in its place. A click on an empty cell, or
on one with a text without blanks around it, and submitting the bar then changes no cell of any
sheet, unless the text is an assignment to a cell of the sheet. Then that cell gets the right side
as a formula, and all others stay. -/
theorem run_unedited_submitted (c : Config) (store : Store) (before : List Action) (a : Address)
    (cell : Cell) :
    let e := (start c store).run before
    let after := e.run [.click a, .submit]
    e.editing = none → e.sheet.find? a = some cell →
    (cell = .empty ∨ ∃ t, cell = .text t ∧ t.trim = t) →
    (e.assigned? cell.toText = none → after.workbook = e.workbook) ∧
      ∀ row col new, e.assigned? cell.toText = some (row, col, new) →
        after.workbook =
          e.workbook.setSheet { e.sheet with rows := e.sheet.rows.setCell row col new } := by
  intro e after plain found kind
  obtain ⟨place, here, -⟩ := Option.bind_eq_some_iff.mp found
  obtain ⟨workbook, selected, shown⟩ := click_shows here plain
  have sheet : (e.click a).sheet = e.sheet := congrArg Workbook.sheet workbook
  have shows : (e.click a).Shows a cell :=
    ⟨selected, sheet ▸ found, by rw [shown, raw, found], kind⟩
  have sound : (e.click a).workbook.Sound := workbook ▸ (valid_run c store before).workbook
  have same : (e.click a).assigned? cell.toText = e.assigned? cell.toText := by
    rw [assigned?, assigned?, sheet]
  have submitted := shows.workbook_submit sound
  rw [same, sheet, workbook] at submitted
  change after.workbook = _ at submitted
  constructor
  · intro nowhere
    rwa [nowhere] at submitted
  · intro row col new somewhere
    rwa [somewhere] at submitted

/-- A text that names a cell of the sheet, and one that names none. -/
def assignmentsTyped : List Action :=
  [.write ⟨0, ['A']⟩ "B2=4".toList, .write ⟨1, ['A']⟩ "C1=4".toList]

/-- The second goes back where it was. The first fills the cell that it names. -/
theorem assignmentsTyped_submitted :
    let e := (start ⟨2, 2, 1, 300⟩ ⟨.memory, .nothing, true, true, 0⟩).run assignmentsTyped
    (e.run [.click ⟨1, ['A']⟩, .submit]).workbook = e.workbook ∧
      (e.run [.click ⟨0, ['A']⟩, .submit]).workbook = e.workbook.setSheet { e.sheet with
        rows := [[.text "B2=4".toList, .empty], [.text "C1=4".toList, .text "=4".toList]] } := by
  intro e
  obtain ⟨stays, -⟩ := run_unedited_submitted ⟨2, 2, 1, 300⟩ ⟨.memory, .nothing, true, true, 0⟩
    assignmentsTyped ⟨1, ['A']⟩ (.text "C1=4".toList) (by decide) (by decide)
    (.inr ⟨_, rfl, by decide⟩)
  obtain ⟨-, goes⟩ := run_unedited_submitted ⟨2, 2, 1, 300⟩ ⟨.memory, .nothing, true, true, 0⟩
    assignmentsTyped ⟨0, ['A']⟩ (.text "B2=4".toList) (by decide) (by decide)
    (.inr ⟨_, rfl, by decide⟩)
  exact ⟨stays (by decide), (goes 1 1 (.text "=4".toList) (by decide)).trans (by decide)⟩

/-- So a cell that was empty is filled, though the bar shows what another cell holds and nobody has
edited it. -/
theorem assignmentsTyped_elsewhere :
    let e := (start ⟨2, 2, 1, 300⟩ ⟨.memory, .nothing, true, true, 0⟩).run assignmentsTyped
    e.editing = none ∧ e.sheet.find? ⟨0, ['A']⟩ = some (.text "B2=4".toList) ∧
      Text.trim "B2=4".toList = "B2=4".toList ∧ e.sheet.find? ⟨1, ['B']⟩ = some .empty ∧
      (e.run [.click ⟨0, ['A']⟩, .submit]).sheet.find? ⟨1, ['B']⟩ =
        some (.text "=4".toList) := by
  decide

end Editor

end Spreadsheet
