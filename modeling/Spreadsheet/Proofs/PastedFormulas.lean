import Spreadsheet.Proofs.Agreement
import Spreadsheet.Proofs.ArgumentLists
import Spreadsheet.Proofs.PastedBlocks
import Spreadsheet.Proofs.Views

/-!
# Formulas on the clipboard

What is on the clipboard was taken by a copy or a cut that went before, and keeps the cells as they
were then. A formula that is pasted is a formula again. What was none becomes one only when it is a
text whose equals sign stood behind blanks: it is no formula when it is to be moved along, then it
loses the blanks, and the text that is left begins with the equals sign.
-/

namespace Spreadsheet

namespace Text

/-- A trimmed text is a formula if blanks are all that stands before its equals sign. -/
theorem isFormulaText_trim_iff {t : Text} : Cell.isFormulaText t.trim = true ↔
    ∃ blanks rest, (∀ c ∈ blanks, isBlank c = true) ∧ t = blanks ++ '=' :: rest := by
  rw [Cell.isFormulaText, head?_trim, trimStart, beq_iff_eq]
  constructor
  · intro first
    obtain ⟨rest, left⟩ : ∃ rest, t.dropWhile isBlank = '=' :: rest :=
      List.head?_eq_some_iff.mp first
    refine ⟨t.takeWhile isBlank, rest, List.all_eq_true.mp List.all_takeWhile, ?_⟩
    rw [← left, List.takeWhile_append_dropWhile]
  · rintro ⟨blanks, rest, blank, rfl⟩
    rw [dropWhile_run blank (.cons (by decide) rest)]
    rfl

end Text

namespace Cell

/-- A text with an equals sign behind blanks: no formula, but one without the blanks. -/
def IsIndented (c : Cell) : Prop :=
  ∃ blanks rest, blanks ≠ [] ∧ (∀ d ∈ blanks, isBlank d = true) ∧
    c = .text (blanks ++ '=' :: rest)

theorem isSome_formula?_text {t : Text} :
    (text t).formula?.isSome = true ↔ isFormulaText t = true := by
  cases equals : isFormulaText t <;> simp [formula?, equals]

theorem isSome_formula?_ofText {t : Text} :
    (ofText t).formula?.isSome = true ↔ isFormulaText t = true := by
  rw [ofText]
  split
  · rename_i nothing
    subst nothing
    decide
  · exact isSome_formula?_text

/-- Trimming makes formulas of the indented ones and loses none. -/
theorem isSome_formula?_trimmed {c : Cell} :
    c.trimmed.formula?.isSome = true ↔ c.formula?.isSome = true ∨ c.IsIndented := by
  cases c with
  | empty => simp [trimmed, formula?, IsIndented]
  | number x => simp [trimmed, formula?, IsIndented]
  | text t =>
    rw [trimmed, isSome_formula?_ofText, Text.isFormulaText_trim_iff, isSome_formula?_text]
    constructor
    · rintro ⟨blanks, rest, blank, rfl⟩
      cases blanks with
      | nil => exact .inl rfl
      | cons d blanks => exact .inr ⟨d :: blanks, rest, List.cons_ne_nil d blanks, blank, rfl⟩
    · rintro (formula | ⟨blanks, rest, -, blank, same⟩)
      · obtain ⟨rest, rfl⟩ := isFormulaText_iff.mp formula
        exact ⟨[], rest, by simp, rfl⟩
      · exact ⟨blanks, rest, blank, Cell.text.inj same⟩

/-- The equals sign is no part of a reference, so it stays where it is. -/
theorem isFormulaText_relocation {t : Text} (formula : isFormulaText t = true) (rows cols : Int) :
    isFormulaText (Relocation.formula rows cols t) = true := by
  obtain ⟨rest, rfl⟩ := isFormulaText_iff.mp formula
  rw [Relocation.formula]
  split
  · rfl
  · rw [Segment.ofText, Segment.scan_end (by decide) (by decide), List.flatMap_cons]
    rfl

theorem relocated_of_formula?_none {c : Cell} (none : c.formula? = none) (rows cols : Int) :
    c.relocated rows cols = c := by
  rw [relocated, none]

theorem isSome_formula?_relocated {c : Cell} (formula : c.formula?.isSome = true)
    (rows cols : Int) : (c.relocated rows cols).formula?.isSome = true := by
  obtain ⟨t, found⟩ := Option.isSome_iff_exists.mp formula
  obtain ⟨rfl, equals⟩ := formula?_eq_some found
  rw [relocated, found]
  exact isSome_formula?_ofText.mpr (isFormulaText_relocation equals rows cols)

/-- A pasted cell is trimmed after it was moved along. So a formula stays one, but what is none is
not moved along, and becomes one if it is indented. -/
theorem pasted_formula (c : Cell) (cut : Bool) (rows cols : Int) :
    let copy := (if cut then c else c.relocated rows cols).trimmed
    (copy.formula?.isSome = true ↔ c.formula?.isSome = true ∨ c.IsIndented) ∧
      (c.formula? = none → copy = c.trimmed) := by
  intro copy
  cases formula : c.formula? with
  | none =>
    have plain : copy = c.trimmed := by
      cases cut with
      | false => exact congrArg trimmed (relocated_of_formula?_none formula rows cols)
      | true => rfl
    constructor
    · rw [plain, isSome_formula?_trimmed, formula]
    · exact fun _ => plain
  | some t =>
    have some : c.formula?.isSome = true := by rw [formula, Option.isSome_some]
    have stays : copy.formula?.isSome = true := by
      apply isSome_formula?_trimmed.mpr
      cases cut with
      | false => exact .inl (isSome_formula?_relocated some rows cols)
      | true => exact .inl some
    constructor
    · exact iff_of_true stays (.inl rfl)
    · intro none
      cases none

end Cell

namespace Editor

/-- A copy or a cut takes a snapshot of the selected block. -/
structure Takes (e : Editor) (b : Block) (action : Action) (k : Clipboard) : Prop where
  selected : e.selectedBlock? = some b
  action : action = if k.cut then .cut else .copy
  snapshot : k = (e.snapshot b k.cut).2

section Steps

variable {e : Editor} {b : Block} {action : Action} {k : Clipboard}

theorem Takes.cell? (takes : e.Takes b action k) {i j : Nat} (row : b.top + i ≤ b.bottom)
    (col : b.left + j ≤ b.right) :
    k.cells.cell? i j = e.sheet.cell? (b.top + i) (b.left + j) := by
  rw [takes.snapshot]
  exact (Grid.cell?_extract e.sheet.rows b i j).trans (if_pos ⟨row, col⟩)

/-- Only taking a snapshot and starting over change what is on the clipboard. -/
theorem clipboard_perform (e : Editor) {action : Action} (copies : action.copies = false)
    (kept : action ≠ .newFile) : (e.perform action).2.clipboard = e.clipboard := by
  cases looks : action.looks with
  | true => exact (e.perform_looks looks).clipboard
  | false =>
    cases works : action.works with
    | true => exact (e.perform_works works).clipboard
    | false =>
      cases action with
      | submit =>
        simp only [Editor.perform]
        split
        · rename_i moved h
          refine ifMoved_of (P := (·.clipboard = e.clipboard)) rfl fun a e' found => ?_
          obtain ⟨t, written, hw, rfl⟩ := submit_eq_ok (found ▸ h)
          exact (write_undisturbed hw).clipboard
        · rfl
      | openWorkbook w =>
        refine ifAccepted_of (P := (·.clipboard = e.clipboard)) rfl fun e' h => ?_
        obtain ⟨-, rfl⟩ := openWorkbook_eq_ok h
        rfl
      | newFile => exact absurd rfl kept
      | copy | cut => cases copies
      | press | dragOver | release | click | focusBar | blurBar | beginEdit | cancelEdit | setBar
      | setCaret | overwriteBar | step | tab => cases looks
      | _ => cases works

/-- What is on the clipboard after an action was there before or is a snapshot that it took. -/
theorem exists_takes (held : (e.perform action).2.clipboard = some k) :
    e.clipboard = some k ∨ ∃ b, e.Takes b action k := by
  cases copies : action.copies with
  | false =>
    by_cases new : action = .newFile
    · subst new
      cases held
    · exact .inl ((e.clipboard_perform copies new).symm.trans held)
  | true =>
    cases selected : e.selectedBlock? with
    | none =>
      have stays : (e.perform action).2 = e := by
        cases action with
        | copy => simp only [perform, copy?, selected, Option.map_none, ifTaken]
        | cut => simp only [perform, cut?, selected, Option.map_none, ifTaken]
        | _ => cases copies
      exact .inl (stays ▸ held)
    | some b =>
      refine .inr ⟨b, ?_⟩
      cases action with
      | copy =>
        simp only [perform, copy?, selected, Option.map_some, ifTaken, Option.some.injEq] at held
        subst held
        exact ⟨selected, rfl, rfl⟩
      | cut =>
        simp only [perform, cut?, selected, Option.map_some, ifTaken] at held
        cases held
        exact ⟨selected, rfl, rfl⟩
      | _ => cases copies

/-- After a run it was there before or is a snapshot that one of the actions took. -/
theorem exists_takes_of_run {actions : List Action} (held : (e.run actions).clipboard = some k) :
    e.clipboard = some k ∨ ∃ before action after b,
      actions = before ++ action :: after ∧ (e.run before).Takes b action k := by
  induction actions generalizing e with
  | nil => exact .inl held
  | cons first rest ih =>
    rcases ih held with there | ⟨before, action, after, b, rfl, takes⟩
    · rcases exists_takes there with earlier | ⟨b, takes⟩
      · exact .inl earlier
      · exact .inr ⟨[], first, rest, b, rfl, takes⟩
    · exact .inr ⟨first :: before, action, after, b, rfl, takes⟩

end Steps

/-- A paste brings the cells of the snapshot, whatever the text beside it. -/
theorem brought?_of_clipboard {e : Editor} {k : Clipboard} (held : e.clipboard = some k)
    (row col : Nat) (text : Option Text) (i j : Nat) :
    e.brought? row col text i j = (k.cells.cell? i j).map fun cell =>
      if k.cut then cell else cell.relocated ((row : Int) - k.row) ((col : Int) - k.col) := by
  simp only [brought?, held]

theorem clipboard_start (c : Config) (store : Store) : (start c store).clipboard = none := by
  obtain ⟨w, nextId, started⟩ := exists_start c store
  rw [started]
  rfl

/-- Let a run reach an editor with a snapshot on its clipboard. One of its actions copied or cut the
block that the snapshot is of. A paste at a cell of the sheet, whatever the text beside it, puts a
cell at every place that a cell of the block falls on. That is a formula if and only if the cell of
the block was one when it was taken, or was a text with an equals sign behind blanks; then, as all
that was no formula, it is the old text without the blanks and not moved along. -/
theorem run_pasted_formula (c : Config) (store : Store) (actions : List Action)
    {k : Clipboard} (target : Address) (text : Option Text) {row col : Nat} :
    let e := (start c store).run actions
    e.clipboard = some k → e.sheet.position? target = some (row, col) →
    ∃ before action after b,
      let taken := (start c store).run before
      actions = before ++ action :: after ∧ taken.Takes b action k ∧
      ∀ i j, b.top + i ≤ b.bottom → b.left + j ≤ b.right →
        row + i < e.sheet.height → col + j < e.sheet.width →
        ∃ source copy, taken.sheet.cell? (b.top + i) (b.left + j) = some source ∧
          (e.perform (.paste target text)).2.sheet.cell? (row + i) (col + j) = some copy ∧
          (copy.formula?.isSome = true ↔ source.formula?.isSome = true ∨ source.IsIndented) ∧
          (source.formula? = none → copy = source.trimmed) := by
  intro e held place
  rcases exists_takes_of_run held with there | ⟨before, action, after, b, split, takes⟩
  · rw [clipboard_start] at there
    cases there
  · refine ⟨before, action, after, b, split, takes, ?_⟩
    intro i j inBlock inBlock' fits fits'
    have valid : ((start c store).run before).Valid := valid_run c store before
    obtain ⟨bottom, right⟩ := valid.selectedBlock_inside takes.selected
    obtain ⟨source, here⟩ := Grid.exists_cell? (sheet_sound valid.workbook).even
      (Nat.lt_of_le_of_lt inBlock bottom) (Nat.lt_of_le_of_lt inBlock' right)
    have pasted := pasted_paste (e := e) (valid_run c store actions).workbook place text
    have brought : e.brought? row col text i j = some (if k.cut then source
        else source.relocated ((row : Int) - k.row) ((col : Int) - k.col)) := by
      rw [brought?_of_clipboard held, takes.cell? inBlock inBlock']
      exact congrArg (Option.map _) here
    exact ⟨source, _, here, pasted.written i j _ brought fits fits',
      source.pasted_formula k.cut _ _⟩

/-- A text with an equals sign behind a blank is copied. -/
def indentedCopied : List Action :=
  [.write ⟨0, ['A']⟩ " =COUNT(A1:A1)".toList, .click ⟨0, ['A']⟩, .copy]

/-- The snapshot of it was taken by the last action. -/
theorem indentedCopied_taken :
    let start := start ⟨1, 2, 1, 300⟩ ⟨.memory, .nothing, true, true, 0⟩
    let e := start.run indentedCopied
    let k : Clipboard := ⟨[[.text " =COUNT(A1:A1)".toList]], 0, 0, false⟩
    e.clipboard = some k ∧ e.sheet.position? ⟨0, ['B']⟩ = some (0, 1) ∧
      ∃ before action after b, indentedCopied = before ++ action :: after ∧
        (start.run before).Takes b action k ∧
        ∀ i j, b.top + i ≤ b.bottom → b.left + j ≤ b.right →
          0 + i < e.sheet.height → 1 + j < e.sheet.width →
          ∃ source copy, (start.run before).sheet.cell? (b.top + i) (b.left + j) = some source ∧
            (e.perform (.paste ⟨0, ['B']⟩ none)).2.sheet.cell? (0 + i) (1 + j) = some copy ∧
            (copy.formula?.isSome = true ↔
              source.formula?.isSome = true ∨ source.IsIndented) ∧
            (source.formula? = none → copy = source.trimmed) := by
  intro start e k
  have held : e.clipboard = some k := by decide
  have place : e.sheet.position? ⟨0, ['B']⟩ = some (0, 1) := by decide
  exact ⟨held, place, run_pasted_formula _ _ indentedCopied ⟨0, ['B']⟩ none held place⟩

/-- It was no formula, but pasted beside itself it is one, which was not moved along. -/
theorem indentedCopied_pasted :
    let e := (start ⟨1, 2, 1, 300⟩ ⟨.memory, .nothing, true, true, 0⟩).run indentedCopied
    let e' := (e.perform (.paste ⟨0, ['B']⟩ none)).2
    let source := Cell.text " =COUNT(A1:A1)".toList
    let copy := Cell.text "=COUNT(A1:A1)".toList
    e.sheet.cell? 0 0 = some source ∧ e'.sheet.cell? 0 1 = some copy ∧
      ¬(copy.formula?.isSome = true ↔ source.formula?.isSome = true) := by
  decide

end Editor

end Spreadsheet
