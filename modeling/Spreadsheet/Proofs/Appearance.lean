import Spreadsheet.Proofs.FailedActions

/-!
# Kinds and formats across sheets

Kinds and formats are remembered by address and not by sheet. Nothing touches them but declaring a
kind, changing formats and starting over, so what is declared or formatted while one sheet is active
shows on every sheet, and a kind refuses entries on all of them.
-/

namespace Spreadsheet

namespace Action

/-- Actions that declare a kind or change formats. -/
def marks : Action → Bool
  | setKind .. | format .. | formatSelection .. => true
  | _ => false

/-- The kind of an address after an action, given the one before. -/
def kindAfter (a : Address) (kind : CellKind) : Action → CellKind
  | setKind b declared => if a = b then declared else kind
  | newFile => .text
  | _ => kind

end Action

namespace Editor

section Steps

variable {e : Editor}

theorem edit_unmarked (e : Editor) (edit : StructuralEdit) (anchor : Address) :
    Unmarked e (e.edit edit anchor) := by
  simp only [Editor.edit]
  split
  · rename_i s h
    have kept := (e.selectionsAfter_looks edit anchor s).unmarked
    exact ⟨kept.kinds, kept.formats⟩
  · exact .refl e

theorem sortBy_unmarked (e : Editor) (label : Text) (direction : SortDirection) (time : Nat) :
    Unmarked e (e.sortBy label direction time) := by
  simp only [sortBy]
  split
  · exact ⟨rfl, rfl⟩
  · exact .refl e

theorem restoreOrder_unmarked (e : Editor) : Unmarked e e.restoreOrder := by
  simp only [restoreOrder]
  split
  · exact .refl e
  · split <;> exact ⟨rfl, rfl⟩

theorem clickHeader_unmarked (e : Editor) (label : Text) (time : Nat) :
    Unmarked e (e.clickHeader label time) := by
  simp only [clickHeader]
  split
  · exact .refl e
  · split
    · exact ⟨rfl, rfl⟩
    · exact ⟨rfl, rfl⟩
    · exact e.restoreOrder_unmarked

theorem copy?_unmarked {e' : Editor} {t : Text} (h : e.copy? = some (t, e')) : Unmarked e e' := by
  obtain ⟨b, -, -, rfl⟩ := copy?_eq_some h
  exact ⟨rfl, rfl⟩

/-- Nothing else touches kinds and formats. -/
theorem Valid.perform_unmarked (valid : e.Valid) {action : Action} (marks : action.marks = false)
    (kept : action ≠ .newFile) : Unmarked e (e.perform action).2 := by
  cases looks : action.looks with
  | true => exact (e.perform_looks looks).unmarked
  | false =>
    cases writes : action.writes with
    | true =>
      -- an action that writes fails or saves, and neither touches kinds and formats
      cases fails : (e.perform action).1.fails with
      | true =>
        rw [valid.perform_of_fails fails]
        exact .refl e
      | false => exact (perform_writes writes fails).toUnmarked
    | false =>
      cases action with
      | edit edit anchor => exact e.edit_unmarked edit anchor
      | sortBy label direction time => exact e.sortBy_unmarked label direction time
      | clickHeader label time => exact e.clickHeader_unmarked label time
      | restoreOrder => exact e.restoreOrder_unmarked
      | copy => exact ifTaken_of (.refl e) fun t e' => copy?_unmarked
      | newFile => exact absurd rfl kept
      | setKind | format | formatSelection => cases marks
      | press | dragOver | release | click | focusBar | blurBar | beginEdit | cancelEdit | setBar
      | setCaret | overwriteBar | step | tab => cases looks
      | _ => cases writes

theorem formatSelection_kinds (e : Editor) (p : FormatPatch) :
    (e.formatSelection p).2.kinds = e.kinds := by
  simp only [formatSelection]
  split <;> rfl

theorem Valid.perform_kinds (valid : e.Valid) (action : Action) (a : Address) :
    (e.perform action).2.kinds a = action.kindAfter a (e.kinds a) := by
  by_cases fresh : action = .newFile
  · rw [fresh]
    rfl
  · cases marks : action.marks with
    | true =>
      cases action with
      | setKind b declared => rfl
      | format b p => rfl
      | formatSelection p => exact congrFun (e.formatSelection_kinds p) a
      | _ => cases marks
    | false =>
      have kinds := (valid.perform_unmarked marks fresh).kinds
      rw [kinds]
      cases action with
      | setKind => cases marks
      | newFile => exact absurd rfl fresh
      | _ => rfl

/-- The kind of an address is the one that was declared last, whatever sheet was active then. -/
theorem Valid.run_kinds (valid : e.Valid) (actions : List Action) (a : Address) :
    (e.run actions).kinds a = actions.foldl (Action.kindAfter a) (e.kinds a) := by
  induction actions generalizing e with
  | nil => rfl
  | cons action rest ih =>
    rw [List.foldl_cons, ← valid.perform_kinds action a]
    exact ih ((perform_change e action).valid valid)

end Steps

/-- Other kinds and formats. -/
def remarked (e : Editor) (kinds : Address → CellKind) (formats : Address → CellFormat) : Editor :=
  { e with kinds := kinds, formats := formats }

theorem perform_marks (e : Editor) {action : Action} (marks : action.marks = true) :
    ∃ kinds formats, (e.perform action).2 = e.remarked kinds formats := by
  cases action with
  | setKind a kind => exact ⟨_, _, rfl⟩
  | format a p => exact ⟨_, _, rfl⟩
  | formatSelection p =>
    simp only [perform, formatSelection]
    split
    · exact ⟨_, _, rfl⟩
    · exact ⟨e.kinds, e.formats, rfl⟩
  | _ => cases marks

theorem run_marks (e : Editor) {actions : List Action}
    (marks : ∀ action ∈ actions, action.marks = true) :
    ∃ kinds formats, e.run actions = e.remarked kinds formats := by
  induction actions generalizing e with
  | nil => exact ⟨e.kinds, e.formats, rfl⟩
  | cons action rest ih =>
    obtain ⟨kinds, formats, first⟩ := e.perform_marks (marks action List.mem_cons_self)
    obtain ⟨kinds', formats', h⟩ := ih (e.remarked kinds formats) fun next hnext =>
      marks next (List.mem_cons_of_mem action hnext)
    refine ⟨kinds', formats', ?_⟩
    change (e.perform action).2.run rest = _
    rw [first, h]
    rfl

/-- Selecting a sheet neither depends on kinds and formats nor touches them. -/
theorem perform_selectSheet_remarked (e : Editor) (kinds : Address → CellKind)
    (formats : Address → CellFormat) (j : Nat) :
    ((e.remarked kinds formats).perform (.selectSheet j)).2 =
      (e.perform (.selectSheet j)).2.remarked kinds formats := by
  have selected : (e.remarked kinds formats).selectSheet? j =
      (e.selectSheet? j).map (·.remarked kinds formats) := by
    by_cases other : j < e.workbook.sheets.length ∧ j ≠ e.workbook.active
    · rw [selectSheet?, selectSheet?, if_pos other]
      exact if_pos other
    · rw [selectSheet?, selectSheet?, if_neg other]
      exact if_neg other
  simp only [perform, selected]
  cases e.selectSheet? j <;> rfl

/-- The kind of the address decides whether an entry is accepted, and beyond that the sheet. -/
theorem perform_commit_remarked (e : Editor) (kinds : Address → CellKind)
    (formats : Address → CellFormat) (a : Address) (t : Text) :
    ((e.remarked kinds formats).perform (.commit a t)).1 =
      match (kinds a).refusal? t.trim with
      | some reason => .failed (.refused reason)
      | none => (e.perform (.write a t.trim)).1 := by
  have kind : (e.remarked kinds formats).kinds a = kinds a := rfl
  have sheet : (e.remarked kinds formats).sheet = e.sheet := rfl
  simp only [perform, commit, kind]
  cases (kinds a).refusal? t.trim with
  | some reason => rfl
  | none =>
    simp only [write, sheet]
    cases e.sheet.position a <;> rfl

/-- Whatever is declared and formatted while one sheet is active stays when another is selected: the
editor is the one that selects the sheet right away, but for the kinds and formats, and these kinds
refuse entries on the other sheet too. -/
theorem run_marks_shared (c : Config) (store : Store) (actions : List Action)
    {marks : List Action} (only : ∀ action ∈ marks, action.marks = true) (j : Nat) :
    let e := (start c store).run actions
    let plain := e.run [.selectSheet j]
    let marked := e.run (marks ++ [.selectSheet j])
    marked = plain.remarked (fun a => marks.foldl (Action.kindAfter a) (e.kinds a))
        (e.run marks).formats ∧
      ∀ a t, (marked.perform (.commit a t)).1 =
        match (marks.foldl (Action.kindAfter a) (e.kinds a)).refusal? t.trim with
        | some reason => .failed (.refused reason)
        | none => (plain.perform (.write a t.trim)).1 := by
  intro e plain marked
  have valid : e.Valid := valid_run c store actions
  have same : marked = plain.remarked (fun a => marks.foldl (Action.kindAfter a) (e.kinds a))
      (e.run marks).formats := by
    obtain ⟨kinds, formats, h⟩ := e.run_marks only
    have kindsAre : kinds = fun a => marks.foldl (Action.kindAfter a) (e.kinds a) := by
      funext a
      rw [← valid.run_kinds marks a, h]
      rfl
    have selected : marked = ((e.run marks).perform (.selectSheet j)).2 := List.foldl_append
    rw [selected, h, perform_selectSheet_remarked, kindsAre]
    rfl
  refine ⟨same, fun a t => ?_⟩
  rw [same]
  exact plain.perform_commit_remarked _ _ a t

/-- A cell of the first sheet is declared to hold numbers. -/
theorem number_declared_shared :
    let e := start ⟨1, 2, 2, 300⟩ ⟨.memory, .nothing, true, true, 0⟩
    (e.run [.setKind ⟨0, ['A']⟩ .number, .selectSheet 1]).kinds ⟨0, ['A']⟩ = .number := by
  have shared := run_marks_shared ⟨1, 2, 2, 300⟩ ⟨.memory, .nothing, true, true, 0⟩ []
    (fun action h => by rw [List.mem_singleton.mp h]; rfl : ∀ action ∈
      [Action.setKind ⟨0, ['A']⟩ .number], action.marks = true) 1
  exact congrFun (congrArg kinds shared.1) ⟨0, ['A']⟩

/-- The same cell of the second sheet refuses a text then, and would not have otherwise. -/
theorem number_declared_refuses_beyond_sheet :
    let e := start ⟨1, 2, 2, 300⟩ ⟨.memory, .nothing, true, true, 0⟩
    let plain := e.run [.selectSheet 1]
    let marked := e.run [.setKind ⟨0, ['A']⟩ .number, .selectSheet 1]
    e.workbook.active = 0 ∧ marked.workbook.active = 1 ∧
      marked.kinds ⟨0, ['A']⟩ ≠ plain.kinds ⟨0, ['A']⟩ ∧
      (plain.perform (.commit ⟨0, ['A']⟩ ['x'])).1 = .nothing ∧
      (marked.perform (.commit ⟨0, ['A']⟩ ['x'])).1 = .failed (.refused .notNumber) := by
  decide

end Editor

end Spreadsheet
