import Spreadsheet.Proofs.Changes

/-!
# Actions that only look

Selecting, editing in place and the formula bar concern what a user sees. Their actions touch nothing
else, so whatever does not speak of the view is the same after them. Actions that work on the cells
and the sheets, in turn, leave the formula bar and the clipboard as they are.
-/

namespace Spreadsheet

namespace Editor

/-- Nothing changes but what is selected, what the formula bar shows and what is edited in place. -/
def Looks (e e' : Editor) : Prop :=
  e' = { e with
    selected := e'.selected
    selection := e'.selection
    drag := e'.drag
    dragging := e'.dragging
    bar := e'.bar
    editing := e'.editing }

theorem Looks.refl (e : Editor) : Looks e e :=
  rfl

/-- Kinds and formats stay. -/
structure Unmarked (e e' : Editor) : Prop where
  kinds : e'.kinds = e.kinds
  formats : e'.formats = e.formats

theorem Unmarked.refl (e : Editor) : Unmarked e e :=
  ⟨rfl, rfl⟩

section Kept

variable {e e' : Editor}

theorem Looks.workbook (h : Looks e e') : e'.workbook = e.workbook := by
  unfold Looks at h
  rw [h]

theorem Looks.clipboard (h : Looks e e') : e'.clipboard = e.clipboard := by
  unfold Looks at h
  rw [h]

theorem Looks.unmarked (h : Looks e e') : Unmarked e e' := by
  unfold Looks at h
  rw [h]
  exact ⟨rfl, rfl⟩

end Kept

theorem Looks.reselect {e e' : Editor} (h : Looks e e') : Looks e e'.reselect := by
  unfold Looks at h
  unfold Editor.reselect
  split
  · rw [h]
    rfl
  · exact h

theorem press_looks (e : Editor) (a : Address) : Looks e (e.press a) :=
  .reselect rfl

theorem click_looks (e : Editor) (a : Address) : Looks e (e.click a) :=
  .reselect rfl

theorem dragOver_looks (e : Editor) (a : Address) : Looks e (e.dragOver a) := by
  unfold dragOver
  split
  · split
    · exact .reselect rfl
    · rfl
  · rfl

theorem selectionsAfter_looks (e : Editor) (edit : StructuralEdit) (anchor : Address)
    (new : Sheet) : Looks e (e.selectionsAfter edit anchor new) := by
  unfold selectionsAfter
  split <;> rfl

theorem step?_eq_some {e e' : Editor} {d : Direction} {a : Address}
    (h : e.step? d = some (a, e')) : e' = e.click a := by
  obtain ⟨place, -, h⟩ := Option.bind_eq_some_iff.mp h
  dsimp only at h
  split at h
  · cases h
  · exact (clickAt?_eq_some h).2

theorem tab?_eq_some {e e' : Editor} {back : Bool} {a : Address}
    (h : e.tab? back = some (a, e')) : e' = e.click a := by
  obtain ⟨place, -, h⟩ := Option.bind_eq_some_iff.mp h
  cases back with
  | false =>
    obtain ⟨next, -, h⟩ := Option.bind_eq_some_iff.mp h
    exact (clickAt?_eq_some h).2
  | true =>
    obtain ⟨next, -, h⟩ := Option.bind_eq_some_iff.mp h
    exact (clickAt?_eq_some h).2

end Editor

/-- Actions of selecting, of editing in place and of the formula bar, except for entering its
text. -/
def Action.looks : Action → Bool
  | .press .. | .dragOver .. | .release | .click .. | .focusBar | .blurBar | .beginEdit ..
  | .cancelEdit | .setBar .. | .setCaret .. | .overwriteBar .. | .step .. | .tab .. => true
  | _ => false

namespace Editor

theorem perform_looks (e : Editor) {action : Action} (looks : action.looks = true) :
    Looks e (e.perform action).2 := by
  cases action with
  | press a => exact press_looks e a
  | dragOver a => exact dragOver_looks e a
  | click a => exact click_looks e a
  | step d => exact ifMoved_of (.refl e) fun a e' h => step?_eq_some h ▸ click_looks e a
  | tab back => exact ifMoved_of (.refl e) fun a e' h => tab?_eq_some h ▸ click_looks e a
  | release | focusBar | blurBar | beginEdit | cancelEdit | setBar | setCaret | overwriteBar => rfl
  | _ => cases looks

/-- The formula bar and the clipboard stay. -/
structure Undisturbed (e e' : Editor) : Prop where
  bar : e'.bar = e.bar
  clipboard : e'.clipboard = e.clipboard

theorem Undisturbed.refl (e : Editor) : Undisturbed e e :=
  ⟨rfl, rfl⟩

theorem write_undisturbed {e e' : Editor} {a : Address} {t : Text} (h : e.write a t = .ok e') :
    Undisturbed e e' := by
  obtain ⟨row, col, -, rfl⟩ := write_eq_ok h
  exact ⟨rfl, rfl⟩

theorem commit_undisturbed {e e' : Editor} {a : Address} {t : Text} (h : e.commit a t = .ok e') :
    Undisturbed e e' := by
  obtain ⟨written, hw, rfl⟩ := commit_eq_ok h
  exact ⟨(write_undisturbed hw).bar, (write_undisturbed hw).clipboard⟩

theorem edit_undisturbed (e : Editor) (edit : StructuralEdit) (anchor : Address) :
    Undisturbed e (e.edit edit anchor) := by
  rw [Editor.edit]
  split
  · rename_i s edited
    cases edit <;> exact ⟨rfl, rfl⟩
  · exact .refl e

theorem paste_undisturbed (e : Editor) (target : Address) (text : Option Text) :
    Undisturbed e (e.paste target text).2 := by
  rcases e.paste_cases target text with nothing | ⟨row, col, n, -, -, written⟩
  · rw [nothing]
    exact .refl e
  · rw [written]
    exact ⟨rfl, rfl⟩

theorem sortBy_undisturbed (e : Editor) (label : Text) (direction : SortDirection) (time : Nat) :
    Undisturbed e (e.sortBy label direction time) := by
  rw [sortBy]
  split
  · exact ⟨rfl, rfl⟩
  · exact .refl e

theorem restoreOrder_undisturbed (e : Editor) : Undisturbed e e.restoreOrder := by
  rw [restoreOrder]
  split
  · exact .refl e
  · dsimp only
    split <;> exact ⟨rfl, rfl⟩

theorem clickHeader_undisturbed (e : Editor) (label : Text) (time : Nat) :
    Undisturbed e (e.clickHeader label time) := by
  rw [clickHeader]
  split
  · exact .refl e
  · split
    · exact ⟨rfl, rfl⟩
    · exact ⟨rfl, rfl⟩
    · exact e.restoreOrder_undisturbed

theorem formatSelection_undisturbed (e : Editor) (p : FormatPatch) :
    Undisturbed e (e.formatSelection p).2 := by
  rw [formatSelection]
  split
  · exact ⟨rfl, rfl⟩
  · exact .refl e

theorem addSheet_undisturbed (e : Editor) : Undisturbed e e.addSheet := by
  rw [addSheet, withFreeId]
  split <;> exact ⟨rfl, rfl⟩

end Editor

/-- Actions on cells and sheets, except for those that take cells to the clipboard, take a text from
the formula bar or replace the whole workbook. -/
def Action.works : Action → Bool
  | .write .. | .commit .. | .edit .. | .moveRow .. | .moveColumn .. | .moveBlock .. | .paste ..
  | .fillDown | .fillRight | .sortBy .. | .clickHeader .. | .restoreOrder | .setKind .. | .format ..
  | .formatSelection .. | .addSheet | .removeSheet .. | .selectSheet .. => true
  | _ => false

namespace Editor

theorem perform_works (e : Editor) {action : Action} (works : action.works = true) :
    Undisturbed e (e.perform action).2 := by
  cases action with
  | write a t => exact ifAccepted_of (.refl e) fun e' => write_undisturbed
  | commit a t => exact ifAccepted_of (.refl e) fun e' => commit_undisturbed
  | edit edit anchor => exact e.edit_undisturbed edit anchor
  | moveRow i j =>
    refine ifDone_of (.refl e) fun e' h => ?_
    obtain ⟨s, -, rfl⟩ := moveRow?_eq_some h
    exact ⟨rfl, rfl⟩
  | moveColumn source target =>
    refine ifDone_of (.refl e) fun e' h => ?_
    obtain ⟨i, j, s, -, -, -, rfl⟩ := moveColumn?_eq_some h
    exact ⟨rfl, rfl⟩
  | moveBlock source target =>
    refine ifDone_of (.refl e) fun e' h => ?_
    obtain ⟨x, b, row, col, row', col', -, -, -, -, -, rfl⟩ := moveBlock?_eq_some h
    exact ⟨rfl, rfl⟩
  | paste target text => exact e.paste_undisturbed target text
  | fillDown =>
    refine ifDone_of (.refl e) fun e' h => ?_
    obtain ⟨b, -, -, rfl⟩ := fillDown?_eq_some h
    exact ⟨rfl, rfl⟩
  | fillRight =>
    refine ifDone_of (.refl e) fun e' h => ?_
    obtain ⟨b, -, -, rfl⟩ := fillRight?_eq_some h
    exact ⟨rfl, rfl⟩
  | sortBy label direction time => exact e.sortBy_undisturbed label direction time
  | clickHeader label time => exact e.clickHeader_undisturbed label time
  | restoreOrder => exact e.restoreOrder_undisturbed
  | setKind | format => exact ⟨rfl, rfl⟩
  | formatSelection p => exact e.formatSelection_undisturbed p
  | addSheet => exact e.addSheet_undisturbed
  | removeSheet i =>
    refine ifDone_of (.refl e) fun e' h => ?_
    obtain ⟨-, -, rfl⟩ := removeSheet?_eq_some h
    exact ⟨rfl, rfl⟩
  | selectSheet i =>
    refine ifDone_of (.refl e) fun e' h => ?_
    obtain ⟨-, -, rfl⟩ := selectSheet?_eq_some h
    exact ⟨rfl, rfl⟩
  | _ => cases works

end Editor

end Spreadsheet
