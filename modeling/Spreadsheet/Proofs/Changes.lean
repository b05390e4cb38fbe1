import Spreadsheet.Editor.Action
import Spreadsheet.Proofs.SheetLayout

/-!
# What an action changes

Three dozen actions make a handful of changes. Most stay in place: they leave the workbook alone, or
put other cells into the rows of the active sheet and save. Some order its rows or rearrange its
rows and columns, and the rest exchange sheets. Every action makes one of these changes, so what all
of them keep holds in every state that a run reaches.
-/

namespace Spreadsheet

theorem Sheet.column?_lt {s : Sheet} {label : Text} {col : Nat} (h : s.column? label = some col) :
    col < s.width :=
  (List.idxOf?_eq_some_iff.mp h).1

theorem Sheet.position_eq_ok {s : Sheet} {a : Address} {row col : Nat}
    (h : s.position a = .ok (row, col)) :
    row = a.row ∧ row < s.height ∧ s.column? a.col = some col := by
  simp only [position] at h
  split at h
  · cases h
  · rename_i found
    split at h
    · rename_i inside
      cases h
      exact ⟨rfl, inside, found⟩
    · cases h

theorem Sheet.position?_eq_some {s : Sheet} {a : Address} {row col : Nat}
    (h : s.position? a = some (row, col)) :
    row = a.row ∧ row < s.height ∧ s.column? a.col = some col := by
  cases hp : s.position a with
  | error err =>
    rw [position?, hp] at h
    cases h
  | ok place =>
    rw [position?, hp] at h
    cases h
    exact position_eq_ok hp

theorem Sheet.position?_of_column? {s : Sheet} {row col : Nat} {label : Text}
    (inside : row < s.height) (column : s.column? label = some col) :
    s.position? ⟨row, label⟩ = some (row, col) := by
  simp only [position?, position, column]
  rw [if_pos inside]
  rfl

theorem Sheet.find?_of_position? {s : Sheet} {a : Address} {row col : Nat}
    (place : s.position? a = some (row, col)) : s.find? a = s.cell? row col := by
  rw [find?, place, Option.bind_some]

namespace Editor

/-- The workbook stays, and so does what goes along with it. -/
structure Keeps (e e' : Editor) : Prop where
  config : e'.config = e.config
  workbook : e'.workbook = e.workbook
  nextId : e'.nextId = e.nextId
  sort : e'.sort = e.sort
  modified : e'.modified = e.modified
  store : e'.store = e.store

theorem Keeps.refl (e : Editor) : Keeps e e :=
  ⟨rfl, rfl, rfl, rfl, rfl, rfl⟩

theorem Keeps.sheet {e e' : Editor} (kept : Keeps e e') : e'.sheet = e.sheet :=
  congrArg Workbook.sheet kept.workbook

/-- Another sheet takes the place of the active one, and the workbook is saved. -/
structure Replaces (e e' : Editor) (s : Sheet) : Prop where
  config : e'.config = e.config
  workbook : e'.workbook = e.workbook.setSheet s
  nextId : e'.nextId = e.nextId
  modified : e'.modified = true
  store : e'.store = e.store.save e'.workbook

theorem put_replaces {e e' : Editor} (config : e'.config = e.config)
    (workbook : e'.workbook = e.workbook) (nextId : e'.nextId = e.nextId)
    (store : e'.store = e.store) (s : Sheet) : Replaces e (e'.put s) s where
  config := config
  workbook := congrArg (·.setSheet s) workbook
  nextId := nextId
  modified := rfl
  store := congrArg (Store.save · (e'.workbook.setSheet s)) store

/-- Changes that move no row and no column. -/
inductive InPlace (e : Editor) : Editor → Prop
  | look {e' : Editor} (kept : Keeps e e') (selection : e'.selection = e.selection) : InPlace e e'
  | select {e' : Editor} (kept : Keeps e e') {a b : Address} {x : Selection}
      (drawn : Selection.between? e.sheet a b = some x) (selection : e'.selection = some x) :
      InPlace e e'
  | cells {e' : Editor} {rows : Grid} (shape : rows.shape = Grid.shape e.sheet.rows)
      (replaced : Replaces e e' { e.sheet with rows := rows }) (sort : e'.sort = e.sort)
      (selection : e'.selection = e.selection) : InPlace e e'

/-- Changes of the active sheet alone. -/
inductive OnSheet (e : Editor) : Editor → Prop
  | inPlace {e' : Editor} (h : InPlace e e') : OnSheet e e'
  | sort (col : Nat) (direction : SortDirection) (time : Nat) (inside : col < e.sheet.width) :
      OnSheet e (e.sortByIndex col direction time)
  | restore {s : SortState} (sorted : e.sort = some s) : OnSheet e e.restoreOrder
  | arrange {e' : Editor} {s : Sheet} (arranged : e.sheet.Rearranged e.config.maxRows s)
      (replaced : Replaces e e' s) (sort : e'.sort = none)
      (selection : e'.selection = e.selection ∨ e'.selection = none) : OnSheet e e'

/-- All changes. -/
inductive Change (e : Editor) : Editor → Prop
  | onSheet {e' : Editor} (h : OnSheet e e') : Change e e'
  | addSheet : Change e e.addSheet
  | removeSheet (i : Nat) {e' : Editor} (h : e.removeSheet? i = some e') : Change e e'
  | selectSheet (i : Nat) {e' : Editor} (h : e.selectSheet? i = some e') : Change e e'
  | newFile : Change e e.newFile
  | openWorkbook (w : Workbook) {e' : Editor} (h : e.openWorkbook w = .ok e') : Change e e'

theorem InPlace.refl (e : Editor) : InPlace e e :=
  .look (.refl e) rfl

/-- Writing rows of the same shape, whatever happens to the rest of the view. -/
theorem InPlace.putRows (e : Editor) {rows : Grid} (shape : rows.shape = Grid.shape e.sheet.rows) :
    InPlace e (e.putRows rows) :=
  .cells shape ⟨rfl, rfl, rfl, rfl, rfl⟩ rfl rfl

theorem write_eq_ok {e e' : Editor} {a : Address} {t : Text} (h : e.write a t = .ok e') :
    ∃ row col, e.sheet.position a = .ok (row, col) ∧
      e' = e.putRows (e.sheet.rows.setCell row col (Cell.ofText t)) := by
  cases hp : e.sheet.position a with
  | error err =>
    rw [write, hp] at h
    cases h
  | ok place =>
    rw [write, hp] at h
    cases h
    exact ⟨place.1, place.2, rfl, rfl⟩

theorem write_inPlace {e e' : Editor} {a : Address} {t : Text} (h : e.write a t = .ok e') :
    InPlace e e' := by
  obtain ⟨row, col, -, rfl⟩ := write_eq_ok h
  exact .putRows e (Grid.shape_setCell _ _ _ _)

theorem commit_eq_ok {e e' : Editor} {a : Address} {t : Text} (h : e.commit a t = .ok e') :
    ∃ written, e.write a t.trim = .ok written ∧ e' = { written with editing := none } := by
  simp only [commit] at h
  split at h
  · cases h
  · cases hw : e.write a t.trim with
    | error err =>
      rw [hw] at h
      cases h
    | ok written =>
      rw [hw] at h
      cases h
      exact ⟨written, rfl, rfl⟩

theorem commit_inPlace {e e' : Editor} {a : Address} {t : Text} (h : e.commit a t = .ok e') :
    InPlace e e' := by
  obtain ⟨written, hw, rfl⟩ := commit_eq_ok h
  obtain ⟨row, col, -, rfl⟩ := write_eq_ok hw
  exact .cells (Grid.shape_setCell _ _ _ _) ⟨rfl, rfl, rfl, rfl, rfl⟩ rfl rfl

theorem submit_eq_ok {e e' : Editor} {a : Address} (h : e.submit = .ok (some (a, e'))) :
    ∃ t written, e.write a t = .ok written ∧ e' = { written with bar := e.bar.unfocus } := by
  simp only [submit] at h
  split at h
  · cases h
  · split at h
    · cases h
    · rename_i target htarget
      cases hw : e.write target (Formula.Entry.parse e.bar.text.trim).formula with
      | error err =>
        rw [hw] at h
        cases h
      | ok written =>
        rw [hw] at h
        cases h
        obtain ⟨row, col, -, rfl⟩ := write_eq_ok hw
        exact ⟨_, _, hw, rfl⟩

theorem submit_inPlace {e e' : Editor} {a : Address} (h : e.submit = .ok (some (a, e'))) :
    InPlace e e' := by
  obtain ⟨t, written, hw, rfl⟩ := submit_eq_ok h
  obtain ⟨row, col, -, rfl⟩ := write_eq_ok hw
  exact .cells (Grid.shape_setCell _ _ _ _) ⟨rfl, rfl, rfl, rfl, rfl⟩ rfl rfl

/-- Whatever was set up for it, drawing a selection only selects. -/
theorem reselect_inPlace {e e' : Editor} (kept : Keeps e e') (same : e'.selection = e.selection) :
    InPlace e e'.reselect := by
  simp only [reselect]
  split
  · rename_i x drawn
    obtain ⟨d, -, hx⟩ := Option.bind_eq_some_iff.mp drawn
    rw [kept.sheet] at hx
    exact .select ⟨kept.config, kept.workbook, kept.nextId, kept.sort, kept.modified, kept.store⟩
      hx rfl
  · exact .look kept same

theorem press_inPlace (e : Editor) (a : Address) : InPlace e (e.press a) :=
  reselect_inPlace ⟨rfl, rfl, rfl, rfl, rfl, rfl⟩ rfl

theorem click_inPlace (e : Editor) (a : Address) : InPlace e (e.click a) :=
  reselect_inPlace ⟨rfl, rfl, rfl, rfl, rfl, rfl⟩ rfl

theorem dragOver_inPlace (e : Editor) (a : Address) : InPlace e (e.dragOver a) := by
  simp only [dragOver]
  split
  · split
    · exact reselect_inPlace ⟨rfl, rfl, rfl, rfl, rfl, rfl⟩ rfl
    · exact .refl e
  · exact .refl e

theorem clickAt?_eq_some {e e' : Editor} {row col : Nat} {a : Address}
    (h : e.clickAt? row col = some (a, e')) :
    e.sheet.address? row col = some a ∧ e' = e.click a := by
  obtain ⟨b, hb, pair⟩ := Option.map_eq_some_iff.mp h
  cases pair
  exact ⟨hb, rfl⟩

theorem selectedPosition?_lt {e : Editor} {row col : Nat}
    (h : e.selectedPosition? = some (row, col)) :
    row < e.sheet.height ∧ col < e.sheet.width := by
  obtain ⟨a, -, here⟩ := Option.bind_eq_some_iff.mp h
  obtain ⟨-, hrow, hcol⟩ := Sheet.position?_eq_some here
  exact ⟨hrow, Sheet.column?_lt hcol⟩

theorem step?_inPlace {e e' : Editor} {d : Direction} {a : Address}
    (h : e.step? d = some (a, e')) : InPlace e e' := by
  obtain ⟨place, -, h⟩ := Option.bind_eq_some_iff.mp h
  dsimp only at h
  split at h
  · cases h
  · rw [(clickAt?_eq_some h).2]
    exact click_inPlace e a

theorem tab?_inPlace {e e' : Editor} {back : Bool} {a : Address}
    (h : e.tab? back = some (a, e')) : InPlace e e' := by
  obtain ⟨⟨row, col⟩, -, h⟩ := Option.bind_eq_some_iff.mp h
  cases back with
  | false =>
    obtain ⟨next, -, h⟩ := Option.bind_eq_some_iff.mp h
    rw [(clickAt?_eq_some h).2]
    exact click_inPlace e a
  | true =>
    obtain ⟨next, -, h⟩ := Option.bind_eq_some_iff.mp h
    rw [(clickAt?_eq_some h).2]
    exact click_inPlace e a

theorem copy?_eq_some {e e' : Editor} {t : Text} (h : e.copy? = some (t, e')) :
    ∃ b, e.selectedBlock? = some b ∧ t = (e.snapshot b false).1 ∧
      e' = { e with clipboard := some (e.snapshot b false).2 } := by
  obtain ⟨b, hb, pair⟩ := Option.map_eq_some_iff.mp h
  cases pair
  exact ⟨b, hb, rfl, rfl⟩

theorem copy?_inPlace {e e' : Editor} {t : Text} (h : e.copy? = some (t, e')) : InPlace e e' := by
  obtain ⟨b, -, -, rfl⟩ := copy?_eq_some h
  exact .look ⟨rfl, rfl, rfl, rfl, rfl, rfl⟩ rfl

theorem cut?_eq_some {e e' : Editor} {t : Text} (h : e.cut? = some (t, e')) :
    ∃ b, e.selectedBlock? = some b ∧ t = (e.snapshot b true).1 ∧
      e' = ({ e with clipboard := some (e.snapshot b true).2 } : Editor).putRows
        (e.sheet.rows.erase b) := by
  obtain ⟨b, hb, pair⟩ := Option.map_eq_some_iff.mp h
  cases pair
  exact ⟨b, hb, rfl, rfl⟩

theorem cut?_inPlace {e e' : Editor} {t : Text} (h : e.cut? = some (t, e')) : InPlace e e' := by
  obtain ⟨b, -, -, rfl⟩ := cut?_eq_some h
  exact .cells (Grid.shape_erase _ _) ⟨rfl, rfl, rfl, rfl, rfl⟩ rfl rfl

theorem paste_inPlace (e : Editor) (target : Address) (text : Option Text) :
    InPlace e (e.paste target text).2 := by
  simp only [paste]
  split
  · exact .refl e
  · split
    · exact .refl e
    · exact .putRows e (Grid.shape_write _ _ _ _)

/-- A paste changes nothing and counts nothing, or writes at the target and counts something. -/
theorem paste_cases (e : Editor) (target : Address) (text : Option Text) :
    e.paste target text = (0, e) ∨
      ∃ row col n, 0 < n ∧ e.sheet.position? target = some (row, col) ∧
        e.paste target text = (n, e.putRows (e.sheet.rows.write row col
          ((e.pasted row col text).map fun cells => cells.map Cell.trimmed))) := by
  simp only [paste]
  split
  · exact .inl rfl
  · rename_i row col place
    split
    · exact .inl rfl
    · rename_i none
      exact .inr ⟨row, col, _, Nat.pos_of_ne_zero none, place, rfl⟩

theorem fillDown?_eq_some {e e' : Editor} (h : e.fillDown? = some e') :
    ∃ b, e.selectedRange? = some b ∧ b.top ≠ b.bottom ∧
      e' = e.putRows (e.sheet.rows.fillDown b) := by
  obtain ⟨b, hb, h⟩ := Option.bind_eq_some_iff.mp h
  split at h
  · cases h
  · rename_i more
    cases h
    exact ⟨b, hb, more, rfl⟩

theorem fillDown?_inPlace {e e' : Editor} (h : e.fillDown? = some e') : InPlace e e' := by
  obtain ⟨b, -, -, rfl⟩ := fillDown?_eq_some h
  exact .putRows e (Grid.shape_fillDown _ _)

theorem fillRight?_eq_some {e e' : Editor} (h : e.fillRight? = some e') :
    ∃ b, e.selectedRange? = some b ∧ b.left ≠ b.right ∧
      e' = e.putRows (e.sheet.rows.fillRight b) := by
  obtain ⟨b, hb, h⟩ := Option.bind_eq_some_iff.mp h
  split at h
  · cases h
  · rename_i more
    cases h
    exact ⟨b, hb, more, rfl⟩

theorem fillRight?_inPlace {e e' : Editor} (h : e.fillRight? = some e') : InPlace e e' := by
  obtain ⟨b, -, -, rfl⟩ := fillRight?_eq_some h
  exact .putRows e (Grid.shape_fillRight _ _)

theorem moveBlock?_eq_some {e e' : Editor} {source target : Address}
    (h : e.moveBlock? source target = some e') :
    ∃ x b row col row' col', e.selection = some x ∧ x.contains e.sheet source = true ∧
      x.block? e.sheet = some b ∧ e.sheet.position? source = some (row, col) ∧
      e.sheet.position? target = some (row', col') ∧
      e' = e.putRows (e.sheet.rows.moveBlock b ((row' : Int) - row) ((col' : Int) - col)) := by
  obtain ⟨x, hx, h⟩ := Option.bind_eq_some_iff.mp h
  cases held : x.contains e.sheet source with
  | false =>
    rw [held] at h
    cases h
  | true =>
    rw [held] at h
    obtain ⟨b, hb, h⟩ := Option.bind_eq_some_iff.mp h
    obtain ⟨⟨row, col⟩, hsource, h⟩ := Option.bind_eq_some_iff.mp h
    obtain ⟨⟨row', col'⟩, htarget, h⟩ := Option.bind_eq_some_iff.mp h
    cases h
    exact ⟨x, b, row, col, row', col', hx, held, hb, hsource, htarget, rfl⟩

theorem moveBlock?_inPlace {e e' : Editor} {source target : Address}
    (h : e.moveBlock? source target = some e') : InPlace e e' := by
  obtain ⟨x, b, row, col, row', col', -, -, -, -, -, rfl⟩ := moveBlock?_eq_some h
  exact .putRows e (Grid.shape_moveBlock _ _ _ _)

theorem selectionsAfter_keeps (e : Editor) (edit : StructuralEdit) (anchor : Address)
    (new : Sheet) : Keeps e (e.selectionsAfter edit anchor new) := by
  simp only [selectionsAfter]
  split
  · exact ⟨rfl, rfl, rfl, rfl, rfl, rfl⟩
  · exact ⟨rfl, rfl, rfl, rfl, rfl, rfl⟩
  · exact .refl e

theorem selectionsAfter_selection (e : Editor) (edit : StructuralEdit) (anchor : Address)
    (new : Sheet) :
    (e.selectionsAfter edit anchor new).selection = e.selection ∨
      (e.selectionsAfter edit anchor new).selection = none := by
  simp only [selectionsAfter]
  split
  · exact .inr rfl
  · exact .inr rfl
  · exact .inl rfl

theorem edit_onSheet (e : Editor) (edit : StructuralEdit) (anchor : Address) :
    OnSheet e (e.edit edit anchor) := by
  simp only [Editor.edit]
  split
  · rename_i s h
    have kept := e.selectionsAfter_keeps edit anchor s
    refine .arrange (Sheet.rearranged_of_edited? h) (put_replaces ?_ ?_ ?_ ?_ s) rfl
      (e.selectionsAfter_selection edit anchor s)
    · exact kept.config
    · exact kept.workbook
    · exact kept.nextId
    · exact kept.store
  · exact .inPlace (.refl e)

theorem moveRow?_eq_some {e e' : Editor} {i j : Nat} (h : e.moveRow? i j = some e') :
    ∃ s, e.sheet.moveRow? i j = some s ∧ e' = ({ e with sort := none } : Editor).put s := by
  obtain ⟨s, hs, rfl⟩ := Option.map_eq_some_iff.mp h
  exact ⟨s, hs, rfl⟩

theorem moveRow?_onSheet {e e' : Editor} {i j : Nat} (h : e.moveRow? i j = some e') :
    OnSheet e e' := by
  obtain ⟨s, hs, rfl⟩ := moveRow?_eq_some h
  exact .arrange (.moveRow i j hs) ⟨rfl, rfl, rfl, rfl, rfl⟩ rfl (.inl rfl)

theorem moveColumn?_eq_some {e e' : Editor} {source target : Text}
    (h : e.moveColumn? source target = some e') :
    ∃ i j s, e.sheet.column? source = some i ∧ e.sheet.column? target = some j ∧
      e.sheet.moveColumn? i j = some s ∧ e' = ({ e with sort := none } : Editor).put s := by
  obtain ⟨i, hi, h⟩ := Option.bind_eq_some_iff.mp h
  obtain ⟨j, hj, h⟩ := Option.bind_eq_some_iff.mp h
  obtain ⟨s, hs, h⟩ := Option.bind_eq_some_iff.mp h
  cases h
  exact ⟨i, j, s, hi, hj, hs, rfl⟩

theorem moveColumn?_onSheet {e e' : Editor} {source target : Text}
    (h : e.moveColumn? source target = some e') : OnSheet e e' := by
  obtain ⟨i, j, s, hi, hj, hs, rfl⟩ := moveColumn?_eq_some h
  exact .arrange (.moveColumn i j (Sheet.column?_lt hi) (Sheet.column?_lt hj) hs)
    ⟨rfl, rfl, rfl, rfl, rfl⟩ rfl (.inl rfl)

theorem sortBy_onSheet (e : Editor) (label : Text) (direction : SortDirection) (time : Nat) :
    OnSheet e (e.sortBy label direction time) := by
  simp only [sortBy]
  split
  · rename_i col found
    exact .sort col direction time (Sheet.column?_lt found)
  · exact .inPlace (.refl e)

theorem restoreOrder_onSheet (e : Editor) : OnSheet e e.restoreOrder := by
  cases sorted : e.sort with
  | none =>
    rw [restoreOrder, sorted]
    exact .inPlace (.refl e)
  | some s => exact .restore sorted

theorem clickHeader_onSheet (e : Editor) (label : Text) (time : Nat) :
    OnSheet e (e.clickHeader label time) := by
  simp only [clickHeader]
  split
  · exact .inPlace (.refl e)
  · rename_i col found
    have inside := Sheet.column?_lt found
    split
    · exact .sort col .ascending time inside
    · exact .sort col .descending time inside
    · exact restoreOrder_onSheet e

theorem removeSheet?_eq_some {e e' : Editor} {i : Nat} (h : e.removeSheet? i = some e') :
    1 < e.workbook.sheets.length ∧ i < e.workbook.sheets.length ∧
      e' = (let rest := Workbook.renameAll (e.workbook.sheets.eraseIdx i)
        let active := activeAfterRemove e.workbook.active i rest.length
        { e.resetView with workbook := ⟨rest, active⟩ } : Editor).saved := by
  simp only [removeSheet?] at h
  split at h
  · rename_i more
    cases h
    exact ⟨more.1, more.2, rfl⟩
  · cases h

theorem selectSheet?_eq_some {e e' : Editor} {i : Nat} (h : e.selectSheet? i = some e') :
    i < e.workbook.sheets.length ∧ i ≠ e.workbook.active ∧
      e' = ({ e.resetView with workbook := { e.workbook with active := i } } : Editor).saved := by
  simp only [selectSheet?] at h
  split at h
  · rename_i other
    cases h
    exact ⟨other.1, other.2, rfl⟩
  · cases h

section Replies

variable {P : Editor → Prop} {e : Editor}

theorem ifDone_of {next : Option Editor} (stay : P e) (go : ∀ e', next = some e' → P e') :
    P (e.ifDone next).2 := by
  cases next with
  | none => exact stay
  | some e' => exact go e' rfl

theorem ifAccepted_of {next : Except WorkbookError Editor} (stay : P e)
    (go : ∀ e', next = .ok e' → P e') : P (e.ifAccepted next).2 := by
  cases next with
  | error err => exact stay
  | ok e' => exact go e' rfl

theorem ifMoved_of {next : Option (Address × Editor)} (stay : P e)
    (go : ∀ a e', next = some (a, e') → P e') : P (e.ifMoved next).2 := by
  cases next with
  | none => exact stay
  | some pair => exact go pair.1 pair.2 rfl

theorem ifTaken_of {next : Option (Text × Editor)} (stay : P e)
    (go : ∀ t e', next = some (t, e') → P e') : P (e.ifTaken next).2 := by
  cases next with
  | none => exact stay
  | some pair => exact go pair.1 pair.2 rfl

end Replies

end Editor

namespace Action

/-- Actions that order the rows of the active sheet. -/
def sorts : Action → Bool
  | sortBy .. | clickHeader .. | restoreOrder => true
  | _ => false

/-- Actions that rearrange its rows and columns. -/
def arranges : Action → Bool
  | edit .. | moveRow .. | moveColumn .. => true
  | _ => false

/-- Actions on the list of sheets. -/
def exchanges : Action → Bool
  | addSheet | removeSheet .. | selectSheet .. | newFile | openWorkbook .. => true
  | _ => false

end Action

namespace Editor

theorem perform_inPlace (e : Editor) {action : Action} (sorts : action.sorts = false)
    (arranges : action.arranges = false) (exchanges : action.exchanges = false) :
    InPlace e (e.perform action).2 := by
  cases action with
  | write a t => exact ifAccepted_of (.refl e) fun e' => write_inPlace
  | commit a t => exact ifAccepted_of (.refl e) fun e' => commit_inPlace
  | press a => exact press_inPlace e a
  | dragOver a => exact dragOver_inPlace e a
  | click a => exact click_inPlace e a
  | submit =>
    simp only [perform]
    split
    · rename_i moved h
      exact ifMoved_of (.refl e) fun a e' found => submit_inPlace (found ▸ h)
    · exact .refl e
  | step d => exact ifMoved_of (.refl e) fun a e' => step?_inPlace
  | tab back => exact ifMoved_of (.refl e) fun a e' => tab?_inPlace
  | moveBlock source target => exact ifDone_of (.refl e) fun e' => moveBlock?_inPlace
  | copy => exact ifTaken_of (.refl e) fun t e' => copy?_inPlace
  | cut => exact ifTaken_of (.refl e) fun t e' => cut?_inPlace
  | paste target text => exact paste_inPlace e target text
  | fillDown => exact ifDone_of (.refl e) fun e' => fillDown?_inPlace
  | fillRight => exact ifDone_of (.refl e) fun e' => fillRight?_inPlace
  | formatSelection p =>
    simp only [perform, formatSelection]
    split
    · exact .look ⟨rfl, rfl, rfl, rfl, rfl, rfl⟩ rfl
    · exact .refl e
  | release | focusBar | blurBar | beginEdit | cancelEdit | setBar | setCaret | overwriteBar
  | setKind | format => exact .look ⟨rfl, rfl, rfl, rfl, rfl, rfl⟩ rfl
  | sortBy | clickHeader | restoreOrder => cases sorts
  | edit | moveRow | moveColumn => cases arranges
  | addSheet | removeSheet | selectSheet | newFile | openWorkbook => cases exchanges

theorem perform_onSheet (e : Editor) {action : Action} (exchanges : action.exchanges = false) :
    OnSheet e (e.perform action).2 := by
  cases sorts : action.sorts with
  | true =>
    cases action with
    | sortBy label direction time => exact sortBy_onSheet e label direction time
    | clickHeader label time => exact clickHeader_onSheet e label time
    | restoreOrder => exact restoreOrder_onSheet e
    | _ => cases sorts
  | false =>
    cases arranges : action.arranges with
    | true =>
      have stay : OnSheet e e := .inPlace (.refl e)
      cases action with
      | edit edit anchor => exact edit_onSheet e edit anchor
      | moveRow i j => exact ifDone_of stay fun e' => moveRow?_onSheet
      | moveColumn source target => exact ifDone_of stay fun e' => moveColumn?_onSheet
      | _ => cases arranges
    | false => exact .inPlace (perform_inPlace e sorts arranges exchanges)

/-- Every action makes one of the changes. -/
theorem perform_change (e : Editor) (action : Action) : Change e (e.perform action).2 := by
  cases exchanges : action.exchanges with
  | false => exact .onSheet (perform_onSheet e exchanges)
  | true =>
    have stay : Change e e := .onSheet (.inPlace (.refl e))
    cases action with
    | addSheet => exact .addSheet
    | removeSheet i => exact ifDone_of stay fun e' => .removeSheet i
    | selectSheet i => exact ifDone_of stay fun e' => .selectSheet i
    | newFile => exact .newFile
    | openWorkbook w => exact ifAccepted_of stay fun e' => .openWorkbook w
    | _ => cases exchanges

theorem run_cons (e : Editor) (action : Action) (rest : List Action) :
    e.run (action :: rest) = (e.perform action).2.run rest :=
  rfl

theorem run_append (e : Editor) (actions rest : List Action) :
    e.run (actions ++ rest) = (e.run actions).run rest :=
  List.foldl_append

/-- What every change keeps holds after a run if it holds before. -/
theorem run_preserves {P : Editor → Prop} (step : ∀ e e', P e → Change e e' → P e')
    {e : Editor} (h : P e) (actions : List Action) : P (e.run actions) := by
  induction actions generalizing e with
  | nil => exact h
  | cons action rest ih => exact ih (step e _ h (perform_change e action))

end Editor

end Spreadsheet
