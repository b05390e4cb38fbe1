import Spreadsheet.Proofs.CheckedSheet
import Spreadsheet.Proofs.SheetHeights

/-!
# Checked indices in the editor

Everything that can be done to an editor, once more with every index checked, that of the active
sheet first. In a valid editor no index is out of range, whatever is asked for. The rows of a
selection are not looked up again before they are used: they are in range because the active sheet
never became shorter since the selection was drawn.
-/

namespace Spreadsheet.Checked

variable {e : Editor}

def sheet (e : Editor) : Checked Sheet :=
  fetch e.workbook.sheets e.workbook.active

/-- The cell at an address of the sheet, which its row then has to hold. -/
def find? (s : Sheet) (a : Address) : Checked (Option Cell) :=
  match s.position? a with
  | some (row, col) => do return some (← cell s.rows row col)
  | none => return none

def value (e : Editor) (a : Address) : Checked Value := do
  let s ← sheet e
  match ← find? s a with
  | some (.number x) => return .number x
  | some (.text t) =>
    return if Cell.isFormulaText t then Formula.evaluate t s.rows s.headers else .text t
  | _ => return .text []

def raw (e : Editor) (a : Address) : Checked Text := do
  match ← find? (← sheet e) a with
  | some c => return c.toText
  | none => return []

def write (e : Editor) (a : Address) (t : Text) : Checked (Except WorkbookError Editor) := do
  let s ← sheet e
  match s.position a with
  | .ok (row, col) => return .ok (e.putRows (← setCell s.rows row col (Cell.ofText t)))
  | .error err => return .error err

def commit (e : Editor) (a : Address) (t : Text) : Checked (Except WorkbookError Editor) :=
  match (e.kinds a).refusal? t.trim with
  | some reason => return .error (.refused reason)
  | none => do
    match ← write e a t.trim with
    | .ok e => return .ok { e with editing := none }
    | .error err => return .error err

def submit (e : Editor) : Checked (Except WorkbookError (Option (Address × Editor))) :=
  let input := e.bar.text.trim
  if input = [] then return .ok none
  else
    let entry := Formula.Entry.parse input
    match entry.target.or e.selected with
    | none => return .ok none
    | some target => do
      match ← write e target entry.formula with
      | .ok written => return .ok (some (target, { written with bar := written.bar.unfocus }))
      | .error err => return .error err

def barAfter (e : Editor) (x : Selection) : Checked FormulaBar :=
  if e.editing.isSome then return e.bar
  else if x.isSingle then do return e.bar.setText (← raw e x.topLeft)
  else if e.bar.focused then return e.bar.insertRange x.toText
  else return e.bar

def reselect (e : Editor) : Checked Editor :=
  match e.drag with
  | none => return e
  | some d => do
    match ← between? (← sheet e) d.start d.stop with
    | some x => return { e with bar := ← barAfter e x, selection := some x }
    | none => return e

def press (e : Editor) (a : Address) : Checked Editor :=
  reselect { e with
    dragging := true, selected := some a, drag := some ⟨a, a⟩, bar := e.bar.settle }

def dragOver (e : Editor) (a : Address) : Checked Editor :=
  match e.drag with
  | some d => if e.dragging then reselect { e with drag := some ⟨d.start, a⟩ } else return e
  | none => return e

def click (e : Editor) (a : Address) : Checked Editor :=
  reselect { e with selected := some a, drag := some ⟨a, a⟩, bar := e.bar.unfocus }

def clickAt? (e : Editor) (row col : Nat) : Checked (Option (Address × Editor)) := do
  match (← sheet e).address? row col with
  | some a => return some (a, ← click e a)
  | none => return none

def step? (e : Editor) (d : Direction) : Checked (Option (Address × Editor)) := do
  let s ← sheet e
  match e.selected.bind s.position? with
  | none => return none
  | some (row, col) =>
    let next ← neighbour s row col d
    if next = (row, col) then return none else clickAt? e next.1 next.2

def tab? (e : Editor) (back : Bool) : Checked (Option (Address × Editor)) := do
  let s ← sheet e
  match e.selected.bind s.position? with
  | none => return none
  | some (row, col) =>
    let next ←
      if back then previousPosition? s row col else pure (Editor.nextPosition? s row col)
    match next with
    | some (row, col) => clickAt? e row col
    | none => return none

/-- The label of the selected cell is read from the headers there are after the deletion. -/
def addressAfterDelete (old new : Sheet) (deleted : Nat) (a : Address) : Checked Address :=
  match old.column? a.col with
  | some i =>
    if deleted < i then do return { a with col := ← fetch new.headers (i - 1) } else return a
  | none => return a

def selectionsAfter (e : Editor) (edit : StructuralEdit) (anchor : Address) (old new : Sheet) :
    Checked Editor :=
  match edit with
  | .deleteColumnLeft => do
    let deleted := (old.column? anchor.col).getD 0 - 1
    match e.selected with
    | some a =>
      let a ← addressAfterDelete old new deleted a
      return { e.clearSelection with selected := some a }
    | none => return { e.clearSelection with selected := none }
  | .deleteColumnRight => return e.clearSelection
  | _ => return e

def edit (e : Editor) (edit : StructuralEdit) (anchor : Address) : Checked Editor := do
  let old ← sheet e
  match ← edited? e.config.maxRows edit anchor old with
  | some new =>
    let e ← selectionsAfter e edit anchor old new
    return { e with sort := none }.put new
  | none => return e

def moveRow (e : Editor) (i j : Nat) : Checked (Option Editor) := do
  match ← moveRow? i j (← sheet e) with
  | some s => return some ({ e with sort := none }.put s)
  | none => return none

def moveColumn (e : Editor) (source target : Text) : Checked (Option Editor) := do
  let s ← sheet e
  match s.column? source, s.column? target with
  | some i, some j =>
    match ← moveColumn? i j s with
    | some s => return some ({ e with sort := none }.put s)
    | none => return none
  | _, _ => return none

def fillDown? (e : Editor) : Checked (Option Editor) := do
  let s ← sheet e
  match e.selection.bind (·.block? s) with
  | some b =>
    if b.top = b.bottom then return none
    else return some (e.putRows (← fillDown s.rows b))
  | none => return none

def fillRight? (e : Editor) : Checked (Option Editor) := do
  let s ← sheet e
  match e.selection.bind (·.block? s) with
  | some b =>
    if b.left = b.right then return none
    else return some (e.putRows (← fillRight s.rows b))
  | none => return none

def moveBlock? (e : Editor) (source target : Address) : Checked (Option Editor) := do
  let s ← sheet e
  match e.selection with
  | none => return none
  | some x =>
    if x.contains s source then
      match x.block? s, s.position? source, s.position? target with
      | some b, some (row, col), some (row', col') =>
        let rows ← moveBlock s.rows s.width b ((row' : Int) - row) ((col' : Int) - col)
        return some (e.putRows rows)
      | _, _, _ => return none
    else return none

def sortByIndex (e : Editor) (col : Nat) (direction : SortDirection) (time : Nat) :
    Checked Editor := do
  let s ← sheet e
  let order := Sheet.sortOrder direction (← sortKeys s col)
  let column ← fetch s.headers col
  let positions ← pick order e.unsortedPositions
  let rows ← pick order s.rows
  return { e with sort := some ⟨column, direction, time, positions⟩ }.putRows rows

def sortBy (e : Editor) (label : Text) (direction : SortDirection) (time : Nat) :
    Checked Editor := do
  match (← sheet e).column? label with
  | some col => sortByIndex e col direction time
  | none => return e

def restoreOrder (e : Editor) : Checked Editor :=
  match e.sort with
  | none => return e
  | some x => do
    let s ← sheet e
    if x.order.length = s.height then
      return { e with sort := none }.putRows (← unpick x.order s.rows)
    else return { e with sort := none }

def clickHeader (e : Editor) (label : Text) (time : Nat) : Checked Editor := do
  match (← sheet e).column? label with
  | none => return e
  | some col =>
    match e.repeated? label time with
    | none => sortByIndex e col .ascending time
    | some .ascending => sortByIndex e col .descending time
    | some .descending => restoreOrder e

/-- What an action answers and the editor after it. The actions that are not listed take from lists
only what is there, and need no more than the active sheet. -/
def perform (e : Editor) : Action → Checked (Reply × Editor)
  | .write a t => do return e.ifAccepted (← write e a t)
  | .commit a t => do return e.ifAccepted (← commit e a t)
  | .press a => do return (.nothing, ← press e a)
  | .dragOver a => do return (.nothing, ← dragOver e a)
  | .click a => do return (.nothing, ← click e a)
  | .submit => do
    match ← submit e with
    | .ok moved => return e.ifMoved moved
    | .error err => return (.failed err, e)
  | .step d => do return e.ifMoved (← step? e d)
  | .tab back => do return e.ifMoved (← tab? e back)
  | .edit change anchor => do
    let e ← edit e change anchor
    let s ← sheet e
    return (.size s.height s.width, e)
  | .moveRow i j => do return e.ifDone (← moveRow e i j)
  | .moveColumn source target => do return e.ifDone (← moveColumn e source target)
  | .moveBlock source target => do return e.ifDone (← moveBlock? e source target)
  | .fillDown => do return e.ifDone (← fillDown? e)
  | .fillRight => do return e.ifDone (← fillRight? e)
  | .sortBy label direction time => do return (.nothing, ← sortBy e label direction time)
  | .clickHeader label time => do return (.nothing, ← clickHeader e label time)
  | .restoreOrder => do return (.nothing, ← restoreOrder e)
  | action => do
    let _ ← sheet e
    return e.perform action

section Reading

theorem sheet_eq_ok (sound : e.workbook.Sound) : sheet e = .ok e.sheet :=
  fetch_eq_ok sound.getElem?_active

theorem find?_eq_ok {s : Sheet} (sound : s.Sound) (a : Address) : find? s a = .ok (s.find? a) := by
  rw [find?, Sheet.find?]
  cases here : s.position? a with
  | none => rfl
  | some place =>
    obtain ⟨row, col⟩ := place
    obtain ⟨-, hrow, hcol⟩ := Sheet.position?_eq_some here
    obtain ⟨c, found⟩ := Grid.exists_cell? sound.even hrow (Sheet.column?_lt hcol)
    dsimp only
    rw [cell_eq_ok found, ok_bind, Option.bind_some, Sheet.cell?]
    exact congrArg Except.ok found.symm

theorem value_eq_ok (sound : e.workbook.Sound) (a : Address) : value e a = .ok (e.value a) := by
  rw [value, sheet_eq_ok sound, ok_bind, find?_eq_ok (Editor.sheet_sound sound), ok_bind,
    Editor.value]
  cases e.sheet.find? a with
  | none => rfl
  | some c =>
    cases c with
    | empty => rfl
    | number x => rfl
    | text t => rfl

theorem raw_eq_ok (sound : e.workbook.Sound) (a : Address) : raw e a = .ok (e.raw a) := by
  rw [raw, sheet_eq_ok sound, ok_bind, find?_eq_ok (Editor.sheet_sound sound), ok_bind, Editor.raw]
  cases e.sheet.find? a with
  | none => rfl
  | some c => rfl

theorem write_eq_ok (sound : e.workbook.Sound) (a : Address) (t : Text) :
    write e a t = .ok (e.write a t) := by
  rw [write, sheet_eq_ok sound, ok_bind, Editor.write]
  cases here : e.sheet.position a with
  | error err => rfl
  | ok place =>
    obtain ⟨row, col⟩ := place
    obtain ⟨-, hrow, hcol⟩ := Sheet.position_eq_ok here
    dsimp only
    rw [setCell_eq_ok (Editor.sheet_sound sound).even hrow (Sheet.column?_lt hcol)]
    rfl

theorem commit_eq_ok (sound : e.workbook.Sound) (a : Address) (t : Text) :
    commit e a t = .ok (e.commit a t) := by
  rw [commit, Editor.commit]
  cases (e.kinds a).refusal? t.trim with
  | some reason => rfl
  | none =>
    dsimp only
    rw [write_eq_ok sound, ok_bind]
    cases e.write a t.trim with
    | error err => rfl
    | ok written => rfl

theorem submit_eq_ok (sound : e.workbook.Sound) : submit e = .ok e.submit := by
  simp only [submit, Editor.submit]
  split
  · rfl
  · cases (Formula.Entry.parse e.bar.text.trim).target.or e.selected with
    | none => rfl
    | some target =>
      dsimp only
      rw [write_eq_ok sound, ok_bind]
      cases e.write target (Formula.Entry.parse e.bar.text.trim).formula with
      | error err => rfl
      | ok written => rfl

end Reading

section Pointing

theorem barAfter_eq_ok (sound : e.workbook.Sound) (x : Selection) :
    barAfter e x = .ok (e.barAfter x) := by
  simp only [barAfter, Editor.barAfter, raw_eq_ok sound, ok_bind]
  split
  · rfl
  · split
    · rfl
    · split <;> rfl

theorem reselect_eq_ok (sound : e.workbook.Sound) : reselect e = .ok e.reselect := by
  rw [reselect, Editor.reselect]
  cases e.drag with
  | none => rfl
  | some d =>
    dsimp only [Option.bind_some]
    rw [sheet_eq_ok sound, ok_bind, between?_eq_ok, ok_bind]
    cases Selection.between? e.sheet d.start d.stop with
    | none => rfl
    | some x =>
      dsimp only
      rw [barAfter_eq_ok sound]
      rfl

theorem press_eq_ok (sound : e.workbook.Sound) (a : Address) : press e a = .ok (e.press a) :=
  reselect_eq_ok sound

theorem click_eq_ok (sound : e.workbook.Sound) (a : Address) : click e a = .ok (e.click a) :=
  reselect_eq_ok sound

theorem dragOver_eq_ok (sound : e.workbook.Sound) (a : Address) :
    dragOver e a = .ok (e.dragOver a) := by
  rw [dragOver, Editor.dragOver]
  cases e.drag with
  | none => rfl
  | some d =>
    dsimp only
    split
    · exact reselect_eq_ok sound
    · rfl

theorem clickAt?_eq_ok (sound : e.workbook.Sound) (row col : Nat) :
    clickAt? e row col = .ok (e.clickAt? row col) := by
  rw [clickAt?, sheet_eq_ok sound, ok_bind, Editor.clickAt?]
  cases e.sheet.address? row col with
  | none => rfl
  | some a =>
    dsimp only
    rw [click_eq_ok sound]
    rfl

theorem step?_eq_ok (sound : e.workbook.Sound) (d : Direction) : step? e d = .ok (e.step? d) := by
  have selected : e.selected.bind e.sheet.position? = e.selectedPosition? := rfl
  rw [step?, sheet_eq_ok sound, ok_bind, selected, Editor.step?]
  cases here : e.selectedPosition? with
  | none => rfl
  | some place =>
    obtain ⟨row, col⟩ := place
    obtain ⟨hrow, hcol⟩ := Editor.selectedPosition?_lt here
    dsimp only
    rw [neighbour_eq_ok hrow hcol, ok_bind, clickAt?_eq_ok sound]
    split
    · rename_i same
      simp only [Option.bind_eq_bind, Option.bind_some, same, if_pos]
      rfl
    · rename_i other
      simp only [Option.bind_eq_bind, Option.bind_some, if_neg other]

theorem tab?_eq_ok (sound : e.workbook.Sound) (back : Bool) :
    tab? e back = .ok (e.tab? back) := by
  have selected : e.selected.bind e.sheet.position? = e.selectedPosition? := rfl
  rw [tab?, sheet_eq_ok sound, ok_bind, selected, Editor.tab?]
  cases here : e.selectedPosition? with
  | none => rfl
  | some place =>
    obtain ⟨row, col⟩ := place
    obtain ⟨hrow, hcol⟩ := Editor.selectedPosition?_lt here
    cases back with
    | true =>
      simp only [if_true, previousPosition?_eq_ok hcol, ok_bind]
      cases next : Editor.previousPosition? e.sheet row col with
      | none =>
        simp [next]
        rfl
      | some place => simp [next, clickAt?_eq_ok sound]
    | false =>
      cases next : Editor.nextPosition? e.sheet row col with
      | none =>
        simp [next]
        rfl
      | some place => simp [next, clickAt?_eq_ok sound]

end Pointing

section Arranging

/-- A deletion left of the anchor leaves the label that moves up a header to be read. -/
theorem addressAfterDelete_eq_ok {old new : Sheet} (narrower : old.width = new.width + 1)
    (deleted : Nat) (a : Address) :
    addressAfterDelete old new deleted a =
      .ok (Editor.addressAfterDelete old new deleted a) := by
  rw [addressAfterDelete, Editor.addressAfterDelete]
  cases found : old.column? a.col with
  | none => rfl
  | some i =>
    dsimp only
    split
    · have inside := Sheet.column?_lt found
      have reached : i - 1 < new.headers.length := by
        change i - 1 < new.width
        omega
      have label := List.getElem?_eq_getElem reached
      rw [fetch_eq_ok label, List.getD_eq_getElem?_getD, label]
      rfl
    · rfl

theorem width_deleteColumn? {s t : Sheet} {i : Nat} (h : s.deleteColumn? i = some t) :
    s.width = t.width + 1 := by
  obtain ⟨inside, rfl⟩ := Sheet.deleteColumn?_eq_some_iff.mp h
  have labels : (s.withColumns (s.width - 1) (s.rows.map fun row => row.eraseIdx i)).width =
      s.width - 1 := Column.length_labels _
  omega

theorem selectionsAfter_eq_ok {limit : Nat} {edit : StructuralEdit} {anchor : Address} {s : Sheet}
    (h : e.sheet.edited? limit edit anchor = some s) :
    selectionsAfter e edit anchor e.sheet s = .ok (e.selectionsAfter edit anchor s) := by
  cases edit with
  | deleteColumnLeft =>
    have narrower : e.sheet.width = s.width + 1 := by
      obtain ⟨col, -, h⟩ := Option.bind_eq_some_iff.mp h
      split at h
      · exact width_deleteColumn? h
      · cases h
    rw [selectionsAfter, Editor.selectionsAfter]
    cases e.selected with
    | none => rfl
    | some a =>
      dsimp only
      rw [addressAfterDelete_eq_ok narrower]
      rfl
  | _ => rfl

theorem edit_eq_ok (sound : e.workbook.Sound) (change : StructuralEdit) (anchor : Address) :
    edit e change anchor = .ok (e.edit change anchor) := by
  rw [edit, sheet_eq_ok sound, ok_bind, edited?_eq_ok (Editor.sheet_sound sound), ok_bind,
    Editor.edit]
  cases h : e.sheet.edited? e.config.maxRows change anchor with
  | none => rfl
  | some s =>
    dsimp only
    rw [selectionsAfter_eq_ok h]
    rfl

theorem moveRow_eq_ok (sound : e.workbook.Sound) (i j : Nat) :
    moveRow e i j = .ok (e.moveRow? i j) := by
  rw [moveRow, sheet_eq_ok sound, ok_bind, moveRow?_eq_ok, ok_bind, Editor.moveRow?]
  cases e.sheet.moveRow? i j with
  | none => rfl
  | some s => rfl

theorem moveColumn_eq_ok (sound : e.workbook.Sound) (source target : Text) :
    moveColumn e source target = .ok (e.moveColumn? source target) := by
  rw [moveColumn, sheet_eq_ok sound, ok_bind, Editor.moveColumn?]
  cases hi : e.sheet.column? source with
  | none => rfl
  | some i =>
    cases hj : e.sheet.column? target with
    | none => rfl
    | some j =>
      dsimp only
      rw [moveColumn?_eq_ok (Editor.sheet_sound sound) (Sheet.column?_lt hi) (Sheet.column?_lt hj),
        ok_bind]
      cases moved : e.sheet.moveColumn? i j with
      | none => simp [moved]; rfl
      | some s => simp [moved]; rfl

end Arranging

section Filling

theorem fillDown?_eq_ok (valid : e.Valid) : fillDown? e = .ok e.fillDown? := by
  have sound := valid.workbook
  have selected : e.selection.bind (·.block? e.sheet) = e.selectedRange? := rfl
  rw [fillDown?, sheet_eq_ok sound, ok_bind, selected, Editor.fillDown?]
  cases range : e.selectedRange? with
  | none => rfl
  | some b =>
    obtain ⟨x, hx, hb⟩ := Option.bind_eq_some_iff.mp range
    obtain ⟨order, bottom, left, right⟩ := valid.block_inside hx hb
    dsimp only [Option.bind_some]
    split
    · rfl
    · rw [fillDown_eq_ok (Editor.sheet_sound sound).even order bottom right]
      rfl

theorem fillRight?_eq_ok (valid : e.Valid) : fillRight? e = .ok e.fillRight? := by
  have sound := valid.workbook
  have selected : e.selection.bind (·.block? e.sheet) = e.selectedRange? := rfl
  rw [fillRight?, sheet_eq_ok sound, ok_bind, selected, Editor.fillRight?]
  cases range : e.selectedRange? with
  | none => rfl
  | some b =>
    obtain ⟨x, hx, hb⟩ := Option.bind_eq_some_iff.mp range
    obtain ⟨order, bottom, left, right⟩ := valid.block_inside hx hb
    dsimp only [Option.bind_some]
    split
    · rfl
    · rw [fillRight_eq_ok (Editor.sheet_sound sound).even bottom left right]
      rfl

theorem moveBlock?_eq_ok (valid : e.Valid) (source target : Address) :
    moveBlock? e source target = .ok (e.moveBlock? source target) := by
  have sound := valid.workbook
  rw [moveBlock?, sheet_eq_ok sound, ok_bind, Editor.moveBlock?]
  cases selected : e.selection with
  | none => rfl
  | some x =>
    simp only [Option.bind_eq_bind, Option.bind_some]
    cases held : x.contains e.sheet source with
    | false => rfl
    | true =>
      cases block : x.block? e.sheet with
      | none => rfl
      | some b =>
        cases start : e.sheet.position? source with
        | none => rfl
        | some place =>
          cases stop : e.sheet.position? target with
          | none => rfl
          | some place' =>
            obtain ⟨order, bottom, left, right⟩ := valid.block_inside selected block
            -- a block held at one of its cells has its columns in order
            have columns : b.left ≤ b.right := by
              rw [Selection.contains, block, start] at held
              have inside := Block.contains_iff.mp held
              omega
            simp only [if_true]
            rw [moveBlock_eq_ok (Editor.sheet_sound sound).even bottom columns right]
            rfl

end Filling

section Ordering

theorem sortByIndex_eq_ok (valid : e.Valid) {col : Nat} (inside : col < e.sheet.width)
    (direction : SortDirection) (time : Nat) :
    sortByIndex e col direction time = .ok (e.sortByIndex col direction time) := by
  have sound := valid.workbook
  have order := isOrder_sortKeys e.sheet col direction
  have label := List.getElem?_eq_getElem (show col < e.sheet.headers.length from inside)
  have positions : ∀ i ∈ Sheet.sortOrder direction (e.sheet.sortKeys col),
      i < e.unsortedPositions.length := by
    intro i hi
    rw [valid.isOrder_unsortedPositions.length]
    exact order.mem_iff.mp hi
  rw [sortByIndex, sheet_eq_ok sound, ok_bind, sortKeys_eq_ok (Editor.sheet_sound sound) inside,
    ok_bind]
  dsimp only
  rw [fetch_eq_ok label, ok_bind, pick_eq_ok positions, ok_bind,
    pick_eq_ok fun i hi => order.mem_iff.mp hi, ok_bind, Editor.sortByIndex,
    List.getD_eq_getElem?_getD, label]
  rfl

theorem sortBy_eq_ok (valid : e.Valid) (label : Text) (direction : SortDirection) (time : Nat) :
    sortBy e label direction time = .ok (e.sortBy label direction time) := by
  rw [sortBy, sheet_eq_ok valid.workbook, ok_bind, Editor.sortBy]
  cases found : e.sheet.column? label with
  | none => rfl
  | some col => exact sortByIndex_eq_ok valid (Sheet.column?_lt found) direction time

theorem restoreOrder_eq_ok (valid : e.Valid) : restoreOrder e = .ok e.restoreOrder := by
  rw [restoreOrder]
  cases sorted : e.sort with
  | none =>
    rw [Editor.restoreOrder, sorted]
    rfl
  | some x =>
    have order := (valid.sort x sorted).1
    dsimp only
    rw [sheet_eq_ok valid.workbook, ok_bind, if_pos order.length, unpick_eq_ok order, ok_bind,
      valid.restoreOrder_eq sorted]
    rfl

theorem clickHeader_eq_ok (valid : e.Valid) (label : Text) (time : Nat) :
    clickHeader e label time = .ok (e.clickHeader label time) := by
  rw [clickHeader, sheet_eq_ok valid.workbook, ok_bind, Editor.clickHeader]
  cases found : e.sheet.column? label with
  | none => rfl
  | some col =>
    have inside := Sheet.column?_lt found
    dsimp only
    cases e.repeated? label time with
    | none => exact sortByIndex_eq_ok valid inside .ascending time
    | some direction =>
      cases direction with
      | ascending => exact sortByIndex_eq_ok valid inside .descending time
      | descending => exact restoreOrder_eq_ok valid

end Ordering

/-- In a valid editor every action runs through. -/
theorem perform_eq_ok (valid : e.Valid) (action : Action) :
    perform e action = .ok (e.perform action) := by
  have sound := valid.workbook
  have others : (do let _ ← sheet e; return e.perform action) =
      (.ok (e.perform action) : Checked (Reply × Editor)) := by
    rw [sheet_eq_ok sound]
    rfl
  cases action with
  | write a t => rw [perform, write_eq_ok sound]; rfl
  | commit a t => rw [perform, commit_eq_ok sound]; rfl
  | press a => rw [perform, press_eq_ok sound]; rfl
  | dragOver a => rw [perform, dragOver_eq_ok sound]; rfl
  | click a => rw [perform, click_eq_ok sound]; rfl
  | submit =>
    rw [perform, submit_eq_ok sound, ok_bind, Editor.perform]
    cases e.submit with
    | error err => rfl
    | ok moved => rfl
  | step d => rw [perform, step?_eq_ok sound]; rfl
  | tab back => rw [perform, tab?_eq_ok sound]; rfl
  | edit change anchor =>
    have after := (Editor.edit_onSheet e change anchor).valid valid
    rw [perform, edit_eq_ok sound, ok_bind, sheet_eq_ok after.workbook]
    rfl
  | moveRow i j => rw [perform, moveRow_eq_ok sound]; rfl
  | moveColumn source target => rw [perform, moveColumn_eq_ok sound]; rfl
  | moveBlock source target => rw [perform, moveBlock?_eq_ok valid]; rfl
  | fillDown => rw [perform, fillDown?_eq_ok valid]; rfl
  | fillRight => rw [perform, fillRight?_eq_ok valid]; rfl
  | sortBy label direction time => rw [perform, sortBy_eq_ok valid]; rfl
  | clickHeader label time => rw [perform, clickHeader_eq_ok valid]; rfl
  | restoreOrder => rw [perform, restoreOrder_eq_ok valid]; rfl
  | _ => exact others

end Spreadsheet.Checked

namespace Spreadsheet.Editor

/-- In every state that a run reaches: a sheet that stays through the rest of the run never loses a
row and never has more than the limit or than it had; a selection lies on rows of the active sheet;
and with every index checked, reading a cell and every action run through and give what they give
unchecked. -/
theorem run_index_safe (c : Config) (store : Store) (before : List Action) :
    let e := (start c store).run before
    (∀ after i j s, e.workbook.sheets[i]? = some s → e.sheetAfterRun? i after = some j →
      ∃ t, (e.run after).workbook.sheets[j]? = some t ∧ s.height ≤ t.height ∧
        t.height ≤ max c.normalized.maxRows s.height) ∧
      (∀ x, e.selection = some x → x.top ≤ x.bottom ∧ x.bottom < e.sheet.height) ∧
      (∀ a, Checked.value e a = .ok (e.value a) ∧ Checked.raw e a = .ok (e.raw a)) ∧
      ∀ action, Checked.perform e action = .ok (e.perform action) := by
  intro e
  have valid : e.Valid := valid_run c store before
  have config : e.config = c.normalized := by rw [run_config, start_config]
  refine ⟨fun after i j s hs stays => ?_, valid.selection, fun a => ?_, Checked.perform_eq_ok valid⟩
  · obtain ⟨t, ht, grown⟩ := run_grown valid stays hs
    rw [config] at grown
    exact ⟨t, ht, grown.le, grown.le_max⟩
  · exact ⟨Checked.value_eq_ok valid.workbook a, Checked.raw_eq_ok valid.workbook a⟩

end Spreadsheet.Editor
