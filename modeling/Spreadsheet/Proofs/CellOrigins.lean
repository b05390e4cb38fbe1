import Spreadsheet.Proofs.Validity
import Spreadsheet.Proofs.Views

/-!
# Where cells come from

A cell of the workbook or of the clipboard is empty, was typed, or stood in a workbook that was
opened or found in the store. So what holds of the empty cell, of whatever is typed and of the
workbooks from outside holds of every cell at all times: actions only copy, move and drop cells, and
what they change of a cell they write as if it were typed.
-/

namespace Spreadsheet

/-- A property of the empty cell and of whatever is typed. -/
structure Cell.Entered (P : Cell → Prop) : Prop where
  empty : P .empty
  typed : ∀ t, P (.ofText t)

variable {P : Cell → Prop}

namespace Cell.Entered

theorem relocated (entered : Entered P) {c : Cell} (h : P c) (rows cols : Int) :
    P (c.relocated rows cols) := by
  unfold Cell.relocated
  split
  · exact entered.typed _
  · exact h

theorem trimmed (entered : Entered P) {c : Cell} (h : P c) : P c.trimmed := by
  cases c with
  | text t => exact entered.typed t.trim
  | empty => exact h
  | number x => exact h

end Cell.Entered

namespace Grid

/-- Every cell has a property. -/
def All (P : Cell → Prop) (g : Grid) : Prop :=
  ∀ row ∈ g, ∀ c ∈ row, P c

theorem all_iff_cell? {g : Grid} :
    All P g ↔ ∀ row col c, g.cell? row col = some c → P c := by
  constructor
  · intro all row col c found
    obtain ⟨cells, hrow, hcol⟩ := cell?_eq_some_iff.mp found
    exact all cells (List.mem_of_getElem? hrow) c (List.mem_of_getElem? hcol)
  · intro all cells hcells c hc
    obtain ⟨row, hrow⟩ := List.mem_iff_getElem?.mp hcells
    obtain ⟨col, hcol⟩ := List.mem_iff_getElem?.mp hc
    exact all row col c (cell?_eq_some_iff.mpr ⟨cells, hrow, hcol⟩)

theorem All.cell? {g : Grid} (all : All P g) {row col : Nat} {c : Cell}
    (h : g.cell? row col = some c) : P c :=
  all_iff_cell?.mp all row col c h

/-- A cell of the grid, or the empty one where there is none. -/
theorem All.getD {g : Grid} (entered : Cell.Entered P) (all : All P g) (row col : Nat) :
    P ((g.cell? row col).getD .empty) := by
  cases found : g.cell? row col with
  | none => exact entered.empty
  | some c => exact all.cell? found

theorem all_replicate (entered : Cell.Entered P) (height width : Nat) :
    All P (List.replicate height (List.replicate width .empty)) := by
  intro row hrow c hc
  rw [(List.mem_replicate.mp hrow).2] at hc
  rw [(List.mem_replicate.mp hc).2]
  exact entered.empty

/-- A change of cells keeps a property that it keeps at every position. -/
theorem All.mapCells {g : Grid} (all : All P g) {f : Nat → Nat → Cell → Cell}
    (keep : ∀ row col c, P c → P (f row col c)) : All P (mapCells f g) := by
  rw [all_iff_cell?]
  intro row col c found
  rw [cell?_mapCells] at found
  obtain ⟨old, hold, rfl⟩ := Option.map_eq_some_iff.mp found
  exact keep row col old (all.cell? hold)

section Changes

variable {g : Grid}

theorem All.setCell (all : All P g) (row col : Nat) {value : Cell} (h : P value) :
    All P (g.setCell row col value) :=
  all.mapCells fun r c cell old => by
    split
    · exact h
    · exact old

theorem All.erase (entered : Cell.Entered P) (all : All P g) (b : Block) :
    All P (g.erase b) := by
  rw [Grid.erase, modify_eq_mapCells]
  refine all.mapCells fun r c cell old => ?_
  split
  · exact entered.empty
  · exact old

theorem All.write (all : All P g) (top left : Nat) {cells : Grid} (new : All P cells) :
    All P (g.write top left cells) := by
  refine all.mapCells fun r c cell old => ?_
  split
  · cases found : cells.cell? (r - top) (c - left) with
    | none => exact old
    | some value => exact new.cell? found
  · exact old

theorem All.fillDown (entered : Cell.Entered P) (all : All P g) (b : Block) :
    All P (g.fillDown b) := by
  refine all.mapCells fun r c cell old => ?_
  split
  · exact entered.relocated (all.getD entered _ _) _ _
  · exact old

theorem All.fillRight (entered : Cell.Entered P) (all : All P g) (b : Block) :
    All P (g.fillRight b) := by
  refine all.mapCells fun r c cell old => ?_
  split
  · exact entered.relocated (all.getD entered _ _) _ _
  · exact old

theorem All.moveBlock (entered : Cell.Entered P) (all : All P g) (b : Block) (rows cols : Int) :
    All P (g.moveBlock b rows cols) := by
  refine all.mapCells fun r c cell old => ?_
  dsimp only
  split
  · rename_i moved found
    obtain ⟨row, -, found⟩ := Option.bind_eq_some_iff.mp found
    obtain ⟨col, -, found⟩ := Option.bind_eq_some_iff.mp found
    split at found
    · exact all.cell? found
    · cases found
  · split
    · exact entered.empty
    · exact old

theorem All.extract (all : All P g) (b : Block) : All P (g.extract b) := by
  intro row hrow c hc
  obtain ⟨old, hold, rfl⟩ := List.mem_map.mp hrow
  have inside : old ∈ g := List.mem_of_mem_drop (List.mem_of_mem_take hold)
  exact all old inside c (List.mem_of_mem_drop (List.mem_of_mem_take hc))

/-- A change of every cell by itself. -/
theorem All.map (all : All P g) {f : Cell → Cell} (keep : ∀ c, P c → P (f c)) :
    All P (g.map fun row => row.map f) := by
  intro row hrow c hc
  obtain ⟨old, hold, rfl⟩ := List.mem_map.mp hrow
  obtain ⟨cell, hcell, rfl⟩ := List.mem_map.mp hc
  exact keep cell (all old hold cell hcell)

/-- Fewer or reordered rows. -/
theorem All.ofRows (all : All P g) {rows : Grid} (old : ∀ row ∈ rows, row ∈ g) : All P rows :=
  fun row hrow => all row (old row hrow)

end Changes

end Grid

theorem Tsv.all_parseCells (entered : Cell.Entered P) (t : Text) :
    Grid.All P (Tsv.parseCells t) := by
  intro row hrow c hc
  obtain ⟨fields, -, rfl⟩ := List.mem_map.mp hrow
  obtain ⟨field, -, rfl⟩ := List.mem_map.mp hc
  exact entered.typed field

theorem Sheet.Rearranged.all (entered : Cell.Entered P) {limit : Nat} {s t : Sheet}
    (h : Rearranged limit s t) (all : Grid.All P s.rows) : Grid.All P t.rows := by
  have blank : ∀ c ∈ s.blankRow, P c := by
    intro c hc
    rw [(List.mem_replicate.mp hc).2]
    exact entered.empty
  -- a change of columns takes the cells of every row from that row or adds empty ones
  have columns : ∀ f : Row → Row, (∀ row c, c ∈ f row → c ∈ row ∨ c = .empty) →
      Grid.All P (s.rows.map f) := by
    intro f origin row hrow c hc
    obtain ⟨old, hold, rfl⟩ := List.mem_map.mp hrow
    rcases origin old c hc with same | rfl
    · exact all old hold c same
    · exact entered.empty
  cases h with
  | insertRow i h =>
    obtain ⟨inside, rfl⟩ := insertRow?_eq_some_iff.mp h
    intro row hrow
    rcases (List.mem_insertIdx inside).mp (List.mem_of_mem_take hrow) with rfl | old
    · exact blank
    · exact all row old
  | deleteRow i h =>
    obtain ⟨-, rfl⟩ := deleteRow?_eq_some_iff.mp h
    intro row hrow
    rcases List.mem_append.mp hrow with old | new
    · exact all row (List.mem_of_mem_eraseIdx old)
    · rw [List.mem_singleton.mp new]
      exact blank
  | insertColumn i h =>
    obtain ⟨-, rfl⟩ := insertColumn?_eq_some_iff.mp h
    refine columns _ fun row c hc => ?_
    by_cases inside : i ≤ row.length
    · exact ((List.mem_insertIdx inside).mp hc).symm
    · rw [List.insertIdx_of_length_lt (by omega)] at hc
      exact .inl hc
  | deleteColumn i h =>
    obtain ⟨-, rfl⟩ := deleteColumn?_eq_some_iff.mp h
    exact columns _ fun row c hc => .inl (List.mem_of_mem_eraseIdx hc)
  | moveRow i j h =>
    obtain ⟨-, rfl⟩ := moveRow?_eq_some_iff.mp h
    exact all.ofRows fun _ => mem_of_mem_moveElement
  | moveColumn i j hi hj h =>
    obtain ⟨-, rfl⟩ := moveColumn?_eq_some_iff.mp h
    exact columns _ fun row c hc => .inl (mem_of_mem_moveElement hc)

namespace Workbook

/-- Every cell of every sheet has a property. -/
def All (P : Cell → Prop) (w : Workbook) : Prop :=
  ∀ s ∈ w.sheets, Grid.All P s.rows

theorem All.sheet {w : Workbook} (all : w.All P) : Grid.All P w.sheet.rows := by
  unfold Workbook.sheet
  rw [List.getD_eq_getElem?_getD]
  cases found : w.sheets[w.active]? with
  | none =>
    intro row hrow
    cases hrow
  | some s => exact all s (List.mem_of_getElem? found)

theorem All.setSheet {w : Workbook} (all : w.All P) {s : Sheet} (new : Grid.All P s.rows) :
    (w.setSheet s).All P := by
  intro t ht
  rcases List.mem_or_eq_of_mem_set ht with old | rfl
  · exact all t old
  · exact new

theorem all_renumber {sheets : List Sheet} (all : ∀ s ∈ sheets, Grid.All P s.rows) {s : Sheet}
    (h : s ∈ renumber sheets) : Grid.All P s.rows := by
  obtain ⟨old, hold, id, rfl⟩ := exists_of_mem_renumber h
  exact all old hold

theorem all_renameAll {sheets : List Sheet} (all : ∀ s ∈ sheets, Grid.All P s.rows) {s : Sheet}
    (h : s ∈ renameAll sheets) : Grid.All P s.rows := by
  obtain ⟨old, hold, n, rfl⟩ := exists_of_mem_renameAll h
  exact all old hold

end Workbook

namespace Editor

/-- Every cell that is kept, in the workbook or in the clipboard, has a property. -/
structure All (P : Cell → Prop) (e : Editor) : Prop where
  workbook : e.workbook.All P
  clipboard : ∀ c, e.clipboard = some c → Grid.All P c.cells

theorem all_freshSheets (entered : Cell.Entered P) {c : Config} {n : Nat} {s : Sheet}
    (h : s ∈ freshSheets c n) : Grid.All P s.rows := by
  obtain ⟨i, -, rfl⟩ := List.mem_map.mp h
  exact Grid.all_replicate entered _ _

theorem all_start (entered : Cell.Entered P) (c : Config) {store : Store}
    (found : ∀ w, stored store = .ok (some w) → w.All P) : All P (start c store) := by
  have fresh : All P (fresh c.normalized store) :=
    ⟨fun s hs => all_freshSheets entered hs, fun b hb => by cases hb⟩
  rcases start_cases c store with ⟨-, started⟩ | ⟨w, h, started⟩
  · rw [started]
    exact fresh
  · rcases (Editor.fresh c.normalized store).adopt_cases w with same | renumbered
    · rw [started, same]
      exact ⟨found w h, fresh.clipboard⟩
    · rw [started, renumbered]
      exact ⟨fun s hs => Workbook.all_renumber (found w h) hs, fresh.clipboard⟩

section Steps

variable {e e' : Editor}

/-- Everything but the workbook and the clipboard may change freely. -/
theorem All.of_eq (all : All P e) (workbook : e'.workbook = e.workbook)
    (clipboard : e'.clipboard = e.clipboard) : All P e' :=
  ⟨workbook ▸ all.workbook, clipboard ▸ all.clipboard⟩

theorem All.putRows (all : All P e) {rows : Grid} (new : Grid.All P rows) :
    All P (e.putRows rows) :=
  ⟨all.workbook.setSheet new, all.clipboard⟩

theorem All.sheet (all : All P e) : Grid.All P e.sheet.rows :=
  all.workbook.sheet

theorem All.write (entered : Cell.Entered P) (all : All P e) {a : Address} {t : Text}
    (h : e.write a t = .ok e') : All P e' := by
  obtain ⟨row, col, -, rfl⟩ := write_eq_ok h
  exact all.putRows (all.sheet.setCell row col (entered.typed t))

theorem All.commit (entered : Cell.Entered P) (all : All P e) {a : Address} {t : Text}
    (h : e.commit a t = .ok e') : All P e' := by
  obtain ⟨written, hw, rfl⟩ := commit_eq_ok h
  exact (all.write entered hw).of_eq rfl rfl

theorem All.submit (entered : Cell.Entered P) (all : All P e) {a : Address}
    (h : e.submit = .ok (some (a, e'))) : All P e' := by
  obtain ⟨t, written, hw, rfl⟩ := submit_eq_ok h
  exact (all.write entered hw).of_eq rfl rfl

theorem All.snapshot (all : All P e) (b : Block) (cut : Bool) :
    Grid.All P (e.snapshot b cut).2.cells :=
  all.sheet.extract b

theorem All.copy? (all : All P e) {t : Text} (h : e.copy? = some (t, e')) : All P e' := by
  obtain ⟨b, -, -, rfl⟩ := copy?_eq_some h
  refine ⟨all.workbook, fun c hc => ?_⟩
  cases hc
  exact all.snapshot b false

theorem All.cut? (entered : Cell.Entered P) (all : All P e) {t : Text}
    (h : e.cut? = some (t, e')) : All P e' := by
  obtain ⟨b, -, -, rfl⟩ := cut?_eq_some h
  refine ⟨all.workbook.setSheet (all.sheet.erase entered b), fun c hc => ?_⟩
  cases hc
  exact all.snapshot b true

theorem All.pasted (entered : Cell.Entered P) (all : All P e) (row col : Nat)
    (text : Option Text) : Grid.All P (e.pasted row col text) := by
  unfold Editor.pasted
  split
  · rename_i c kept
    have cells := all.clipboard c kept
    dsimp only
    split
    · exact cells
    · exact cells.map fun cell h => entered.relocated h _ _
  · exact Tsv.all_parseCells entered _
  · intro row hrow
    cases hrow

theorem All.paste (entered : Cell.Entered P) (all : All P e) (target : Address)
    (text : Option Text) : All P (e.paste target text).2 := by
  rcases e.paste_cases target text with none | ⟨row, col, n, -, -, some⟩
  · rw [none]
    exact all
  · rw [some]
    have brought := (all.pasted entered row col text).map fun cell h => entered.trimmed h
    exact all.putRows (all.sheet.write row col brought)

theorem All.fillDown? (entered : Cell.Entered P) (all : All P e) (h : e.fillDown? = some e') :
    All P e' := by
  obtain ⟨b, -, -, rfl⟩ := fillDown?_eq_some h
  exact all.putRows (all.sheet.fillDown entered b)

theorem All.fillRight? (entered : Cell.Entered P) (all : All P e) (h : e.fillRight? = some e') :
    All P e' := by
  obtain ⟨b, -, -, rfl⟩ := fillRight?_eq_some h
  exact all.putRows (all.sheet.fillRight entered b)

theorem All.moveBlock? (entered : Cell.Entered P) (all : All P e) {source target : Address}
    (h : e.moveBlock? source target = some e') : All P e' := by
  obtain ⟨x, b, row, col, row', col', -, -, -, -, -, rfl⟩ := moveBlock?_eq_some h
  exact all.putRows (all.sheet.moveBlock entered b _ _)

theorem All.edit (entered : Cell.Entered P) (all : All P e) (edit : StructuralEdit)
    (anchor : Address) : All P (e.edit edit anchor) := by
  simp only [Editor.edit]
  split
  · rename_i s h
    have looks := e.selectionsAfter_looks edit anchor s
    have rows := (Sheet.rearranged_of_edited? h).all entered all.sheet
    have before := all.of_eq looks.workbook looks.clipboard
    exact ⟨before.workbook.setSheet rows, before.clipboard⟩
  · exact all

theorem All.arrange (entered : Cell.Entered P) (all : All P e) {s : Sheet}
    (arranged : e.sheet.Rearranged e.config.maxRows s) : All P ({ e with sort := none }.put s) :=
  ⟨all.workbook.setSheet (arranged.all entered all.sheet), all.clipboard⟩

theorem All.sortByIndex (all : All P e) (col : Nat) (direction : SortDirection) (time : Nat) :
    All P (e.sortByIndex col direction time) :=
  ⟨all.workbook.setSheet (all.sheet.ofRows fun _ => mem_of_mem_pick), all.clipboard⟩

theorem All.restoreOrder (all : All P e) : All P e.restoreOrder := by
  simp only [Editor.restoreOrder]
  split
  · exact all
  · split
    · exact ⟨all.workbook.setSheet (all.sheet.ofRows fun _ => mem_of_mem_unpick), all.clipboard⟩
    · exact all.of_eq rfl rfl

theorem All.moveRow? (entered : Cell.Entered P) (all : All P e) {i j : Nat}
    (h : e.moveRow? i j = some e') : All P e' := by
  obtain ⟨s, hs, rfl⟩ := moveRow?_eq_some h
  exact all.arrange entered (.moveRow i j hs)

theorem All.moveColumn? (entered : Cell.Entered P) (all : All P e) {source target : Text}
    (h : e.moveColumn? source target = some e') : All P e' := by
  obtain ⟨i, j, s, hi, hj, hs, rfl⟩ := moveColumn?_eq_some h
  exact all.arrange entered (.moveColumn i j (Sheet.column?_lt hi) (Sheet.column?_lt hj) hs)

theorem All.sortBy (all : All P e) (label : Text) (direction : SortDirection) (time : Nat) :
    All P (e.sortBy label direction time) := by
  simp only [Editor.sortBy]
  split
  · exact all.sortByIndex _ _ _
  · exact all

theorem All.clickHeader (all : All P e) (label : Text) (time : Nat) :
    All P (e.clickHeader label time) := by
  simp only [Editor.clickHeader]
  split
  · exact all
  · split
    · exact all.sortByIndex _ _ _
    · exact all.sortByIndex _ _ _
    · exact all.restoreOrder

theorem All.formatSelection (all : All P e) (p : FormatPatch) :
    All P (e.formatSelection p).2 := by
  simp only [Editor.formatSelection]
  split
  · exact all.of_eq rfl rfl
  · exact all

theorem All.withFreeId (all : All P e) : All P e.withFreeId := by
  rcases e.withFreeId_cases with h | h
  · rw [h]
    exact all
  · rw [h]
    exact ⟨fun s hs => Workbook.all_renumber all.workbook hs, all.clipboard⟩

theorem All.addSheet (entered : Cell.Entered P) (all : All P e) : All P e.addSheet := by
  refine ⟨fun s hs => ?_, all.withFreeId.clipboard⟩
  rcases List.mem_append.mp hs with old | new
  · exact all.withFreeId.workbook s old
  · rw [List.mem_singleton.mp new]
    exact Grid.all_replicate entered _ _

theorem All.removeSheet? (all : All P e) {i : Nat} (h : e.removeSheet? i = some e') :
    All P e' := by
  obtain ⟨-, -, rfl⟩ := removeSheet?_eq_some h
  refine ⟨fun s hs => ?_, all.clipboard⟩
  exact Workbook.all_renameAll (fun t ht => all.workbook t (List.mem_of_mem_eraseIdx ht)) hs

theorem All.selectSheet? (all : All P e) {i : Nat} (h : e.selectSheet? i = some e') :
    All P e' := by
  obtain ⟨-, -, rfl⟩ := selectSheet?_eq_some h
  exact ⟨all.workbook, all.clipboard⟩

theorem All.newFile (entered : Cell.Entered P) : All P e.newFile :=
  ⟨fun _ hs => all_freshSheets entered hs, fun c hc => by cases hc⟩

theorem All.openWorkbook (all : All P e) {w : Workbook} (outside : w.All P)
    (h : e.openWorkbook w = .ok e') : All P e' := by
  obtain ⟨-, rfl⟩ := openWorkbook_eq_ok h
  exact ⟨fun s hs => Workbook.all_renumber outside hs, all.clipboard⟩

/-- What holds of every cell still does after an action, if it holds of the cells of a workbook that
the action opens. -/
theorem All.perform (entered : Cell.Entered P) (all : All P e) (action : Action)
    (outside : ∀ w, action = .openWorkbook w → w.All P) : All P (e.perform action).2 := by
  cases looks : action.looks with
  | true =>
    have only := e.perform_looks looks
    exact all.of_eq only.workbook only.clipboard
  | false =>
    cases action with
    | write a t => exact ifAccepted_of all fun e' => all.write entered
    | commit a t => exact ifAccepted_of all fun e' => all.commit entered
    | submit =>
      simp only [Editor.perform]
      split
      · rename_i moved h
        exact ifMoved_of all fun a e' found => all.submit entered (found ▸ h)
      · exact all
    | edit edit anchor => exact all.edit entered edit anchor
    | moveRow i j => exact ifDone_of all fun e' => all.moveRow? entered
    | moveColumn source target => exact ifDone_of all fun e' => all.moveColumn? entered
    | moveBlock source target => exact ifDone_of all fun e' => all.moveBlock? entered
    | copy => exact ifTaken_of all fun t e' => all.copy?
    | cut => exact ifTaken_of all fun t e' => all.cut? entered
    | paste target text => exact all.paste entered target text
    | fillDown => exact ifDone_of all fun e' => all.fillDown? entered
    | fillRight => exact ifDone_of all fun e' => all.fillRight? entered
    | sortBy label direction time => exact all.sortBy label direction time
    | clickHeader label time => exact all.clickHeader label time
    | restoreOrder => exact all.restoreOrder
    | setKind a kind => exact all.of_eq rfl rfl
    | format a p => exact all.of_eq rfl rfl
    | formatSelection p => exact all.formatSelection p
    | addSheet => exact all.addSheet entered
    | removeSheet i => exact ifDone_of all fun e' => all.removeSheet?
    | selectSheet i => exact ifDone_of all fun e' => all.selectSheet?
    | newFile => exact .newFile entered
    | openWorkbook w => exact ifAccepted_of all fun e' => all.openWorkbook (outside w rfl)
    | _ => cases looks

theorem All.run (entered : Cell.Entered P) (all : All P e) (actions : List Action)
    (outside : ∀ w, .openWorkbook w ∈ actions → w.All P) : All P (e.run actions) := by
  induction actions generalizing e with
  | nil => exact all
  | cons action rest ih =>
    have first := all.perform entered action fun w h => outside w (h ▸ List.mem_cons_self)
    exact ih first fun w h => outside w (List.mem_cons_of_mem action h)

end Steps

/-- In every state that a run reaches, a property of the empty cell and of whatever is typed holds of
every cell if it holds of the cells of the workbooks from outside. -/
theorem all_run (entered : Cell.Entered P) (c : Config) {store : Store}
    (found : ∀ w, stored store = .ok (some w) → w.All P) (actions : List Action)
    (outside : ∀ w, .openWorkbook w ∈ actions → w.All P) :
    All P ((start c store).run actions) :=
  (all_start entered c found).run entered actions outside

end Editor

end Spreadsheet
