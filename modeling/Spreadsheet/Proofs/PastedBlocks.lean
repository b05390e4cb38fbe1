import Mathlib.Data.Set.Card
import Spreadsheet.Proofs.FilledBlocks

/-!
# What a paste puts where

A paste has a block of cells, which come from the snapshot on the clipboard or else from the fields
of a text, and neither needs to be a rectangle. The block is put down with its first cell at the
target. Every cell of it that falls on a cell of the sheet replaces that one and is counted, the
others are dropped, and nothing else changes; so the same paste once more finds everything as it
would leave it.
-/

namespace Spreadsheet

/-- A field of a text by its line and its place in the line. -/
def Tsv.field? (t : Text) (i j : Nat) : Option Text :=
  (t.splitOn '\n')[i]?.bind fun line => (line.splitOn '\t')[j]?

namespace Tsv

theorem cell?_parseCells (t : Text) (i j : Nat) :
    (parseCells t).cell? i j = (field? t i j).map Cell.ofText := by
  simp only [Grid.cell?, parseCells, parse, field?, List.getElem?_map, Option.map_map]
  cases (t.splitOn '\n')[i]? with
  | none => rfl
  | some line => simp

end Tsv

namespace Grid

/-- The positions of a block that fall on cells of a grid when it is put down at one of its
columns. -/
def landing (g : Grid) (col : Nat) (cells : Grid) : Set (Nat × Nat) :=
  {p | (cells.cell? p.1 p.2).isSome = true ∧ (g.cell? p.1 (col + p.2)).isSome = true}

/-- The first row of a block falls on the first row of the grid, and the rest on the rest. -/
theorem landing_cons (row new : Row) (g cells : Grid) (col : Nat) :
    landing (row :: g) col (new :: cells) =
      (fun j => (0, j)) '' (Finset.range (min new.length (row.length - col)) : Set Nat) ∪
        (fun p => (p.1 + 1, p.2)) '' landing g col cells := by
  ext ⟨i, j⟩
  cases i with
  | zero => simp [landing, cell?]; omega
  | succ i => simp [landing, cell?]

theorem encard_landing (g : Grid) (col : Nat) (cells : Grid) :
    (landing g col cells).encard =
      (List.zipWith (fun row new => min new.length (row.length - col)) g cells).sum := by
  induction cells generalizing g with
  | nil => simp [landing, cell?]
  | cons new cells ih =>
    cases g with
    | nil => simp [landing, cell?]
    | cons row g =>
      have apart : Disjoint
          ((fun j => (0, j)) '' (Finset.range (min new.length (row.length - col)) : Set Nat))
          ((fun p => (p.1 + 1, p.2)) '' landing g col cells) := by
        rw [Set.disjoint_left]
        rintro p ⟨j, -, rfl⟩ ⟨q, -, same⟩
        cases congrArg Prod.fst same
      have first : Function.Injective fun j : Nat => (0, j) := by
        intro j j' same
        exact congrArg Prod.snd same
      have later : Function.Injective fun p : Nat × Nat => (p.1 + 1, p.2) := by
        rintro ⟨i, j⟩ ⟨i', j'⟩ same
        simpa using same
      rw [landing_cons, Set.encard_union_eq apart, first.encard_image, later.encard_image, ih,
        Set.encard_coe_eq_coe_finsetCard, Finset.card_range, List.zipWith_cons_cons, List.sum_cons,
        Nat.cast_add]

/-- The cells that find a place are counted by their positions. -/
theorem encard_fitting (g : Grid) (row col : Nat) (cells : Grid) :
    {p : Nat × Nat | (cells.cell? p.1 p.2).isSome = true ∧
      (g.cell? (row + p.1) (col + p.2)).isSome = true}.encard = g.fitting row col cells := by
  have below : ∀ i j, Grid.cell? (g.drop row) i j = g.cell? (row + i) j := by
    intro i j
    rw [cell?, List.getElem?_drop, cell?]
  have landed := encard_landing (g.drop row) col cells
  simp only [landing, below] at landed
  rw [landed, fitting, List.sum_eq_foldl]

/-- Where nothing finds a place, nothing is written. -/
theorem write_of_fitting {g cells : Grid} {row col : Nat} (none : g.fitting row col cells = 0)
    (f : Cell → Cell) : g.write row col (cells.map fun new => new.map f) = g := by
  have nowhere := encard_fitting g row col cells
  rw [none, Nat.cast_zero, Set.encard_eq_zero, Set.eq_empty_iff_forall_notMem] at nowhere
  apply eq_of_cell? (shape_write _ _ _ _)
  intro r c
  rw [write, cell?_mapCells]
  cases here : g.cell? r c with
  | none => rfl
  | some old =>
    rw [Option.map_some]
    split
    · rename_i after
      cases brought : cells.cell? (r - row) (c - col) with
      | none => simp [cell?_map, brought]
      | some new =>
        refine absurd ⟨?_, ?_⟩ (nowhere (r - row, c - col))
        · simp [brought]
        · simp [show row + (r - row) = r by omega, show col + (c - col) = c by omega, here]
    · rfl

theorem write_write (g cells : Grid) (row col : Nat) :
    (g.write row col cells).write row col cells = g.write row col cells := by
  rw [write, write, mapCells_mapCells]
  apply mapCells_congr
  intro r c cell here
  split
  · cases cells.cell? (r - row) (c - col) <;> rfl
  · rfl

end Grid

/-- A block is put down on a sheet with its first cell at a position. What falls on the sheet
replaces what stood there, without the blanks around its text, and nothing else changes. -/
structure Sheet.Pasted (s : Sheet) (row col : Nat) (block : Nat → Nat → Option Cell)
    (t : Sheet) : Prop where
  layout : t = { s with rows := t.rows }
  shape : t.rows.shape = s.rows.shape
  written : ∀ i j cell, block i j = some cell → row + i < s.height → col + j < s.width →
    t.cell? (row + i) (col + j) = some cell.trimmed
  kept : ∀ r c, (∀ i j, row + i = r → col + j = c → block i j = none) → t.cell? r c = s.cell? r c

theorem Sheet.Sound.pasted_write {s : Sheet} (sound : s.Sound) (row col : Nat) (cells : Grid) :
    s.Pasted row col cells.cell?
      { s with rows := s.rows.write row col (cells.map fun new => new.map Cell.trimmed) } where
  layout := rfl
  shape := Grid.shape_write _ _ _ _
  written := by
    intro i j cell brought inside reached
    refine Grid.cell?_write ((sound.even.isSome_cell? _ _).mpr ⟨inside, reached⟩) ?_
    rw [Grid.cell?_map, brought, Option.map_some]
  kept := by
    intro r c nothing
    have same : Grid.cell? (s.rows.write row col (cells.map fun new => new.map Cell.trimmed)) r c =
        s.rows.cell? r c := by
      rw [Grid.write, Grid.cell?_mapCells]
      by_cases after : row ≤ r ∧ col ≤ c
      · have none := nothing (r - row) (c - col) (by omega) (by omega)
        simp [after, Grid.cell?_map, none]
      · simp [after]
    exact same

namespace Editor

/-- What a paste at a position has for a place in its block: the cell of the snapshot, a formula
moved along unless it was cut, or else the field of the text. -/
def brought? (e : Editor) (row col : Nat) (text : Option Text) (i j : Nat) : Option Cell :=
  match e.clipboard, text with
  | some k, _ => (k.cells.cell? i j).map fun cell =>
      if k.cut then cell else cell.relocated ((row : Int) - k.row) ((col : Int) - k.col)
  | none, some t => (Tsv.field? t i j).map Cell.ofText
  | none, none => none

section Pastes

variable {e e' : Editor} {target : Address} {row col : Nat}

theorem cell?_pasted (e : Editor) (row col : Nat) (text : Option Text) :
    (e.pasted row col text).cell? = e.brought? row col text := by
  funext i j
  unfold pasted brought?
  cases e.clipboard with
  | some k =>
    by_cases cut : k.cut = true
    · simp only [if_pos cut, Option.map_id']
    · simp only [if_neg cut]
      exact Grid.cell?_map _ k.cells i j
  | none =>
    cases text with
    | some t => exact Tsv.cell?_parseCells t i j
    | none => rfl

theorem pasted_congr (same : e'.clipboard = e.clipboard) (row col : Nat) (text : Option Text) :
    e'.pasted row col text = e.pasted row col text := by
  unfold pasted
  rw [same]

theorem clipboard_paste (e : Editor) (target : Address) (text : Option Text) :
    (e.paste target text).2.clipboard = e.clipboard := by
  rcases e.paste_cases target text with nothing | ⟨row, col, n, -, -, written⟩
  · rw [nothing]
  · rw [written]
    rfl

theorem count_paste (place : e.sheet.position? target = some (row, col)) (text : Option Text) :
    (e.paste target text).1 = e.sheet.rows.fitting row col (e.pasted row col text) := by
  rw [paste, place]
  dsimp only
  split
  · rename_i none
    exact none.symm
  · rfl

/-- Whether a paste writes or finds nothing to write, the rows are those with the block in them. -/
theorem workbook_paste (sound : e.workbook.Sound)
    (place : e.sheet.position? target = some (row, col)) (text : Option Text) :
    (e.paste target text).2.workbook = e.workbook.setSheet { e.sheet with
      rows := e.sheet.rows.write row col
        ((e.pasted row col text).map fun cells => cells.map Cell.trimmed) } := by
  by_cases none : e.sheet.rows.fitting row col (e.pasted row col text) = 0
  · have nothing : (e.paste target text).2 = e := by
      rw [paste, place]
      simp only [none]
    rw [nothing, Grid.write_of_fitting none]
    exact sound.setSheet_self.symm
  · rw [paste_eq place (Nat.pos_of_ne_zero none)]
    rfl

theorem sheet_paste (sound : e.workbook.Sound)
    (place : e.sheet.position? target = some (row, col)) (text : Option Text) :
    (e.paste target text).2.sheet = { e.sheet with
      rows := e.sheet.rows.write row col
        ((e.pasted row col text).map fun cells => cells.map Cell.trimmed) } := by
  rw [Editor.sheet, workbook_paste sound place]
  exact sound.sheet_setSheet _

theorem pasted_paste (sound : e.workbook.Sound)
    (place : e.sheet.position? target = some (row, col)) (text : Option Text) :
    e.sheet.Pasted row col (e.brought? row col text) (e.paste target text).2.sheet := by
  rw [sheet_paste sound place, ← cell?_pasted]
  exact (sheet_sound sound).pasted_write row col _

theorem encard_paste (sound : e.workbook.Sound)
    (place : e.sheet.position? target = some (row, col)) (text : Option Text) :
    {p : Nat × Nat | (e.brought? row col text p.1 p.2).isSome = true ∧
      row + p.1 < e.sheet.height ∧ col + p.2 < e.sheet.width}.encard =
        (e.paste target text).1 := by
  have counted := Grid.encard_fitting e.sheet.rows row col (e.pasted row col text)
  simp only [cell?_pasted, (sheet_sound sound).even.isSome_cell?] at counted
  rw [count_paste place]
  exact counted

/-- The same paste once more brings the same block to the same place. -/
theorem workbook_paste_paste (sound : e.workbook.Sound)
    (place : e.sheet.position? target = some (row, col)) (text : Option Text) :
    ((e.paste target text).2.paste target text).2.workbook =
      (e.paste target text).2.workbook := by
  have sheet := sheet_paste sound place text
  have workbook := workbook_paste sound place text
  have sound' : (e.paste target text).2.workbook.Sound := by
    rw [workbook]
    exact sound.setSheet ((sheet_sound sound).withRows (Grid.shape_write _ _ _ _))
  have place' : (e.paste target text).2.sheet.position? target = some (row, col) := by
    rw [sheet, e.sheet.position?_withRows (Grid.length_eq_of_shape (Grid.shape_write _ _ _ _))]
    exact place
  rw [workbook_paste sound' place', pasted_congr (e.clipboard_paste target text), sheet,
    Grid.write_write, workbook, Workbook.setSheet_setSheet]

end Pastes

/-- Let a run reach an editor, and let anything be on its clipboard. A paste at a cell of the sheet
puts the block that it brings down there, with the cells of the snapshot if there is one, else with
the fields of the text. It counts the cells of the block that fall on the sheet, changes no other
cell of any sheet and leaves the clipboard; the same paste once more leaves the whole workbook. -/
theorem run_paste_block (c : Config) (store : Store) (before : List Action)
    (clipboard : Option Clipboard) (target : Address) (text : Option Text) (row col : Nat) :
    let e : Editor := { (start c store).run before with clipboard := clipboard }
    let block := e.brought? row col text
    let e' := (e.perform (.paste target text)).2
    e.sheet.position? target = some (row, col) →
    (∃ n : Nat, (e.perform (.paste target text)).1 = .count n ∧
      {p : Nat × Nat | (block p.1 p.2).isSome = true ∧
        row + p.1 < e.sheet.height ∧ col + p.2 < e.sheet.width}.encard = n) ∧
    e.sheet.Pasted row col block e'.sheet ∧ e'.workbook = e.workbook.setSheet e'.sheet ∧
    e'.clipboard = clipboard ∧ (e'.perform (.paste target text)).2.workbook = e'.workbook := by
  intro e block e' place
  have sound : e.workbook.Sound := (valid_run c store before).workbook
  refine ⟨⟨_, rfl, encard_paste sound place text⟩, pasted_paste sound place text, ?_,
    e.clipboard_paste target text, workbook_paste_paste sound place text⟩
  have sheet : e'.sheet = _ := sheet_paste sound place text
  rw [sheet]
  exact workbook_paste sound place text

/-- A formula in the first corner of two rows and columns, which is copied, and a text in the
last. -/
def cornersFilled : List Action :=
  [.write ⟨0, ['A']⟩ "=SUM(B1:B1)".toList, .write ⟨1, ['B']⟩ ['x'], .click ⟨0, ['A']⟩, .copy]

/-- With the copy on the clipboard, the text is not looked at: the formula comes to the last corner,
moved along. Without it, only the first column of the text finds a place at the second column, the
blank field replaces the text, and the formula stays. -/
theorem cornersFilled_pasted :
    let e := (start ⟨2, 2, 1, 300⟩ ⟨.memory, .nothing, true, true, 0⟩).run cornersFilled
    let e₀ : Editor := { e with clipboard := none }
    let t := " tea \t=A1\n \t\tmilk".toList
    (e.sheet.position? ⟨1, ['B']⟩ = some (1, 1) ∧
      (e.paste ⟨1, ['B']⟩ (some t)).2.sheet.cell? 1 1 = some (.text "=SUM(C2:C2)".toList)) ∧
    e₀.sheet.position? ⟨0, ['B']⟩ = some (0, 1) ∧
      {p : Nat × Nat | (e₀.brought? 0 1 (some t) p.1 p.2).isSome = true ∧
        0 + p.1 < e₀.sheet.height ∧ 1 + p.2 < e₀.sheet.width}.encard = 2 ∧
      (e₀.paste ⟨0, ['B']⟩ (some t)).2.sheet.cell? 0 1 = some (.text "tea".toList) ∧
      (e₀.paste ⟨0, ['B']⟩ (some t)).2.sheet.cell? 1 1 = some .empty ∧
      (e₀.paste ⟨0, ['B']⟩ (some t)).2.sheet.cell? 0 0 = e₀.sheet.cell? 0 0 := by
  intro e e₀ t
  have corner : e.sheet.position? ⟨1, ['B']⟩ = some (1, 1) := by decide
  have second : e₀.sheet.position? ⟨0, ['B']⟩ = some (0, 1) := by decide
  obtain ⟨-, copied, -⟩ := run_paste_block ⟨2, 2, 1, 300⟩ ⟨.memory, .nothing, true, true, 0⟩
    cornersFilled e.clipboard ⟨1, ['B']⟩ (some t) 1 1 corner
  obtain ⟨⟨n, answer, counted⟩, typed, -⟩ := run_paste_block ⟨2, 2, 1, 300⟩
    ⟨.memory, .nothing, true, true, 0⟩ cornersFilled none ⟨0, ['B']⟩ (some t) 0 1 second
  have two : (e₀.perform (.paste ⟨0, ['B']⟩ (some t))).1 = .count 2 := by decide
  rw [two] at answer
  cases answer
  refine ⟨⟨corner, copied.written 0 0 (.text "=SUM(C2:C2)".toList) ?_ ?_ ?_⟩, second, counted,
    typed.written 0 0 (.text " tea ".toList) ?_ ?_ ?_, typed.written 1 0 (.text [' ']) ?_ ?_ ?_,
    typed.kept 0 0 fun i j _ right => by omega⟩
  all_goals decide

end Editor

end Spreadsheet
