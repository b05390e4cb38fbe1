import Spreadsheet.Proofs.DrawnRanges
import Spreadsheet.Proofs.MovedBlocks
import Spreadsheet.Proofs.Segments

/-!
# Blocks filled from their first line

A fill counts how far each line lies from the first one, a paste how far its target lies from where
the cells were copied. Both count the same when the first line is copied and pasted at each of the
others, in any order, as long as its texts lose nothing when they are entered again. A moved formula
loses nothing then: it still begins with its equals sign, and the last of its characters or
references, wherever it went, does not end with a blank.
-/

namespace Spreadsheet

namespace Text

/-- There is a last character, and it is no blank. -/
def EndsFilled (t : Text) : Prop :=
  ∃ c, t.getLast? = some c ∧ isBlank c = false

section Ends

variable {t : Text}

theorem EndsFilled.append (ends : t.EndsFilled) (u : Text) : EndsFilled (u ++ t) := by
  obtain ⟨c, last, filled⟩ := ends
  refine ⟨c, ?_, filled⟩
  rw [List.getLast?_append, last, Option.some_or]

theorem EndsFilled.of_append {u : Text} (ends : EndsFilled (u ++ t)) (some : t ≠ []) :
    t.EndsFilled := by
  obtain ⟨c, last, filled⟩ := ends
  rw [List.getLast?_append_of_ne_nil u some] at last
  exact ⟨c, last, filled⟩

/-- What ends with no blank still does when both of its parts keep how they end. -/
theorem EndsFilled.append_mono {u u' t' : Text} (ends : EndsFilled (u ++ t))
    (first : u.EndsFilled → u'.EndsFilled) (last : t.EndsFilled → t'.EndsFilled)
    (nothing : t = [] → t' = []) : EndsFilled (u' ++ t') := by
  by_cases some : t = []
  · rw [some, List.append_nil] at ends
    rw [nothing some, List.append_nil]
    exact first ends
  · exact (last (ends.of_append some)).append u'

theorem endsFilled_digits (some : t ≠ []) (decimal : ∀ c ∈ t, c.isDigit = true) :
    t.EndsFilled := by
  refine ⟨t.getLast some, List.getLast?_eq_some_getLast some, ?_⟩
  have range := isDigit_iff.mp (decimal _ (List.getLast_mem some))
  exact not_isBlank_of_visible (by omega)

theorem endsFilled_of_trim (filled : t ≠ []) (tidy : t.trim = t) : t.EndsFilled := by
  have back : t.reverse = t.trimStart.reverse.dropWhile isBlank := by
    conv_lhs => rw [← tidy]
    rw [trim, trimEnd, List.reverse_reverse]
  have last : t.getLast? = some (t.getLast filled) := List.getLast?_eq_some_getLast filled
  have first := List.head?_dropWhile_not isBlank t.trimStart.reverse
  rw [← back, List.head?_reverse, last] at first
  exact ⟨_, last, by simpa using first⟩

theorem EndsFilled.trim_eq_self (ends : t.EndsFilled) (front : Stops isBlank t) : t.trim = t := by
  obtain ⟨c, last, filled⟩ := ends
  refine Text.trim_eq_self front fun d hd => ?_
  rw [List.head?_reverse, last] at hd
  cases hd
  exact filled

end Ends

end Text

namespace Relocation

/-- Wherever a reference goes, digits stand at its end, or the mark of a lost one. -/
theorem endsFilled_token {k : Token} (proper : k.Proper) (rows cols : Int) :
    (token rows cols k).EndsFilled := by
  have written : ∀ (colFixed rowFixed : Bool) (letters : Text) {digits : Text},
      digits.EndsFilled → (Token.toText ⟨colFixed, letters, rowFixed, digits⟩).EndsFilled :=
    fun _ _ _ _ ends => ends.append _
  have kept := Text.endsFilled_digits proper.numbered proper.decimal
  have lost : Text.EndsFilled lost := ⟨'!', rfl, rfl⟩
  simp only [token]
  split
  · exact written _ _ _ kept
  · split
    · exact lost
    · split
      · exact written _ _ _ kept
      · split
        · exact written _ _ _ (Text.endsFilled_digits (Text.ofNat_ne_nil _)
            fun c hc => Text.isDigit_of_mem_ofNat hc)
        · exact lost
        · exact written _ _ _ kept

end Relocation

namespace Segment

/-- A text that does not end with a blank does not end with one after a move either. -/
theorem Cut.endsFilled {quoted : Bool} {t : Text} {segments : List Segment}
    (cut : Cut quoted t segments) (ends : t.EndsFilled) (rows cols : Int) :
    Text.EndsFilled (segments.flatMap (Relocation.segment rows cols)) := by
  have nothing : ∀ {quoted : Bool} {t : Text} {segments : List Segment}, Cut quoted t segments →
      t = [] → segments.flatMap (Relocation.segment rows cols) = [] := by
    rintro quoted t segments cut rfl
    rw [← cut.scan, Segment.scan]
    rfl
  induction cut with
  | nil => exact ends
  | quote h ih | quoted other h ih | plain other nowhere h ih =>
    exact Text.EndsFilled.append_mono (u := [_]) ends id ih (nothing h)
  | token proper stop h ih =>
    exact ends.append_mono (fun _ => Relocation.endsFilled_token proper rows cols) ih (nothing h)

end Segment

theorem Cell.isFormulaText_iff {t : Text} : isFormulaText t = true ↔ ∃ rest, t = '=' :: rest := by
  rw [isFormulaText, beq_iff_eq]
  exact List.head?_eq_some_iff

namespace Relocation

/-- A formula without blanks around it has none after a move. -/
theorem trim_formula {t : Text} (formula : Cell.isFormulaText t = true) (tidy : t.trim = t)
    (rows cols : Int) :
    (Relocation.formula rows cols t).trim = Relocation.formula rows cols t ∧
      Relocation.formula rows cols t ≠ [] := by
  obtain ⟨rest, rfl⟩ := Cell.isFormulaText_iff.mp formula
  have some : '=' :: rest ≠ [] := List.cons_ne_nil _ _
  rw [Relocation.formula]
  split
  · exact ⟨tidy, some⟩
  · have cut := Segment.cut_scan false ('=' :: rest)
    have ends := cut.endsFilled (Text.endsFilled_of_trim some tidy) rows cols
    rw [Segment.ofText]
    rw [Segment.scan_end (by decide) (by decide), List.flatMap_cons] at ends ⊢
    exact ⟨ends.trim_eq_self (.cons (by decide) _), List.cons_ne_nil _ _⟩

end Relocation

theorem Cell.formula?_eq_some {c : Cell} {t : Text} (formula : c.formula? = some t) :
    c = .text t ∧ isFormulaText t = true := by
  cases c with
  | text u =>
    simp only [formula?] at formula
    split at formula
    · cases formula
      exact ⟨rfl, by assumption⟩
    · cases formula
  | _ => cases formula

/-- A tidy cell loses nothing when it is entered somewhere else. -/
theorem Sheet.Tidy.trimmed_relocated {s : Sheet} {b : Block} (tidy : s.Tidy b) {row col : Nat}
    {cell : Cell} (inside : b.contains row col = true) (here : s.rows.cell? row col = some cell)
    (rows cols : Int) : (cell.relocated rows cols).trimmed = cell.relocated rows cols := by
  cases formula : cell.formula? with
  | none =>
    rw [Cell.relocated, formula]
    exact tidy.trimmed inside here
  | some t =>
    obtain ⟨rfl, equals⟩ := Cell.formula?_eq_some formula
    obtain ⟨trim, some⟩ := Relocation.trim_formula equals (tidy row col t inside here).2 rows cols
    rw [Cell.relocated, formula]
    dsimp only
    rw [Cell.ofText, if_neg some, Cell.trimmed, trim, Cell.ofText, if_neg some]

/-- A block of the same size with its first cell at a position. -/
def Block.movedTo (f : Block) (row col : Nat) : Block :=
  ⟨row, row + (f.bottom - f.top), col, col + (f.right - f.left)⟩

namespace Grid

section Overlays

variable {g : Grid} {f b : Block} {chosen : Nat → Nat → Bool} {value : Nat → Nat → Cell}

theorem overlay_overlay (chosen : Nat → Nat → Bool) (value : Nat → Nat → Cell) (g : Grid) :
    overlay chosen value (overlay chosen value g) = overlay chosen value g := by
  simp only [overlay, mapCells_mapCells]
  apply mapCells_congr
  intro row col cell here
  split <;> rfl

/-- The copy of a block that is put down at a position has the given cells. -/
def Brings (g : Grid) (f : Block) (value : Nat → Nat → Cell) (row col : Nat) : Prop :=
  ∀ i j cell, f.contains (f.top + i) (f.left + j) = true →
    g.cell? (f.top + i) (f.left + j) = some cell →
    (cell.relocated ((row : Int) - f.top) ((col : Int) - f.left)).trimmed =
      value (row + i) (col + j)

/-- Putting down one more copy. -/
theorem write_overlay {width : Nat} (even : g.Even width) (bottom : f.bottom < g.length)
    (right : f.right < width) (top : f.top ≤ f.bottom) (left : f.left ≤ f.right) {row col : Nat}
    (brings : g.Brings f value row col) :
    (overlay chosen value g).write row col ((g.extract f).map fun cells => cells.map fun c =>
        (c.relocated ((row : Int) - f.top) ((col : Int) - f.left)).trimmed) =
      overlay (fun r c => chosen r c || (f.movedTo row col).contains r c) value g := by
  rw [write, overlay, mapCells_mapCells, overlay]
  apply mapCells_congr
  intro r c cell here
  rw [cell?_map, cell?_extract]
  by_cases inside : (f.movedTo row col).contains r c = true
  · obtain ⟨above, below, before, behind⟩ := Block.contains_iff.mp inside
    change r ≤ row + (f.bottom - f.top) at below
    change c ≤ col + (f.right - f.left) at behind
    change row ≤ r at above
    change col ≤ c at before
    have reached : f.top + (r - row) ≤ f.bottom ∧ f.left + (c - col) ≤ f.right := by omega
    obtain ⟨source, found⟩ := exists_cell? even (show f.top + (r - row) < g.length by omega)
      (show f.left + (c - col) < width by omega)
    have brought := brings _ _ source (Block.contains_iff.mpr ⟨by omega, reached.1, by omega,
      reached.2⟩) found
    rw [show row + (r - row) = r by omega, show col + (c - col) = c by omega] at brought
    rw [if_pos ⟨above, before⟩, if_pos reached, found, Option.map_some, Option.getD_some, brought,
      inside, Bool.or_true, if_pos rfl]
  · have same : (chosen r c || (f.movedTo row col).contains r c) = chosen r c := by simp [inside]
    rw [same]
    split
    · rename_i after
      rw [if_neg, Option.map_none, Option.getD_none]
      intro reached
      apply inside
      rw [Block.contains_iff]
      simp only [Block.movedTo]
      omega
    · rfl

theorem belowFirst_fillDown (g : Grid) (b : Block) :
    Checked.belowFirst (g.fillDown b) b = Checked.belowFirst g b := by
  funext row col
  have first : (g.fillDown b).cell? b.top col = g.cell? b.top col := by
    rw [fillDown, cell?_mapCells]
    simp
  rw [Checked.belowFirst, first, Checked.belowFirst]

theorem besideFirst_fillRight (g : Grid) (b : Block) :
    Checked.besideFirst (g.fillRight b) b = Checked.besideFirst g b := by
  funext row col
  have first : (g.fillRight b).cell? row b.left = g.cell? row b.left := by
    rw [fillRight, cell?_mapCells]
    simp
  rw [Checked.besideFirst, first, Checked.besideFirst]

/-- A fill does not touch the line that it fills from. -/
theorem fillDown_fillDown (g : Grid) (b : Block) : (g.fillDown b).fillDown b = g.fillDown b := by
  have below : ∀ row col, (b.contains row col && decide (b.top < row)) = true ↔
      b.contains row col = true ∧ b.top < row := by simp
  rw [fillDown_eq_overlay below (g.fillDown b), belowFirst_fillDown, fillDown_eq_overlay below g,
    overlay_overlay]

theorem fillRight_fillRight (g : Grid) (b : Block) :
    (g.fillRight b).fillRight b = g.fillRight b := by
  have beside : ∀ row col, (b.contains row col && decide (b.left < col)) = true ↔
      b.contains row col = true ∧ b.left < col := by simp
  rw [fillRight_eq_overlay beside (g.fillRight b), besideFirst_fillRight,
    fillRight_eq_overlay beside g, overlay_overlay]

end Overlays

end Grid

namespace Sheet.Tidy

variable {s : Sheet} {b : Block}

theorem brings_belowFirst (tidy : s.Tidy { b with bottom := b.top }) {row : Nat} :
    Grid.Brings s.rows { b with bottom := b.top } (Checked.belowFirst s.rows b) row b.left := by
  intro i j cell inside here
  obtain ⟨-, first, -, -⟩ := Block.contains_iff.mp inside
  have line : i = 0 := by
    change b.top + i ≤ b.top at first
    omega
  subst line
  have source : Grid.cell? s.rows b.top (b.left + j) = some cell := here
  rw [tidy.trimmed_relocated inside here, Checked.belowFirst, source]
  simp

theorem brings_besideFirst (tidy : s.Tidy { b with right := b.left }) {col : Nat} :
    Grid.Brings s.rows { b with right := b.left } (Checked.besideFirst s.rows b) b.top col := by
  intro i j cell inside here
  obtain ⟨-, -, -, first⟩ := Block.contains_iff.mp inside
  have line : j = 0 := by
    change b.left + j ≤ b.left at first
    omega
  subst line
  have source : Grid.cell? s.rows (b.top + i) b.left = some cell := here
  rw [tidy.trimmed_relocated inside here, Checked.besideFirst, source]
  simp

end Sheet.Tidy

namespace Editor

/-- A block of the sheet of an editor is on the clipboard, and at some positions of that sheet there
are given cells. -/
structure Stamped (e₀ : Editor) (f : Block) (value : Nat → Nat → Cell) (chosen : Nat → Nat → Bool)
    (e : Editor) : Prop where
  clipboard : e.clipboard = some ⟨Grid.extract e₀.sheet.rows f, f.top, f.left, false⟩
  workbook : e.workbook = e₀.workbook.setSheet
    { e₀.sheet with rows := Grid.overlay chosen value e₀.sheet.rows }

section Stamps

variable {e₀ e : Editor} {f : Block} {value : Nat → Nat → Cell} {chosen : Nat → Nat → Bool}

theorem Stamped.paste (stamped : Stamped e₀ f value chosen e) (sound : e₀.workbook.Sound)
    (bottom : f.bottom < e₀.sheet.height) (right : f.right < e₀.sheet.width)
    (top : f.top ≤ f.bottom) (left : f.left ≤ f.right) {target : Address} {row col : Nat}
    (place : e₀.sheet.position? target = some (row, col))
    (brings : Grid.Brings e₀.sheet.rows f value row col) (text : Option Text) :
    Stamped e₀ f value (fun r c => chosen r c || (f.movedTo row col).contains r c)
      (e.paste target text).2 := by
  have even := (sheet_sound sound).even
  have shape := Grid.shape_overlay chosen value e₀.sheet.rows
  have sheet : e.sheet = { e₀.sheet with rows := Grid.overlay chosen value e₀.sheet.rows } := by
    rw [Editor.sheet, stamped.workbook]
    exact sound.sheet_setSheet _
  have there : e.sheet.position? target = some (row, col) := by
    rw [sheet, e₀.sheet.position?_withRows (Grid.length_eq_of_shape shape)]
    exact place
  have pasted : (e.pasted row col text).map (fun cells => cells.map Cell.trimmed) =
      (Grid.extract e₀.sheet.rows f).map fun cells => cells.map fun c =>
        (c.relocated ((row : Int) - f.top) ((col : Int) - f.left)).trimmed := by
    simp only [Editor.pasted, stamped.clipboard, Bool.false_eq_true, if_false, List.map_map,
      Function.comp_def]
  have fits : 0 < e.sheet.rows.fitting row col (e.pasted row col text) := by
    obtain ⟨-, hrow, hcol⟩ := Sheet.position?_eq_some place
    obtain ⟨first, here⟩ := Grid.exists_cell? even (show f.top < e₀.sheet.height by omega)
      (show f.left < e₀.sheet.width by omega)
    apply Grid.fitting_pos
    · rw [sheet, (even.of_shape shape).isSome_cell?, Grid.length_eq_of_shape shape]
      exact ⟨hrow, Sheet.column?_lt hcol⟩
    · simp only [Editor.pasted, stamped.clipboard, Bool.false_eq_true, if_false]
      rw [Grid.cell?_map, Grid.cell?_extract, if_pos ⟨top, left⟩, Nat.add_zero, Nat.add_zero, here]
      rfl
  rw [paste_eq there fits, pasted, sheet, Grid.write_overlay even bottom right top left brings]
  refine ⟨stamped.clipboard, ?_⟩
  change e.workbook.setSheet { e.sheet with rows := _ } = _
  rw [stamped.workbook, sheet, Workbook.setSheet_setSheet]

/-- A run of pastes covers what each of them covers. -/
theorem Stamped.run (stamped : Stamped e₀ f value chosen e) (sound : e₀.workbook.Sound)
    (bottom : f.bottom < e₀.sheet.height) (right : f.right < e₀.sheet.width)
    (top : f.top ≤ f.bottom) (left : f.left ≤ f.right) (text : Option Text) {targets : List Address}
    (brings : ∀ a ∈ targets, ∃ row col, e₀.sheet.position? a = some (row, col) ∧
      Grid.Brings e₀.sheet.rows f value row col) :
    ∃ covered, Stamped e₀ f value covered (e.run (targets.map (.paste · text))) ∧
      ∀ r c, covered r c = true ↔ chosen r c = true ∨ ∃ a ∈ targets, ∃ row col,
        e₀.sheet.position? a = some (row, col) ∧ (f.movedTo row col).contains r c = true := by
  induction targets generalizing e chosen with
  | nil => exact ⟨chosen, stamped, by simp⟩
  | cons a rest ih =>
    obtain ⟨row, col, place, brought⟩ := brings a List.mem_cons_self
    obtain ⟨covered, after, covers⟩ :=
      ih (stamped.paste sound bottom right top left place brought text)
        fun a' ha' => brings a' (List.mem_cons_of_mem a ha')
    refine ⟨covered, after, fun r c => ?_⟩
    rw [covers, Bool.or_eq_true, or_assoc]
    simp [place]

/-- Selecting what lies between two cells and copying it. -/
theorem stamped_copy (sound : e.workbook.Sound) {a b : Address} {row col row' col' : Nat}
    (ha : e.sheet.position? a = some (row, col)) (hb : e.sheet.position? b = some (row', col'))
    (rows : row ≤ row') (cols : col ≤ col') (value : Nat → Nat → Cell) :
    Stamped e ⟨row, row', col, col'⟩ value (fun _ _ => false)
      (e.run [.press a, .dragOver b, .release, .copy]) := by
  obtain ⟨first, last, left, right, between⟩ := Selection.between?_eq_some ha hb
  rw [Nat.min_eq_left cols] at left
  rw [Nat.max_eq_right cols] at right
  rw [Nat.min_eq_left rows, Nat.max_eq_right rows] at between
  have distinct := (sheet_sound sound).distinct
  have leftmost : e.sheet.column? first = some col := (idxOf?_iff_getElem? distinct).mpr left
  have rightmost : e.sheet.column? last = some col' := (idxOf?_iff_getElem? distinct).mpr right
  let drawn := ((e.press a).dragOver b).release
  have drawing : Drawing e a ((e.press a).dragOver b) := (drawing_press ha).dragOver b
  have selection : drawn.selection = some ⟨row, row', first, last⟩ :=
    ((drawing_press ha).drawn between).1
  have workbook : drawn.workbook = e.workbook := drawing.workbook
  have sheet : drawn.sheet = e.sheet := drawing.sheet
  have selected : drawn.selectedBlock? = some ⟨row, row', col, col'⟩ := by
    rw [selectedBlock?, selection]
    simp [Selection.block?, sheet, leftmost, rightmost]
  have copied : e.run [.press a, .dragOver b, .release, .copy] = (drawn.perform .copy).2 := rfl
  rw [copied, perform_copy selected]
  refine ⟨by rw [← sheet]; rfl, ?_⟩
  rw [Grid.overlay_nowhere fun _ _ => rfl]
  exact workbook.trans sound.setSheet_self.symm

end Stamps

section Fills

variable {e : Editor} {x : Selection} {b : Block}

theorem fillDown?_eq (selected : e.selectedRange? = some b) (more : b.top < b.bottom) :
    e.fillDown? = some (e.putRows (e.sheet.rows.fillDown b)) := by
  rw [fillDown?, selected, Option.bind_some, if_neg (by omega)]

theorem fillRight?_eq (selected : e.selectedRange? = some b) (more : b.left < b.right) :
    e.fillRight? = some (e.putRows (e.sheet.rows.fillRight b)) := by
  rw [fillRight?, selected, Option.bind_some, if_neg (by omega)]

theorem sheet_putRows (sound : e.workbook.Sound) (rows : Grid) :
    (e.putRows rows).sheet = { e.sheet with rows := rows } :=
  sound.sheet_setSheet _

theorem selectedRange?_putRows (sound : e.workbook.Sound) (rows : Grid) :
    (e.putRows rows).selectedRange? = e.selectedRange? := by
  rw [selectedRange?, sheet_putRows sound]
  rfl

/-- Writing the same cells again saves the workbook once more, and that is all. -/
theorem putRows_putRows (sound : e.workbook.Sound) (rows : Grid) :
    (e.putRows rows).putRows rows =
      { e.putRows rows with store := (e.putRows rows).store.save (e.putRows rows).workbook } := by
  have again : (e.putRows rows).workbook.setSheet { (e.putRows rows).sheet with rows := rows } =
      (e.putRows rows).workbook := by
    rw [sheet_putRows sound]
    exact e.workbook.setSheet_setSheet _ _
  rw [putRows, put, again]
  rfl

theorem perform_fillDown (more : b.top < b.bottom) (selected : e.selectedRange? = some b) :
    e.perform .fillDown = (.done true, e.putRows (e.sheet.rows.fillDown b)) := by
  rw [perform, fillDown?_eq selected more]
  rfl

theorem perform_fillRight (more : b.left < b.right) (selected : e.selectedRange? = some b) :
    e.perform .fillRight = (.done true, e.putRows (e.sheet.rows.fillRight b)) := by
  rw [perform, fillRight?_eq selected more]
  rfl

/-- A change of the cells in the selection that leaves what it has changed as it is. -/
theorem run_fill_twice (sound : e.workbook.Sound) (selected : e.selectedRange? = some b)
    (fill : Action) (rows : Grid → Grid) (settled : ∀ g, rows (rows g) = rows g)
    (performs : ∀ {e : Editor}, e.selectedRange? = some b →
      e.perform fill = (.done true, e.putRows (rows e.sheet.rows))) :
    e.run [fill, fill] = { e.run [fill] with
      store := (e.run [fill]).store.save (e.run [fill]).workbook } := by
  have once : e.run [fill] = e.putRows (rows e.sheet.rows) := congrArg Prod.snd (performs selected)
  have twice : e.run [fill, fill] = ((e.run [fill]).perform fill).2 := rfl
  have still := (selectedRange?_putRows sound (rows e.sheet.rows)).trans selected
  rw [twice, once, performs still, sheet_putRows sound, settled]
  exact putRows_putRows sound _

/-- The first line is copied and pasted at each of the targets. -/
theorem workbook_run_pastes (valid : e.Valid) {f : Block} {a a' : Address}
    (ha : e.sheet.position? a = some (f.top, f.left))
    (ha' : e.sheet.position? a' = some (f.bottom, f.right)) (rows : f.top ≤ f.bottom)
    (cols : f.left ≤ f.right) (text : Option Text) {targets : List Address}
    {value : Nat → Nat → Cell}
    (brings : ∀ t ∈ targets, ∃ row col, e.sheet.position? t = some (row, col) ∧
      Grid.Brings e.sheet.rows f value row col) :
    ∃ covered, (e.run ([.press a, .dragOver a', .release, .copy] ++
        targets.map (.paste · text))).workbook = e.workbook.setSheet
          { e.sheet with rows := Grid.overlay covered value e.sheet.rows } ∧
      ∀ r c, covered r c = true ↔ ∃ t ∈ targets, ∃ row col,
        e.sheet.position? t = some (row, col) ∧ (f.movedTo row col).contains r c = true := by
  have sound := valid.workbook
  obtain ⟨-, bottom, right⟩ := Sheet.position?_eq_some ha'
  obtain ⟨covered, stamped, covers⟩ := (stamped_copy sound ha ha' rows cols value).run sound bottom
    (Sheet.column?_lt right) rows cols text brings
  refine ⟨covered, ?_, fun r c => ?_⟩
  · rw [run_append]
    exact stamped.workbook
  · rw [covers]
    simp

/-- The copies of the first row at the first cells of the other rows cover what a fill covers. -/
theorem covers_below {lines : List Nat} (each : ∀ r, r ∈ lines ↔ b.top < r ∧ r ≤ b.bottom)
    (bottom : b.bottom < e.sheet.height) {first : Text}
    (leftmost : e.sheet.column? first = some b.left) (cols : b.left ≤ b.right) (r c : Nat) :
    (∃ t ∈ lines.map (⟨·, first⟩), ∃ row col, e.sheet.position? t = some (row, col) ∧
        (Block.movedTo { b with bottom := b.top } row col).contains r c = true) ↔
      b.contains r c = true ∧ b.top < r := by
  have place : ∀ line ∈ lines, e.sheet.position? ⟨line, first⟩ = some (line, b.left) := by
    intro line hline
    have between := (each line).mp hline
    exact Sheet.position?_of_column? (by omega) leftmost
  simp only [Block.contains_iff, Block.movedTo]
  constructor
  · rintro ⟨t, ht, row, col, position, inside⟩
    obtain ⟨line, hline, rfl⟩ := List.mem_map.mp ht
    have between := (each line).mp hline
    rw [place line hline] at position
    cases position
    omega
  · rintro ⟨inside, below⟩
    have line : r ∈ lines := (each r).mpr ⟨below, inside.2.1⟩
    refine ⟨⟨r, first⟩, List.mem_map.mpr ⟨r, line, rfl⟩, r, b.left, place r line, ?_⟩
    omega

/-- The copies of the first column at the first cells of the other columns cover what a fill
covers. -/
theorem covers_beside (sound : e.sheet.Sound) {labels : List Text} (each : ∀ label, label ∈ labels ↔
      ∃ col, e.sheet.column? label = some col ∧ b.left < col ∧ col ≤ b.right)
    (top : b.top < e.sheet.height) (rows : b.top ≤ b.bottom) (right : b.right < e.sheet.width)
    (r c : Nat) :
    (∃ t ∈ labels.map (⟨b.top, ·⟩), ∃ row col, e.sheet.position? t = some (row, col) ∧
        (Block.movedTo { b with right := b.left } row col).contains r c = true) ↔
      b.contains r c = true ∧ b.left < c := by
  simp only [Block.contains_iff, Block.movedTo]
  constructor
  · rintro ⟨t, ht, row, col, position, inside⟩
    obtain ⟨label, hlabel, rfl⟩ := List.mem_map.mp ht
    obtain ⟨line, column, between⟩ := (each label).mp hlabel
    rw [Sheet.position?_of_column? top column] at position
    cases position
    omega
  · rintro ⟨inside, beside⟩
    have label := List.getElem?_eq_getElem (show c < e.sheet.headers.length from
      Nat.lt_of_le_of_lt inside.2.2.2 right)
    have column := (idxOf?_iff_getElem? sound.distinct).mpr label
    have member := (each _).mpr ⟨c, column, beside, inside.2.2.2⟩
    refine ⟨_, List.mem_map.mpr ⟨_, member, rfl⟩, b.top, c,
      Sheet.position?_of_column? top column, ?_⟩
    omega

theorem workbook_fillDown (valid : e.Valid) (selected : e.selection = some x)
    (block : x.block? e.sheet = some b) (cols : b.left ≤ b.right) (more : b.top < b.bottom)
    (tidy : e.sheet.Tidy { b with bottom := b.top }) (text : Option Text) {lines : List Nat}
    (each : ∀ r, r ∈ lines ↔ b.top < r ∧ r ≤ b.bottom) :
    (e.putRows (e.sheet.rows.fillDown b)).workbook =
      (e.run ([.press ⟨b.top, x.first⟩, .dragOver ⟨b.top, x.last⟩, .release, .copy] ++
        lines.map fun r => .paste ⟨r, x.first⟩ text)).workbook := by
  obtain ⟨rows, bottom, -, -⟩ := valid.block_inside selected block
  obtain ⟨-, -, leftmost, rightmost⟩ := Selection.block?_eq_some block
  have top : b.top < e.sheet.height := by omega
  have brings : ∀ t ∈ lines.map (⟨·, x.first⟩), ∃ row col,
      e.sheet.position? t = some (row, col) ∧ Grid.Brings e.sheet.rows { b with bottom := b.top }
        (Checked.belowFirst e.sheet.rows b) row col := by
    intro t ht
    obtain ⟨r, hr, rfl⟩ := List.mem_map.mp ht
    have between := (each r).mp hr
    exact ⟨r, b.left, Sheet.position?_of_column? (by omega) leftmost, tidy.brings_belowFirst⟩
  obtain ⟨covered, pasted, covers⟩ := workbook_run_pastes valid
    (f := { b with bottom := b.top }) (Sheet.position?_of_column? top leftmost)
    (Sheet.position?_of_column? top rightmost) (Nat.le_refl _) cols text brings
  have all : ∀ r c, covered r c = true ↔ b.contains r c = true ∧ b.top < r := fun r c =>
    (covers r c).trans (covers_below each bottom leftmost cols r c)
  rw [List.map_map] at pasted
  rw [Grid.fillDown_eq_overlay all]
  exact pasted.symm

theorem workbook_fillRight (valid : e.Valid) (selected : e.selection = some x)
    (block : x.block? e.sheet = some b) (tidy : e.sheet.Tidy { b with right := b.left })
    (text : Option Text) {labels : List Text} (each : ∀ label, label ∈ labels ↔
      ∃ col, e.sheet.column? label = some col ∧ b.left < col ∧ col ≤ b.right) :
    (e.putRows (e.sheet.rows.fillRight b)).workbook =
      (e.run ([.press ⟨b.top, x.first⟩, .dragOver ⟨b.bottom, x.first⟩, .release, .copy] ++
        labels.map fun label => .paste ⟨b.top, label⟩ text)).workbook := by
  obtain ⟨rows, bottom, -, right⟩ := valid.block_inside selected block
  obtain ⟨-, -, leftmost, -⟩ := Selection.block?_eq_some block
  have top : b.top < e.sheet.height := by omega
  have brings : ∀ t ∈ labels.map (⟨b.top, ·⟩), ∃ row col,
      e.sheet.position? t = some (row, col) ∧ Grid.Brings e.sheet.rows { b with right := b.left }
        (Checked.besideFirst e.sheet.rows b) row col := by
    intro t ht
    obtain ⟨label, hlabel, rfl⟩ := List.mem_map.mp ht
    obtain ⟨col, column, -⟩ := (each label).mp hlabel
    exact ⟨b.top, col, Sheet.position?_of_column? top column, tidy.brings_besideFirst⟩
  obtain ⟨covered, pasted, covers⟩ := workbook_run_pastes valid
    (f := { b with right := b.left }) (Sheet.position?_of_column? top leftmost)
    (Sheet.position?_of_column? bottom leftmost) rows (Nat.le_refl _) text brings
  have all : ∀ r c, covered r c = true ↔ b.contains r c = true ∧ b.left < c := fun r c =>
    (covers r c).trans (covers_beside (sheet_sound valid.workbook) each top rows right r c)
  rw [List.map_map] at pasted
  rw [Grid.fillRight_eq_overlay all]
  exact pasted.symm

end Fills

/-- A fill and the copy of the first line of the selection, pasted at the first selected cell of
each other line, leave the same workbook, if the columns of the selection are in order and the texts
of the first line are there and have no blanks around them. The pastes may come in any order, and a
line may be pasted more than once. A second fill saves the workbook again and changes nothing
else. -/
theorem run_fill_eq_pastes (c : Config) (store : Store) (before : List Action) {x : Selection}
    {b : Block} (text : Option Text) :
    let e := (start c store).run before
    e.selection = some x → x.block? e.sheet = some b → b.left ≤ b.right →
    (b.top < b.bottom → e.sheet.Tidy { b with bottom := b.top } →
      (e.perform .fillDown).1 = .done true ∧
      (∀ lines : List Nat, (∀ r, r ∈ lines ↔ b.top < r ∧ r ≤ b.bottom) →
        (e.run [.fillDown]).workbook =
          (e.run ([.press ⟨b.top, x.first⟩, .dragOver ⟨b.top, x.last⟩, .release, .copy] ++
            lines.map fun r => .paste ⟨r, x.first⟩ text)).workbook) ∧
      e.run [.fillDown, .fillDown] = { e.run [.fillDown] with
        store := (e.run [.fillDown]).store.save (e.run [.fillDown]).workbook }) ∧
    (b.left < b.right → e.sheet.Tidy { b with right := b.left } →
      (e.perform .fillRight).1 = .done true ∧
      (∀ labels : List Text, (∀ label, label ∈ labels ↔
          ∃ col, e.sheet.column? label = some col ∧ b.left < col ∧ col ≤ b.right) →
        (e.run [.fillRight]).workbook =
          (e.run ([.press ⟨b.top, x.first⟩, .dragOver ⟨b.bottom, x.first⟩, .release, .copy] ++
            labels.map fun label => .paste ⟨b.top, label⟩ text)).workbook) ∧
      e.run [.fillRight, .fillRight] = { e.run [.fillRight] with
        store := (e.run [.fillRight]).store.save (e.run [.fillRight]).workbook }) := by
  intro e selected block cols
  have valid : e.Valid := valid_run c store before
  have range : e.selectedRange? = some b := by
    rw [selectedRange?, selected]
    exact block
  constructor
  · intro more tidy
    have once := perform_fillDown more range
    have twice := run_fill_twice valid.workbook range .fillDown (Grid.fillDown · b)
      (fun g => g.fillDown_fillDown b) (perform_fillDown more)
    refine ⟨by rw [once], fun lines each => ?_, twice⟩
    have filled : e.run [.fillDown] = (e.perform .fillDown).2 := rfl
    rw [filled, once]
    exact workbook_fillDown valid selected block cols more tidy text each
  · intro more tidy
    have once := perform_fillRight more range
    have twice := run_fill_twice valid.workbook range .fillRight (Grid.fillRight · b)
      (fun g => g.fillRight_fillRight b) (perform_fillRight more)
    refine ⟨by rw [once], fun labels each => ?_, twice⟩
    have filled : e.run [.fillRight] = (e.perform .fillRight).2 := rfl
    rw [filled, once]
    exact workbook_fillRight valid selected block tidy text each

/-- A formula with a fixed row beside a text, and a selection of three rows that was drawn from its
last cell to its first one. -/
def sumOverRows : List Action :=
  [.write ⟨0, ['A']⟩ "=SUM(B1:B$2)".toList, .write ⟨0, ['B']⟩ ['x'], .press ⟨2, ['B']⟩,
    .dragOver ⟨0, ['A']⟩]

/-- Filled down and filled right it comes to the same as pasted, from the last row to the first. -/
theorem sumOverRows_filled :
    let e := (start ⟨3, 2, 1, 300⟩ ⟨.memory, .nothing, true, true, 0⟩).run sumOverRows
    (e.run [.fillDown]).workbook =
        (e.run [.press ⟨0, ['A']⟩, .dragOver ⟨0, ['B']⟩, .release, .copy,
          .paste ⟨2, ['A']⟩ none, .paste ⟨1, ['A']⟩ none]).workbook ∧
      (e.run [.fillRight]).workbook =
        (e.run [.press ⟨0, ['A']⟩, .dragOver ⟨2, ['A']⟩, .release, .copy,
          .paste ⟨0, ['B']⟩ none]).workbook := by
  intro e
  have tidy : ∀ b, e.sheet.Tidy b := .of_cells (by decide)
  have block : Selection.block? ⟨0, 2, ['A'], ['B']⟩ e.sheet = some ⟨0, 2, 0, 1⟩ := by decide
  obtain ⟨down, right⟩ := run_fill_eq_pastes ⟨3, 2, 1, 300⟩
    ⟨.memory, .nothing, true, true, 0⟩ sumOverRows (x := ⟨0, 2, ['A'], ['B']⟩) none (by decide)
    block (by decide)
  constructor
  · refine (down (by decide) (tidy _)).2.1 [2, 1] fun r => ?_
    simp
    omega
  · refine (right (by decide) (tidy _)).2.1 [['B']] fun label => ?_
    have headers : e.sheet.headers = [['A'], ['B']] := by decide
    rw [List.mem_singleton]
    constructor
    · rintro rfl
      exact ⟨1, by decide, by decide, by decide⟩
    · rintro ⟨col, column, beside, inside⟩
      obtain rfl : col = 1 := by
        change 0 < col at beside
        change col ≤ 1 at inside
        omega
      have found := getElem?_of_idxOf? column
      rw [headers] at found
      exact (Option.some.inj found).symm

end Editor

end Spreadsheet
