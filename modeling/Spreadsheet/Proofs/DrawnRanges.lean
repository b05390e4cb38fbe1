import Spreadsheet.Proofs.CopiedBlocks

/-!
# Ranges that are drawn

A selection is drawn between two cells, in whichever direction, and knows its rows and two labels. A
formula knows the same rectangle as text. Under generated headers the text of a selection is read as
a range, written back as it was, and covers exactly the cells that the selection shows as inside; so
that is what a formula gets when the text is put into the formula bar while the selection is drawn.
-/

namespace Spreadsheet

namespace Block

section Spans

variable {α β : Type} {xs : List α} {first last : Nat}

theorem mem_span {x : α} (h : x ∈ span first last xs) :
    ∃ i, xs[i]? = some x ∧ first ≤ i ∧ i ≤ last := by
  obtain ⟨i, hi⟩ := List.mem_iff_getElem?.mp h
  rw [getElem?_span] at hi
  split at hi
  · exact ⟨first + i, hi, by omega, by omega⟩
  · cases hi

theorem map_span (f : α → β) (first last : Nat) (xs : List α) :
    (span first last xs).map f = span first last (xs.map f) := by
  simp [span, List.map_take, List.map_drop]

/-- Elements that bring something only between two positions bring what their span brings. -/
theorem flatMap_eq_span {f : α → List β}
    (outside : ∀ i x, xs[i]? = some x → ¬(first ≤ i ∧ i ≤ last) → f x = []) :
    xs.flatMap f = (span first last xs).flatMap f := by
  have before : (xs.take first).flatMap f = [] := by
    rw [List.flatMap_eq_nil_iff]
    intro x hx
    obtain ⟨i, hi⟩ := List.mem_iff_getElem?.mp hx
    rw [List.getElem?_take] at hi
    split at hi
    · exact outside i x hi (by omega)
    · cases hi
  have after : ((xs.drop first).drop (last + 1 - first)).flatMap f = [] := by
    rw [List.flatMap_eq_nil_iff]
    intro x hx
    obtain ⟨i, hi⟩ := List.mem_iff_getElem?.mp hx
    rw [List.getElem?_drop, List.getElem?_drop] at hi
    exact outside _ x hi (by omega)
  calc xs.flatMap f
      = (xs.take first).flatMap f ++ ((span first last xs).flatMap f ++
          ((xs.drop first).drop (last + 1 - first)).flatMap f) := by
        rw [← List.flatMap_append, ← List.flatMap_append, span, List.take_append_drop,
          List.take_append_drop]
    _ = (span first last xs).flatMap f := by rw [before, after, List.nil_append, List.append_nil]

/-- Elements that are told by their positions. -/
theorem filter_eq_span {q : α → Bool}
    (told : ∀ i x, xs[i]? = some x → (q x = true ↔ first ≤ i ∧ i ≤ last)) :
    xs.filter q = span first last xs := by
  have each : ∀ ys : List α, ys.filter q = ys.flatMap fun x => [x].filter q := by
    intro ys
    rw [← List.filter_flatMap, List.flatMap_singleton']
  have outside : ∀ i x, xs[i]? = some x → ¬(first ≤ i ∧ i ≤ last) → [x].filter q = [] := by
    intro i x hx out
    have hit : ¬q x = true := fun hit => out ((told i x hx).mp hit)
    simp [hit]
  have inside : ∀ x ∈ span first last xs, q x = true := by
    intro x hx
    obtain ⟨i, hi, reached⟩ := mem_span hx
    exact (told i x hi).mpr reached
  rw [each, flatMap_eq_span outside, ← each, List.filter_eq_self.mpr inside]

end Spans

/-- The cells of a block, row by row. -/
def cellList (b : Block) (g : Grid) : List Cell :=
  (b.rows g).flatMap b.cells

theorem values_eq_cellList (b : Block) (g : Grid) :
    b.values g = (b.cellList g).filterMap Cell.numericValue? := by
  rw [values, cellList, List.filterMap_flatMap]

end Block

namespace Selection

/-- The cells of a sheet that a selection shows as inside, row by row. -/
def highlighted (x : Selection) (s : Sheet) : List Cell :=
  (s.cells.filter fun place => x.contains s place.1).map Prod.snd

section Highlighted

variable {s : Sheet} {x : Selection} {b : Block}

theorem position?_header (sound : s.Sound) {i j : Nat} (hi : i < s.height) {label : Text}
    (hj : s.headers[j]? = some label) : s.position? ⟨i, label⟩ = some (i, j) :=
  Sheet.position?_of_column? hi ((idxOf?_iff_getElem? sound.distinct).mpr hj)

theorem contains_header (sound : s.Sound) (block : x.block? s = some b) {i j : Nat}
    (hi : i < s.height) {label : Text} (hj : s.headers[j]? = some label) :
    x.contains s ⟨i, label⟩ = b.contains i j := by
  rw [contains, block, position?_header sound hi hj]

/-- What lies inside of one row. -/
theorem highlighted_row (sound : s.Sound) (block : x.block? s = some b) {row : Row} {i : Nat}
    (here : s.rows[i]? = some row) :
    (((s.headers.zip row).map fun cell => ((⟨i, cell.1⟩ : Address), cell.2)).filter
        fun place => x.contains s place.1).map Prod.snd =
      if b.top ≤ i ∧ i ≤ b.bottom then b.cells row else [] := by
  have inside : i < s.height := (List.getElem?_eq_some_iff.mp here).1
  have wide : row.length ≤ s.headers.length :=
    Nat.le_of_eq (sound.even row (List.mem_of_getElem? here))
  have told : ∀ j cell, (s.headers.zip row)[j]? = some cell →
      (x.contains s ⟨i, cell.1⟩ = true ↔
        (b.top ≤ i ∧ i ≤ b.bottom) ∧ b.left ≤ j ∧ j ≤ b.right) := by
    intro j cell hj
    have label := (List.getElem?_zip_eq_some.mp hj).1
    rw [contains_header sound block inside label, Block.contains_iff]
    omega
  rw [List.filter_map, List.map_map]
  split
  · rename_i reached
    have cells : (s.headers.zip row).filter (fun cell => x.contains s ⟨i, cell.1⟩) =
        Block.span b.left b.right (s.headers.zip row) := by
      apply Block.filter_eq_span
      intro j cell hj
      rw [told j cell hj]
      simp [reached]
    change ((s.headers.zip row).filter fun cell => x.contains s ⟨i, cell.1⟩).map Prod.snd = _
    rw [cells, Block.map_span, List.map_snd_zip wide, Block.cells]
  · rename_i missed
    have none : (s.headers.zip row).filter (fun cell => x.contains s ⟨i, cell.1⟩) = [] := by
      rw [List.filter_eq_nil_iff]
      intro cell hcell hit
      obtain ⟨j, hj⟩ := List.mem_iff_getElem?.mp hcell
      exact missed ((told j cell hj).mp hit).1
    change ((s.headers.zip row).filter fun cell => x.contains s ⟨i, cell.1⟩).map Prod.snd = []
    rw [none]
    rfl

/-- The two views of the rectangle have the same cells. -/
theorem highlighted_eq_cellList (sound : s.Sound) (block : x.block? s = some b) :
    x.highlighted s = b.cellList s.rows := by
  have rows : x.highlighted s = s.rows.zipIdx.flatMap fun place =>
      if b.top ≤ place.2 ∧ place.2 ≤ b.bottom then b.cells place.1 else [] := by
    rw [highlighted, Sheet.cells, List.filter_flatMap, List.map_flatMap]
    apply List.flatMap_congr
    rintro ⟨row, i⟩ h
    exact highlighted_row sound block (List.mem_zipIdx_iff_getElem?.mp h)
  have outside : ∀ i place, s.rows.zipIdx[i]? = some place → ¬(b.top ≤ i ∧ i ≤ b.bottom) →
      (if b.top ≤ place.2 ∧ place.2 ≤ b.bottom then b.cells place.1 else []) = [] := by
    intro i place h missed
    rw [List.getElem?_zipIdx, Nat.zero_add] at h
    obtain ⟨row, -, rfl⟩ := Option.map_eq_some_iff.mp h
    exact if_neg missed
  have reached : ∀ place ∈ Block.span b.top b.bottom s.rows.zipIdx,
      (if b.top ≤ place.2 ∧ place.2 ≤ b.bottom then b.cells place.1 else []) =
        b.cells place.1 := by
    intro place h
    obtain ⟨i, hi, between⟩ := Block.mem_span h
    rw [List.getElem?_zipIdx, Nat.zero_add] at hi
    obtain ⟨row, -, rfl⟩ := Option.map_eq_some_iff.mp hi
    exact if_pos between
  rw [rows, Block.flatMap_eq_span outside, List.flatMap_congr reached, Block.cellList, Block.rows,
    ← List.zipIdx_map_fst 0 s.rows, ← Block.map_span, List.flatMap_map, List.zipIdx_map_fst]

end Highlighted

/-- The text of a selection is read as a range and written back as it was. The range is the block
that has the rows and the columns of the selection, so a formula that aggregates the range
aggregates exactly the cells that the selection shows as inside. -/
structure ReadAs (x : Selection) (s : Sheet) (b : Block) : Prop where
  block : x.block? s = some b
  top : b.top = x.top
  bottom : b.bottom = x.bottom
  rows : b.top ≤ b.bottom
  columns : b.left ≤ b.right
  parsed : ∃ r, RangeReference.parse x.toText = .ok r ∧ r.toText = x.toText
  resolved : Block.resolve s.rows s.headers x.toText = .ok b
  aggregated : ∀ (f : Function) answer, f.aggregate? = some answer →
    Formula.evaluate ('=' :: (f.name ++ '(' :: (x.toText ++ [')']))) s.rows s.headers =
      .number (answer ((x.highlighted s).filterMap Cell.numericValue?))

/-- A selection has the rows of its block, and its labels are those of the outer columns. -/
theorem block?_eq_some {x : Selection} {s : Sheet} {b : Block} (h : x.block? s = some b) :
    b.top = x.top ∧ b.bottom = x.bottom ∧ s.column? x.first = some b.left ∧
      s.column? x.last = some b.right := by
  obtain ⟨left, first, h⟩ := Option.bind_eq_some_iff.mp h
  obtain ⟨right, last, h⟩ := Option.bind_eq_some_iff.mp h
  cases h
  exact ⟨rfl, rfl, first, last⟩

/-- Two cells of the sheet have a rectangle between them. -/
theorem between?_eq_some {s : Sheet} {a a' : Address} {row col row' col' : Nat}
    (ha : s.position? a = some (row, col)) (ha' : s.position? a' = some (row', col')) :
    ∃ first last, s.headers[min col col']? = some first ∧ s.headers[max col col']? = some last ∧
      between? s a a' = some ⟨min row row', max row row', first, last⟩ := by
  have inside := Sheet.column?_lt (Sheet.position?_eq_some ha).2.2
  have inside' := Sheet.column?_lt (Sheet.position?_eq_some ha').2.2
  have left : min col col' < s.headers.length := by
    change col < s.headers.length at inside
    omega
  have right : max col col' < s.headers.length := by
    change col < s.headers.length at inside
    change col' < s.headers.length at inside'
    omega
  have first := List.getElem?_eq_getElem left
  have last := List.getElem?_eq_getElem right
  refine ⟨_, _, first, last, ?_⟩
  simp [between?, ha, ha', first, last]

/-- From a cell of the sheet something is selected where the other end is in the sheet too. -/
theorem isSome_between? {s : Sheet} {a : Address} (here : (s.position? a).isSome = true)
    (b : Address) : (between? s a b).isSome = (s.position? b).isSome := by
  obtain ⟨⟨row, col⟩, ha⟩ := Option.isSome_iff_exists.mp here
  cases hb : s.position? b with
  | none => simp [between?, ha, hb]
  | some there =>
    obtain ⟨first, last, -, -, drawn⟩ := between?_eq_some ha hb
    rw [drawn]
    rfl

/-- The selection of one cell. -/
def ofCell (a : Address) : Selection :=
  ⟨a.row, a.row, a.col, a.col⟩

theorem isSingle_ofCell (a : Address) : (ofCell a).isSingle = true := by
  simp [isSingle, ofCell]

/-- From a cell to itself only that cell is selected. -/
theorem between?_ofCell {s : Sheet} {a : Address} {row col : Nat}
    (place : s.position? a = some (row, col)) : between? s a a = some (ofCell a) := by
  obtain ⟨rfl, -, column⟩ := Sheet.position?_eq_some place
  have label : s.headers[col]? = some a.col := getElem?_of_idxOf? column
  obtain ⟨first, last, left, right, drawn⟩ := between?_eq_some place place
  rw [Nat.min_self, label] at left
  rw [Nat.max_self, label] at right
  cases left
  cases right
  rw [drawn, Nat.min_self, Nat.max_self]
  rfl

theorem between?_self {s : Sheet} {a : Address} {row col : Nat}
    (place : s.position? a = some (row, col)) :
    ∃ x, between? s a a = some x ∧ x.isSingle = true :=
  ⟨ofCell a, between?_ofCell place, isSingle_ofCell a⟩

/-- A selection of one cell is that of the cell where it was begun. -/
theorem topLeft_of_isSingle {s : Sheet} {a a' : Address} {x : Selection}
    (drawn : between? s a a' = some x) (single : x.isSingle = true) : x.topLeft = a := by
  obtain ⟨⟨row, col⟩, ha, h⟩ := Option.bind_eq_some_iff.mp drawn
  obtain ⟨⟨row', col'⟩, ha', h⟩ := Option.bind_eq_some_iff.mp h
  obtain ⟨first, hfirst, h⟩ := Option.bind_eq_some_iff.mp h
  obtain ⟨last, hlast, h⟩ := Option.bind_eq_some_iff.mp h
  cases h
  obtain ⟨hrow, -, hcol⟩ := Sheet.position?_eq_some ha
  have label : s.headers[col]? = some a.col := getElem?_of_idxOf? hcol
  have same : min row row' = max row row' ∧ first = last := by simpa [isSingle] using single
  have begun : first = a.col := by
    rcases Nat.le_total col col' with le | ge
    · rw [Nat.min_eq_left le, label] at hfirst
      exact (Option.some.inj hfirst).symm
    · rw [Nat.max_eq_left ge, label] at hlast
      exact same.2.trans (Option.some.inj hlast).symm
  have top : min row row' = a.row := by omega
  rw [topLeft, top, begun]

section Texts

variable {s : Sheet} {a a' : Address} {row col row' col' : Nat}

/-- Under generated headers the labels of a selection are those of its columns. -/
theorem between?_label (headers : s.headers = Column.labels s.width)
    (ha : s.position? a = some (row, col)) (ha' : s.position? a' = some (row', col')) :
    between? s a a' = some ⟨min row row', max row row', Column.label (min col col'),
      Column.label (max col col')⟩ := by
  have inside := Sheet.column?_lt (Sheet.position?_eq_some ha).2.2
  have inside' := Sheet.column?_lt (Sheet.position?_eq_some ha').2.2
  obtain ⟨first, last, left, right, drawn⟩ := between?_eq_some ha ha'
  rw [headers, Column.getElem?_labels (by omega)] at left right
  cases left
  cases right
  exact drawn

theorem block?_label (headers : s.headers = Column.labels s.width) (top bottom : Nat)
    {left right : Nat} (hleft : left < s.width) (hright : right < s.width) :
    block? ⟨top, bottom, Column.label left, Column.label right⟩ s =
      some ⟨top, bottom, left, right⟩ := by
  have first : s.column? (Column.label left) = some left := Block.idxOf?_label headers hleft
  have last : s.column? (Column.label right) = some right := Block.idxOf?_label headers hright
  simp [block?, first, last]

/-- What is selected between two cells is read as it is shown. -/
theorem readAs_between (sound : s.Sound) (headers : s.headers = Column.labels s.width)
    (height : s.height < sizeBound) (ha : s.position? a = some (row, col))
    (ha' : s.position? a' = some (row', col')) :
    ∃ x b, between? s a a' = some x ∧ x.ReadAs s b := by
  obtain ⟨-, hrow, hcol⟩ := Sheet.position?_eq_some ha
  obtain ⟨-, hrow', hcol'⟩ := Sheet.position?_eq_some ha'
  have inside := Sheet.column?_lt hcol
  have inside' := Sheet.column?_lt hcol'
  have left : min col col' < s.width := by omega
  have right : max col col' < s.width := by omega
  have block := block?_label headers (min row row') (max row row') left right
  have first : Address.Writable ⟨min row row', Column.label (min col col')⟩ :=
    Relocation.writable_label (by omega)
  have last : Address.Writable ⟨max row row', Column.label (max col col')⟩ :=
    Relocation.writable_label (by omega)
  have leftmost := Block.idxOf?_label headers left
  have rightmost := Block.idxOf?_label headers right
  have bottom : max row row' < s.rows.length := by
    change row < s.rows.length at hrow
    change row' < s.rows.length at hrow'
    omega
  refine ⟨_, _, between?_label headers ha ha', block, rfl, rfl, ?_, ?_, ?_, ?_, ?_⟩
  · change min row row' ≤ max row row'
    omega
  · change min col col' ≤ max col col'
    omega
  · refine ⟨_, RangeReference.parse_written first last, ?_⟩
    simp [RangeReference.toText, Reference.toText, Token.marker, toText, topLeft, bottomRight,
      Address.toText]
  · exact Formula.resolve_rangeText first last leftmost rightmost bottom
  · intro f answer answers
    rw [highlighted_eq_cellList sound block, ← Block.values_eq_cellList]
    exact Formula.evaluate_rangeCall answers first last leftmost rightmost bottom

end Texts

end Selection

namespace FormulaBar

/-- The bar holds a text and behind it at most a range that was put in last, which ends at the
caret. -/
def Extends (b : FormulaBar) (t : Text) : Prop :=
  (b.inserted = none ∧ b.text = t ∧ b.caret = t.length) ∨
    ∃ range, b.inserted = some ⟨t.length, range.length⟩ ∧ b.text = t ++ range

theorem extends_setText (b : FormulaBar) (t : Text) : (b.setText t).Extends t :=
  .inl ⟨rfl, rfl, rfl⟩

theorem Extends.withoutInserted {b : FormulaBar} {t : Text} (h : b.Extends t) :
    b.withoutInserted.text = t ∧ b.withoutInserted.caret = t.length := by
  rcases h with ⟨none, text, caret⟩ | ⟨range, some, text⟩
  · simp [FormulaBar.withoutInserted, none, text, caret]
  · simp [FormulaBar.withoutInserted, some, text]

/-- Whatever was put in last, the next range takes its place. -/
theorem Extends.insertRange {b : FormulaBar} {t : Text} (h : b.Extends t) (range : Text) :
    (b.insertRange range).text = t ++ range ∧ (b.insertRange range).Extends t := by
  obtain ⟨text, caret⟩ := h.withoutInserted
  have new : (b.insertRange range).text = t ++ range := by
    simp [FormulaBar.insertRange, text, caret]
  refine ⟨new, .inr ⟨range, ?_, new⟩⟩
  simp [FormulaBar.insertRange, caret]

end FormulaBar

namespace Editor

theorem raw_congr {e e' : Editor} (same : e'.sheet = e.sheet) (a : Address) :
    e'.raw a = e.raw a := by
  rw [raw, raw, same]

section Reselecting

variable {e : Editor} {a b : Address} {x : Selection}

theorem reselect_eq_self (corners : e.drag = some ⟨a, b⟩)
    (none : Selection.between? e.sheet a b = none) : e.reselect = e := by
  simp [reselect, corners, none]

theorem reselect_eq (corners : e.drag = some ⟨a, b⟩)
    (drawn : Selection.between? e.sheet a b = some x) :
    e.reselect = { e with bar := e.barAfter x, selection := some x } := by
  simp [reselect, corners, drawn]

theorem focused_barAfter (e : Editor) (x : Selection) :
    (e.barAfter x).focused = e.bar.focused := by
  have without : e.bar.withoutInserted.focused = e.bar.focused := by
    rw [FormulaBar.withoutInserted]
    split <;> rfl
  simp only [barAfter]
  split
  · rfl
  · split
    · rfl
    · split
      · exact without
      · rfl

/-- A selection of one cell shows it. -/
theorem barAfter_single (plain : e.editing = none)
    (drawn : Selection.between? e.sheet a b = some x) (single : x.isSingle = true) :
    e.barAfter x = e.bar.setText (e.raw a) := by
  simp [barAfter, plain, single, Selection.topLeft_of_isSingle drawn single]

/-- A click selects a cell of the sheet and shows it, unless one is edited in its place. -/
theorem click_eq {row col : Nat} (place : e.sheet.position? a = some (row, col)) :
    ∃ bar, e.click a = { e with
        selected := some a
        drag := some ⟨a, a⟩
        bar := bar
        selection := some (.ofCell a) } ∧
      (e.editing = none → bar.text = e.raw a) := by
  let clicked : Editor := { e with
    selected := some a, drag := some ⟨a, a⟩, bar := e.bar.unfocus }
  have drawn : Selection.between? e.sheet a a = some (.ofCell a) :=
    Selection.between?_ofCell place
  refine ⟨clicked.barAfter (.ofCell a), reselect_eq (e := clicked) rfl drawn, fun plain => ?_⟩
  rw [barAfter_single (e := clicked) plain drawn (Selection.isSingle_ofCell a)]
  rfl

theorem barAfter_range (plain : e.editing = none) (wide : x.isSingle = false)
    (focused : e.bar.focused = true) : e.barAfter x = e.bar.insertRange x.toText := by
  simp [barAfter, plain, wide, focused]

end Reselecting

/-- A drag that began at an address goes on in an editor as it was before. -/
structure Dragging (a : Address) (e₀ e : Editor) : Prop where
  workbook : e.workbook = e₀.workbook
  held : e.dragging = true
  begun : ∃ stop, e.drag = some ⟨a, stop⟩
  focused : e.bar.focused = e₀.bar.focused
  editing : e.editing = e₀.editing

section Dragging

variable {e₀ e : Editor} {a b : Address} {x : Selection}

theorem Dragging.sheet (dragging : Dragging a e₀ e) : e.sheet = e₀.sheet :=
  congrArg Workbook.sheet dragging.workbook

theorem Dragging.dragOver_eq (dragging : Dragging a e₀ e) (b : Address) :
    e.dragOver b = ({ e with drag := some ⟨a, b⟩ } : Editor).reselect := by
  obtain ⟨stop, corners⟩ := dragging.begun
  simp [Editor.dragOver, corners, dragging.held]

/-- What is not in the sheet is passed over. -/
theorem Dragging.dragOver_outside (dragging : Dragging a e₀ e)
    (outside : Selection.between? e₀.sheet a b = none) :
    e.dragOver b = { e with drag := some ⟨a, b⟩ } :=
  (dragging.dragOver_eq b).trans
    (reselect_eq_self (e := { e with drag := some ⟨a, b⟩ }) rfl (dragging.sheet ▸ outside))

theorem Dragging.dragOver_inside (dragging : Dragging a e₀ e)
    (drawn : Selection.between? e₀.sheet a b = some x) :
    e.dragOver b =
      { e with drag := some ⟨a, b⟩, bar := e.barAfter x, selection := some x } :=
  (dragging.dragOver_eq b).trans
    (reselect_eq (e := { e with drag := some ⟨a, b⟩ }) rfl (dragging.sheet ▸ drawn))

theorem Dragging.dragOver (dragging : Dragging a e₀ e) (b : Address) :
    Dragging a e₀ (e.dragOver b) := by
  cases drawn : Selection.between? e₀.sheet a b with
  | none =>
    rw [dragging.dragOver_outside drawn]
    exact ⟨dragging.workbook, dragging.held, ⟨b, rfl⟩, dragging.focused, dragging.editing⟩
  | some x =>
    rw [dragging.dragOver_inside drawn]
    exact ⟨dragging.workbook, dragging.held, ⟨b, rfl⟩,
      (e.focused_barAfter x).trans dragging.focused, dragging.editing⟩

/-- The pointer may pass over any addresses. -/
theorem Dragging.run (dragging : Dragging a e₀ e) (overs : List Address) :
    Dragging a e₀ (e.run (overs.map .dragOver)) := by
  induction overs generalizing e with
  | nil => exact dragging
  | cons b rest ih => exact ih (dragging.dragOver b)

end Dragging

/-- A selection is being drawn from a cell on the sheet of an editor. If the bar was in focus then,
and no cell edited in its place, the bar holds what the first cell holds, and a range. -/
structure Drawing (e₀ : Editor) (a : Address) (e : Editor) : Prop where
  workbook : e.workbook = e₀.workbook
  held : e.dragging = true
  begun : ∃ stop, e.drag = some ⟨a, stop⟩
  focused : e.bar.focused = e₀.bar.focused
  editing : e.editing = e₀.editing
  bar : e₀.bar.focused = true → e₀.editing = none → e.bar.Extends (e₀.raw a)

section Drawing

variable {e₀ e : Editor} {a b : Address} {x : Selection}

theorem Drawing.dragging (drawing : Drawing e₀ a e) : Dragging a e₀ e :=
  ⟨drawing.workbook, drawing.held, drawing.begun, drawing.focused, drawing.editing⟩

theorem Dragging.drawing (dragging : Dragging a e₀ e)
    (bar : e₀.bar.focused = true → e₀.editing = none → e.bar.Extends (e₀.raw a)) :
    Drawing e₀ a e :=
  ⟨dragging.workbook, dragging.held, dragging.begun, dragging.focused, dragging.editing, bar⟩

theorem Drawing.sheet (drawing : Drawing e₀ a e) : e.sheet = e₀.sheet :=
  drawing.dragging.sheet

theorem drawing_press {row col : Nat} (place : e.sheet.position? a = some (row, col)) :
    Drawing e a (e.press a) := by
  obtain ⟨x, drawn, single⟩ := Selection.between?_self place
  let held : Editor := { e with
    dragging := true, selected := some a, drag := some ⟨a, a⟩, bar := e.bar.settle }
  have pressed : e.press a = { held with bar := held.barAfter x, selection := some x } :=
    reselect_eq (e := held) rfl drawn
  rw [pressed]
  refine ⟨rfl, rfl, ⟨a, rfl⟩, focused_barAfter held x, rfl, ?_⟩
  intro focused plain
  change (held.barAfter x).Extends _
  rw [barAfter_single (e := held) plain drawn single]
  exact FormulaBar.extends_setText _ _

/-- With the button held the bar keeps the text of the first cell, whatever is passed over. -/
theorem Drawing.dragOver (drawing : Drawing e₀ a e) (b : Address) :
    Drawing e₀ a (e.dragOver b) := by
  refine (drawing.dragging.dragOver b).drawing ?_
  intro focused plain
  have here : e.bar.focused = true := drawing.focused.trans focused
  have free : e.editing = none := drawing.editing.trans plain
  cases drawn : Selection.between? e₀.sheet a b with
  | none =>
    rw [drawing.dragging.dragOver_outside drawn]
    exact drawing.bar focused plain
  | some x =>
    rw [drawing.dragging.dragOver_inside drawn]
    change (e.barAfter x).Extends (e₀.raw a)
    cases single : x.isSingle with
    | true =>
      rw [← drawing.sheet] at drawn
      rw [barAfter_single free drawn single, raw_congr drawing.sheet]
      exact e.bar.extends_setText _
    | false =>
      rw [barAfter_range free single here]
      exact ((drawing.bar focused plain).insertRange x.toText).2

/-- The pointer may pass over any cells. -/
theorem Drawing.run (drawing : Drawing e₀ a e) (overs : List Address) :
    Drawing e₀ a (e.run (overs.map .dragOver)) := by
  induction overs generalizing e with
  | nil => exact drawing
  | cons b rest ih => exact ih (drawing.dragOver b)

/-- Where the pointer comes to a cell of the sheet, the rectangle is selected and put into the
bar. -/
theorem Drawing.drawn (drawing : Drawing e₀ a e)
    (drawn : Selection.between? e₀.sheet a b = some x) :
    (e.dragOver b).selection = some x ∧
      (e₀.bar.focused = true → e₀.editing = none → x.isSingle = false →
        (e.dragOver b).bar.text = e₀.raw a ++ x.toText) := by
  rw [drawing.dragging.dragOver_inside drawn]
  refine ⟨rfl, ?_⟩
  intro focused plain wide
  have here : e.bar.focused = true := drawing.focused.trans focused
  have free : e.editing = none := drawing.editing.trans plain
  change (e.barAfter x).text = _
  rw [barAfter_range free wide here]
  exact ((drawing.bar focused plain).insertRange x.toText).1

end Drawing

/-- A selection that is drawn between two cells of a sheet with generated headers, over any cells on
the way, is read as it is shown. Its text stands in the formula bar behind what the first cell
holds, if the bar was in focus, no cell was edited in its place, and the selection is larger than
one cell. -/
theorem run_drawn_range (c : Config) (store : Store) (before : List Action) {a b : Address}
    (overs : List Address) :
    let e := (start c store).run before
    e.sheet.headers = Column.labels e.sheet.width → e.sheet.height < sizeBound →
    (e.sheet.position? a).isSome = true → (e.sheet.position? b).isSome = true →
    let drawn := e.run (.press a :: (overs.map .dragOver ++ [.dragOver b]))
    ∃ x block, Selection.between? e.sheet a b = some x ∧ x.ReadAs e.sheet block ∧
      drawn.selection = some x ∧ drawn.sheet = e.sheet ∧
      (e.bar.focused = true → e.editing = none → x.isSingle = false →
        drawn.bar.text = e.raw a ++ x.toText) := by
  intro e headers height here there drawn
  obtain ⟨⟨row, col⟩, ha⟩ := Option.isSome_iff_exists.mp here
  obtain ⟨⟨row', col'⟩, hb⟩ := Option.isSome_iff_exists.mp there
  have sound : e.sheet.Sound := sheet_sound (valid_run c store before).workbook
  obtain ⟨x, block, between, reads⟩ := Selection.readAs_between sound headers height ha hb
  have drawing : Drawing e a ((e.press a).run (overs.map .dragOver)) := (drawing_press ha).run overs
  have ends : drawn = ((e.press a).run (overs.map .dragOver)).dragOver b := by
    change List.foldl _ _ _ = _
    rw [List.foldl_cons, List.foldl_append]
    rfl
  obtain ⟨selection, bar⟩ := drawing.drawn between
  rw [ends]
  exact ⟨x, block, between, reads, selection, (drawing.dragOver b).sheet, bar⟩

/-- The beginning of a sum in the second row of column `AA`, a number above and to the left of it,
and the formula bar in focus. -/
def sumBegun : List Action :=
  [.write ⟨0, ['Z']⟩ ['4'], .write ⟨1, ['A', 'A']⟩ "=SUM(".toList, .focusBar]

/-- Drawn upward and to the left, past a cell further up, the range begins with the label that comes
first on the sheet. -/
theorem sumBegun_drawn :
    let e := (start ⟨2, 28, 1, 300⟩ ⟨.memory, .nothing, true, true, 0⟩).run sumBegun
    let drawn := e.run [.press ⟨1, ['A', 'A']⟩, .dragOver ⟨0, ['A']⟩, .dragOver ⟨0, ['Z']⟩]
    drawn.bar.text = "=SUM(Z1:AA2".toList ∧
      Formula.evaluate "=SUM(Z1:AA2)".toList e.sheet.rows e.sheet.headers =
        .number (Aggregate.sum ([.text ['4'], .empty, .empty, .text "=SUM(".toList].filterMap
          Cell.numericValue?)) := by
  intro e drawn
  obtain ⟨x, block, between, reads, -, -, bar⟩ :=
    run_drawn_range ⟨2, 28, 1, 300⟩ ⟨.memory, .nothing, true, true, 0⟩ sumBegun
      (a := ⟨1, ['A', 'A']⟩) (b := ⟨0, ['Z']⟩) [⟨0, ['A']⟩] (by decide) (by decide) (by decide)
      (by decide)
  have range : x = ⟨0, 1, ['Z'], ['A', 'A']⟩ := by
    have found : Selection.between? e.sheet ⟨1, ['A', 'A']⟩ ⟨0, ['Z']⟩ =
        some ⟨0, 1, ['Z'], ['A', 'A']⟩ := by decide
    exact Option.some.inj (between.symm.trans found)
  subst range
  have cells : Selection.highlighted ⟨0, 1, ['Z'], ['A', 'A']⟩ e.sheet =
      [.text ['4'], .empty, .empty, .text "=SUM(".toList] := by decide
  constructor
  · have text := bar (by decide) (by decide) (by decide)
    have range : e.raw ⟨1, ['A', 'A']⟩ ++ Selection.toText ⟨0, 1, ['Z'], ['A', 'A']⟩ =
        "=SUM(Z1:AA2".toList := by decide
    have walked : drawn = ((start ⟨2, 28, 1, 300⟩ ⟨.memory, .nothing, true, true, 0⟩).run
        sumBegun).run [.press ⟨1, ['A', 'A']⟩, .dragOver ⟨0, ['A']⟩, .dragOver ⟨0, ['Z']⟩] := rfl
    simp only [List.map_cons, List.map_nil, List.cons_append, List.nil_append] at text
    rw [walked]
    exact text.trans range
  · have sum := reads.aggregated .sum Aggregate.sum rfl
    rw [cells] at sum
    exact sum

end Editor

end Spreadsheet
