import Spreadsheet.Proofs.DrawnRanges
import Spreadsheet.Proofs.SheetHeights

/-!
# Selections and changing headers

A selection is drawn from left to right and remembers two labels, and a change of the columns labels
them anew. Labels that stood in the order of their columns still do then. Other headers may stand in
any order, so a selection that was drawn on `B`, `A` lies backwards once the headers are generated;
nothing else turns a selection around. Workbooks whose labels stand in order, such as all that were
begun here, never let it happen.
-/

namespace Spreadsheet

namespace Column

/-- Whether a header is the label of a column. -/
def isLabel (t : Text) : Bool :=
  !t.isEmpty && t.all Char.isUpper

/-- The labels among some headers stand in the order of the columns that they label. -/
def InOrder (headers : List Text) : Prop :=
  headers.Pairwise fun t u => isLabel t = true → isLabel u = true → count t ≤ count u

instance (headers : List Text) : Decidable (InOrder headers) :=
  inferInstanceAs (Decidable (List.Pairwise _ _))

theorem isLabel_label (n : Nat) : isLabel (label n) = true := by
  simp [isLabel, label_ne_nil, label_all_isUpper, -List.all_eq_true]

theorem getElem?_labels_eq_some {width i : Nat} {t : Text} (h : (labels width)[i]? = some t) :
    t = label i := by
  have inside := (List.getElem?_eq_some_iff.mp h).1
  rw [length_labels] at inside
  rw [getElem?_labels inside] at h
  exact (Option.some.inj h).symm

theorem inOrder_labels (width : Nat) : InOrder (labels width) := by
  refine List.pairwise_iff_getElem.mpr ?_
  intro i j hi hj before _ _
  have first := getElem?_labels_eq_some (List.getElem?_eq_getElem hi)
  have second := getElem?_labels_eq_some (List.getElem?_eq_getElem hj)
  rw [first, second, count_label, count_label]
  omega

end Column

namespace Selection

/-- On a sheet that has both columns, the first is not behind the last. -/
def Forward (x : Selection) (s : Sheet) : Prop :=
  ∀ i j, s.column? x.first = some i → s.column? x.last = some j → i ≤ j

/-- Where both columns are labels, the first does not come after the last. -/
def Lettered (x : Selection) : Prop :=
  Column.isLabel x.first = true → Column.isLabel x.last = true →
    Column.count x.first ≤ Column.count x.last

section Drawn

variable {s : Sheet} {a b : Address} {x : Selection}

/-- A selection that is drawn begins at a column that is not behind the one where it ends. -/
theorem columns_of_between? (drawn : between? s a b = some x) :
    ∃ i j : Nat, i ≤ j ∧ s.headers[i]? = some x.first ∧ s.headers[j]? = some x.last := by
  obtain ⟨⟨row, col⟩, -, h⟩ := Option.bind_eq_some_iff.mp drawn
  obtain ⟨⟨row', col'⟩, -, h⟩ := Option.bind_eq_some_iff.mp h
  obtain ⟨first, left, h⟩ := Option.bind_eq_some_iff.mp h
  obtain ⟨last, right, h⟩ := Option.bind_eq_some_iff.mp h
  cases h
  exact ⟨min col col', max col col', by omega, left, right⟩

theorem forward_of_between? (distinct : s.headers.Nodup) (drawn : between? s a b = some x) :
    x.Forward s := by
  obtain ⟨i, j, le, first, last⟩ := columns_of_between? drawn
  intro i' j' left right
  have same : i' = i :=
    Option.some.inj (left.symm.trans ((idxOf?_iff_getElem? distinct).mpr first))
  have same' : j' = j :=
    Option.some.inj (right.symm.trans ((idxOf?_iff_getElem? distinct).mpr last))
  omega

theorem lettered_of_between? (ordered : Column.InOrder s.headers)
    (drawn : between? s a b = some x) : x.Lettered := by
  obtain ⟨i, j, le, first, last⟩ := columns_of_between? drawn
  intro label label'
  by_cases same : i = j
  · subst same
    have one : x.first = x.last := Option.some.inj (first.symm.trans last)
    exact Nat.le_of_eq (congrArg Column.count one)
  · obtain ⟨hi, first⟩ := List.getElem?_eq_some_iff.mp first
    obtain ⟨hj, last⟩ := List.getElem?_eq_some_iff.mp last
    have apart := List.pairwise_iff_getElem.mp ordered i j hi hj (by omega)
    rw [first, last] at apart
    exact apart label label'

/-- Under generated headers the labels tell which column comes first. -/
theorem Lettered.forward (lettered : x.Lettered) {width : Nat}
    (generated : s.headers = Column.labels width) : x.Forward s := by
  have told : ∀ {t : Text} {i : Nat}, s.column? t = some i → t = Column.label i := by
    intro t i found
    have here := getElem?_of_idxOf? found
    rw [generated] at here
    exact Column.getElem?_labels_eq_some here
  intro i j left right
  have first := told left
  have last := told right
  rw [Lettered, first, last, Column.count_label, Column.count_label] at lettered
  have counts := lettered (Column.isLabel_label i) (Column.isLabel_label j)
  omega

end Drawn

end Selection

/-- A block that goes down and to the right from a cell of the grid. -/
structure Block.Covers (b : Block) (g : Grid) : Prop where
  rows : b.top ≤ b.bottom
  columns : b.left ≤ b.right
  corner : (g.cell? b.top b.left).isSome = true

/-- The headers of every sheet have a property. -/
def Workbook.Headed (P : List Text → Prop) (w : Workbook) : Prop :=
  ∀ s ∈ w.sheets, P s.headers

instance (P : List Text → Prop) [DecidablePred P] (w : Workbook) : Decidable (w.Headed P) :=
  inferInstanceAs (Decidable (∀ s ∈ w.sheets, P s.headers))

namespace Editor

section Headers

variable {e e' : Editor} {P : List Text → Prop}

/-- Headers stay or are generated. -/
theorem OnSheet.headers (valid : e.Valid) (h : OnSheet e e') :
    e'.sheet.headers = e.sheet.headers ∨ ∃ width, e'.sheet.headers = Column.labels width := by
  cases h with
  | inPlace h =>
    cases h with
    | look kept => exact .inl (congrArg Sheet.headers kept.sheet)
    | select kept => exact .inl (congrArg Sheet.headers kept.sheet)
    | cells shape replaced =>
      rw [replaced.sheet valid]
      exact .inl rfl
  | sort col direction time =>
    rw [valid.sheet_sortByIndex]
    exact .inl rfl
  | restore sorted =>
    rw [valid.sheet_restoreOrder sorted]
    exact .inl rfl
  | arrange arranged replaced =>
    rw [replaced.sheet valid]
    exact arranged.headers

/-- Every sheet is an old one or the active one. -/
theorem OnSheet.mem_sheets (valid : e.Valid) (h : OnSheet e e') {s : Sheet}
    (hs : s ∈ e'.workbook.sheets) : s ∈ e.workbook.sheets ∨ s = e'.sheet := by
  rcases h.workbook with same | ⟨headers, rows, replaced⟩
  · rw [same] at hs
    exact .inl hs
  · have active : e'.sheet = { e.sheet with headers := headers, rows := rows } := by
      rw [Editor.sheet, replaced]
      exact valid.workbook.sheet_setSheet _
    rw [active]
    rw [replaced] at hs
    exact List.mem_or_eq_of_mem_set hs

theorem OnSheet.headed (generated : ∀ width, P (Column.labels width)) (valid : e.Valid)
    (headed : e.workbook.Headed P) (h : OnSheet e e') : e'.workbook.Headed P := by
  intro s hs
  rcases h.mem_sheets valid hs with old | rfl
  · exact headed s old
  · rcases h.headers valid with same | ⟨width, new⟩
    · rw [same]
      exact headed _ (List.mem_of_getElem? valid.workbook.getElem?_active)
    · rw [new]
      exact generated width

theorem headed_freshSheets (generated : ∀ width, P (Column.labels width)) (c : Config) (n : Nat) :
    ∀ s ∈ freshSheets c n, P s.headers := by
  intro s hs
  obtain ⟨i, -, rfl⟩ := List.mem_map.mp hs
  exact generated c.columns

theorem headed_renumbered (headed : e.workbook.Headed P) : e.renumbered.workbook.Headed P := by
  intro s hs
  obtain ⟨old, hold, id, rfl⟩ := Workbook.exists_of_mem_renumber hs
  exact headed old hold

/-- Headers are generated or stood in a workbook from outside. -/
theorem headed_start (generated : ∀ width, P (Column.labels width)) (c : Config) {store : Store}
    (found : ∀ w, stored store = .ok (some w) → w.Headed P) : (start c store).workbook.Headed P := by
  rcases start_cases c store with ⟨-, started⟩ | ⟨w, h, started⟩
  · rw [started]
    exact headed_freshSheets generated _ _
  · rcases (fresh c.normalized store).adopt_cases w with same | renumbered
    · rw [started, same]
      exact found w h
    · rw [started, renumbered]
      exact headed_renumbered (found w h)

theorem headed_addSheet (generated : ∀ width, P (Column.labels width))
    (headed : e.workbook.Headed P) : e.addSheet.workbook.Headed P := by
  have free : e.withFreeId.workbook.Headed P := by
    rcases e.withFreeId_cases with same | renumbered
    · rw [same]
      exact headed
    · rw [renumbered]
      exact headed_renumbered headed
  intro s hs
  rcases List.mem_append.mp hs with old | new
  · exact free s old
  · rw [List.mem_singleton.mp new]
    exact generated _

theorem headed_perform (generated : ∀ width, P (Column.labels width)) (valid : e.Valid)
    (headed : e.workbook.Headed P) (action : Action)
    (outside : ∀ w, action = .openWorkbook w → w.Headed P) :
    (e.perform action).2.workbook.Headed P := by
  cases exchanges : action.exchanges with
  | false => exact (perform_onSheet e exchanges).headed generated valid headed
  | true =>
    cases action with
    | addSheet => exact headed_addSheet generated headed
    | removeSheet i =>
      refine ifDone_of (P := (·.workbook.Headed P)) headed ?_
      intro e' h s hs
      obtain ⟨-, -, rfl⟩ := removeSheet?_eq_some h
      obtain ⟨old, hold, i, rfl⟩ := Workbook.exists_of_mem_renameAll hs
      exact headed old (List.mem_of_mem_eraseIdx hold)
    | selectSheet i =>
      refine ifDone_of (P := (·.workbook.Headed P)) headed ?_
      intro e' h
      obtain ⟨-, -, rfl⟩ := selectSheet?_eq_some h
      exact headed
    | newFile => exact headed_freshSheets generated _ _
    | openWorkbook w =>
      refine ifAccepted_of (P := (·.workbook.Headed P)) headed ?_
      intro e' h
      obtain ⟨-, rfl⟩ := openWorkbook_eq_ok h
      exact headed_renumbered (e := { e with workbook := ⟨w.sheets, 0⟩ }) (outside w rfl)
    | _ => cases exchanges

end Headers

section Selecting

variable {e e' : Editor}

/-- A selection stays, goes, or is drawn on a sheet that stays. -/
theorem OnSheet.selection (h : OnSheet e e') :
    e'.selection = e.selection ∨ e'.selection = none ∨
      ∃ a b x, Selection.between? e.sheet a b = some x ∧ e'.selection = some x ∧
        e'.sheet = e.sheet := by
  cases h with
  | inPlace h =>
    cases h with
    | look kept same => exact .inl same
    | select kept drawn new => exact .inr (.inr ⟨_, _, _, drawn, new, kept.sheet⟩)
    | cells shape replaced sort same => exact .inl same
  | sort => exact .inl rfl
  | restore sorted =>
    simp only [restoreOrder, sorted]
    split
    · exact .inl rfl
    · exact .inl rfl
  | arrange arranged replaced sort selection =>
    rcases selection with same | gone
    · exact .inl same
    · exact .inr (.inl gone)

/-- Whatever exchanges sheets clears the selection. -/
theorem Change.selection (h : Change e e') : OnSheet e e' ∨ e'.selection = none := by
  cases h with
  | onSheet h => exact .inl h
  | addSheet => exact .inr rfl
  | removeSheet i h =>
    obtain ⟨-, -, rfl⟩ := removeSheet?_eq_some h
    exact .inr rfl
  | selectSheet i h =>
    obtain ⟨-, -, rfl⟩ := selectSheet?_eq_some h
    exact .inr rfl
  | newFile => exact .inr rfl
  | openWorkbook w h =>
    obtain ⟨-, rfl⟩ := openWorkbook_eq_ok h
    exact .inr rfl

/-- A selection lies forward, or the headers are generated. -/
def ForwardUnlessGenerated (e : Editor) : Prop :=
  ∀ x, e.selection = some x →
    x.Forward e.sheet ∨ ∃ width, e.sheet.headers = Column.labels width

theorem Change.forwardUnlessGenerated (valid : e.Valid) (before : ForwardUnlessGenerated e)
    (h : Change e e') : ForwardUnlessGenerated e' := by
  intro x hx
  rcases h.selection with h | gone
  · rcases h.selection with same | gone | ⟨a, b, y, drawn, new, sheet⟩
    · rcases h.headers valid with headers | generated
      · rcases before x (same ▸ hx) with forward | generated
        · refine .inl fun i j left right => forward i j ?_ ?_
          · rwa [Sheet.column?, headers] at left
          · rwa [Sheet.column?, headers] at right
        · rw [headers]
          exact .inr generated
      · exact .inr generated
    · rw [gone] at hx
      cases hx
    · rw [new] at hx
      cases hx
      rw [sheet]
      exact .inl (Selection.forward_of_between? (sheet_sound valid.workbook).distinct drawn)
  · rw [gone] at hx
    cases hx

theorem lettered_perform (valid : e.Valid) (ordered : e.workbook.Headed Column.InOrder)
    (before : ∀ x, e.selection = some x → x.Lettered) (action : Action) :
    ∀ x, (e.perform action).2.selection = some x → x.Lettered := by
  intro x hx
  rcases (perform_change e action).selection with h | gone
  · rcases h.selection with same | gone | ⟨a, b, y, drawn, new, -⟩
    · exact before x (same ▸ hx)
    · rw [gone] at hx
      cases hx
    · rw [new] at hx
      cases hx
      have active := ordered _ (List.mem_of_getElem? valid.workbook.getElem?_active)
      exact Selection.lettered_of_between? active drawn
  · rw [gone] at hx
    cases hx

/-- Where labels stand in order on all sheets, those of a selection do too. -/
theorem lettered_run (valid : e.Valid) (ordered : e.workbook.Headed Column.InOrder)
    (before : ∀ x, e.selection = some x → x.Lettered) (actions : List Action)
    (outside : ∀ w, .openWorkbook w ∈ actions → w.Headed Column.InOrder) :
    ∀ x, (e.run actions).selection = some x → x.Lettered := by
  induction actions generalizing e with
  | nil => exact before
  | cons action rest ih =>
    refine ih ((perform_change e action).valid valid) ?_ (lettered_perform valid ordered before action)
      fun w hw => outside w (List.mem_cons_of_mem action hw)
    refine headed_perform Column.inOrder_labels valid ordered action ?_
    rintro w rfl
    exact outside w List.mem_cons_self

theorem start_selection (c : Config) (store : Store) : (start c store).selection = none := by
  obtain ⟨w, nextId, started⟩ := exists_start c store
  rw [started]
  rfl

theorem forwardUnlessGenerated_run (c : Config) (store : Store) (actions : List Action) :
    ForwardUnlessGenerated ((start c store).run actions) := by
  have first : ForwardUnlessGenerated (start c store) := by
    intro x hx
    rw [start_selection] at hx
    cases hx
  have both := run_preserves (P := fun e => e.Valid ∧ ForwardUnlessGenerated e)
    (fun _ _ before change =>
      ⟨change.valid before.1, change.forwardUnlessGenerated before.1 before.2⟩)
    ⟨valid_start c store, first⟩ actions
  exact both.2

end Selecting

/-- Whenever the sheet has both columns of a selection and its headers are not the generated ones,
the selection covers a cell, from left to right; and so it does under any headers if, in every
workbook that was found or opened, the labels among the headers stand in order. -/
theorem run_selection_forward (c : Config) (store : Store) (actions : List Action) :
    let e := (start c store).run actions
    ∀ x b, e.selection = some x → x.block? e.sheet = some b →
      (e.sheet.headers ≠ Column.labels e.sheet.width → b.Covers e.sheet.rows) ∧
      ((∀ w, stored store = .ok (some w) → w.Headed Column.InOrder) →
        (∀ w, .openWorkbook w ∈ actions → w.Headed Column.InOrder) → b.Covers e.sheet.rows) := by
  intro e x b selected block
  have valid : e.Valid := valid_run c store actions
  obtain ⟨-, -, left, right⟩ := Selection.block?_eq_some block
  have covers : x.Forward e.sheet → b.Covers e.sheet.rows := by
    intro forward
    obtain ⟨rows, bottom, inside, -⟩ := valid.block_inside selected block
    obtain ⟨cell, corner⟩ := Grid.exists_cell? (sheet_sound valid.workbook).even
      (show b.top < e.sheet.rows.length from Nat.lt_of_le_of_lt rows bottom) inside
    exact ⟨rows, forward _ _ left right, by rw [corner]; rfl⟩
  have lies := forwardUnlessGenerated_run c store actions x selected
  constructor
  · intro other
    rcases lies with forward | ⟨width, generated⟩
    · exact covers forward
    · refine absurd ?_ other
      rw [Sheet.width, generated, Column.length_labels]
  · intro found opened
    rcases lies with forward | ⟨width, generated⟩
    · exact covers forward
    · have lettered := lettered_run (valid_start c store) (headed_start Column.inOrder_labels c found)
        (fun y hy => absurd (start_selection c store) (by rw [hy]; simp)) actions opened x selected
      exact covers (lettered.forward generated)

/-- One row under two labels and another header. -/
def pricedItems : Workbook :=
  ⟨[⟨"Prices".toList, 1, ["Item".toList, ['A'], ['C']],
    [[.text "tea".toList, .text ['2'], .text ['3']]]⟩], 0⟩

/-- Both labels are selected, from right to left, and keep their order when a column is put in before
all others. -/
theorem pricedItems_selected :
    let e := (start ⟨1, 2, 1, 300⟩ ⟨.memory, .kept pricedItems, true, true, 0⟩).run
      [.press ⟨0, ['C']⟩, .dragOver ⟨0, ['A']⟩, .edit .insertColumnLeft ⟨0, "Item".toList⟩]
    e.sheet.headers = [['A'], ['B'], ['C'], ['D']] ∧ Block.Covers ⟨0, 0, 0, 2⟩ e.sheet.rows := by
  have found : ∀ w, stored ⟨.memory, .kept pricedItems, true, true, 0⟩ = .ok (some w) →
      w.Headed Column.InOrder := by
    intro w found
    have taken : stored ⟨.memory, .kept pricedItems, true, true, 0⟩ = .ok (some pricedItems) := by
      decide
    rw [taken] at found
    cases found
    decide
  have covers := run_selection_forward ⟨1, 2, 1, 300⟩ ⟨.memory, .kept pricedItems, true, true, 0⟩
    [.press ⟨0, ['C']⟩, .dragOver ⟨0, ['A']⟩, .edit .insertColumnLeft ⟨0, "Item".toList⟩]
    ⟨0, 0, ['A'], ['C']⟩ ⟨0, 0, 0, 2⟩ (by decide) (by decide)
  exact ⟨by decide, covers.2 found fun w hw => by simp at hw⟩

/-- One row under the first two labels, the other way around. -/
def swappedHeaders : Workbook :=
  ⟨[⟨"Swapped".toList, 1, [['B'], ['A']], [[.text ['x'], .text ['y']]]⟩], 0⟩

/-- Once a column has been put in, a selection of the row lies backwards and covers nothing: it does
not contain its own corner, and a copy of it is empty. -/
theorem swappedHeaders_reversed :
    let e := (start ⟨1, 2, 1, 300⟩ ⟨.memory, .kept swappedHeaders, true, true, 0⟩).run
      [.press ⟨0, ['B']⟩, .dragOver ⟨0, ['A']⟩, .edit .insertColumnRight ⟨0, ['A']⟩]
    e.sheet.headers = [['A'], ['B'], ['C']] ∧ e.selection = some ⟨0, 0, ['B'], ['A']⟩ ∧
      e.sheet.column? ['B'] = some 1 ∧ e.sheet.column? ['A'] = some 0 ∧
      e.selection.map (·.contains e.sheet ⟨0, ['B']⟩) = some false ∧
      (e.perform .copy).1 = .text (some []) ∧ (e.perform .fillRight).1 = .done true := by
  decide

end Editor

end Spreadsheet
