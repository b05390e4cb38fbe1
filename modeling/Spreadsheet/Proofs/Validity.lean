import Spreadsheet.Proofs.Changes
import Spreadsheet.Proofs.RowOrder

/-!
# Valid editors

What an editor relies on between two actions: its workbook is sound, a selection lies on rows of the
active sheet, and a sort remembers an order of all its rows and one of its columns. An editor starts
valid whatever its store holds, and every change keeps it so.
-/

namespace Spreadsheet

namespace Workbook

theorem getElem?_renumber (sheets : List Sheet) (i : Nat) :
    (renumber sheets)[i]? = sheets[i]?.map fun s => { s with id := i + 1 } := by
  simp [renumber]

theorem getElem?_renameAll (sheets : List Sheet) (i : Nat) :
    (renameAll sheets)[i]? = sheets[i]?.map fun s => { s with name := numberedName (i + 1) } := by
  simp [renameAll]

theorem exists_of_mem_renumber {sheets : List Sheet} {s : Sheet} (h : s ∈ renumber sheets) :
    ∃ old ∈ sheets, ∃ id, s = { old with id := id } := by
  obtain ⟨i, hi⟩ := List.mem_iff_getElem?.mp h
  rw [getElem?_renumber] at hi
  obtain ⟨old, hold, rfl⟩ := Option.map_eq_some_iff.mp hi
  exact ⟨old, List.mem_of_getElem? hold, i + 1, rfl⟩

theorem exists_of_mem_renameAll {sheets : List Sheet} {s : Sheet} (h : s ∈ renameAll sheets) :
    ∃ old ∈ sheets, ∃ n, s = { old with name := numberedName n } := by
  obtain ⟨i, hi⟩ := List.mem_iff_getElem?.mp h
  rw [getElem?_renameAll] at hi
  obtain ⟨old, hold, rfl⟩ := Option.map_eq_some_iff.mp hi
  exact ⟨old, List.mem_of_getElem? hold, i + 1, rfl⟩

theorem sound_of_mem_renumber {sheets : List Sheet} (sound : ∀ s ∈ sheets, s.Sound) {s : Sheet}
    (h : s ∈ renumber sheets) : s.Sound := by
  obtain ⟨old, hold, id, rfl⟩ := exists_of_mem_renumber h
  have before := sound old hold
  exact ⟨before.named, before.headed, before.distinct, before.even⟩

theorem sound_of_mem_renameAll {sheets : List Sheet} (sound : ∀ s ∈ sheets, s.Sound) {s : Sheet}
    (h : s ∈ renameAll sheets) : s.Sound := by
  obtain ⟨old, hold, n, rfl⟩ := exists_of_mem_renameAll h
  have before := sound old hold
  exact ⟨numberedName_trim_ne_nil _, before.headed, before.distinct, before.even⟩

theorem Sound.renumber {w : Workbook} (sound : w.Sound) :
    ({ w with sheets := renumber w.sheets } : Workbook).Sound where
  sheets := fun _ => sound_of_mem_renumber sound.sheets
  active := by
    simpa [Workbook.renumber] using sound.active

end Workbook

namespace Editor

theorem sheet_sound {e : Editor} (sound : e.workbook.Sound) : e.sheet.Sound :=
  sound.sheet_sound

structure Valid (e : Editor) : Prop where
  columns : 0 < e.config.columns
  workbook : e.workbook.Sound
  selection : ∀ x, e.selection = some x → x.top ≤ x.bottom ∧ x.bottom < e.sheet.height
  sort : ∀ s, e.sort = some s → IsOrder e.sheet.height s.order ∧ s.column ∈ e.sheet.headers

/-- With nothing selected and nothing sorted only the workbook matters. -/
theorem Valid.of_sound {e : Editor} (columns : 0 < e.config.columns) (workbook : e.workbook.Sound)
    (selection : e.selection = none) (sort : e.sort = none) : e.Valid where
  columns := columns
  workbook := workbook
  selection := by
    intro x hx
    rw [selection] at hx
    cases hx
  sort := by
    intro s hs
    rw [sort] at hs
    cases hs

theorem sound_of_mem_freshSheets {c : Config} (columns : 0 < c.columns) {n : Nat} {s : Sheet}
    (h : s ∈ freshSheets c n) : s.Sound := by
  obtain ⟨i, -, rfl⟩ := List.mem_map.mp h
  exact Sheet.sound_blank (Workbook.numberedName_trim_ne_nil _) _ _ columns

theorem valid_fresh (c : Config) (store : Store) : (fresh c.normalized store).Valid := by
  have columns : 0 < c.normalized.columns := Nat.lt_of_lt_of_le Nat.one_pos (Nat.le_max_right _ _)
  have sheets : 0 < c.normalized.initialSheets :=
    Nat.lt_of_lt_of_le Nat.one_pos (Nat.le_max_right _ _)
  refine .of_sound columns ⟨fun s hs => sound_of_mem_freshSheets columns hs, ?_⟩ rfl rfl
  simpa [fresh, freshSheets] using sheets

theorem adopt_cases (e : Editor) (w : Workbook) :
    e.adopt w = { e with workbook := w, nextId := ((w.sheets.map Sheet.id).foldl max 0) + 1 } ∨
      e.adopt w = ({ e with workbook := w } : Editor).renumbered := by
  simp only [adopt]
  split
  · exact .inl rfl
  · exact .inr rfl

theorem Valid.adopt {e : Editor} (valid : e.Valid) (selection : e.selection = none)
    (sort : e.sort = none) {w : Workbook} (sound : w.Sound) : (e.adopt w).Valid := by
  rcases e.adopt_cases w with h | h
  · rw [h]
    exact .of_sound valid.columns sound selection sort
  · rw [h]
    exact .of_sound valid.columns sound.renumber selection sort

/-- Only sound workbooks are taken from a store. -/
theorem sound_of_stored {store : Store} {w : Workbook} (h : stored store = .ok (some w)) :
    w.Sound := by
  simp only [stored] at h
  split at h
  · cases h
  · cases h
  · split at h
    · rename_i checked
      cases h
      obtain ⟨rfl, sound⟩ := Workbook.checked_eq_ok_iff.mp checked
      exact sound
    · cases h

/-- An editor starts with fresh sheets unless its store holds a sound workbook. -/
theorem start_cases (c : Config) (store : Store) :
    ((∀ w, stored store ≠ .ok (some w)) ∧ start c store = fresh c.normalized store) ∨
      ∃ w, stored store = .ok (some w) ∧ start c store = (fresh c.normalized store).adopt w := by
  unfold start
  split
  · rename_i w found
    exact .inr ⟨w, found, rfl⟩
  · rename_i none
    exact .inl ⟨none, rfl⟩

/-- Only the workbook and the next id depend on what the store holds. -/
theorem exists_start (c : Config) (store : Store) : ∃ w nextId,
    start c store = { fresh c.normalized store with workbook := w, nextId := nextId } := by
  rcases start_cases c store with ⟨-, started⟩ | ⟨w, -, started⟩
  · exact ⟨_, _, started⟩
  · rcases (fresh c.normalized store).adopt_cases w with adopted | adopted
    · exact ⟨_, _, started.trans adopted⟩
    · exact ⟨_, _, started.trans adopted⟩

theorem valid_start (c : Config) (store : Store) : (start c store).Valid := by
  rcases start_cases c store with ⟨-, started⟩ | ⟨w, found, started⟩
  · rw [started]
    exact valid_fresh c store
  · rw [started]
    exact (valid_fresh c store).adopt rfl rfl (sound_of_stored found)

section Changes

variable {e e' : Editor}

theorem Keeps.valid (kept : Keeps e e') (valid : e.Valid)
    (selection : ∀ x, e'.selection = some x → x.top ≤ x.bottom ∧ x.bottom < e.sheet.height) :
    e'.Valid where
  columns := kept.config ▸ valid.columns
  workbook := kept.workbook ▸ valid.workbook
  selection := kept.sheet ▸ selection
  sort := by
    rw [kept.sort, kept.sheet]
    exact valid.sort

theorem Replaces.sheet {s : Sheet} (replaced : Replaces e e' s) (valid : e.Valid) :
    e'.sheet = s := by
  rw [Editor.sheet, replaced.workbook]
  exact valid.workbook.sheet_setSheet s

/-- A selection that is drawn lies on rows of the sheet. -/
theorem rows_of_between? {s : Sheet} {a b : Address} {x : Selection}
    (h : Selection.between? s a b = some x) : x.top ≤ x.bottom ∧ x.bottom < s.height := by
  obtain ⟨⟨row₁, col₁⟩, ha, h⟩ := Option.bind_eq_some_iff.mp h
  obtain ⟨⟨row₂, col₂⟩, hb, h⟩ := Option.bind_eq_some_iff.mp h
  obtain ⟨first, -, h⟩ := Option.bind_eq_some_iff.mp h
  obtain ⟨last, -, h⟩ := Option.bind_eq_some_iff.mp h
  cases h
  have inside₁ := (Sheet.position?_eq_some ha).2.1
  have inside₂ := (Sheet.position?_eq_some hb).2.1
  dsimp only
  omega

/-- A selection stays on the rows of a sheet that becomes no shorter. -/
theorem Valid.selection_le (valid : e.Valid) {n : Nat} (taller : e.sheet.height ≤ n)
    (x : Selection) (hx : e.selection = some x) : x.top ≤ x.bottom ∧ x.bottom < n := by
  have rows := valid.selection x hx
  omega

/-- The block of a selection lies in the sheet. -/
theorem Valid.block_inside (valid : e.Valid) {x : Selection} (selected : e.selection = some x)
    {b : Block} (h : x.block? e.sheet = some b) :
    b.top ≤ b.bottom ∧ b.bottom < e.sheet.height ∧ b.left < e.sheet.width ∧
      b.right < e.sheet.width := by
  obtain ⟨left, hleft, h⟩ := Option.bind_eq_some_iff.mp h
  obtain ⟨right, hright, h⟩ := Option.bind_eq_some_iff.mp h
  cases h
  have rows := valid.selection x selected
  exact ⟨rows.1, rows.2, Sheet.column?_lt hleft, Sheet.column?_lt hright⟩

/-- So does the selected cell, where there is no selection. -/
theorem Valid.selectedBlock_inside (valid : e.Valid) {b : Block} (h : e.selectedBlock? = some b) :
    b.bottom < e.sheet.height ∧ b.right < e.sheet.width := by
  rw [selectedBlock?] at h
  split at h
  · rename_i x selected
    obtain ⟨-, bottom, -, right⟩ := valid.block_inside selected h
    exact ⟨bottom, right⟩
  · obtain ⟨a, -, h⟩ := Option.bind_eq_some_iff.mp h
    obtain ⟨⟨row, col⟩, place, h⟩ := Option.bind_eq_some_iff.mp h
    cases h
    obtain ⟨-, hrow, hcol⟩ := Sheet.position?_eq_some place
    exact ⟨hrow, Sheet.column?_lt hcol⟩

theorem InPlace.valid (h : InPlace e e') (valid : e.Valid) : e'.Valid := by
  cases h with
  | look kept selection => exact kept.valid valid (selection ▸ valid.selection)
  | select kept drawn selection =>
    refine kept.valid valid fun x hx => ?_
    rw [selection] at hx
    cases hx
    exact rows_of_between? drawn
  | @cells rows shape replaced sort selection =>
    have sheet := replaced.sheet valid
    have height : ({ e.sheet with rows := rows } : Sheet).height = e.sheet.height :=
      Grid.length_eq_of_shape shape
    refine ⟨replaced.config ▸ valid.columns, ?_, ?_, ?_⟩
    · rw [replaced.workbook]
      exact valid.workbook.setSheet (valid.workbook.sheet_sound.withRows shape)
    · rw [selection, sheet, height]
      exact valid.selection
    · rw [sort, sheet, height]
      exact valid.sort

/-- Without a valid sort the positions are the present ones, with one they are remembered. -/
theorem Valid.isOrder_unsortedPositions (valid : e.Valid) :
    IsOrder e.sheet.height e.unsortedPositions := by
  simp only [unsortedPositions]
  split
  · rename_i s sorted
    split
    · exact (valid.sort s sorted).1
    · exact .range _
  · exact .range _

theorem Valid.sheet_sortByIndex (valid : e.Valid) (col : Nat) (direction : SortDirection)
    (time : Nat) :
    (e.sortByIndex col direction time).sheet =
      { e.sheet with
        rows := pick (Sheet.sortOrder direction (e.sheet.sortKeys col)) e.sheet.rows } :=
  valid.workbook.sheet_setSheet _

theorem Valid.sortByIndex (valid : e.Valid) {col : Nat} (direction : SortDirection) (time : Nat)
    (inside : col < e.sheet.width) : (e.sortByIndex col direction time).Valid := by
  have order := isOrder_sortKeys e.sheet col direction
  have sheet := valid.sheet_sortByIndex col direction time
  have height : (e.sortByIndex col direction time).sheet.height = e.sheet.height := by
    rw [sheet]
    exact length_pick order
  refine ⟨valid.columns, ?_, ?_, ?_⟩
  · exact valid.workbook.setSheet (valid.workbook.sheet_sound.ofRows fun row => mem_of_mem_pick)
  · rw [height]
    exact valid.selection
  · rw [height, sheet]
    intro s hs
    cases hs
    refine ⟨valid.isOrder_unsortedPositions.pick order, ?_⟩
    rw [List.getD_eq_getElem?_getD, List.getElem?_eq_getElem inside]
    exact List.getElem_mem inside

/-- With a valid sort the rows always go back. -/
theorem Valid.restoreOrder_eq (valid : e.Valid) {s : SortState} (sorted : e.sort = some s) :
    e.restoreOrder =
      ({ e with sort := none } : Editor).putRows (unpick s.order e.sheet.rows) := by
  have order := (valid.sort s sorted).1
  simp only [restoreOrder, sorted]
  exact if_pos order.length

theorem Valid.sheet_restoreOrder (valid : e.Valid) {s : SortState} (sorted : e.sort = some s) :
    e.restoreOrder.sheet = { e.sheet with rows := unpick s.order e.sheet.rows } := by
  rw [valid.restoreOrder_eq sorted]
  exact valid.workbook.sheet_setSheet _

theorem Valid.restoreOrder (valid : e.Valid) {s : SortState} (sorted : e.sort = some s) :
    e.restoreOrder.Valid := by
  have height : e.restoreOrder.sheet.height = e.sheet.height := by
    rw [valid.sheet_restoreOrder sorted]
    exact length_unpick (valid.sort s sorted).1
  have eq := valid.restoreOrder_eq sorted
  refine ⟨?_, ?_, ?_, ?_⟩
  · rw [eq]
    exact valid.columns
  · rw [eq]
    exact valid.workbook.setSheet (valid.workbook.sheet_sound.ofRows fun row => mem_of_mem_unpick)
  · rw [height, eq]
    exact valid.selection
  · rw [eq]
    intro s hs
    cases hs

theorem Valid.arrange (valid : e.Valid) {s : Sheet}
    (arranged : e.sheet.Rearranged e.config.maxRows s) (replaced : Replaces e e' s)
    (sort : e'.sort = none) (selection : e'.selection = e.selection ∨ e'.selection = none) :
    e'.Valid := by
  refine ⟨replaced.config ▸ valid.columns, ?_, ?_, ?_⟩
  · rw [replaced.workbook]
    exact valid.workbook.setSheet (arranged.sound valid.workbook.sheet_sound)
  · rw [replaced.sheet valid]
    intro x hx
    rcases selection with same | gone
    · exact valid.selection_le arranged.height.1 x (same ▸ hx)
    · rw [gone] at hx
      cases hx
  · rw [sort]
    intro s hs
    cases hs

theorem OnSheet.valid (h : OnSheet e e') (valid : e.Valid) : e'.Valid := by
  cases h with
  | inPlace h => exact h.valid valid
  | sort col direction time inside => exact valid.sortByIndex direction time inside
  | restore sorted => exact valid.restoreOrder sorted
  | arrange arranged replaced sort selection => exact valid.arrange arranged replaced sort selection

theorem withFreeId_cases (e : Editor) : e.withFreeId = e ∨ e.withFreeId = e.renumbered := by
  simp only [withFreeId]
  split
  · exact .inr rfl
  · exact .inl rfl

theorem length_renumbered (e : Editor) :
    e.renumbered.workbook.sheets.length = e.workbook.sheets.length :=
  List.length_mapIdx

theorem length_withFreeId (e : Editor) :
    e.withFreeId.workbook.sheets.length = e.workbook.sheets.length := by
  rcases e.withFreeId_cases with same | renumbered
  · rw [same]
  · rw [renumbered, length_renumbered]

theorem Valid.addSheet (valid : e.Valid) : e.addSheet.Valid := by
  have grown : ∀ sheets : List Sheet, (∀ s ∈ sheets, s.Sound) → ∀ name id,
      Text.trim name ≠ [] →
      (⟨sheets ++ [Sheet.blank name id e.config.maxRows e.config.columns], sheets.length⟩ :
        Workbook).Sound := by
    intro sheets sound name id named
    refine ⟨fun s hs => ?_, by simp⟩
    rcases List.mem_append.mp hs with old | new
    · exact sound s old
    · rw [List.mem_singleton.mp new]
      exact Sheet.sound_blank named _ _ valid.columns
  rcases e.withFreeId_cases with h | h
  · simp only [Editor.addSheet, h]
    exact .of_sound valid.columns (grown _ valid.workbook.sheets _ _
      (Workbook.numberedName_trim_ne_nil _)) rfl rfl
  · simp only [Editor.addSheet, h]
    exact .of_sound valid.columns (grown _ valid.workbook.renumber.sheets _ _
      (Workbook.numberedName_trim_ne_nil _)) rfl rfl

theorem activeAfterRemove_lt {active removed n : Nat} (some : 0 < n) (h : active < n + 1) :
    activeAfterRemove active removed n < n := by
  simp only [activeAfterRemove]
  split <;> omega

theorem Valid.removeSheet (valid : e.Valid) {i : Nat} (h : e.removeSheet? i = some e') :
    e'.Valid := by
  obtain ⟨more, inside, rfl⟩ := removeSheet?_eq_some h
  have shorter := List.length_eraseIdx_of_lt inside
  have length : (Workbook.renameAll (e.workbook.sheets.eraseIdx i)).length =
      e.workbook.sheets.length - 1 := by
    simp [Workbook.renameAll, shorter]
  have active := valid.workbook.active
  refine .of_sound valid.columns ⟨fun s hs => ?_, ?_⟩ rfl rfl
  · exact Workbook.sound_of_mem_renameAll
      (fun t ht => valid.workbook.sheets t (List.mem_of_mem_eraseIdx ht)) hs
  · exact activeAfterRemove_lt (by omega) (by omega)

theorem Valid.selectSheet (valid : e.Valid) {i : Nat} (h : e.selectSheet? i = some e') :
    e'.Valid := by
  obtain ⟨inside, -, rfl⟩ := selectSheet?_eq_some h
  exact .of_sound valid.columns ⟨valid.workbook.sheets, inside⟩ rfl rfl

theorem Valid.newFile (valid : e.Valid) : e.newFile.Valid :=
  .of_sound valid.columns
    ⟨fun _ hs => sound_of_mem_freshSheets valid.columns hs, Nat.one_pos⟩ rfl rfl

theorem openWorkbook_of_checked {w v : Workbook} (checked : w.checked = .ok v) :
    e.openWorkbook w = .ok
      ({ ({ e with workbook := ⟨v.sheets, 0⟩ } : Editor).renumbered.resetView with
        bar := .empty } : Editor).saved := by
  rw [openWorkbook, checked]
  rfl

theorem openWorkbook_eq_ok {w : Workbook} (h : e.openWorkbook w = .ok e') :
    w.Sound ∧ e' = ({ ({ e with workbook := ⟨w.sheets, 0⟩ } : Editor).renumbered.resetView with
      bar := .empty } : Editor).saved := by
  cases checked : w.checked with
  | error err =>
    rw [openWorkbook, checked] at h
    cases h
  | ok v =>
    obtain ⟨rfl, sound⟩ := Workbook.checked_eq_ok_iff.mp checked
    rw [openWorkbook_of_checked checked] at h
    cases h
    exact ⟨sound, rfl⟩

theorem Valid.openWorkbook (valid : e.Valid) {w : Workbook} (h : e.openWorkbook w = .ok e') :
    e'.Valid := by
  obtain ⟨sound, rfl⟩ := openWorkbook_eq_ok h
  have first : (⟨w.sheets, 0⟩ : Workbook).Sound :=
    ⟨sound.sheets, Nat.lt_of_le_of_lt (Nat.zero_le _) sound.active⟩
  exact .of_sound valid.columns first.renumber rfl rfl

theorem Change.valid (h : Change e e') (valid : e.Valid) : e'.Valid := by
  cases h with
  | onSheet h => exact h.valid valid
  | addSheet => exact valid.addSheet
  | removeSheet i h => exact valid.removeSheet h
  | selectSheet i h => exact valid.selectSheet h
  | newFile => exact valid.newFile
  | openWorkbook w h => exact valid.openWorkbook h

theorem Valid.run (valid : e.Valid) (actions : List Action) : (e.run actions).Valid :=
  run_preserves (fun _ _ valid change => change.valid valid) valid actions

end Changes

/-- Every state that a run reaches is valid. -/
theorem valid_run (c : Config) (store : Store) (actions : List Action) :
    ((start c store).run actions).Valid :=
  (valid_start c store).run actions

/-- Whatever a store holds and whatever is done then, the workbook is sound: it has a sheet, the
active one is among the sheets, every sheet has a name and columns, no header twice and rows as wide
as its headers, and the check for defects finds none. -/
theorem run_workbook_sound (c : Config) (store : Store) (actions : List Action) :
    let w := ((start c store).run actions).workbook
    w.sheets ≠ [] ∧ w.active < w.sheets.length ∧
      (∀ s ∈ w.sheets, s.name.trim ≠ [] ∧ 1 ≤ s.headers.length ∧ s.headers.Nodup ∧
        ∀ row ∈ s.rows, row.length = s.headers.length) ∧
      w.checked = .ok w := by
  have sound := (valid_run c store actions).workbook
  refine ⟨?_, sound.active, fun s hs => ?_, Workbook.checked_eq_ok_iff.mpr ⟨rfl, sound⟩⟩
  · intro empty
    have active := sound.active
    rw [empty] at active
    cases active
  · have h := sound.sheets s hs
    exact ⟨h.named, List.length_pos_iff.mpr h.headed, h.distinct, h.even⟩

end Editor

end Spreadsheet
