import Spreadsheet.Proofs.Validity
import Spreadsheet.Proofs.Views
import Spreadsheet.Proofs.WorkbookText

/-!
# The store follows the workbook

An action that changes the workbook saves it, once and after the last change, and an action that does
not save leaves the workbook as it was. So as long as the store can be written, it holds the present
workbook from the first save on: in memory as it is, and in a file as its text. What is loaded from
the file is the workbook as far as the text can tell; it need not be for every number.
-/

namespace Spreadsheet

namespace Store

/-- What is stored is this workbook, in the form of the medium. -/
def Holds (s : Store) (w : Workbook) : Prop :=
  s.stored = put s.medium w

theorem holds_save {s : Store} (writable : s.writable = true) (w : Workbook) :
    (s.save w).Holds w :=
  if_pos writable

theorem Holds.load_memory {s : Store} {w : Workbook} (holds : s.Holds w)
    (readable : s.readable = true) (memory : s.medium = .memory) : s.load = .ok (some w) := by
  rw [Holds, memory, put] at holds
  simp only [load, readable, holds]
  rfl

theorem Holds.load_file {s : Store} {w : Workbook} (holds : s.Holds w)
    (readable : s.readable = true) (file : s.medium = .file) (storable : w.Storable) :
    s.load = .ok (some w) := by
  rw [Holds, file, put] at holds
  simp only [load, readable, holds, Workbook.parse_print storable]
  rfl

/-- A workbook that is held is loaded: from a file, when its text says everything about it. -/
theorem Holds.load {s : Store} {w : Workbook} (holds : s.Holds w) (readable : s.readable = true)
    (storable : s.medium = .file → w.Storable) : s.load = .ok (some w) := by
  cases medium : s.medium with
  | memory => exact holds.load_memory readable medium
  | file => exact holds.load_file readable medium (storable medium)

/-- Only what is stored and the number of saves may differ. -/
structure Same (s t : Store) : Prop where
  medium : t.medium = s.medium
  readable : t.readable = s.readable
  writable : t.writable = s.writable

theorem Same.refl (s : Store) : Same s s :=
  ⟨rfl, rfl, rfl⟩

theorem Same.save {s t : Store} (same : Same s t) (w : Workbook) : Same s (t.save w) :=
  ⟨same.medium, same.readable, same.writable⟩

end Store

namespace Editor

/-- Nothing that would have to be saved has changed, and nothing was saved. -/
structure Unsaved (e e' : Editor) : Prop where
  workbook : e'.workbook = e.workbook
  modified : e'.modified = e.modified
  store : e'.store = e.store

/-- The workbook was saved as it is now. -/
structure Saves (e e' : Editor) : Prop where
  modified : e'.modified = true
  store : e'.store = e.store.save e'.workbook

/-- So it was, and kinds and formats stay. -/
structure Writes (e e' : Editor) : Prop extends Saves e e', Unmarked e e'

section Steps

variable {e e' : Editor}

theorem Keeps.unsaved (kept : Keeps e e') : Unsaved e e' :=
  ⟨kept.workbook, kept.modified, kept.store⟩

theorem Replaces.saves {s : Sheet} (replaced : Replaces e e' s) : Saves e e' :=
  ⟨replaced.modified, replaced.store⟩

theorem InPlace.written (h : InPlace e e') : Unsaved e e' ∨ Saves e e' := by
  cases h with
  | look kept selection => exact .inl kept.unsaved
  | select kept drawn selection => exact .inl kept.unsaved
  | cells shape replaced sort selection => exact .inr replaced.saves

theorem OnSheet.written (valid : e.Valid) (h : OnSheet e e') : Unsaved e e' ∨ Saves e e' := by
  cases h with
  | inPlace h => exact h.written
  | sort col direction time inside => exact .inr ⟨rfl, rfl⟩
  | restore sorted =>
    -- the branch that forgets the sort without saving is never taken
    rw [valid.restoreOrder_eq sorted]
    exact .inr ⟨rfl, rfl⟩
  | arrange arranged replaced sort selection => exact .inr replaced.saves

theorem removeSheet?_writes {i : Nat} (h : e.removeSheet? i = some e') : Writes e e' := by
  obtain ⟨-, -, rfl⟩ := removeSheet?_eq_some h
  exact ⟨⟨rfl, rfl⟩, rfl, rfl⟩

theorem selectSheet?_writes {i : Nat} (h : e.selectSheet? i = some e') : Writes e e' := by
  obtain ⟨-, -, rfl⟩ := selectSheet?_eq_some h
  exact ⟨⟨rfl, rfl⟩, rfl, rfl⟩

theorem openWorkbook_writes {w : Workbook} (h : e.openWorkbook w = .ok e') : Writes e e' := by
  obtain ⟨-, rfl⟩ := openWorkbook_eq_ok h
  exact ⟨⟨rfl, rfl⟩, rfl, rfl⟩

theorem addSheet_writes (e : Editor) : Writes e e.addSheet := by
  rcases e.withFreeId_cases with h | h <;> rw [addSheet, h] <;> exact ⟨⟨rfl, rfl⟩, rfl, rfl⟩

/-- Every change either saves the workbook or leaves it alone. -/
theorem Change.written (valid : e.Valid) (h : Change e e') : Unsaved e e' ∨ Saves e e' := by
  cases h with
  | onSheet h => exact h.written valid
  | addSheet => exact .inr e.addSheet_writes.toSaves
  | removeSheet i h => exact .inr (removeSheet?_writes h).toSaves
  | selectSheet i h => exact .inr (selectSheet?_writes h).toSaves
  | newFile => exact .inr ⟨rfl, rfl⟩
  | openWorkbook w h => exact .inr (openWorkbook_writes h).toSaves

/-- Nothing has been saved yet and the workbook is the first one, or the store holds the workbook. -/
def WrittenSince (e e' : Editor) : Prop :=
  Store.Same e.store e'.store ∧
    (Unsaved e e' ∨
      e.store.saves < e'.store.saves ∧ e'.modified = true ∧ e'.store.Holds e'.workbook)

theorem WrittenSince.refl (e : Editor) : WrittenSince e e :=
  ⟨.refl e.store, .inl ⟨rfl, rfl, rfl⟩⟩

theorem WrittenSince.saves (writable : e.store.writable = true) {e'' : Editor}
    (before : WrittenSince e e') (saves : Saves e' e'') : WrittenSince e e'' := by
  have same : Store.Same e.store e''.store := saves.store ▸ before.1.save e''.workbook
  have more : e.store.saves < e''.store.saves := by
    rw [saves.store]
    change e.store.saves < e'.store.saves + 1
    rcases before.2 with none | ⟨some, -⟩
    · rw [none.store]
      exact Nat.lt_succ_self _
    · exact Nat.lt_succ_of_lt some
  have holds : e''.store.Holds e''.workbook := by
    rw [saves.store]
    exact Store.holds_save (before.1.writable.trans writable) e''.workbook
  exact ⟨same, .inr ⟨more, saves.modified, holds⟩⟩

theorem WrittenSince.unsaved {e'' : Editor} (before : WrittenSince e e')
    (kept : Unsaved e' e'') : WrittenSince e e'' := by
  rw [WrittenSince, kept.store, kept.workbook, kept.modified]
  refine ⟨before.1, before.2.imp_left fun none => ?_⟩
  exact ⟨kept.workbook.trans none.workbook, kept.modified.trans none.modified,
    kept.store.trans none.store⟩

/-- Once the workbook has been saved the store follows it. -/
theorem WrittenSince.holds (since : WrittenSince e e') (first : e.store.Holds e.workbook) :
    e'.store.Holds e'.workbook := by
  rcases since.2 with none | ⟨-, -, holds⟩
  · rw [none.store, none.workbook]
    exact first
  · exact holds

/-- A run writes through: every change that has to be saved is. -/
theorem WrittenSince.run (valid : e.Valid) (writable : e.store.writable = true)
    (actions : List Action) : WrittenSince e (e.run actions) := by
  have step : ∀ a b, (a.Valid ∧ WrittenSince e a) → Change a b → (b.Valid ∧ WrittenSince e b) := by
    rintro a b ⟨valid, before⟩ change
    refine ⟨change.valid valid, ?_⟩
    rcases change.written valid with kept | saves
    · exact before.unsaved kept
    · exact before.saves writable saves
  exact (run_preserves step ⟨valid, .refl e⟩ actions).2

end Steps

theorem start_store (c : Config) (store : Store) : (start c store).store = store := by
  obtain ⟨w, nextId, started⟩ := exists_start c store
  rw [started]
  rfl

theorem writtenSince_run (c : Config) {store : Store} (writable : store.writable = true)
    (actions : List Action) :
    WrittenSince (start c store) ((start c store).run actions) :=
  .run (valid_start c store) (by rw [start_store]; exact writable) actions

/-- With a store that can be written: every action saves at most once, after an action that saves the
store holds the workbook as it is then, and an action that does not save leaves the workbook alone.
So at all times either nothing has been saved and the workbook is the one from the start, or the
store holds the present workbook and loads it, from a file as far as text can tell. -/
theorem run_write_through (c : Config) {store : Store} (writable : store.writable = true)
    (actions : List Action) :
    let e := (start c store).run actions
    (∀ action,
      let e' := (e.perform action).2
      (e'.store = e.store ∧ e'.modified = e.modified ∧ e'.workbook = e.workbook) ∨
        (e'.store.saves = e.store.saves + 1 ∧ e'.modified = true ∧
          e'.store.Holds e'.workbook)) ∧
    ((e.store = store ∧ e.workbook = (start c store).workbook) ∨
      (store.saves < e.store.saves ∧ e.modified = true ∧ e.store.Holds e.workbook ∧
        (store.readable = true → (store.medium = .file → e.workbook.Storable) →
          e.store.load = .ok (some e.workbook)))) := by
  intro e
  have first : (start c store).store = store := start_store c store
  have since : WrittenSince (start c store) e := writtenSince_run c writable actions
  rw [WrittenSince, first] at since
  obtain ⟨same, since⟩ := since
  constructor
  · intro action
    rcases (perform_change e action).written (valid_run c store actions) with kept | saves
    · exact .inl ⟨kept.store, kept.modified, kept.workbook⟩
    · refine .inr ⟨?_, saves.modified, ?_⟩
      · rw [saves.store]
        rfl
      · rw [saves.store]
        exact Store.holds_save (same.writable.trans writable) _
  · rcases since with none | ⟨more, modified, holds⟩
    · exact .inl ⟨none.store.trans first, none.workbook⟩
    · refine .inr ⟨more, modified, holds, fun readable storable => ?_⟩
      exact holds.load (same.readable.trans readable) fun file => storable (same.medium ▸ file)

/-- Two cells are filled, with a click in between. -/
def twoCells : List Action :=
  [.write ⟨0, ['A']⟩ ['4'], .click ⟨0, ['B']⟩, .write ⟨0, ['B']⟩ "kg".toList]

theorem twoCells_written_through :
    let e := (start ⟨1, 2, 1, 300⟩ ⟨.memory, .nothing, true, true, 0⟩).run twoCells
    e.store.saves = 2 ∧ e.store.load = .ok (some e.workbook) := by
  have twice : ((start ⟨1, 2, 1, 300⟩ ⟨.memory, .nothing, true, true, 0⟩).run
      twoCells).store.saves = 2 := by decide
  have writable : (⟨.memory, .nothing, true, true, 0⟩ : Store).writable = true := rfl
  rcases (run_write_through ⟨1, 2, 1, 300⟩ writable twoCells).2 with
    ⟨same, -⟩ | ⟨-, -, -, loads⟩
  · rw [same] at twice
    cases twice
  · exact ⟨twice, loads rfl fun file => by cases file⟩

/-- The number that `1e-24` is read as is not the nearest one. It is written as
`1.0000000000000001e-24`, and that is read as the nearest one. -/
def dose : Workbook :=
  ⟨[⟨"Doses".toList, 1, [['A']], [[.number (1 / 1e24)]]⟩], 0⟩

/-- So a file need not give back the workbook that was saved. -/
theorem dose_not_reloaded :
    let e := (start ⟨1, 1, 1, 300⟩ ⟨.file, .nothing, true, true, 0⟩).run [.openWorkbook dose]
    (Json.parse? "1e-24".toList).bind Json.toFloat? = some (1 / 1e24) ∧
      e.workbook = dose ∧ e.store.saves = 1 ∧ e.store.load ≠ .ok (some e.workbook) := by
  decide +kernel

end Editor

end Spreadsheet
