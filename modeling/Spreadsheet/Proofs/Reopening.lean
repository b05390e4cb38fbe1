import Mathlib.Data.List.Infix
import Spreadsheet.Proofs.CellOrigins
import Spreadsheet.Proofs.FiniteNumbers
import Spreadsheet.Proofs.SheetIds
import Spreadsheet.Proofs.WriteThrough

/-!
# Opening a file again

What one editor writes to a file, the next editor of the file starts with, cell by cell and with the
same ids. The text says everything about the workbook because no cell is ever an empty text or a
number that is not finite; the next editor takes it because it is sound; and it keeps the ids
because the next one is always left. That each number is read back from its literal is up to the
reader of numbers and is assumed of the numbers in the workbook.
-/

namespace Spreadsheet

theorem of_mem_mapM {α β : Type} {f : α → Option β} {l : List α} {m : List β}
    (h : l.mapM f = some m) {b : β} (hb : b ∈ m) : ∃ a ∈ l, f a = some b := by
  induction l generalizing m with
  | nil =>
    cases h
    cases hb
  | cons a l ih =>
    rw [List.mapM_cons] at h
    obtain ⟨first, hfirst, h⟩ := Option.bind_eq_some_iff.mp h
    obtain ⟨rest, hrest, h⟩ := Option.bind_eq_some_iff.mp h
    cases h
    rcases List.mem_cons.mp hb with rfl | hb
    · exact ⟨a, List.mem_cons_self, hfirst⟩
    · obtain ⟨a', inside, ha'⟩ := ih hrest hb
      exact ⟨a', List.mem_cons_of_mem a inside, ha'⟩

namespace Cell

/-- A cell as typing and reading make it: no empty text and no number that is not finite. -/
def Proper : Cell → Prop
  | empty => True
  | number x => x.isFinite = true
  | text t => t ≠ []

/-- The number of a cell, if it holds a finite one, is read back from its literal. -/
def NumberReadsBack : Cell → Prop
  | number x => x.isFinite = true → Number.ReadsBack x
  | _ => True

theorem Proper.storable {c : Cell} (proper : c.Proper) (back : c.NumberReadsBack) :
    c.Storable := by
  cases c with
  | empty => trivial
  | number x => exact ⟨proper, back proper⟩
  | text t => exact proper

theorem proper_ofText (t : Text) : (ofText t).Proper := by
  unfold ofText
  split
  · trivial
  · assumption

theorem entered_proper : Entered Proper :=
  ⟨trivial, proper_ofText⟩

theorem entered_numberReadsBack : Entered NumberReadsBack := by
  refine ⟨trivial, fun t => ?_⟩
  unfold ofText
  split <;> trivial

theorem proper_of_ofJson? {j : Json} {c : Cell} (h : ofJson? j = some c) : c.Proper := by
  cases j with
  | null =>
    cases h
    trivial
  | text t =>
    cases h
    exact proper_ofText t
  | number literal =>
    obtain ⟨x, read, rfl⟩ := Option.map_eq_some_iff.mp h
    exact Json.isFinite_of_toFloat? read
  | _ => cases h

end Cell

theorem Sheet.proper_of_ofJson? {j : Json} {s : Sheet} (h : ofJson? j = some s) :
    Grid.All Cell.Proper s.rows := by
  obtain ⟨fields, -, h⟩ := Option.bind_eq_some_iff.mp h
  split at h
  · obtain ⟨name, -, h⟩ := Option.bind_eq_some_iff.mp h
    obtain ⟨id, -, h⟩ := Option.bind_eq_some_iff.mp h
    obtain ⟨labels, -, h⟩ := Option.bind_eq_some_iff.mp h
    obtain ⟨headers, -, h⟩ := Option.bind_eq_some_iff.mp h
    obtain ⟨items, -, h⟩ := Option.bind_eq_some_iff.mp h
    obtain ⟨rows, read, h⟩ := Option.bind_eq_some_iff.mp h
    cases h
    intro row hrow c hc
    obtain ⟨written, -, hwritten⟩ := of_mem_mapM read hrow
    obtain ⟨cells, -, hcells⟩ := Option.bind_eq_some_iff.mp hwritten
    obtain ⟨value, -, hvalue⟩ := of_mem_mapM hcells hc
    exact Cell.proper_of_ofJson? hvalue
  · cases h

/-- Text has no other than proper cells. -/
theorem Workbook.proper_of_parse {t : Text} {w : Workbook} (h : parse t = .ok w) :
    w.All Cell.Proper := by
  simp only [parse] at h
  split at h
  · rename_i read
    cases h
    obtain ⟨j, -, h⟩ := Option.bind_eq_some_iff.mp read
    obtain ⟨fields, -, h⟩ := Option.bind_eq_some_iff.mp h
    split at h
    · obtain ⟨items, -, h⟩ := Option.bind_eq_some_iff.mp h
      obtain ⟨sheets, hsheets, h⟩ := Option.bind_eq_some_iff.mp h
      obtain ⟨active, -, h⟩ := Option.bind_eq_some_iff.mp h
      cases h
      intro s hs
      obtain ⟨value, -, hvalue⟩ := of_mem_mapM hsheets hs
      exact Sheet.proper_of_ofJson? hvalue
    · cases h
  · cases h

namespace Editor

theorem load_of_stored {store : Store} {w : Workbook} (h : stored store = .ok (some w)) :
    store.load = .ok (some w) := by
  simp only [stored] at h
  split at h
  · cases h
  · cases h
  · rename_i found
    split at h
    · rename_i checked
      cases h
      rw [found, (Workbook.checked_eq_ok_iff.mp checked).1]
    · cases h

theorem stored_of_load {store : Store} {w : Workbook} (h : store.load = .ok (some w))
    (sound : w.Sound) : stored store = .ok (some w) := by
  simp only [stored, h, Workbook.checked_eq_ok_iff.mpr ⟨rfl, sound⟩]

/-- What a file holds is read from text. -/
theorem proper_of_stored {store : Store} (text : ∀ w, store.stored ≠ .kept w) {w : Workbook}
    (h : stored store = .ok (some w)) : w.All Cell.Proper := by
  have loaded := load_of_stored h
  simp only [Store.load] at loaded
  split at loaded
  · cases loaded
  · split at loaded
    · cases loaded
    · rename_i t written
      cases read : Workbook.parse t with
      | error err =>
        rw [read] at loaded
        cases loaded
      | ok v =>
        rw [read] at loaded
        cases loaded
        exact Workbook.proper_of_parse read
    · rename_i v kept
      exact absurd kept (text v)

/-- A sound workbook whose ids leave a next one is taken as it is. -/
theorem start_workbook {c : Config} {store : Store} {w : Workbook}
    (h : stored store = .ok (some w)) (left : ∀ id ∈ w.ids, id + 1 < Sheet.idBound) :
    (start c store).workbook = w := by
  have greatest : (w.sheets.map Sheet.id).foldl max 0 < Sheet.idBound - 1 := by
    refine foldl_max_lt_iff.mpr ⟨by decide, fun id used => ?_⟩
    have next := left id used
    omega
  simp only [start, h, adopt]
  rw [if_pos (by omega)]

/-- The text of a workbook that a run reaches says everything about it. -/
theorem storable_run (c : Config) {store : Store} (text : ∀ w, store.stored ≠ .kept w)
    {actions : List Action}
    (imported : ∀ w, .openWorkbook w ∈ actions → ∃ t, Workbook.parse t = .ok w)
    (roomy : ∀ taken, taken <+: actions → ((start c store).run taken).Roomy)
    (numbers : ((start c store).run actions).workbook.All Cell.NumberReadsBack) :
    ((start c store).run actions).workbook.Storable := by
  have below := idsBelow_run c store actions roomy
  have proper := (all_run Cell.entered_proper c (fun w => proper_of_stored text) actions
    fun w opened => (imported w opened).elim fun t => Workbook.proper_of_parse).workbook
  refine ⟨fun s hs => ⟨?_, fun row hrow cell hcell => ?_⟩, ?_⟩
  · exact Nat.lt_trans (below.used s.id (List.mem_map_of_mem hs)) below.left
  · exact (proper s hs row hrow cell hcell).storable (numbers s hs row hrow cell hcell)
  · have active := (valid_run c store actions).workbook.active
    have few : _ + 1 < 4294967296 := roomy actions List.prefix_rfl
    rw [sizeBound]
    omega

/-- A workbook whose text says everything about it, and whose ids leave a next one, is found and
taken as it is by an editor of the file that it was written to. -/
theorem reopened {e : Editor} (valid : e.Valid) (below : IdsBelow e)
    (storable : e.workbook.Storable) {s : Store} (print : s.stored = .written e.workbook.print)
    (readable : s.readable = true) (c : Config) :
    stored s = .ok (some e.workbook) ∧ (start c s).workbook = e.workbook := by
  have loads : s.load = .ok (some e.workbook) := by
    simp only [Store.load, readable, print, Workbook.parse_print storable]
    rfl
  have found : stored s = .ok (some e.workbook) := stored_of_load loads valid.workbook
  refine ⟨found, start_workbook found fun id used => ?_⟩
  exact Nat.lt_of_le_of_lt (below.used id used) below.left

/-- Let a run over a file that can be written open no workbooks but such as are read from text, and
have fewer sheets than ids at all times. Once it has saved, and as long as the numbers in the
workbook are read back from their literals, an editor that is started on the file finds the present
workbook and goes on with it as it is: the same sheets under the same ids, cell by cell, and the same
one active. -/
theorem run_reopened (c c' : Config) {store s : Store} {actions : List Action}
    (file : store.medium = .file) (text : ∀ w, store.stored ≠ .kept w)
    (writable : store.writable = true)
    (imported : ∀ w, .openWorkbook w ∈ actions → ∃ t, Workbook.parse t = .ok w)
    (roomy : ∀ taken, taken <+: actions → ((start c store).run taken).Roomy)
    (saved : store.saves < ((start c store).run actions).store.saves)
    (numbers : ((start c store).run actions).workbook.All Cell.NumberReadsBack)
    (same : s.stored = ((start c store).run actions).store.stored) (readable : s.readable = true) :
    let e := (start c store).run actions
    stored s = .ok (some e.workbook) ∧ (start c' s).workbook = e.workbook := by
  intro e
  obtain ⟨medium, written⟩ := writtenSince_run c writable actions
  have holds : e.store.Holds e.workbook := by
    rcases written with none | ⟨-, -, holds⟩
    -- a run that has saved is past the state in which nothing was written
    · rw [none.store, start_store] at saved
      exact absurd saved (Nat.lt_irrefl _)
    · exact holds
  have print : s.stored = .written e.workbook.print := by
    rw [same, holds, medium.medium, start_store, file]
    rfl
  have storable : e.workbook.Storable := storable_run c text imported roomy numbers
  have below : IdsBelow e := idsBelow_run c store actions roomy
  exact reopened (valid_run c store actions) below storable print readable c'

/-- A price list as it is opened. -/
def priceList : Workbook :=
  ⟨[⟨"Prices".toList, 1, [['A'], ['B']], [[.text "tea".toList, .number 2.5]]⟩], 0⟩

/-- A workbook is opened, then a cell is changed. -/
def priceChange : List Action :=
  [.openWorkbook priceList, .write ⟨0, ['A']⟩ "coffee".toList]

theorem priceChange_reopened :
    let e := (start ⟨1, 2, 1, 300⟩ ⟨.file, .nothing, true, true, 0⟩).run priceChange
    stored e.store = .ok (some e.workbook) ∧ (start .standard e.store).workbook = e.workbook := by
  have opened : ∀ w, .openWorkbook w ∈ priceChange → w = priceList := by
    intro w h
    simp only [priceChange, List.mem_cons, List.not_mem_nil, or_false] at h
    rcases h with h | h <;> cases h
    rfl
  have numbers : priceList.All Cell.NumberReadsBack := by
    intro s hs row hrow c hc
    cases List.mem_singleton.mp hs
    cases List.mem_singleton.mp hrow
    rcases List.mem_cons.mp hc with rfl | hc
    · trivial
    · cases List.mem_singleton.mp hc
      intro finite
      rw [Number.ReadsBack]
      decide +kernel
  have read : Workbook.parse priceList.print = .ok priceList := by decide +kernel
  have roomy : ∀ taken ∈ priceChange.inits,
      ((start ⟨1, 2, 1, 300⟩ ⟨.file, .nothing, true, true, 0⟩).run
        taken).workbook.sheets.length + 1 < Sheet.idBound := by decide
  refine run_reopened ⟨1, 2, 1, 300⟩ .standard rfl (fun w kept => by cases kept) rfl ?_ ?_
    (by decide) ?_ rfl (by decide)
  · intro w h
    rw [opened w h]
    exact ⟨priceList.print, read⟩
  · exact fun taken h => roomy taken ((List.mem_inits taken priceChange).mpr h)
  · refine (all_run Cell.entered_numberReadsBack _ (fun w found => ?_) _ fun w h => ?_).workbook
    · cases found
    · exact opened w h ▸ numbers

end Editor

end Spreadsheet
