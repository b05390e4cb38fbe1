import Spreadsheet.Proofs.Agreement
import Spreadsheet.Proofs.SheetHeights
import Spreadsheet.Proofs.WriteThrough

/-!
# Starting over and opening a workbook

Both replace the whole workbook. Starting over forgets everything that was done before, so editors
with the same settings cannot be told apart from then on, and all are like one that has just been
started. Opening a workbook forgets what was selected and sorted, but keeps kinds, formats and the
clipboard: a kind that was declared for the old workbook refuses entries in the new one.
-/

namespace Spreadsheet

theorem Config.normalized_normalized (c : Config) : c.normalized.normalized = c.normalized := by
  simp [Config.normalized]

namespace Editor

section StartingOver

variable {e e' : Editor}

theorem newFile_agree (config : e'.config = e.config) : Agree .all e.newFile e'.newFile where
  same := by
    simp only [newFile, saved, resetView, clearSelection, config]
  kinds _ _ := rfl
  formats _ _ := rfl
  clipboard _ := rfl

/-- A store that holds nothing gives fresh sheets. -/
theorem start_of_nothing (c : Config) {store : Store} (nothing : store.stored = .nothing) :
    start c store = fresh c.normalized store := by
  rcases start_cases c store with ⟨-, started⟩ | ⟨w, found, -⟩
  · exact started
  · -- a store that holds nothing has no workbook, whether it can be read or not
    rw [stored, Store.load, nothing] at found
    cases readable : store.readable with
    | true =>
      rw [readable] at found
      cases found
    | false =>
      rw [readable] at found
      cases found

/-- Starting over is like starting with one sheet. -/
theorem newFile_eq_start (normal : e.config.normalized = e.config) {store : Store}
    (nothing : store.stored = .nothing) :
    e.newFile = { start { e.config with initialSheets := 1 } store with
      config := e.config, modified := true, store := e.newFile.store } := by
  have settings : ({ e.config with initialSheets := 1 } : Config).normalized =
      { e.config with initialSheets := 1 } :=
    congrArg (fun c : Config => { c with initialSheets := 1 }) normal
  rw [start_of_nothing _ nothing, settings]
  rfl

end StartingOver

/-- From starting over on, a store that can be written holds the present workbook. -/
theorem holds_run_newFile (c : Config) {store : Store} (writable : store.writable = true)
    (actions rest : List Action) :
    let o := ((start c store).run actions).newFile
    (o.run rest).store.medium = store.medium ∧
      (o.run rest).store.Holds (o.run rest).workbook := by
  intro o
  have before : Store.Same store ((start c store).run actions).store := by
    have since := (writtenSince_run c writable actions).1
    rwa [start_store] at since
  have saved : Store.Same store o.store := before.save _
  have since : WrittenSince o (o.run rest) :=
    .run (valid_run c store actions).newFile (saved.writable.trans writable) rest
  have first : o.store.Holds o.workbook := Store.holds_save (before.writable.trans writable) _
  exact ⟨since.1.medium.trans saved.medium, since.holds first⟩

/-- Starting over forgets the past. Whatever two editors with the same settings went through, after it
they differ in nothing but their stores. Every run from then on answers the same on both and keeps it
so, and stores of one kind that can be written then hold the same. And each is as if it had just been
started with one sheet, except that it is modified and keeps its settings. -/
theorem run_newFile_forgets (c c' : Config) (store store' : Store) (actions actions' : List Action)
    (config : ((start c' store').run actions').config = ((start c store).run actions).config) :
    let e := (start c store).run actions
    let o := e.newFile
    let o' := ((start c' store').run actions').newFile
    o' = { o with store := o'.store } ∧
      (∀ rest, o'.replies rest = o.replies rest ∧
        o'.run rest = { o.run rest with store := (o'.run rest).store } ∧
        (store.writable = true → store'.writable = true → store'.medium = store.medium →
          (o'.run rest).store.stored = (o.run rest).store.stored)) ∧
      ∀ empty : Store, empty.stored = .nothing →
        o = { start { e.config with initialSheets := 1 } empty with
          config := e.config, modified := true, store := o.store } := by
  intro e o o'
  have agree : Agree .all o o' := newFile_agree config
  refine ⟨agree.eq_of_all, fun rest => ?_, fun empty nothing => newFile_eq_start ?_ nothing⟩
  · obtain ⟨replies, after⟩ := agree.run (fun a t read => trivial : ∀ a t,
      Action.commit a t ∈ rest → True) (.inl trivial)
    refine ⟨replies, after.eq_of_all, fun writable writable' medium => ?_⟩
    obtain ⟨kept, holds⟩ := holds_run_newFile c writable actions rest
    obtain ⟨kept', holds'⟩ := holds_run_newFile c' writable' actions' rest
    have workbook : (o'.run rest).workbook = (o.run rest).workbook := after.workbook
    calc (o'.run rest).store.stored
        = Store.put (o'.run rest).store.medium (o'.run rest).workbook := holds'
      _ = Store.put (o.run rest).store.medium (o.run rest).workbook := by
        rw [kept', kept, medium, workbook]
      _ = (o.run rest).store.stored := holds.symm
  · have normal : e.config = c.normalized := (run_config _ actions).trans (start_config c store)
    rw [normal, c.normalized_normalized]

/-- A cell is filled, declared to hold numbers and copied. -/
def filledAndCopied : List Action :=
  [.write ⟨0, ['A']⟩ ['4'], .setKind ⟨0, ['A']⟩ .number, .click ⟨0, ['A']⟩, .copy]

/-- Pasting it finds nothing any more, and the cell takes any text again. -/
theorem filledAndCopied_forgotten :
    let e := (start ⟨1, 2, 1, 300⟩ ⟨.memory, .nothing, true, true, 0⟩).run filledAndCopied
    let later : List Action := [.paste ⟨0, ['B']⟩ none, .commit ⟨0, ['A']⟩ ['x']]
    e.replies later = [.count 1, .failed (.refused .notNumber)] ∧
      e.newFile.replies later = [.count 0, .nothing] := by
  refine ⟨by decide, ?_⟩
  have forgotten := run_newFile_forgets ⟨1, 2, 1, 300⟩ ⟨1, 2, 1, 300⟩
    ⟨.memory, .nothing, true, true, 0⟩ ⟨.memory, .nothing, true, true, 0⟩ [] filledAndCopied
    (by decide)
  exact (forgotten.2.1 _).1.trans (by decide)

section Opening

variable {e e' : Editor}

theorem perform_openWorkbook (e : Editor) {w : Workbook} (sound : w.checked = .ok w) :
    e.perform (.openWorkbook w) = (.nothing,
      ({ ({ e with workbook := ⟨w.sheets, 0⟩ } : Editor).renumbered.resetView with
        bar := .empty } : Editor).saved) := by
  rw [perform, openWorkbook_of_checked sound]
  rfl

theorem perform_openWorkbook_agree {w : Workbook} (sound : w.checked = .ok w)
    (config : e'.config = e.config) :
    let o := (e.perform (.openWorkbook w)).2
    let o' := (e'.perform (.openWorkbook w)).2
    Agree (.between o o') o o' := by
  refine .between ?_
  rw [perform_openWorkbook e sound, perform_openWorkbook e' sound]
  simp only [saved, resetView, clearSelection, renumbered, config]

/-- A sound workbook is opened, and nothing that was declared, formatted or copied before is
forgotten. Beyond that, two editors with the same settings show the same when they have opened it,
whatever they went through. As long as they commit only into cells of the same kind and paste only
from the same clipboard or what they have copied since, every run of actions answers the same on both
and keeps it so. -/
theorem run_openWorkbook_alike (c c' : Config) (store store' : Store)
    (actions actions' : List Action) {w : Workbook} (sound : w.checked = .ok w)
    (config : ((start c' store').run actions').config = ((start c store).run actions).config) :
    let e := (start c store).run actions
    let e' := (start c' store').run actions'
    let o := (e.perform (.openWorkbook w)).2
    let o' := (e'.perform (.openWorkbook w)).2
    ((e.perform (.openWorkbook w)).1 = .nothing ∧ (e'.perform (.openWorkbook w)).1 = .nothing) ∧
      (o.kinds = e.kinds ∧ o.formats = e.formats ∧ o.clipboard = e.clipboard) ∧
      Agree (.between o o') o o' ∧
      ∀ rest, (∀ a t, .commit a t ∈ rest → o'.kinds a = o.kinds a) →
        (o'.clipboard = o.clipboard ∨ o.pastesOwn rest = true) →
        o'.replies rest = o.replies rest ∧ Agree (.between o o') (o.run rest) (o'.run rest) := by
  intro e e' o o'
  have agree : Agree (.between o o') o o' := perform_openWorkbook_agree sound config
  refine ⟨⟨?_, ?_⟩, ?_, agree, fun rest kinds clipboard => agree.run kinds clipboard⟩
  · rw [perform_openWorkbook e sound]
  · rw [perform_openWorkbook e' sound]
  · have opened : o = _ := congrArg Prod.snd (perform_openWorkbook e sound)
    rw [opened]
    exact ⟨rfl, rfl, rfl⟩

/-- One blank sheet of two cells. -/
def twoBlanks : Workbook :=
  ⟨[Sheet.blank "Names".toList 1 1 2], 0⟩

/-- A cell is declared to hold numbers before the workbook is opened. Filling the other one answers as
if it had not been. -/
theorem twoBlanks_filled_beside :
    let e := start ⟨1, 2, 1, 300⟩ ⟨.memory, .nothing, true, true, 0⟩
    (e.run [.setKind ⟨0, ['A']⟩ .number, .openWorkbook twoBlanks]).replies
        [.commit ⟨0, ['B']⟩ ['x']] =
      (e.run [.openWorkbook twoBlanks]).replies [.commit ⟨0, ['B']⟩ ['x']] := by
  obtain ⟨-, -, -, runs⟩ := run_openWorkbook_alike ⟨1, 2, 1, 300⟩ ⟨1, 2, 1, 300⟩
    ⟨.memory, .nothing, true, true, 0⟩ ⟨.memory, .nothing, true, true, 0⟩ []
    [.setKind ⟨0, ['A']⟩ .number] (show twoBlanks.checked = .ok twoBlanks by decide) (by decide)
  refine (runs [.commit ⟨0, ['B']⟩ ['x']] (fun a t h => ?_) (.inr rfl)).1
  cases List.mem_singleton.mp h
  decide

/-- Filling the cell itself is refused, and would be accepted without it or after starting over. -/
theorem number_declared_refuses_after_opening :
    let e := start ⟨1, 2, 1, 300⟩ ⟨.memory, .nothing, true, true, 0⟩
    let plain := e.run [.openWorkbook twoBlanks]
    let marked := e.run [.setKind ⟨0, ['A']⟩ .number, .openWorkbook twoBlanks]
    twoBlanks.checked = .ok twoBlanks ∧ marked.workbook = plain.workbook ∧
      plain.kinds ⟨0, ['A']⟩ = .text ∧ marked.kinds ⟨0, ['A']⟩ = .number ∧
      plain.replies [.commit ⟨0, ['A']⟩ ['x']] = [.nothing] ∧
      marked.replies [.commit ⟨0, ['A']⟩ ['x']] = [.failed (.refused .notNumber)] ∧
      marked.replies [.newFile, .commit ⟨0, ['A']⟩ ['x']] = [.nothing, .nothing] := by
  decide

end Opening

end Editor

end Spreadsheet
