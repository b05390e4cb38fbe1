import Mathlib.Data.List.InsertIdx
import Spreadsheet.Proofs.Validity

/-!
# Ids of sheets

The ids that are in use lie below the next one, and the next one is an id itself. This is so from
the start and stays so as long as there are fewer sheets than ids: the next id goes up with every
new sheet, and before it would reach the last id all sheets are numbered anew.
-/

namespace Spreadsheet

theorem Sheet.Rearranged.id {limit : Nat} {s t : Sheet} (h : Rearranged limit s t) :
    t.id = s.id := by
  obtain ⟨headers, rows, rfl⟩ := h.exists_eq
  rfl

namespace Workbook

def ids (w : Workbook) : List Nat :=
  w.sheets.map Sheet.id

theorem ids_renumber (sheets : List Sheet) :
    (renumber sheets).map Sheet.id = List.range' 1 sheets.length := by
  refine List.ext_getElem? fun i => ?_
  rw [List.getElem?_map, getElem?_renumber, Option.map_map]
  by_cases inside : i < sheets.length
  · rw [List.getElem?_eq_getElem inside, List.getElem?_range' inside]
    simp [Nat.add_comm]
  · rw [List.getElem?_eq_none (Nat.le_of_not_lt inside)]
    simp [inside]

theorem ids_renameAll (sheets : List Sheet) :
    (renameAll sheets).map Sheet.id = sheets.map Sheet.id := by
  refine List.ext_getElem? fun i => ?_
  rw [List.getElem?_map, getElem?_renameAll, Option.map_map, List.getElem?_map]
  rfl

/-- Another active sheet with the same id leaves the ids as they are. -/
theorem Sound.ids_setSheet {w : Workbook} (sound : w.Sound) {s : Sheet} (same : s.id = w.sheet.id) :
    (w.setSheet s).ids = w.ids := by
  have old : w.ids[w.active]? = some s.id := by
    rw [ids, List.getElem?_map, sound.getElem?_active, same]
    rfl
  obtain ⟨inside, old⟩ := List.getElem?_eq_some_iff.mp old
  rw [ids, Workbook.setSheet, List.map_set]
  change w.ids.set w.active s.id = w.ids
  rw [← old, List.set_getElem_self]

end Workbook

namespace Editor

theorem ids_freshSheets (c : Config) (n : Nat) :
    (freshSheets c n).map Sheet.id = List.range' 1 n := by
  rw [freshSheets, List.map_map, List.range'_eq_map_range]
  exact List.map_congr_left fun i _ => Nat.add_comm i 1

/-- The ids in use are below the next one, and that is an id. -/
structure IdsBelow (e : Editor) : Prop where
  used : ∀ id ∈ e.workbook.ids, id < e.nextId
  left : e.nextId < Sheet.idBound

/-- Whether there are more ids than sheets, so that one can be added. -/
def Roomy (e : Editor) : Prop :=
  e.workbook.sheets.length + 1 < Sheet.idBound

section Steps

variable {e e' : Editor}

/-- The same ids and the same next one. -/
theorem IdsBelow.of_eq (below : IdsBelow e) (ids : e'.workbook.ids = e.workbook.ids)
    (nextId : e'.nextId = e.nextId) : IdsBelow e' :=
  ⟨by rw [ids, nextId]; exact below.used, by rw [nextId]; exact below.left⟩

/-- Ids that were just given out in order. -/
theorem IdsBelow.of_range (ids : e.workbook.ids = List.range' 1 e.workbook.sheets.length)
    (nextId : e.nextId = e.workbook.sheets.length + 1) (roomy : e.Roomy) : IdsBelow e := by
  refine ⟨fun id used => ?_, nextId ▸ roomy⟩
  rw [ids] at used
  have last := (List.mem_range'_1.mp used).2
  omega

theorem ids_renumbered (e : Editor) :
    e.renumbered.workbook.ids = List.range' 1 e.workbook.sheets.length :=
  Workbook.ids_renumber e.workbook.sheets

theorem idsBelow_renumbered (roomy : e.Roomy) : IdsBelow e.renumbered := by
  have length := e.length_renumbered
  refine .of_range ?_ (congrArg (· + 1) length.symm) (by rwa [Roomy, length])
  rw [length]
  exact e.ids_renumbered

theorem length_addSheet (e : Editor) :
    e.addSheet.workbook.sheets.length = e.workbook.sheets.length + 1 := by
  rw [← e.length_withFreeId]
  exact List.length_append

theorem ids_addSheet (e : Editor) :
    e.addSheet.workbook.ids = e.withFreeId.workbook.ids ++ [e.withFreeId.nextId] :=
  List.map_append

theorem Replaces.ids (valid : e.Valid) {s : Sheet} (h : Replaces e e' s) (id : s.id = e.sheet.id) :
    e'.workbook.ids = e.workbook.ids ∧ e'.nextId = e.nextId :=
  ⟨h.workbook ▸ valid.workbook.ids_setSheet id, h.nextId⟩

theorem OnSheet.ids (valid : e.Valid) (h : OnSheet e e') :
    e'.workbook.ids = e.workbook.ids ∧ e'.nextId = e.nextId := by
  cases h with
  | inPlace h =>
    cases h with
    | look kept => exact ⟨congrArg Workbook.ids kept.workbook, kept.nextId⟩
    | select kept => exact ⟨congrArg Workbook.ids kept.workbook, kept.nextId⟩
    | cells shape h => exact h.ids valid rfl
  | sort col direction time => exact ⟨valid.workbook.ids_setSheet rfl, rfl⟩
  | restore sorted =>
    rw [valid.restoreOrder_eq sorted]
    exact ⟨valid.workbook.ids_setSheet rfl, rfl⟩
  | arrange arranged h => exact h.ids valid arranged.id

theorem IdsBelow.withFreeId (below : IdsBelow e) (roomy : e.addSheet.Roomy) :
    IdsBelow e.withFreeId ∧ e.withFreeId.nextId + 1 < Sheet.idBound := by
  rw [Roomy, length_addSheet] at roomy
  simp only [Editor.withFreeId]
  split
  · -- numbered anew, the ids end at the number of sheets
    exact ⟨idsBelow_renumbered (Nat.lt_of_succ_lt roomy), roomy⟩
  · have left := below.left
    exact ⟨below, by omega⟩

theorem IdsBelow.addSheet (below : IdsBelow e) (roomy : e.addSheet.Roomy) :
    IdsBelow e.addSheet := by
  obtain ⟨free, left⟩ := below.withFreeId roomy
  refine ⟨fun id used => ?_, left⟩
  change id < e.withFreeId.nextId + 1
  rw [ids_addSheet] at used
  rcases List.mem_append.mp used with old | new
  · exact Nat.lt_succ_of_lt (free.used id old)
  · rw [List.mem_singleton.mp new]
    exact Nat.lt_succ_self _

theorem removeSheet?_ids {i : Nat} (h : e.removeSheet? i = some e') :
    e'.workbook.ids = e.workbook.ids.eraseIdx i ∧ e'.nextId = e.nextId := by
  obtain ⟨-, -, rfl⟩ := removeSheet?_eq_some h
  refine ⟨?_, rfl⟩
  exact (Workbook.ids_renameAll _).trans (List.eraseIdx_map Sheet.id _ i).symm

theorem selectSheet?_ids {i : Nat} (h : e.selectSheet? i = some e') :
    e'.workbook.ids = e.workbook.ids ∧ e'.nextId = e.nextId := by
  obtain ⟨-, -, rfl⟩ := selectSheet?_eq_some h
  exact ⟨rfl, rfl⟩

theorem idsBelow_newFile (e : Editor) : IdsBelow e.newFile :=
  .of_range (ids_freshSheets e.config 1) rfl (show 1 + 1 < Sheet.idBound by decide)

theorem idsBelow_openWorkbook {w : Workbook} (h : e.openWorkbook w = .ok e') (roomy : e'.Roomy) :
    IdsBelow e' := by
  obtain ⟨-, rfl⟩ := openWorkbook_eq_ok h
  have length : (Workbook.renumber w.sheets).length = w.sheets.length := List.length_mapIdx
  refine .of_range ?_ (congrArg (· + 1) length.symm) roomy
  exact (Workbook.ids_renumber w.sheets).trans (congrArg (List.range' 1) length.symm)

/-- The next id stays ahead, as long as there is room. -/
theorem Change.idsBelow (valid : e.Valid) (below : IdsBelow e) (h : Change e e')
    (roomy : e'.Roomy) : IdsBelow e' := by
  cases h with
  | onSheet h => exact below.of_eq (h.ids valid).1 (h.ids valid).2
  | addSheet => exact below.addSheet roomy
  | removeSheet i h =>
    obtain ⟨ids, nextId⟩ := removeSheet?_ids h
    refine ⟨fun id used => ?_, nextId ▸ below.left⟩
    rw [ids] at used
    exact nextId ▸ below.used id (List.mem_of_mem_eraseIdx used)
  | selectSheet i h => exact below.of_eq (selectSheet?_ids h).1 (selectSheet?_ids h).2
  | newFile => exact e.idsBelow_newFile
  | openWorkbook w h => exact idsBelow_openWorkbook h roomy

end Steps

theorem foldl_max_lt_iff {l : List Nat} {m k : Nat} :
    l.foldl max m < k ↔ m < k ∧ ∀ n ∈ l, n < k := by
  induction l generalizing m with
  | nil => simp
  | cons n l ih => rw [List.foldl_cons, ih, Nat.max_lt, List.forall_mem_cons, and_assoc]

theorem idsBelow_fresh (c : Config) (store : Store) (roomy : (fresh c store).Roomy) :
    IdsBelow (fresh c store) := by
  have length : (freshSheets c c.initialSheets).length = c.initialSheets := by
    rw [freshSheets, List.length_map, List.length_range]
  refine .of_range ?_ (congrArg (· + 1) length.symm) roomy
  exact (ids_freshSheets c c.initialSheets).trans (congrArg (List.range' 1) length.symm)

theorem idsBelow_adopt (e : Editor) (w : Workbook) (roomy : (e.adopt w).Roomy) :
    IdsBelow (e.adopt w) := by
  simp only [adopt] at roomy ⊢
  split
  · rename_i left
    exact ⟨(foldl_max_lt_iff.mp (Nat.lt_succ_self _)).2, left⟩
  · rename_i last
    rw [if_neg last, Roomy, length_renumbered] at roomy
    exact idsBelow_renumbered roomy

theorem idsBelow_start (c : Config) (store : Store) (roomy : (start c store).Roomy) :
    IdsBelow (start c store) := by
  rcases start_cases c store with ⟨-, started⟩ | ⟨w, -, started⟩
  · rw [started] at roomy ⊢
    exact idsBelow_fresh c.normalized store roomy
  · rw [started] at roomy ⊢
    exact idsBelow_adopt _ w roomy

/-- In a run with fewer sheets than ids at all times the next id stays ahead. -/
theorem IdsBelow.run {e : Editor} (valid : e.Valid) (below : IdsBelow e) (actions : List Action)
    (roomy : ∀ taken, taken <+: actions → (e.run taken).Roomy) : IdsBelow (e.run actions) := by
  induction actions generalizing e with
  | nil => exact below
  | cons action rest ih =>
    have change := perform_change e action
    have first := change.idsBelow valid below (roomy [action] (List.prefix_append [action] rest))
    refine ih (change.valid valid) first fun taken h => ?_
    exact roomy (action :: taken) (List.cons_prefix_cons.mpr ⟨rfl, h⟩)

/-- So it does whatever the store held. -/
theorem idsBelow_run (c : Config) (store : Store) (actions : List Action)
    (roomy : ∀ taken, taken <+: actions → ((start c store).run taken).Roomy) :
    IdsBelow ((start c store).run actions) :=
  (idsBelow_start c store (roomy [] List.nil_prefix)).run (valid_start c store) actions roomy

end Editor

end Spreadsheet
