import Spreadsheet.Proofs.CheckedGrid
import Spreadsheet.Proofs.SheetIds

/-!
# Sheets are told apart by their ids

No two sheets have the same id, and a sheet keeps its id for as long as it stays, but for the time
when the ids run out and all sheets are numbered anew. Ids have 32 bits: they are computed once more
here with every result checked against that, and none is ever out of range.
-/

namespace Spreadsheet

namespace Editor

/-- No id is used twice, and the next one is free. -/
structure Identified (e : Editor) : Prop extends IdsBelow e where
  distinct : e.workbook.ids.Nodup

section Steps

variable {e e' : Editor}

/-- Ids given out in order are distinct. -/
theorem IdsBelow.identified (below : IdsBelow e) {n : Nat}
    (ids : e.workbook.ids = List.range' 1 n) : Identified e :=
  ⟨below, ids ▸ List.nodup_range'⟩

theorem Identified.of_eq (identified : Identified e) (ids : e'.workbook.ids = e.workbook.ids)
    (nextId : e'.nextId = e.nextId) : Identified e' :=
  ⟨identified.toIdsBelow.of_eq ids nextId, ids ▸ identified.distinct⟩

/-- A sheet is added to sheets that keep their ids, unless the ids are used up: then all sheets are
numbered in order. -/
theorem ids_addSheet_eq (e : Editor) :
    e.addSheet.workbook.ids =
      if e.nextId + 1 = Sheet.idBound then List.range' 1 (e.workbook.sheets.length + 1)
      else e.workbook.ids ++ [e.nextId] := by
  rw [ids_addSheet, withFreeId]
  split
  · have next : e.renumbered.nextId = 1 + 1 * e.workbook.sheets.length := by
      rw [Nat.one_mul, Nat.add_comm]
      rfl
    rw [ids_renumbered, next, List.range'_concat]
  · rfl

theorem Identified.addSheet (identified : Identified e) (roomy : e.addSheet.Roomy) :
    Identified e.addSheet := by
  refine ⟨identified.toIdsBelow.addSheet roomy, ?_⟩
  have free := (identified.toIdsBelow.withFreeId roomy).1
  have distinct : e.withFreeId.workbook.ids.Nodup := by
    rcases e.withFreeId_cases with same | renumbered
    · rw [same]
      exact identified.distinct
    · rw [renumbered, ids_renumbered]
      exact List.nodup_range'
  rw [ids_addSheet, List.nodup_append]
  refine ⟨distinct, List.nodup_singleton _, fun id used new hnew same => ?_⟩
  have before := free.used id used
  rw [same, List.mem_singleton.mp hnew] at before
  exact Nat.lt_irrefl _ before

/-- No change gives an id twice. -/
theorem Change.identified (valid : e.Valid) (identified : Identified e) (h : Change e e')
    (roomy : e'.Roomy) : Identified e' := by
  have below := h.idsBelow valid identified.toIdsBelow roomy
  cases h with
  | onSheet h => exact identified.of_eq (h.ids valid).1 (h.ids valid).2
  | addSheet => exact identified.addSheet roomy
  | removeSheet i h =>
    refine ⟨below, ?_⟩
    rw [(removeSheet?_ids h).1]
    exact identified.distinct.sublist (List.eraseIdx_sublist _ i)
  | selectSheet i h => exact identified.of_eq (selectSheet?_ids h).1 (selectSheet?_ids h).2
  | newFile => exact below.identified (ids_freshSheets e.config 1)
  | openWorkbook w h =>
    obtain ⟨-, rfl⟩ := openWorkbook_eq_ok h
    exact below.identified (Workbook.ids_renumber w.sheets)

end Steps

/-- An editor starts with distinct ids, unless it is given a workbook that has not. -/
theorem identified_start (c : Config) {store : Store}
    (distinct : ∀ w, stored store = .ok (some w) → w.ids.Nodup)
    (roomy : (start c store).Roomy) : Identified (start c store) := by
  have below := idsBelow_start c store roomy
  refine ⟨below, ?_⟩
  rcases start_cases c store with ⟨-, started⟩ | ⟨w, found, started⟩
  · have ids : (fresh c.normalized store).workbook.ids =
        List.range' 1 c.normalized.initialSheets := ids_freshSheets _ _
    rw [started, ids]
    exact List.nodup_range'
  · rcases (fresh c.normalized store).adopt_cases w with same | renumbered
    · rw [started, same]
      exact distinct w found
    · rw [started, renumbered, ids_renumbered]
      exact List.nodup_range'

/-- In a run with fewer sheets than ids at all times the ids stay distinct. -/
theorem Identified.run {e : Editor} (valid : e.Valid) (identified : Identified e)
    (actions : List Action) (roomy : ∀ taken, taken <+: actions → (e.run taken).Roomy) :
    Identified (e.run actions) := by
  induction actions generalizing e with
  | nil => exact identified
  | cons action rest ih =>
    have change := perform_change e action
    have first := change.identified valid identified
      (roomy [action] (List.prefix_append [action] rest))
    refine ih (change.valid valid) first fun taken h => ?_
    exact roomy (action :: taken) (List.cons_prefix_cons.mpr ⟨rfl, h⟩)

end Editor

namespace Checked.Ids

variable {e : Editor}

/-- A number that is to be an id. -/
def ofNat (n : Nat) : Checked Nat :=
  if n < Sheet.idBound then .ok n else .error ⟨n, Sheet.idBound⟩

/-- The id after a number, which has to be in the range of ids itself. -/
def after (n : Nat) : Checked Nat := do
  ofNat ((← ofNat n) + 1)

def renumber (sheets : List Sheet) : Checked (List Sheet) :=
  sheets.zipIdx.mapM fun (s, i) => do return { s with id := ← after i }

def renumbered (e : Editor) : Checked Editor := do
  let sheets ← renumber e.workbook.sheets
  return { e with workbook := { e.workbook with sheets := sheets }, nextId := ← after sheets.length }

def withFreeId (e : Editor) : Checked Editor :=
  if e.nextId + 1 = Sheet.idBound then renumbered e else .ok e

/-- A blank sheet with the next id. Before the last id would be given away, the sheets that there are
get new ones. -/
def blankSheet (e : Editor) (number : Nat) : Checked (Sheet × Editor) := do
  let e ← withFreeId e
  let next ← after e.nextId
  let s := Sheet.blank (Workbook.numberedName number) e.nextId e.config.maxRows e.config.columns
  return (s, { e with nextId := next })

/-- An editor that has no sheet yet. -/
def unfilled (c : Config) (store : Store) (next : Nat) : Editor :=
  { Editor.fresh c store with workbook := ⟨[], 0⟩, nextId := next }

/-- One more of the first sheets. -/
def fill : List Sheet × Editor → Nat → Checked (List Sheet × Editor)
  | (sheets, e), i => do
    let (s, e) ← blankSheet e (i + 1)
    return (sheets ++ [s], e)

/-- The first sheets are made one after another and then given to the editor. -/
def fresh (c : Config) (store : Store) : Checked Editor := do
  let (sheets, e) ← (List.range c.initialSheets).foldlM fill ([], unfilled c store 1)
  return { e with workbook := ⟨sheets, 0⟩ }

def adopt (e : Editor) (w : Workbook) : Checked Editor :=
  let greatest := (w.sheets.map Sheet.id).foldl max 0
  let e := { e with workbook := w }
  if greatest + 1 < Sheet.idBound then do return { e with nextId := ← after greatest }
  else renumbered e

def start (c : Config) (store : Store) : Checked Editor := do
  let e ← fresh c.normalized store
  match Editor.stored store with
  | .ok (some w) => adopt e w
  | _ => return e

def addSheet (e : Editor) : Checked Editor := do
  let (s, e) ← blankSheet e (e.workbook.sheets.length + 1)
  let sheets := e.workbook.sheets
  return { e.resetView with workbook := ⟨sheets ++ [s], sheets.length⟩ }.saved

def newFile (e : Editor) : Checked Editor := do
  let (s, e) ← blankSheet { e with nextId := 1 } 1
  return { e.resetView with
    workbook := ⟨[s], 0⟩
    bar := .empty
    kinds := fun _ => .text
    formats := fun _ => {}
    clipboard := none }.saved

def openWorkbook (e : Editor) (w : Workbook) : Checked (Except WorkbookError Editor) :=
  match w.checked with
  | .error err => return .error err
  | .ok w => do
    let e ← renumbered { e with workbook := ⟨w.sheets, 0⟩ }
    return .ok { e.resetView with bar := .empty }.saved

/-- What an action answers and the editor after it. The actions that are not listed compute no
ids. -/
def perform (e : Editor) : Action → Checked (Reply × Editor)
  | .addSheet => do
    let e ← addSheet e
    return (.count e.workbook.active, e)
  | .newFile => do return (.nothing, ← newFile e)
  | .openWorkbook w => do return e.ifAccepted (← openWorkbook e w)
  | action => return e.perform action

theorem after_eq_ok {n : Nat} (h : n + 1 < Sheet.idBound) : after n = .ok (n + 1) := by
  have first : ofNat n = .ok n := if_pos (Nat.lt_of_succ_lt h)
  rw [after, first, ok_bind]
  exact if_pos h

theorem renumber_eq_ok {sheets : List Sheet} (few : sheets.length < Sheet.idBound) :
    renumber sheets = .ok (Workbook.renumber sheets) := by
  rw [Workbook.renumber, List.mapIdx_eq_zipIdx_map]
  refine mapM_eq_ok fun place h => ?_
  have inside := List.snd_lt_of_mem_zipIdx h
  dsimp only
  rw [after_eq_ok (by omega)]
  rfl

theorem renumbered_eq_ok (roomy : e.Roomy) : renumbered e = .ok e.renumbered := by
  have length : (Workbook.renumber e.workbook.sheets).length = e.workbook.sheets.length :=
    List.length_mapIdx
  rw [renumbered, renumber_eq_ok (Nat.lt_of_succ_lt roomy), ok_bind, length, after_eq_ok roomy]
  rfl

theorem withFreeId_eq_ok (roomy : e.nextId + 1 = Sheet.idBound → e.Roomy) :
    withFreeId e = .ok e.withFreeId := by
  rw [withFreeId, Editor.withFreeId]
  split
  · rename_i last
    exact renumbered_eq_ok (roomy last)
  · rfl

theorem blankSheet_eq_ok {e' : Editor} (free : withFreeId e = .ok e')
    (left : e'.nextId + 1 < Sheet.idBound) (number : Nat) :
    blankSheet e number = .ok (Sheet.blank (Workbook.numberedName number) e'.nextId
      e'.config.maxRows e'.config.columns, { e' with nextId := e'.nextId + 1 }) := by
  rw [blankSheet, free, ok_bind, after_eq_ok left]
  rfl

section Starting

variable (c : Config) (store : Store)

/-- However many sheets there are to be at first, their ids are in range. -/
theorem fill_ok (i : Nat) (sheets : List Sheet) {next : Nat} (inside : next < Sheet.idBound) :
    ∃ sheets' next', next' < Sheet.idBound ∧
      fill (sheets, unfilled c store next) i = .ok (sheets', unfilled c store next') := by
  by_cases last : next + 1 = Sheet.idBound
  · have free : withFreeId (unfilled c store next) = .ok (unfilled c store 1) := by
      rw [withFreeId, unfilled, if_pos last]
      rfl
    have left : 1 + 1 < Sheet.idBound := by decide
    exact ⟨_, 2, left, by rw [fill, blankSheet_eq_ok free left]; rfl⟩
  · have free : withFreeId (unfilled c store next) = .ok (unfilled c store next) := if_neg last
    have left : next + 1 < Sheet.idBound := by omega
    exact ⟨_, next + 1, left, by rw [fill, blankSheet_eq_ok free left]; rfl⟩

theorem fill_all_ok (places : List Nat) (sheets : List Sheet) {next : Nat}
    (inside : next < Sheet.idBound) :
    ∃ sheets' next', places.foldlM fill (sheets, unfilled c store next) =
      .ok (sheets', unfilled c store next') := by
  induction places generalizing sheets next with
  | nil => exact ⟨sheets, next, rfl⟩
  | cons i rest ih =>
    obtain ⟨sheets', next', inside', first⟩ := fill_ok c store i sheets inside
    obtain ⟨all, last, filled⟩ := ih sheets' inside'
    exact ⟨all, last, by rw [List.foldlM_cons, first, ok_bind, filled]⟩

/-- With fewer first sheets than ids they are numbered in order. -/
theorem fresh_eq_ok (roomy : (Editor.fresh c store).Roomy) :
    fresh c store = .ok (Editor.fresh c store) := by
  have few : c.initialSheets + 1 < Sheet.idBound := by
    have length : (Editor.fresh c store).workbook.sheets.length = c.initialSheets := by
      simp [Editor.fresh, Editor.freshSheets]
    rwa [Editor.Roomy, length] at roomy
  have loop := foldlM_eq_ok fill (List.range c.initialSheets)
    (fun n => (Editor.freshSheets c n, unfilled c store (n + 1))) fun n i hi => by
      obtain ⟨inside, rfl⟩ := List.getElem?_eq_some_iff.mp hi
      rw [List.length_range] at inside
      have free : withFreeId (unfilled c store (n + 1)) = .ok (unfilled c store (n + 1)) :=
        if_neg (show ¬n + 1 + 1 = Sheet.idBound by omega)
      rw [List.getElem_range, fill,
        blankSheet_eq_ok free (show n + 1 + 1 < Sheet.idBound by omega)]
      simp only [Editor.freshSheets, List.range_succ, List.map_append]
      rfl
  have none : Editor.freshSheets c 0 = [] := rfl
  rw [List.length_range, none] at loop
  rw [fresh, loop]
  rfl

theorem adopt_eq_ok {w : Workbook} (roomy : (e.adopt w).Roomy) :
    adopt e w = .ok (e.adopt w) := by
  simp only [Editor.adopt] at roomy
  simp only [adopt, Editor.adopt]
  split
  · rename_i left
    rw [after_eq_ok left]
    rfl
  · rename_i last
    rw [if_neg last, Editor.Roomy, Editor.length_renumbered] at roomy
    exact renumbered_eq_ok roomy

/-- An editor starts with ids in range. -/
theorem start_eq_ok (roomy : (Editor.start c store).Roomy) :
    start c store = .ok (Editor.start c store) := by
  rcases Editor.start_cases c store with ⟨none, started⟩ | ⟨w, found, started⟩
  · rw [started] at roomy ⊢
    rw [start, fresh_eq_ok _ _ roomy, ok_bind]
    split
    · rename_i w found
      exact absurd found (none w)
    · rfl
  · rw [started] at roomy ⊢
    obtain ⟨sheets, next, filled⟩ := fill_all_ok c.normalized store
      (List.range c.normalized.initialSheets) [] (show 1 < Sheet.idBound by decide)
    -- the first sheets give way to those of the store
    have first : ∀ e : Editor, e = { unfilled c.normalized store next with
        workbook := ⟨sheets, 0⟩ } → adopt e w = adopt (Editor.fresh c.normalized store) w := by
      rintro e rfl
      rfl
    rw [start, found, fresh, filled, ok_bind]
    exact (first _ rfl).trans (adopt_eq_ok roomy)

end Starting

section Acting

theorem addSheet_eq_ok (below : e.IdsBelow) (roomy : e.addSheet.Roomy) :
    addSheet e = .ok e.addSheet := by
  have left := (below.withFreeId roomy).2
  rw [Editor.Roomy, Editor.length_addSheet] at roomy
  rw [addSheet, blankSheet_eq_ok (withFreeId_eq_ok fun _ => Nat.lt_of_succ_lt roomy) left, ok_bind,
    ← e.length_withFreeId]
  rfl

theorem newFile_eq_ok (e : Editor) : newFile e = .ok e.newFile := by
  have left : 1 + 1 < Sheet.idBound := by decide
  have free : withFreeId { e with nextId := 1 } = .ok { e with nextId := 1 } :=
    if_neg (Nat.ne_of_lt left)
  rw [newFile, blankSheet_eq_ok free left]
  rfl

theorem openWorkbook_eq_ok {w : Workbook} (roomy : ∀ e', e.openWorkbook w = .ok e' → e'.Roomy) :
    openWorkbook e w = .ok (e.openWorkbook w) := by
  rw [openWorkbook, Editor.openWorkbook]
  cases checked : w.checked with
  | error err => rfl
  | ok v =>
    have room := roomy _ (Editor.openWorkbook_of_checked checked)
    have few : ({ e with workbook := ⟨v.sheets, 0⟩ } : Editor).renumbered.Roomy := room
    rw [Editor.Roomy, Editor.length_renumbered] at few
    dsimp only
    rw [renumbered_eq_ok few]
    rfl

/-- As long as there is room no action computes an id out of range. -/
theorem perform_eq_ok (below : e.IdsBelow) {action : Action}
    (roomy : (e.perform action).2.Roomy) : perform e action = .ok (e.perform action) := by
  cases action with
  | addSheet =>
    rw [perform, addSheet_eq_ok below roomy]
    rfl
  | newFile =>
    rw [perform, newFile_eq_ok]
    rfl
  | openWorkbook w =>
    rw [perform, openWorkbook_eq_ok fun e' opened => ?_]
    · rfl
    · rw [Editor.perform, opened] at roomy
      exact roomy
  | _ => rfl

end Acting

end Checked.Ids

namespace Editor

/-- Let an editor start with fresh sheets or with a workbook whose ids are distinct, and have fewer
sheets than ids at all times. Then at all times the ids are distinct, they lie below the next one,
and that is an id, so none of them is the last. Adding, removing and selecting a sheet leave every
other sheet its id, except that all are numbered in order when the ids are used up. And with every
id checked, starting and every action that leaves room run through and give what they give
unchecked. -/
theorem run_ids_distinct (c : Config) (store : Store) (actions : List Action)
    (distinct : ∀ w, stored store = .ok (some w) → w.ids.Nodup)
    (roomy : ∀ taken, taken <+: actions → ((start c store).run taken).Roomy) :
    let e := (start c store).run actions
    (e.workbook.ids.Nodup ∧ (∀ id ∈ e.workbook.ids, id < e.nextId ∧ id + 1 < Sheet.idBound) ∧
        e.nextId < Sheet.idBound) ∧
      ((e.perform .addSheet).2.workbook.ids =
          if e.nextId + 1 = Sheet.idBound then List.range' 1 (e.workbook.sheets.length + 1)
          else e.workbook.ids ++ [e.nextId]) ∧
      (∀ i, (e.perform (.removeSheet i)).1 = .done true →
        (e.perform (.removeSheet i)).2.workbook.ids = e.workbook.ids.eraseIdx i) ∧
      (∀ i, (e.perform (.selectSheet i)).2.workbook.ids = e.workbook.ids) ∧
      Checked.Ids.start c store = .ok (start c store) ∧
      ∀ action, (e.perform action).2.Roomy →
        Checked.Ids.perform e action = .ok (e.perform action) := by
  intro e
  have first : (start c store).Roomy := roomy [] List.nil_prefix
  have identified : Identified e :=
    (identified_start c distinct first).run (valid_start c store) actions roomy
  have below : ∀ id ∈ e.workbook.ids, id < e.nextId ∧ id + 1 < Sheet.idBound := fun id used =>
    ⟨identified.used id used, Nat.lt_of_le_of_lt (identified.used id used) identified.left⟩
  refine ⟨⟨identified.distinct, below, identified.left⟩, e.ids_addSheet_eq, fun i done => ?_,
    fun i => ?_, Checked.Ids.start_eq_ok c store first,
    fun action => Checked.Ids.perform_eq_ok identified.toIdsBelow⟩
  · cases h : e.removeSheet? i with
    | none =>
      rw [perform, h] at done
      cases done
    | some e' =>
      rw [perform, h]
      exact (removeSheet?_ids h).1
  · exact ifDone_of (P := (·.workbook.ids = e.workbook.ids)) rfl fun e' h => (selectSheet?_ids h).1

/-- Two sheets, one of them with the last id but one. -/
def nearlyUsedUp : Workbook :=
  ⟨[Sheet.blank "Totals".toList 4294967294 1 1, Sheet.blank "Notes".toList 7 1 1], 0⟩

/-- An editor takes them as they are, and has to number them anew for a third. -/
theorem nearlyUsedUp_renumbered :
    let e := start ⟨1, 1, 1, 300⟩ ⟨.memory, .kept nearlyUsedUp, true, true, 0⟩
    e.workbook.ids = [4294967294, 7] ∧ (e.run [.addSheet]).workbook.ids = [1, 2, 3] ∧
      Checked.Ids.perform e .addSheet = .ok (e.perform .addSheet) := by
  have distinct : ∀ w, stored ⟨.memory, .kept nearlyUsedUp, true, true, 0⟩ = .ok (some w) →
      w.ids.Nodup := by
    intro w found
    have taken : stored ⟨.memory, .kept nearlyUsedUp, true, true, 0⟩ =
        .ok (some nearlyUsedUp) := by decide
    rw [taken] at found
    cases found
    decide
  have roomy : ∀ taken, taken <+: [] → ((start ⟨1, 1, 1, 300⟩
      ⟨.memory, .kept nearlyUsedUp, true, true, 0⟩).run taken).Roomy := by
    intro taken none
    rw [List.prefix_nil.mp none, Roomy]
    decide
  obtain ⟨-, added, -, -, -, checked⟩ := run_ids_distinct ⟨1, 1, 1, 300⟩
    ⟨.memory, .kept nearlyUsedUp, true, true, 0⟩ [] distinct roomy
  exact ⟨by decide, added, checked .addSheet (by rw [Roomy]; decide)⟩

end Editor

end Spreadsheet
