import Mathlib.Data.List.Induction
import Spreadsheet.Proofs.BytePositions
import Spreadsheet.Proofs.DrawnRanges
import Spreadsheet.Proofs.Views

/-!
# What happens to the formula bar

Whatever is done to an editor, its formula bar only takes a few edits. As long as its text is not
replaced behind the back of caret and insertion, the caret stands inside of the text, and right
behind the range that was put in last if this is still to be replaced. Otherwise the indices may lie
outside of the text, but every one of them is turned into a byte at which the text can be cut.
-/

namespace Spreadsheet

namespace FormulaBar

/-- What can be done to a formula bar. -/
inductive Edit where
  | setText (t : Text)
  | setCaret (n : Nat)
  | insert (range : Text)
  | settle
  | focus
  | unfocus
  | clear
  /-- Caret and insertion do not follow. -/
  | overwrite (t : Text)
deriving DecidableEq, Repr

def Edit.apply (b : FormulaBar) : Edit → FormulaBar
  | .setText t => b.setText t
  | .setCaret n => b.setCaret n
  | .insert range => b.insertRange range
  | .settle => b.settle
  | .focus => b.focus
  | .unfocus => b.unfocus
  | .clear => .empty
  | .overwrite t => { b with text := t }

/-- The range that an edit puts in. -/
def Edit.range? : Edit → Option Text
  | .insert range => some range
  | _ => none

def edited (b : FormulaBar) (edits : List Edit) : FormulaBar :=
  edits.foldl Edit.apply b

theorem edited_append (b : FormulaBar) (edits rest : List Edit) :
    b.edited (edits ++ rest) = (b.edited edits).edited rest :=
  List.foldl_append

/-- The last range that was put in. -/
def lastRange? (edits : List Edit) : Option Text :=
  (edits.filterMap Edit.range?).getLast?

section Bytes

/-- The bar without the range put in last, which is taken out by bytes. -/
def withoutInsertedBytes? (b : FormulaBar) : Option FormulaBar :=
  match b.inserted with
  | none => some b
  | some i => do
    let text ← b.text.removeBetween? (b.text.byteOffset i.start)
      (b.text.byteOffset (i.start + i.length))
    return { b with text := text, caret := i.start, inserted := none }

/-- Puts a range in by bytes. -/
def insertRangeBytes? (b : FormulaBar) (range : Text) : Option FormulaBar := do
  let b ← b.withoutInsertedBytes?
  let text ← b.text.insertAt? (b.text.byteOffset b.caret) range
  return { b with
    text := text
    caret := b.caret + range.length
    inserted := some ⟨b.caret, range.length⟩ }

/-- An edit whose cuts are made by bytes, if the text can be cut there. -/
def Edit.applyBytes? (b : FormulaBar) : Edit → Option FormulaBar
  -- no other edit cuts the text
  | .insert range => b.insertRangeBytes? range
  | edit => some (edit.apply b)

theorem withoutInsertedBytes?_eq (b : FormulaBar) :
    b.withoutInsertedBytes? = some b.withoutInserted := by
  cases inserted : b.inserted with
  | none => simp only [withoutInsertedBytes?, withoutInserted, inserted]
  | some i =>
    have removed := b.text.removeBetween?_byteOffset (Nat.le_add_right i.start i.length)
    simp only [withoutInsertedBytes?, withoutInserted, inserted, removed]
    rfl

/-- Wherever caret and insertion are, the text can be cut there. -/
theorem insertRangeBytes?_eq (b : FormulaBar) (range : Text) :
    b.insertRangeBytes? range = some (b.insertRange range) := by
  rw [insertRangeBytes?, withoutInsertedBytes?_eq, Option.bind_eq_bind, Option.bind_some,
    Text.insertAt?_byteOffset]
  rfl

theorem applyBytes?_eq (b : FormulaBar) (edit : Edit) :
    Edit.applyBytes? b edit = some (edit.apply b) := by
  cases edit with
  | insert range => exact b.insertRangeBytes?_eq range
  | _ => rfl

theorem foldlM_applyBytes? (b : FormulaBar) (edits : List Edit) :
    edits.foldlM Edit.applyBytes? b = some (b.edited edits) := by
  induction edits generalizing b with
  | nil => rfl
  | cons edit rest ih =>
    rw [List.foldlM_cons, applyBytes?_eq]
    exact ih _

end Bytes

/-- The caret stands after a first part of the text. It ends in the range that was put in last, if
this is still to be replaced. -/
structure Reads (b : FormulaBar) (before : Text) (range : Option Text) (after : Text) : Prop where
  text : b.text = before ++ range.getD [] ++ after
  caret : b.caret = (before ++ range.getD []).length
  inserted : b.inserted = range.map fun r => ⟨before.length, r.length⟩

section Reads

variable {b : FormulaBar} {u v : Text} {range : Option Text}

theorem reads_empty : empty.Reads [] none [] :=
  ⟨rfl, rfl, rfl⟩

theorem reads_setText (b : FormulaBar) (t : Text) : (b.setText t).Reads t none [] :=
  ⟨by simp [setText], by simp [setText], rfl⟩

theorem reads_setCaret (b : FormulaBar) (n : Nat) :
    (b.setCaret n).Reads (b.text.take n) none (b.text.drop n) :=
  ⟨by simp [setCaret], by simp [setCaret], rfl⟩

theorem Reads.withoutInserted (reads : b.Reads u range v) :
    b.withoutInserted.Reads u none v := by
  obtain ⟨text, caret, inserted⟩ := reads
  cases range with
  | none =>
    have same : b.withoutInserted = b := by simp [FormulaBar.withoutInserted, inserted]
    rw [same]
    exact ⟨text, caret, inserted⟩
  | some r =>
    refine ⟨?_, ?_, ?_⟩
    · simp [FormulaBar.withoutInserted, inserted, text]
    · simp [FormulaBar.withoutInserted, inserted]
    · simp [FormulaBar.withoutInserted, inserted]

/-- The next range takes the place of the one put in last. -/
theorem Reads.insertRange (reads : b.Reads u range v) (next : Text) :
    (b.insertRange next).Reads u (some next) v := by
  obtain ⟨text, caret, -⟩ := reads.withoutInserted
  refine ⟨?_, ?_, ?_⟩
  · simp [FormulaBar.insertRange, text, caret]
  · simp [FormulaBar.insertRange, caret]
  · simp [FormulaBar.insertRange, caret]

theorem Reads.settle (reads : b.Reads u range v) :
    b.settle.Reads (u ++ range.getD []) none v :=
  ⟨by simp [FormulaBar.settle, reads.text], by simp [FormulaBar.settle, reads.caret], rfl⟩

/-- A range that is still to be replaced stands right before the caret. -/
theorem Reads.inside (reads : b.Reads u range v) :
    b.caret ≤ b.text.length ∧
      ∀ i, b.inserted = some i →
        i.start + i.length ≤ b.text.length ∧ b.caret = i.start + i.length ∧
          range = some ((b.text.drop i.start).take i.length) := by
  obtain ⟨text, caret, inserted⟩ := reads
  constructor
  · rw [text, caret]
    simp
  · intro i held
    rw [inserted] at held
    obtain ⟨r, rfl, rfl⟩ := Option.map_eq_some_iff.mp held
    refine ⟨?_, ?_, ?_⟩
    · simp [text]
    · simp [caret]
    · simp [text]

end Reads

/-- After any edits but those that go behind the back of the caret, a range that is still to be
replaced is the last one that was put in. -/
theorem reads_edited (edits : List Edit) (follows : ∀ t, Edit.overwrite t ∉ edits) :
    ∃ before range after, (empty.edited edits).Reads before range after ∧
      ∀ r, range = some r → lastRange? edits = some r := by
  -- from the end: the last edit puts a range in, keeps the one that was there, or lets it stay for
  -- good, and then there is nothing to be said of it
  induction edits using List.reverseRecOn with
  | nil => exact ⟨[], none, [], reads_empty, by simp⟩
  | append_singleton edits edit ih =>
    obtain ⟨u, range, v, reads, last⟩ := ih fun t h => follows t (List.mem_append_left _ h)
    have kept : edit.range? = none → lastRange? (edits ++ [edit]) = lastRange? edits := by
      intro none
      simp [lastRange?, none]
    rw [edited_append]
    cases edit with
    | setText t => exact ⟨t, none, [], reads_setText _ t, by simp⟩
    | setCaret n => exact ⟨_, none, _, reads_setCaret _ n, by simp⟩
    | insert next =>
      refine ⟨u, some next, v, reads.insertRange next, ?_⟩
      rintro r ⟨⟩
      simp [lastRange?, Edit.range?]
    | settle => exact ⟨_, none, v, reads.settle, by simp⟩
    | focus =>
      exact ⟨u, range, v, ⟨reads.text, reads.caret, reads.inserted⟩,
        fun r h => (kept rfl).trans (last r h)⟩
    | unfocus =>
      exact ⟨u, range, v, ⟨reads.text, reads.caret, reads.inserted⟩,
        fun r h => (kept rfl).trans (last r h)⟩
    | clear => exact ⟨[], none, [], reads_empty, by simp⟩
    | overwrite t => exact absurd (by simp) (follows t)

end FormulaBar

namespace Editor

/-- What a selection that is drawn does to the formula bar. -/
def drawnEdits (e : Editor) (x : Selection) : List FormulaBar.Edit :=
  if e.editing.isSome then []
  else if x.isSingle then [.setText (e.raw x.topLeft)]
  else if e.bar.focused then [.insert x.toText]
  else []

theorem barAfter_eq (e : Editor) (x : Selection) :
    e.barAfter x = e.bar.edited (e.drawnEdits x) := by
  rw [barAfter, drawnEdits]
  split
  · rfl
  · split
    · rfl
    · split <;> rfl

/-- What drawing a selection does to it. -/
def reselectEdits (e : Editor) : List FormulaBar.Edit :=
  match e.drag.bind fun d => Selection.between? e.sheet d.start d.stop with
  | some x => e.drawnEdits x
  | none => []

theorem bar_reselect (e : Editor) : e.reselect.bar = e.bar.edited e.reselectEdits := by
  simp only [reselect, reselectEdits]
  cases e.drag.bind fun d => Selection.between? e.sheet d.start d.stop with
  | none => rfl
  | some x => exact e.barAfter_eq x

/-- What a click on a cell does to it. -/
def clickEdits (e : Editor) (a : Address) : List FormulaBar.Edit :=
  let clicked : Editor := { e with
    selected := some a, drag := some ⟨a, a⟩, bar := e.bar.unfocus }
  .unfocus :: clicked.reselectEdits

theorem bar_click (e : Editor) (a : Address) : (e.click a).bar = e.bar.edited (e.clickEdits a) :=
  bar_reselect _

/-- What moving the selected cell does to it. -/
def movedEdits (e : Editor) : Option (Address × Editor) → List FormulaBar.Edit
  | some (a, _) => e.clickEdits a
  | none => []

theorem bar_ifMoved {e : Editor} {next : Option (Address × Editor)}
    (clicks : ∀ a e', next = some (a, e') → e' = e.click a) :
    (e.ifMoved next).2.bar = e.bar.edited (e.movedEdits next) := by
  cases next with
  | none => rfl
  | some pair =>
    have clicked : pair.2 = e.click pair.1 := clicks pair.1 pair.2 rfl
    exact (congrArg Editor.bar clicked).trans (e.bar_click pair.1)

/-- What an action does to it. -/
def barEdits (e : Editor) : Action → List FormulaBar.Edit
  | .press a =>
    let held : Editor := { e with
      dragging := true, selected := some a, drag := some ⟨a, a⟩, bar := e.bar.settle }
    .settle :: held.reselectEdits
  | .dragOver a =>
    match e.drag with
    | some d =>
      let moved : Editor := { e with drag := some ⟨d.start, a⟩ }
      if e.dragging then moved.reselectEdits else []
    | none => []
  | .release => [.settle]
  | .click a => e.clickEdits a
  | .focusBar => [.focus]
  | .blurBar => [.unfocus, .settle]
  | .setBar t => [.setText t]
  | .setCaret n => [.setCaret n]
  | .overwriteBar t => [.overwrite t]
  | .submit =>
    match e.submit with
    | .ok (some _) => [.unfocus]
    | _ => []
  | .step d => e.movedEdits (e.step? d)
  | .tab back => e.movedEdits (e.tab? back)
  | .newFile => [.clear]
  | .openWorkbook w =>
    match e.openWorkbook w with
    | .ok _ => [.clear]
    | .error _ => []
  | _ => []

/-- What a run does to it. -/
def barHistory (e : Editor) : List Action → List FormulaBar.Edit
  | [] => []
  | action :: rest => e.barEdits action ++ (e.perform action).2.barHistory rest

theorem bar_dragOver (e : Editor) (a : Address) :
    (e.dragOver a).bar = e.bar.edited (e.barEdits (.dragOver a)) := by
  simp only [dragOver, barEdits]
  cases e.drag with
  | none => rfl
  | some d =>
    dsimp only
    split
    · exact bar_reselect _
    · rfl

theorem bar_submit (e : Editor) :
    (e.perform .submit).2.bar = e.bar.edited (e.barEdits .submit) := by
  simp only [perform, barEdits]
  cases answer : e.submit with
  | error err => rfl
  | ok moved =>
    cases moved with
    | none => rfl
    | some pair =>
      obtain ⟨t, written, -, after⟩ := submit_eq_ok answer
      exact congrArg Editor.bar after

theorem bar_openWorkbook (e : Editor) (w : Workbook) :
    (e.perform (.openWorkbook w)).2.bar = e.bar.edited (e.barEdits (.openWorkbook w)) := by
  simp only [perform, barEdits]
  cases opened : e.openWorkbook w with
  | error err => rfl
  | ok e' =>
    obtain ⟨-, rfl⟩ := openWorkbook_eq_ok opened
    rfl

/-- An action does nothing else to the formula bar. -/
theorem bar_perform (e : Editor) (action : Action) :
    (e.perform action).2.bar = e.bar.edited (e.barEdits action) := by
  cases works : action.works with
  | true =>
    have nothing : e.barEdits action = [] := by
      cases action with
      | press | dragOver | release | click | focusBar | blurBar | setBar | setCaret | overwriteBar
      | submit | step | tab | newFile | openWorkbook => cases works
      | _ => rfl
    rw [nothing]
    exact (e.perform_works works).bar
  | false =>
    cases action with
    | press a => exact bar_reselect _
    | dragOver a => exact e.bar_dragOver a
    | click a => exact e.bar_click a
    | submit => exact e.bar_submit
    | step d => exact bar_ifMoved fun a e' => step?_eq_some
    | tab back => exact bar_ifMoved fun a e' => tab?_eq_some
    | copy =>
      refine ifTaken_of (P := (·.bar = e.bar)) rfl fun t e' h => ?_
      obtain ⟨b, -, -, rfl⟩ := copy?_eq_some h
      rfl
    | cut =>
      refine ifTaken_of (P := (·.bar = e.bar)) rfl fun t e' h => ?_
      obtain ⟨b, -, -, rfl⟩ := cut?_eq_some h
      rfl
    | openWorkbook w => exact e.bar_openWorkbook w
    | release | focusBar | blurBar | beginEdit | cancelEdit | setBar | setCaret | overwriteBar
    | newFile => rfl
    | _ => cases works

theorem bar_run (e : Editor) (actions : List Action) :
    (e.run actions).bar = e.bar.edited (e.barHistory actions) := by
  induction actions generalizing e with
  | nil => rfl
  | cons action rest ih =>
    rw [run_cons, ih, bar_perform, barHistory, FormulaBar.edited_append]

/-- Drawing a selection goes behind nobody's back. -/
theorem overwrite_notMem_reselectEdits (e : Editor) (t : Text) :
    FormulaBar.Edit.overwrite t ∉ e.reselectEdits := by
  rw [reselectEdits]
  split
  · rw [drawnEdits]
    split
    · simp
    · split
      · simp
      · split <;> simp
  · simp

theorem overwrite_notMem_clickEdits (e : Editor) (a : Address) (t : Text) :
    FormulaBar.Edit.overwrite t ∉ e.clickEdits a := by
  rintro (_ | ⟨_, h⟩)
  exact overwrite_notMem_reselectEdits _ t h

theorem overwrite_notMem_movedEdits (e : Editor) (next : Option (Address × Editor)) (t : Text) :
    FormulaBar.Edit.overwrite t ∉ e.movedEdits next := by
  cases next with
  | none => exact List.not_mem_nil
  | some pair => exact e.overwrite_notMem_clickEdits pair.1 t

/-- Only one action replaces the text behind the back of the caret. -/
theorem eq_overwriteBar {e : Editor} {action : Action} {t : Text}
    (h : .overwrite t ∈ e.barEdits action) : action = .overwriteBar t := by
  cases action with
  | overwriteBar t' => simpa [barEdits, eq_comm] using h
  | press a =>
    rcases List.mem_cons.mp h with h | h
    · cases h
    · exact absurd h (overwrite_notMem_reselectEdits _ t)
  | dragOver a =>
    simp only [barEdits] at h
    split at h
    · split at h
      · exact absurd h (overwrite_notMem_reselectEdits _ t)
      · cases h
    · cases h
  | click a => exact absurd h (e.overwrite_notMem_clickEdits a t)
  | submit =>
    simp only [barEdits] at h
    split at h
    · cases List.mem_singleton.mp h
    · cases h
  | step d => exact absurd h (e.overwrite_notMem_movedEdits _ t)
  | tab back => exact absurd h (e.overwrite_notMem_movedEdits _ t)
  | openWorkbook w =>
    simp only [barEdits] at h
    split at h
    · cases List.mem_singleton.mp h
    · cases h
  | _ => simp [barEdits] at h

theorem mem_of_overwrite_mem {e : Editor} {actions : List Action} {t : Text}
    (h : .overwrite t ∈ e.barHistory actions) : .overwriteBar t ∈ actions := by
  induction actions generalizing e with
  | nil => cases h
  | cons action rest ih =>
    rcases List.mem_append.mp h with first | later
    · rw [eq_overwriteBar first]
      exact List.mem_cons_self
    · exact List.mem_cons_of_mem action (ih later)

theorem bar_start (c : Config) (store : Store) : (start c store).bar = .empty := by
  obtain ⟨w, nextId, started⟩ := exists_start c store
  rw [started]
  rfl

/-- The formula bar reads as it should after every run that does not go behind the back of its
caret. -/
theorem exists_reads (c : Config) (store : Store) {actions : List Action}
    (follows : ∀ t, .overwriteBar t ∉ actions) :
    ∃ before range after, ((start c store).run actions).bar.Reads before range after ∧
      ∀ r, range = some r →
        FormulaBar.lastRange? ((start c store).barHistory actions) = some r := by
  rw [bar_run, bar_start]
  exact FormulaBar.reads_edited _ fun t h => follows t (mem_of_overwrite_mem h)

/-- Let a run reach an editor. Its formula bar took the edits of the history and no others. If the
text was never replaced behind the back of the caret, the caret stands inside of the text, and a
range that is still to be replaced is the last one that was put in, lies inside of the text and ends
at the caret. Even if the text was replaced, whatever action comes next, the text can be cut at the
bytes where its edits have to cut it. -/
theorem run_bar (c : Config) (store : Store) (actions : List Action) :
    let e := (start c store).run actions
    let history := (start c store).barHistory actions
    e.bar = FormulaBar.empty.edited history ∧
      ((∀ t, .overwriteBar t ∉ actions) →
        e.bar.caret ≤ e.bar.text.length ∧
          ∀ i, e.bar.inserted = some i →
            i.start + i.length ≤ e.bar.text.length ∧ e.bar.caret = i.start + i.length ∧
              FormulaBar.lastRange? history = some ((e.bar.text.drop i.start).take i.length)) ∧
      ∀ action, (e.barEdits action).foldlM FormulaBar.Edit.applyBytes? e.bar =
        some (e.perform action).2.bar := by
  intro e history
  refine ⟨?_, ?_, ?_⟩
  · exact (bar_run _ actions).trans (by rw [bar_start])
  · intro follows
    obtain ⟨u, range, v, reads, last⟩ := exists_reads c store follows
    refine ⟨reads.inside.1, ?_⟩
    intro i held
    obtain ⟨fits, caret, found⟩ := reads.inside.2 i held
    exact ⟨fits, caret, last _ found⟩
  · intro action
    rw [FormulaBar.foldlM_applyBytes?, bar_perform]

/-- A text whose characters take two bytes each is shown, and a range is put in between them. -/
def rangeBetween : List Action :=
  [.write ⟨0, ['A']⟩ "äö".toList, .focusBar, .press ⟨0, ['A']⟩, .setCaret 1, .dragOver ⟨1, ['B']⟩]

/-- The caret stands behind the range. When the text has been replaced by a shorter one, the range is
looked for behind its end, nothing is taken out there, and the next range is put in at the end. -/
theorem rangeBetween_bar :
    let start := start ⟨2, 2, 1, 300⟩ ⟨.memory, .nothing, true, true, 0⟩
    let e := start.run rangeBetween
    let stale := start.run (rangeBetween ++ [.overwriteBar "€".toList])
    let next := Action.dragOver ⟨1, ['A']⟩
    e.bar.text = "äA1:B2ö".toList ∧ e.bar.inserted = some ⟨1, 5⟩ ∧ e.bar.caret = 6 ∧
      FormulaBar.lastRange? (start.barHistory rangeBetween) = some "A1:B2".toList ∧
      stale.bar.inserted = some ⟨1, 5⟩ ∧
      (stale.perform next).2.bar.text = "€A1:A2".toList ∧
      (stale.barEdits next).foldlM FormulaBar.Edit.applyBytes? stale.bar =
        some (stale.perform next).2.bar := by
  have follows : ∀ t, Action.overwriteBar t ∉ rangeBetween := by
    intro t
    simp [rangeBetween]
  obtain ⟨-, caret, last⟩ := ((run_bar ⟨2, 2, 1, 300⟩ ⟨.memory, .nothing, true, true, 0⟩
    rangeBetween).2.1 follows).2 ⟨1, 5⟩ (by decide)
  have cuts := (run_bar ⟨2, 2, 1, 300⟩ ⟨.memory, .nothing, true, true, 0⟩
    (rangeBetween ++ [.overwriteBar "€".toList])).2.2 (.dragOver ⟨1, ['A']⟩)
  exact ⟨by decide, by decide, caret, last.trans (by decide), by decide, by decide, cuts⟩

end Editor

end Spreadsheet
