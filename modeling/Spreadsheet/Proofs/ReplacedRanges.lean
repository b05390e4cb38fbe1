import Spreadsheet.Proofs.BarEdits
import Spreadsheet.Proofs.DraggedSelections

/-!
# Ranges that are replaced

While a selection is dragged its range stands in the formula bar where the caret was, and each new
range takes the place of the one before. However far the pointer goes, only the range of the last
selection is there, between the two parts of the text. Back on its first cell the drag shows that
cell instead.
-/

namespace Spreadsheet

namespace Editor

/-- The text of the formula bar is that of the selection, between two parts. -/
def Shown (e : Editor) (u v : Text) : Prop :=
  ∃ x, e.selection = some x ∧ e.bar.Reads u (some x.toText) v

section Dragging

variable {e₀ e : Editor} {a b : Address} {u v : Text} {range : Option Text}

/-- A larger selection puts its range into a bar that is in focus. -/
theorem Dragging.shown_dragOver (dragging : Dragging a e₀ e) (focused : e₀.bar.focused = true)
    (plain : e₀.editing = none) (reads : e.bar.Reads u range v) {x : Selection}
    (drawn : Selection.between? e₀.sheet a b = some x) (wide : x.isSingle = false) :
    (e.dragOver b).Shown u v := by
  have bar : e.barAfter x = e.bar.insertRange x.toText :=
    barAfter_range (dragging.editing.trans plain) wide (dragging.focused.trans focused)
  rw [dragging.dragOver_inside drawn, bar]
  exact ⟨x, rfl, reads.insertRange x.toText⟩

/-- Whatever comes next takes the place of the range that is there. -/
theorem Dragging.shown_run (dragging : Dragging a e₀ e) (focused : e₀.bar.focused = true)
    (plain : e₀.editing = none) (shown : e.Shown u v) {overs : List Address}
    (wide : ∀ b ∈ overs, ∀ x, Selection.between? e₀.sheet a b = some x → x.isSingle = false) :
    (e.run (overs.map .dragOver)).Shown u v := by
  induction overs generalizing e with
  | nil => exact shown
  | cons b rest ih =>
    obtain ⟨first, later⟩ := List.forall_mem_cons.mp wide
    have next : (e.dragOver b).Shown u v := by
      obtain ⟨x, selected, reads⟩ := shown
      cases drawn : Selection.between? e₀.sheet a b with
      | none =>
        rw [dragging.dragOver_outside drawn]
        exact ⟨x, selected, reads⟩
      | some y => exact dragging.shown_dragOver focused plain reads drawn (first y drawn)
    exact ih (dragging.dragOver b) next later

/-- Once a cell of the sheet has been passed over there is a range. -/
theorem Dragging.run_shown (dragging : Dragging a e₀ e) (focused : e₀.bar.focused = true)
    (plain : e₀.editing = none) (reads : e.bar.Reads u range v) {overs : List Address}
    (wide : ∀ b ∈ overs, ∀ x, Selection.between? e₀.sheet a b = some x → x.isSingle = false)
    (reached : ∃ b ∈ overs, (Selection.between? e₀.sheet a b).isSome = true) :
    (e.run (overs.map .dragOver)).Shown u v := by
  -- up to the first cell of the sheet nothing happens, and from there on a range is shown
  induction overs generalizing e with
  | nil =>
    obtain ⟨b, none, -⟩ := reached
    cases none
  | cons b rest ih =>
    obtain ⟨first, later⟩ := List.forall_mem_cons.mp wide
    have moved := dragging.dragOver b
    cases drawn : Selection.between? e₀.sheet a b with
    | none =>
      have same : (e.dragOver b).bar.Reads u range v := by
        rw [dragging.dragOver_outside drawn]
        exact reads
      refine ih moved same later ?_
      obtain ⟨c, passed, inside⟩ := reached
      rcases List.mem_cons.mp passed with rfl | passed
      · rw [drawn] at inside
        cases inside
      · exact ⟨c, passed, inside⟩
    | some x =>
      have shown := dragging.shown_dragOver focused plain reads drawn (first x drawn)
      exact moved.shown_run focused plain shown later

/-- Where the pointer is back at the first cell, the bar shows it. -/
theorem Dragging.bar_returned (dragging : Dragging a e₀ e) (plain : e₀.editing = none)
    (here : (e₀.sheet.position? a).isSome = true) :
    (e.dragOver a).bar = e.bar.setText (e₀.raw a) := by
  obtain ⟨place, hplace⟩ := Option.isSome_iff_exists.mp here
  obtain ⟨x, drawn, single⟩ := Selection.between?_self hplace
  rw [dragging.dragOver_inside drawn]
  rw [← dragging.sheet] at drawn
  rw [← raw_congr dragging.sheet]
  exact barAfter_single (dragging.editing.trans plain) drawn single

/-- What is not in the sheet leaves the bar. -/
theorem Dragging.bar_outside (dragging : Dragging a e₀ e) {overs : List Address}
    (outside : ∀ b ∈ overs, Selection.between? e₀.sheet a b = none) :
    (e.run (overs.map .dragOver)).bar = e.bar := by
  induction overs generalizing e with
  | nil => rfl
  | cons b rest ih =>
    obtain ⟨first, later⟩ := List.forall_mem_cons.mp outside
    have bar : (e.dragOver b).bar = e.bar := by rw [dragging.dragOver_outside first]
    exact (ih (dragging.dragOver b) later).trans bar

end Dragging

/-- Let a run that does not go behind the back of the caret reach an editor in which a drag from a
cell of its sheet goes on, with the bar in focus, no range in it that is still to be replaced and no
cell edited in its place. Any way of the pointer that makes only larger selections, and makes one,
leaves the range of the last one at the caret, with the caret behind it. If the last cell passed
over is the first one of the drag, the bar holds its text, whatever came before. -/
theorem run_replaced_range (c : Config) (store : Store) (before : List Action)
    (a stop : Address) (overs : List Address) :
    let e := (start c store).run before
    (∀ t, .overwriteBar t ∉ before) → e.drag = some ⟨a, stop⟩ → e.dragging = true →
    (e.sheet.position? a).isSome = true → e.bar.focused = true → e.bar.inserted = none →
    e.editing = none →
    ((∀ b ∈ overs, ∀ x, Selection.between? e.sheet a b = some x → x.isSingle = false) →
      (∃ b ∈ overs, (e.sheet.position? b).isSome = true) →
      let dragged := e.run (overs.map .dragOver)
      ∃ x, dragged.selection = some x ∧
        dragged.bar.text =
          e.bar.text.take e.bar.caret ++ x.toText ++ e.bar.text.drop e.bar.caret ∧
        dragged.bar.caret = e.bar.caret + x.toText.length) ∧
    ∀ outside : List Address, (∀ b ∈ outside, (e.sheet.position? b).isSome = false) →
      let returned := e.run ((overs ++ a :: outside).map .dragOver)
      returned.bar.text = e.raw a ∧ returned.bar.caret = (e.raw a).length ∧
        returned.bar.inserted = none := by
  intro e follows corners held here focused settled plain
  have dragging : Dragging a e e := ⟨rfl, held, ⟨stop, corners⟩, rfl, rfl⟩
  constructor
  · intro wide reached dragged
    obtain ⟨u, range, v, reads, -⟩ := exists_reads c store follows
    -- nothing is remembered, so the caret parts the text itself
    have nothing : range = none := by
      have inserted := reads.inserted.symm.trans settled
      exact Option.map_eq_none_iff.mp inserted
    subst nothing
    have text : e.bar.text = u ++ v := by simpa using reads.text
    have caret : e.bar.caret = u.length := by simpa using reads.caret
    have drawn : ∃ b ∈ overs, (Selection.between? e.sheet a b).isSome = true := by
      obtain ⟨b, passed, inside⟩ := reached
      exact ⟨b, passed, (Selection.isSome_between? here b).trans inside⟩
    obtain ⟨x, selected, shows⟩ := dragging.run_shown focused plain reads wide drawn
    refine ⟨x, selected, ?_, ?_⟩
    · rw [shows.text, text, caret, List.take_left, List.drop_left, Option.getD_some]
    · rw [shows.caret, caret, List.length_append, Option.getD_some]
  · intro outside missed returned
    have nothing : ∀ b ∈ outside, Selection.between? e.sheet a b = none := by
      intro b passed
      rw [← Option.not_isSome_iff_eq_none, Selection.isSome_between? here, missed b passed]
      exact Bool.false_ne_true
    have back := dragging.run overs
    have bar : returned.bar = (e.run (overs.map .dragOver)).bar.setText (e.raw a) := by
      rw [← back.bar_returned plain here, ← (back.dragOver a).bar_outside nothing]
      simp only [returned, List.map_append, List.map_cons, run_append, run_cons, perform]
    rw [bar]
    exact ⟨rfl, rfl, rfl⟩

/-- A drag begins at a cell that holds two characters of two bytes each, and the caret is put between
them. -/
def caretBetween : List Action :=
  [.write ⟨0, ['C']⟩ "äö".toList, .focusBar, .press ⟨0, ['C']⟩, .setCaret 1]

/-- A way of the pointer from there, which leaves the sheet twice. -/
def throughTheEdges : List Address :=
  [⟨1, "Name".toList⟩, ⟨2, ['C']⟩, ⟨1, ['C']⟩, ⟨1, ['B']⟩]

/-- The range with the shorter label is there in place of the longer one. Back on the first cell, and
then below the sheet, neither is left. -/
theorem caretBetween_dragged :
    let e := (start ⟨1, 2, 1, 300⟩ ⟨.memory, .kept unorderedHeaders, true, true, 0⟩).run caretBetween
    let dragged := e.run (throughTheEdges.map .dragOver)
    let back : List Address := [⟨0, ['C']⟩, ⟨2, ['C']⟩]
    let returned := e.run ((throughTheEdges ++ back).map .dragOver)
    dragged.selection = some ⟨0, 1, ['C'], ['C']⟩ ∧ dragged.bar.text = "äC1:C2ö".toList ∧
      dragged.bar.caret = 6 ∧
      returned.bar.text = "äö".toList ∧ returned.bar.caret = 2 ∧ returned.bar.inserted = none := by
  have larger : ∀ b ∈ throughTheEdges, ((Selection.between?
      ((start ⟨1, 2, 1, 300⟩ ⟨.memory, .kept unorderedHeaders, true, true, 0⟩).run caretBetween).sheet
      ⟨0, ['C']⟩ b).all fun x => !x.isSingle) = true := by decide
  obtain ⟨ranges, shows⟩ := run_replaced_range ⟨1, 2, 1, 300⟩
    ⟨.memory, .kept unorderedHeaders, true, true, 0⟩ caretBetween ⟨0, ['C']⟩ ⟨0, ['C']⟩
    throughTheEdges (by simp [caretBetween]) (by decide) (by decide) (by decide) (by decide)
    (by decide) (by decide)
  obtain ⟨x, selected, text, caret⟩ :=
    ranges (fun b passed x drawn => by simpa [drawn] using larger b passed) (by decide)
  have range : x = ⟨0, 1, ['C'], ['C']⟩ := Option.some.inj (selected.symm.trans (by decide))
  obtain ⟨text', caret', nothing⟩ := shows [⟨2, ['C']⟩] (by decide)
  rw [range] at selected text caret
  exact ⟨selected, text.trans (by decide), caret.trans (by decide), text'.trans (by decide),
    caret'.trans (by decide), nothing⟩

end Editor

end Spreadsheet
