import Spreadsheet.Proofs.DrawnRanges

/-!
# Selections that are dragged

While the button is held the pointer may pass over any addresses, in the sheet or not, and may go on
after the button is released. What is selected then is the smallest block between the cell where the
button went down and the last cell that was passed over before it was released. Nothing else about
the way matters, not even which of the corners it began at.
-/

namespace Spreadsheet

/-- The last address that is in the sheet, or else the one that is given. -/
def Sheet.lastInside (s : Sheet) (a : Address) (overs : List Address) : Address :=
  (overs.filter fun b => (s.position? b).isSome).getLastD a

/-- The block has the cell at an address, and the sheet has it too. -/
def Block.Has (b : Block) (s : Sheet) (p : Address) : Prop :=
  ∃ row col, s.position? p = some (row, col) ∧ b.contains row col = true

/-- The smallest block that has two cells. -/
structure Block.Spans (b : Block) (s : Sheet) (p q : Address) : Prop where
  first : b.Has s p
  last : b.Has s q
  least : ∀ b' : Block, b'.Has s p → b'.Has s q →
    ∀ row col, b.contains row col = true → b'.contains row col = true

section Spans

variable {s : Sheet} {b : Block} {p q : Address} {row col row' col' : Nat}

theorem Block.has_iff (place : s.position? p = some (row, col)) :
    b.Has s p ↔ b.top ≤ row ∧ row ≤ b.bottom ∧ b.left ≤ col ∧ col ≤ b.right := by
  rw [← Block.contains_iff]
  constructor
  · rintro ⟨i, j, found, inside⟩
    rw [place] at found
    cases found
    exact inside
  · intro inside
    exact ⟨row, col, place, inside⟩

/-- The corners of the smallest block are the outermost rows and columns. -/
theorem Block.spans_iff (place : s.position? p = some (row, col))
    (place' : s.position? q = some (row', col')) :
    b.Spans s p q ↔ b = ⟨min row row', max row row', min col col', max col col'⟩ := by
  constructor
  · rintro ⟨first, last, least⟩
    rw [has_iff place] at first
    rw [has_iff place'] at last
    have within := least ⟨min row row', max row row', min col col', max col col'⟩
      ((has_iff place).mpr (by dsimp only; omega)) ((has_iff place').mpr (by dsimp only; omega))
    have upper := contains_iff.mp (within b.top b.left (contains_iff.mpr (by omega)))
    have lower := contains_iff.mp (within b.bottom b.right (contains_iff.mpr (by omega)))
    obtain ⟨top, bottom, left, right⟩ := b
    dsimp only at first last upper lower
    simp only [mk.injEq]
    omega
  · rintro rfl
    refine ⟨(has_iff place).mpr (by dsimp only; omega), (has_iff place').mpr (by dsimp only; omega),
      ?_⟩
    intro b' first last i j inside
    rw [has_iff place] at first
    rw [has_iff place'] at last
    rw [contains_iff] at inside ⊢
    dsimp only at inside
    omega

namespace Selection

/-- What is selected between two cells covers the smallest block that has both. -/
theorem spans_between? (distinct : s.headers.Nodup) (place : s.position? p = some (row, col))
    (place' : s.position? q = some (row', col')) :
    ∃ x b, between? s p q = some x ∧ x.block? s = some b ∧ b.Spans s p q := by
  obtain ⟨first, last, left, right, drawn⟩ := between?_eq_some place place'
  have leftmost : s.column? first = some (min col col') := (idxOf?_iff_getElem? distinct).mpr left
  have rightmost : s.column? last = some (max col col') := (idxOf?_iff_getElem? distinct).mpr right
  refine ⟨_, ⟨min row row', max row row', min col col', max col col'⟩, drawn, ?_, ?_⟩
  · simp [block?, leftmost, rightmost]
  · exact (Block.spans_iff place place').mpr rfl

/-- Only the block between the corners matters. -/
theorem between?_of_spans {p' q' : Address} (h : b.Spans s p q) (h' : b.Spans s p' q') :
    between? s p q = between? s p' q' := by
  obtain ⟨row₁, col₁, hp, -⟩ := h.first
  obtain ⟨row₂, col₂, hq, -⟩ := h.last
  obtain ⟨row₃, col₃, hp', -⟩ := h'.first
  obtain ⟨row₄, col₄, hq', -⟩ := h'.last
  have block := (Block.spans_iff hp hq).mp h
  rw [(Block.spans_iff hp' hq').mp h', Block.mk.injEq] at block
  obtain ⟨top, bottom, left, right⟩ := block
  simp only [between?, hp, hq, hp', hq', Option.bind_eq_bind, Option.bind_some, top, bottom, left,
    right]

theorem contains_iff_has {x : Selection} (block : x.block? s = some b) :
    x.contains s p = true ↔ b.Has s p := by
  rw [contains, block]
  cases place : s.position? p with
  | none => simp [Block.Has, place]
  | some there => exact Block.contains_iff.trans (Block.has_iff place).symm

end Selection

end Spans

section LastInside

variable {s : Sheet} {a b : Address} {overs : List Address}

theorem Sheet.lastInside_cons :
    s.lastInside a (b :: overs) =
      s.lastInside (if (s.position? b).isSome then b else a) overs := by
  simp only [lastInside, List.filter_cons]
  split
  · exact List.getLastD_cons
  · rfl

theorem Sheet.isSome_lastInside (here : (s.position? a).isSome = true) (overs : List Address) :
    (s.position? (s.lastInside a overs)).isSome = true := by
  have one : s.lastInside a overs ∈ a :: overs.filter fun b => (s.position? b).isSome :=
    List.getLastD_mem_cons
  rcases List.mem_cons.mp one with same | passed
  · rw [same]
    exact here
  · exact (List.mem_filter.mp passed).2

end LastInside

/-- A selection is dragged from a cell over others, and the pointer goes on after that. -/
def Action.dragged (a : Address) (overs after : List Address) : List Action :=
  .press a :: (overs.map .dragOver ++ .release :: after.map .dragOver)

namespace Editor

section Dragging

variable {e₀ e : Editor} {a last : Address}

/-- The selection reaches from the first cell to the last one passed over. -/
theorem Dragging.selection_run (dragging : Dragging a e₀ e)
    (here : (e₀.sheet.position? a).isSome = true)
    (selected : e.selection = Selection.between? e₀.sheet a last) (overs : List Address) :
    (e.run (overs.map .dragOver)).selection =
      Selection.between? e₀.sheet a (e₀.sheet.lastInside last overs) := by
  induction overs generalizing e last with
  | nil => exact selected
  | cons b rest ih =>
    rw [Sheet.lastInside_cons]
    refine ih (dragging.dragOver b) ?_
    change (e.dragOver b).selection = _
    rw [← Selection.isSome_between? here]
    cases drawn : Selection.between? e₀.sheet a b with
    | none =>
      rw [dragging.dragOver_outside drawn]
      exact selected
    | some x =>
      rw [dragging.dragOver_inside drawn]
      exact drawn.symm

/-- Pressing the button on a cell selects it. -/
theorem dragging_press {row col : Nat} (place : e.sheet.position? a = some (row, col)) :
    Dragging a e (e.press a) ∧ (e.press a).selection = Selection.between? e.sheet a a := by
  obtain ⟨x, drawn, -⟩ := Selection.between?_self place
  have pressed : (e.press a).selection = some x := by
    let held : Editor := { e with
      dragging := true, selected := some a, drag := some ⟨a, a⟩, bar := e.bar.settle }
    exact congrArg Editor.selection (reselect_eq (e := held) rfl drawn)
  exact ⟨(drawing_press place).dragging, pressed.trans drawn.symm⟩

/-- Once the button is released the pointer selects nothing. -/
theorem run_released (released : e.dragging = false) (after : List Address) :
    e.run (after.map .dragOver) = e := by
  induction after with
  | nil => rfl
  | cons b rest ih =>
    have stays : e.dragOver b = e := by
      unfold Editor.dragOver
      split
      · simp [released]
      · rfl
    rw [List.map_cons, run_cons, perform, stays, ih]

theorem run_dragged (a : Address) (overs after : List Address) :
    e.run (Action.dragged a overs after) =
      ((e.press a).run (overs.map .dragOver)).release := by
  rw [Action.dragged, run_cons, run_append, run_cons]
  exact run_released rfl after

/-- A drag that begins in the sheet selects what lies between its first cell and its last. -/
theorem selection_dragged (here : (e.sheet.position? a).isSome = true)
    (overs after : List Address) :
    (e.run (Action.dragged a overs after)).selection =
        Selection.between? e.sheet a (e.sheet.lastInside a overs) ∧
      (e.run (Action.dragged a overs after)).sheet = e.sheet := by
  obtain ⟨place, hplace⟩ := Option.isSome_iff_exists.mp here
  obtain ⟨dragging, selected⟩ := dragging_press hplace
  rw [run_dragged]
  exact ⟨dragging.selection_run here selected overs, (dragging.run overs).sheet⟩

end Dragging

/-- Let a run reach an editor, and let a selection be dragged from a cell of its sheet. The selection
covers the smallest block that has this cell and the last one passed over while the button was held,
and shows exactly the cells of this block as inside. Any drag between two corners of the block,
along any way and after any run that leads to the same sheet, makes the same selection. -/
theorem run_dragged_selection (c : Config) (store : Store) (before : List Action) (a : Address)
    (overs after : List Address) :
    let e := (start c store).run before
    let dragged := e.run (Action.dragged a overs after)
    (e.sheet.position? a).isSome = true →
    ∃ x b, dragged.selection = some x ∧ dragged.sheet = e.sheet ∧ x.block? e.sheet = some b ∧
      b.Spans e.sheet a (e.sheet.lastInside a overs) ∧
      (∀ p, x.contains e.sheet p = true ↔ b.Has e.sheet p) ∧
      ∀ (c' : Config) (store' : Store) (before' : List Action) (a' : Address)
          (overs' after' : List Address),
        let e' := (start c' store').run before'
        e'.sheet = e.sheet → b.Spans e.sheet a' (e.sheet.lastInside a' overs') →
        (e'.run (Action.dragged a' overs' after')).selection = some x := by
  intro e dragged here
  have sound : e.sheet.Sound := sheet_sound (valid_run c store before).workbook
  obtain ⟨place, hplace⟩ := Option.isSome_iff_exists.mp here
  obtain ⟨place', hplace'⟩ :=
    Option.isSome_iff_exists.mp (Sheet.isSome_lastInside here overs)
  obtain ⟨x, b, drawn, block, spans⟩ := Selection.spans_between? sound.distinct hplace hplace'
  obtain ⟨selection, sheet⟩ := selection_dragged here overs after
  refine ⟨x, b, selection.trans drawn, sheet, block, spans,
    fun p => Selection.contains_iff_has block, ?_⟩
  intro c' store' before' a' overs' after' e' same spans'
  obtain ⟨row, col, begun, -⟩ := spans'.first
  have here' : (e'.sheet.position? a').isSome = true := by
    rw [same, begun]
    rfl
  rw [(selection_dragged here' overs' after').1, same, Selection.between?_of_spans spans' spans]
  exact drawn

/-- Two rows under headers that are in no order. -/
def unorderedHeaders : Workbook :=
  ⟨[⟨"Seasons".toList, 1, [['C'], "Name".toList, ['A']],
    [[.text "tea".toList, .text "ice".toList, .empty], [.empty, .text ['2'], .text ['3']]]⟩], 0⟩

/-- A drag from the last column to the first, past addresses that are not in the sheet, selects all
columns, with the header that stands first in front. A drag between the other two corners selects
the same. -/
theorem unorderedHeaders_dragged :
    let e := start ⟨1, 2, 1, 300⟩ ⟨.memory, .kept unorderedHeaders, true, true, 0⟩
    let dragged := e.run (Action.dragged ⟨1, ['A']⟩ [⟨0, "Name".toList⟩, ⟨7, ['A']⟩, ⟨0, ['C']⟩,
      ⟨0, ['B']⟩] [⟨1, ['C']⟩])
    dragged.selection = some ⟨0, 1, ['C'], ['A']⟩ ∧
      (∀ p, Selection.contains ⟨0, 1, ['C'], ['A']⟩ e.sheet p = true ↔
        Block.Has ⟨0, 1, 0, 2⟩ e.sheet p) ∧
      (e.run (Action.dragged ⟨1, ['C']⟩ [⟨0, ['A']⟩] [])).selection =
        some ⟨0, 1, ['C'], ['A']⟩ := by
  intro e dragged
  obtain ⟨x, b, selection, -, block, -, inside, same⟩ := run_dragged_selection ⟨1, 2, 1, 300⟩
    ⟨.memory, .kept unorderedHeaders, true, true, 0⟩ [] ⟨1, ['A']⟩ [⟨0, "Name".toList⟩,
      ⟨7, ['A']⟩, ⟨0, ['C']⟩, ⟨0, ['B']⟩] [⟨1, ['C']⟩] (by decide)
  have found : dragged.selection = some ⟨0, 1, ['C'], ['A']⟩ := by decide
  cases selection.symm.trans found
  have covered : Selection.block? ⟨0, 1, ['C'], ['A']⟩ e.sheet = some ⟨0, 1, 0, 2⟩ := by decide
  cases block.symm.trans covered
  have place : e.sheet.position? ⟨1, ['C']⟩ = some (1, 0) := by decide
  have place' : e.sheet.position? ⟨0, ['A']⟩ = some (0, 2) := by decide
  refine ⟨selection, inside, same ⟨1, 2, 1, 300⟩ ⟨.memory, .kept unorderedHeaders, true, true, 0⟩ []
    ⟨1, ['C']⟩ [⟨0, ['A']⟩] [] rfl ?_⟩
  exact (Block.spans_iff place place').mpr rfl

end Editor

end Spreadsheet
